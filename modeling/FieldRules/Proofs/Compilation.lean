import FieldRules.Proofs.FirstFailure

namespace FieldRules

namespace Number

variable {value : Int} {lower : -0x8000000000000000 ≤ value} {upper : value < 0x10000000000000000}

theorem int_ne_ofUInt64_of_neg (h : value < 0) (bound : UInt64) :
    Number.int value lower upper ≠ .ofUInt64 bound := by
  intro heq
  rw [ofUInt64, int.injEq] at heq
  omega

theorem exists_int_eq_ofUInt64 (h : 0 ≤ value) :
    ∃ bound : UInt64, Number.int value lower upper = .ofUInt64 bound := by
  have hsize : value.toNat < UInt64.size := by
    change value.toNat < 0x10000000000000000
    omega
  refine ⟨UInt64.ofNat value.toNat, ?_⟩
  rw [ofUInt64, int.injEq, UInt64.toNat_ofNat_of_lt' hsize]
  exact (Int.toNat_of_nonneg h).symm

theorem natural?_eq_none_iff {n : Number} :
    n.natural? = none ↔ ∀ bound : UInt64, n ≠ .ofUInt64 bound := by
  cases n with
  | float x => exact ⟨fun _ _ => nofun, fun _ => rfl⟩
  | int value lower upper =>
      rw [natural?]
      split
      next hnatural =>
        obtain ⟨bound, hbound⟩ : ∃ bound : UInt64, int value lower upper = .ofUInt64 bound :=
          exists_int_eq_ofUInt64 hnatural
        exact ⟨nofun, fun h => absurd hbound (h bound)⟩
      next hnegative =>
        exact ⟨fun _ => int_ne_ofUInt64_of_neg (Int.not_le.mp hnegative), fun _ => rfl⟩

end Number

def OperandShape.Fits : OperandShape → Value → Prop
  | .natural, operand => ∃ bound : UInt64, operand = .num (.ofUInt64 bound)
  | .number, operand => ∃ n, operand = .num n
  | .patternText, operand => ∃ text, operand = .str text

theorem OperandShape.not_fits_natural_iff {n : Number} :
    ¬ OperandShape.natural.Fits (.num n) ↔ n.natural? = none := by
  rw [Number.natural?_eq_none_iff]
  simp [Fits]

namespace RuleKind

variable {kind : RuleKind} {shape : OperandShape} {operand : Value} {error : UsageError}

/-- The shape that the operand of a rule must have, where not every operand will do. -/
def shape? : RuleKind → Option OperandShape
  | .minLength | .maxLength => some .natural
  | .min | .max => some .number
  | .pattern => some .patternText
  | .email | .equalTo => none

theorem ne_email_of_shape? (h : kind.shape? = some shape) : kind ≠ .email := by
  intro hemail
  cases hemail ▸ h

variable [Pattern.Engine]

/-- The operands that a rule of some kind cannot have, each with its error. -/
inductive Refuses : RuleKind → Value → UsageError → Prop
  | unfit {kind : RuleKind} {shape : OperandShape} {operand : Value}
      (needed : kind.shape? = some shape) (unfit : ¬ shape.Fits operand) :
      Refuses kind operand (.invalidOperand kind shape operand)
  | noPattern {text : String} (unread : Pattern.ofText? text = none) :
      Refuses .pattern (.str text) (.invalidPattern text)

theorem not_refuses (h : kind.shape? = none) : ¬ kind.Refuses operand error := by
  intro hrefuses
  cases hrefuses with
  | unfit needed => cases h.symm.trans needed
  | noPattern => cases h

theorem not_refuses_typeConflict {field : String} {rule : RuleKind} {declared : Kind} :
    ¬ kind.Refuses operand (.typeConflict field rule declared) := by
  intro hrefuses
  cases hrefuses

theorem refuses_iff (h : kind.shape? = some shape) (hshape : shape ≠ .patternText) :
    kind.Refuses operand error ↔
      ¬ shape.Fits operand ∧ error = .invalidOperand kind shape operand := by
  constructor
  · intro hrefuses
    cases hrefuses with
    | unfit needed unfit =>
        cases h.symm.trans needed
        exact ⟨unfit, rfl⟩
    | noPattern =>
        cases h
        exact absurd rfl hshape
  · intro hunfit
    obtain ⟨hunfit, rfl⟩ := hunfit
    exact .unfit h hunfit

end RuleKind

namespace Rule

variable [Pattern.Engine] {rule : Rule} {error : UsageError}

/-- The rules that do not compile, each with its error. -/
inductive Malformed (rule : Rule) : UsageError → Prop
  | noOperand (needed : rule.kind ≠ .email) (missing : rule.operand = none) :
      Malformed rule (.missingOperand rule.kind)
  | operand {operand : Value} {error : UsageError} (given : rule.operand = some operand)
      (refused : rule.kind.Refuses operand error) : Malformed rule error

theorem not_malformed_email (h : rule.kind = .email) : ¬ rule.Malformed error := by
  intro hmalformed
  cases hmalformed with
  | noOperand needed => exact needed h
  | operand _ refused => exact RuleKind.not_refuses (h ▸ rfl) refused

theorem not_malformed_equalTo {operand : Value} (h : rule.kind = .equalTo)
    (hoperand : rule.operand = some operand) : ¬ rule.Malformed error := by
  intro hmalformed
  cases hmalformed with
  | noOperand _ missing => cases hoperand.symm.trans missing
  | operand _ refused => exact RuleKind.not_refuses (h ▸ rfl) refused

theorem bind_requireOperand_eq_error_iff {α : Type} {read : Value → Except UsageError α}
    (hkind : rule.kind ≠ .email)
    (hread : ∀ operand, read operand = .error error ↔ rule.kind.Refuses operand error) :
    (rule.requireOperand >>= read) = .error error ↔ rule.Malformed error := by
  rw [requireOperand]
  cases hoperand : rule.operand with
  | none =>
      constructor
      · intro h
        cases h
        exact .noOperand hkind hoperand
      · intro h
        cases h with
        | noOperand => rfl
        | operand given => cases hoperand.symm.trans given
  | some operand =>
      refine Iff.trans (hread operand) ⟨.operand hoperand, fun h => ?_⟩
      cases h with
      | noOperand _ missing => cases hoperand.symm.trans missing
      | operand given refused =>
          cases hoperand.symm.trans given
          exact refused

theorem numberBound_eq_error_iff (h : rule.kind.shape? = some .number) :
    rule.numberBound = .error error ↔ rule.Malformed error := by
  apply bind_requireOperand_eq_error_iff (RuleKind.ne_email_of_shape? h)
  intro operand
  rw [RuleKind.refuses_iff h nofun]
  cases operand with
  | num n => simp [OperandShape.Fits]
  | _ => simp [OperandShape.Fits, eq_comm]

theorem lengthBound_eq_error_iff (h : rule.kind.shape? = some .natural) :
    rule.lengthBound = .error error ↔ rule.Malformed error := by
  apply bind_requireOperand_eq_error_iff (RuleKind.ne_email_of_shape? h)
  intro operand
  rw [RuleKind.refuses_iff h nofun]
  cases operand with
  | num n =>
      rw [OperandShape.not_fits_natural_iff]
      cases hnatural : n.natural? with
      | none => simp [hnatural, eq_comm]
      | some bound => simp [hnatural]
  | _ => simp [OperandShape.Fits, eq_comm]

theorem searchPattern_eq_error_iff (h : rule.kind = .pattern) :
    rule.searchPattern = .error error ↔ rule.Malformed error := by
  have hshape : rule.kind.shape? = some .patternText := h ▸ rfl
  apply bind_requireOperand_eq_error_iff (RuleKind.ne_email_of_shape? hshape)
  intro operand
  rw [h]
  constructor
  · intro hread
    cases operand with
    | str text =>
        cases htext : Pattern.ofText? text with
        | some pattern => simp [htext] at hread
        | none =>
            simp only [htext] at hread
            cases hread
            exact .noPattern htext
    | _ =>
        cases hread
        exact .unfit rfl fun ⟨_, heq⟩ => nomatch heq
  · intro hrefuses
    cases hrefuses with
    | unfit needed unfit =>
        cases needed
        cases operand with
        | str text => exact absurd ⟨text, rfl⟩ unfit
        | _ => rfl
    | noPattern unread => simp only [unread]

theorem compile_eq_error_iff : rule.compile = .error error ↔ rule.Malformed error := by
  rw [compile, except_map_eq_error_iff, test]
  cases hkind : rule.kind with
  | email =>
      refine iff_of_false ?_ (not_malformed_email hkind)
      intro h
      cases h
  | min => rw [except_map_eq_error_iff, numberBound_eq_error_iff (hkind ▸ rfl)]
  | max => rw [except_map_eq_error_iff, numberBound_eq_error_iff (hkind ▸ rfl)]
  | minLength => rw [except_map_eq_error_iff, lengthBound_eq_error_iff (hkind ▸ rfl)]
  | maxLength => rw [except_map_eq_error_iff, lengthBound_eq_error_iff (hkind ▸ rfl)]
  | pattern => rw [except_map_eq_error_iff, searchPattern_eq_error_iff hkind]
  | equalTo =>
      rw [except_map_eq_error_iff, ← bind_pure rule.requireOperand]
      apply bind_requireOperand_eq_error_iff
      · intro hemail
        cases hkind.symm.trans hemail
      · intro operand
        refine iff_of_false ?_ (RuleKind.not_refuses (hkind ▸ rfl))
        intro h
        cases h

theorem exists_compile_eq_ok_iff :
    (∃ checker, rule.compile = .ok checker) ↔ ∀ error, ¬ rule.Malformed error := by
  simp only [← compile_eq_error_iff]
  cases rule.compile with
  | ok checker => simp
  | error error => simp

end Rule

/-- The first of some rules that does not go with a kind, and the rules before it. -/
structure Kind.BarsFirst (kind : Kind) (rules before : List RuleKind) (rule : RuleKind) : Prop where
  split : ∃ after, rules = before ++ rule :: after
  accepted : ∀ other ∈ before, other.accepts kind = true
  barred : rule.accepts kind = false

theorem Kind.find?_eq_some_iff_barsFirst {kind : Kind} {rules : List RuleKind} {rule : RuleKind} :
    rules.find? (fun rule => !rule.accepts kind) = some rule ↔
      ∃ before, kind.BarsFirst rules before rule := by
  rw [List.find?_eq_some_iff_append]
  constructor
  · intro h
    obtain ⟨hbarred, before, after, hsplit, hbefore⟩ := h
    exact ⟨before, ⟨after, hsplit⟩, by simpa using hbefore, by simpa using hbarred⟩
  · intro h
    obtain ⟨before, ⟨after, hsplit⟩, hbefore, hbarred⟩ := h
    exact ⟨by simpa using hbarred, before, after, hsplit, by simpa using hbefore⟩

namespace Kind.BarsFirst

variable {kind : Kind} {rules before : List RuleKind} {first rule : RuleKind}

theorem cons_of_accepts (h : first.accepts kind = true) :
    kind.BarsFirst (first :: rules) before rule ↔
      ∃ earlier, before = first :: earlier ∧ kind.BarsFirst rules earlier rule := by
  constructor
  · intro hbars
    obtain ⟨⟨after, hsplit⟩, hbefore, hbarred⟩ := hbars
    cases before with
    | nil =>
        cases hsplit
        cases h.symm.trans hbarred
    | cons other earlier =>
        cases hsplit
        exact ⟨earlier, rfl, ⟨after, rfl⟩, (List.forall_mem_cons.mp hbefore).2, hbarred⟩
  · intro hbars
    obtain ⟨earlier, rfl, ⟨after, rfl⟩, hbefore, hbarred⟩ := hbars
    exact ⟨⟨after, rfl⟩, List.forall_mem_cons.mpr ⟨h, hbefore⟩, hbarred⟩

theorem cons_of_not_accepts (h : first.accepts kind = false) :
    kind.BarsFirst (first :: rules) before rule ↔ before = [] ∧ rule = first := by
  constructor
  · intro hbars
    obtain ⟨⟨after, hsplit⟩, hbefore, -⟩ := hbars
    cases before with
    | nil =>
        cases hsplit
        exact ⟨rfl, rfl⟩
    | cons other earlier =>
        cases hsplit
        cases h.symm.trans (hbefore first List.mem_cons_self)
  · intro hfirst
    obtain ⟨rfl, rfl⟩ := hfirst
    exact ⟨⟨rules, rfl⟩, nofun, h⟩

theorem exists_iff :
    (∃ before rule, kind.BarsFirst rules before rule) ↔ ∃ rule ∈ rules, rule.accepts kind = false := by
  rw [exists_comm]
  simp only [← Kind.find?_eq_some_iff_barsFirst]
  rw [← Option.isSome_iff_exists, List.find?_isSome]
  simp

end Kind.BarsFirst

namespace FieldSpec

variable {spec : FieldSpec} {name : String} {required : Bool} {error : UsageError}

theorem checkRuleTypes_eq_error_iff :
    spec.checkRuleTypes name = .error error ↔ ∃ kind before rule, spec.kind = some kind ∧
      kind.BarsFirst (spec.rules.map Rule.kind) before rule ∧
      error = .typeConflict name rule kind := by
  rw [checkRuleTypes]
  cases hkind : spec.kind with
  | none => simp
  | some kind =>
      have hfirst : ∀ rule, (∃ before, kind.BarsFirst (spec.rules.map Rule.kind) before rule) ↔
          ∃ found, spec.rules.find? (fun rule => !rule.kind.accepts kind) = some found ∧
            found.kind = rule := by
        intro rule
        rw [← Kind.find?_eq_some_iff_barsFirst, List.find?_map, Option.map_eq_some_iff]
        rfl
      dsimp only
      constructor
      · intro h
        split at h
        next found hfound =>
          cases h
          obtain ⟨before, hbars⟩ := (hfirst found.kind).mpr ⟨found, hfound, rfl⟩
          exact ⟨kind, before, found.kind, rfl, hbars, rfl⟩
        next => cases h
      · intro h
        obtain ⟨other, before, rule, hother, hbars, rfl⟩ := h
        cases hother
        obtain ⟨found, hfound, rfl⟩ := (hfirst rule).mp ⟨before, hbars⟩
        rw [hfound]

variable [Pattern.Engine]

/-- Specifications that cannot be compiled, each with the error that is reported. -/
inductive Defective (spec : FieldSpec) (name : String) : UsageError → Prop
  | conflict {kind : Kind} {before : List RuleKind} {rule : RuleKind}
      (declared : spec.kind = some kind)
      (first : kind.BarsFirst (spec.rules.map Rule.kind) before rule) :
      Defective spec name (.typeConflict name rule kind)
  | malformed {before after : List Rule} {rule : Rule} {error : UsageError}
      (carried : ∀ kind, spec.kind = some kind → ∀ rule ∈ spec.rules, rule.kind.accepts kind = true)
      (split : spec.rules = before ++ rule :: after)
      (earlier : ∀ other ∈ before, ∀ error, ¬ other.Malformed error)
      (malformed : rule.Malformed error) : Defective spec name error

/-- Every rule goes with the declared kind, if there is one, and none is malformed. -/
structure WellFormed (spec : FieldSpec) : Prop where
  carried : ∀ kind, spec.kind = some kind → ∀ rule ∈ spec.rules, rule.kind.accepts kind = true
  formed : ∀ rule ∈ spec.rules, ∀ error, ¬ rule.Malformed error

theorem defective_typeConflict_iff {field : String} {rule : RuleKind} {kind : Kind} :
    spec.Defective name (.typeConflict field rule kind) ↔
      field = name ∧ spec.kind = some kind ∧
        ∃ before, kind.BarsFirst (spec.rules.map Rule.kind) before rule := by
  constructor
  · intro h
    cases h with
    | conflict declared first => exact ⟨rfl, declared, _, first⟩
    | malformed _ _ _ malformed =>
        cases malformed with
        | operand _ refused => exact absurd refused RuleKind.not_refuses_typeConflict
  · intro h
    obtain ⟨rfl, hkind, before, hbars⟩ := h
    exact .conflict hkind hbars

theorem ofSpec_eq_error_iff :
    CompiledField.ofSpec name spec required = .error error ↔ spec.Defective name error := by
  simp only [CompiledField.ofSpec, except_bind_eq_error_iff]
  constructor
  · intro h
    rcases h with hkinds | ⟨⟨⟩, hkinds, hrules | ⟨checkers, -, h⟩⟩
    · obtain ⟨kind, before, rule, hkind, hfirst, rfl⟩ := checkRuleTypes_eq_error_iff.mp hkinds
      exact .conflict hkind hfirst
    · obtain ⟨before, rule, after, hsplit, hbefore, hrule⟩ := mapM_eq_error_iff.mp hrules
      refine .malformed (checkRuleTypes_eq_ok_iff.mp hkinds) hsplit ?_
        (Rule.compile_eq_error_iff.mp hrule)
      intro other hother
      exact Rule.exists_compile_eq_ok_iff.mp (hbefore other hother)
    · cases h
  · intro h
    cases h with
    | conflict declared first =>
        exact .inl (checkRuleTypes_eq_error_iff.mpr ⟨_, _, _, declared, first, rfl⟩)
    | malformed carried split earlier malformed =>
        refine .inr ⟨(), checkRuleTypes_eq_ok_iff.mpr carried, .inl (mapM_eq_error_iff.mpr ?_)⟩
        refine ⟨_, _, _, split, ?_, Rule.compile_eq_error_iff.mpr malformed⟩
        intro other hother
        exact Rule.exists_compile_eq_ok_iff.mpr (earlier other hother)

theorem exists_ofSpec_eq_ok_iff :
    (∃ field, CompiledField.ofSpec name spec required = .ok field) ↔ spec.WellFormed := by
  constructor
  · intro h
    obtain ⟨field, hfield⟩ := h
    have hrenders := CompiledField.ofSpec_eq_ok_iff.mp hfield
    refine ⟨hrenders.accepts, ?_⟩
    intro rule hrule
    obtain ⟨checker, hchecker⟩ := CompiledField.exists_checks_of_mem hrenders.checkers rule hrule
    exact Rule.exists_compile_eq_ok_iff.mp ⟨checker, CompiledField.checks_iff_compile_eq_ok.mp hchecker⟩
  · intro h
    obtain ⟨checkers, hcheckers⟩ : ∃ checkers,
        List.Forall₂ CompiledField.Checks spec.rules checkers := by
      apply CompiledField.exists_forall₂_checks
      intro rule hrule
      obtain ⟨checker, hchecker⟩ := Rule.exists_compile_eq_ok_iff.mpr (h.formed rule hrule)
      exact ⟨checker, CompiledField.checks_iff_compile_eq_ok.mpr hchecker⟩
    refine ⟨⟨spec.kind, required, spec.typeMessage, checkers⟩, ?_⟩
    exact CompiledField.ofSpec_eq_ok_iff.mpr ⟨rfl, rfl, rfl, hcheckers, h.carried⟩

end FieldSpec

theorem RuleKind.not_refuses_num_iff [Pattern.Engine] {kind : RuleKind} (h : kind.shape? = some .natural)
    (n : Number) :
    (∀ error, ¬ kind.Refuses (.num n) error) ↔
      ∃ value lower upper, n = .int value lower upper ∧ 0 ≤ value := by
  have hshape : OperandShape.natural ≠ .patternText := nofun
  simp only [refuses_iff h hshape, OperandShape.not_fits_natural_iff]
  cases n with
  | float x => simp [Number.natural?]
  | int value lower upper =>
      constructor
      · intro h
        refine ⟨value, lower, upper, rfl, ?_⟩
        simpa [Number.natural?] using h
      · intro h
        obtain ⟨_, _, _, heq, hnatural⟩ := h
        cases heq
        simp [Number.natural?, hnatural]

namespace Validator

variable {validator : Validator} {draft : Draft} {error : UsageError}

section

variable [Pattern.Engine]

theorem install_eq_error_iff :
    (validator.install draft).2 = .error error ↔
      CompiledField.ofSpec draft.name draft.spec (validator.schema.isRequired draft.name) =
        .error error := by
  rw [install]
  cases CompiledField.ofSpec draft.name draft.spec (validator.schema.isRequired draft.name) with
  | error other => simp
  | ok field => simp

theorem exists_field_of_install (h : (validator.install draft).2 = .ok ()) :
    ∃ field, (validator.install draft).1.compiled.find? draft.name = some field ∧
      CompiledField.ofSpec draft.name draft.spec (validator.schema.isRequired draft.name) =
        .ok field := by
  have hinstall : validator.install draft = ((validator.install draft).1, .ok ()) := Prod.ext rfl h
  obtain ⟨field, hfield, hnext⟩ := install_eq_ok_iff.mp hinstall
  refine ⟨field, ?_, hfield⟩
  rw [hnext]
  exact Table.find?_insert_self validator.compiled

/-- How a specification is compiled: exactly when it is well-formed, with one checker for each rule,
and otherwise with the error of its first defect. A length is bounded by an integer from 0, and an
equality or an email rule takes any operand. -/
structure CompilesExactly (validator : Validator) (name : String) (spec : FieldSpec) : Prop where
  error_iff : ∀ error,
    (validator.install ⟨name, spec⟩).2 = .error error ↔ spec.Defective name error
  ok_iff : (validator.install ⟨name, spec⟩).2 = .ok () ↔ spec.WellFormed
  checkers : spec.WellFormed →
    ∃ field, (validator.install ⟨name, spec⟩).1.compiled.find? name = some field ∧
      List.Forall₂ CompiledField.Checks spec.rules field.checkers
  length : ∀ kind : RuleKind, kind = .minLength ∨ kind = .maxLength → ∀ n : Number,
    (∀ error, ¬ kind.Refuses (.num n) error) ↔
      ∃ value lower upper, n = .int value lower upper ∧ 0 ≤ value
  anyOperand : ∀ rule : Rule, rule.kind = .email ∨ rule.kind = .equalTo ∧ rule.operand ≠ none →
    ∀ error, ¬ rule.Malformed error
  message : ∀ kind shape operand, (UsageError.invalidOperand kind shape operand).message =
    "invalid operand for rule " ++ kind.name ++ ": expected " ++ shape.description ++ ", got " ++
      operand.text

theorem install_eq_ok_iff_wellFormed {name : String} {spec : FieldSpec} :
    (validator.install ⟨name, spec⟩).2 = .ok () ↔ spec.WellFormed := by
  rw [← @FieldSpec.exists_ofSpec_eq_ok_iff spec name (validator.schema.isRequired name)]
  constructor
  · intro h
    obtain ⟨field, -, hfield⟩ := exists_field_of_install h
    exact ⟨field, hfield⟩
  · intro h
    obtain ⟨field, hfield⟩ := h
    exact congrArg Prod.snd (install_eq_ok_iff.mpr ⟨field, hfield, rfl⟩)

theorem compiles_exactly_well_formed (validator : Validator) (name : String) (spec : FieldSpec) :
    validator.CompilesExactly name spec where
  error_iff _ := install_eq_error_iff.trans FieldSpec.ofSpec_eq_error_iff
  ok_iff := install_eq_ok_iff_wellFormed
  checkers h := by
    obtain ⟨field, hfind, hfield⟩ := exists_field_of_install (install_eq_ok_iff_wellFormed.mpr h)
    exact ⟨field, hfind, (CompiledField.ofSpec_eq_ok_iff.mp hfield).checkers⟩
  length := by
    intro kind hkind n
    apply RuleKind.not_refuses_num_iff
    rcases hkind with rfl | rfl
    · rfl
    · rfl
  anyOperand := by
    intro rule hrule error
    rcases hrule with hemail | ⟨hequal, hoperand⟩
    · exact Rule.not_malformed_email hemail
    · obtain ⟨operand, hoperand⟩ := Option.ne_none_iff_exists'.mp hoperand
      exact Rule.not_malformed_equalTo hequal hoperand
  message _ _ _ := rfl

end

/-- The second of these rules does not go with numbers. It is reported before the first, which has
no operand; where no kind is declared the first is reported. -/
theorem compiles_exactly_well_formed_age :
    let rules : List Rule := [.ofKind .min, (Rule.ofKind .pattern).withOperand (.str "(")]
    let adult : FieldSpec := ⟨some .number, [(Rule.ofKind .min).withOperand (.num (.ofUInt64 18))], none⟩
    ((ofRoot .object).install ⟨"age", ⟨some .number, rules, none⟩⟩).2 =
        .error (.typeConflict "age" .pattern .number) ∧
      ((ofRoot .object).install ⟨"age", ⟨none, rules, none⟩⟩).2 = .error (.missingOperand .min) ∧
      adult.WellFormed ∧ ((ofRoot .object).install ⟨"age", adult⟩).2 = .ok () ∧
      ∃ field, ((ofRoot .object).install ⟨"age", adult⟩).1.compiled.find? "age" = some field ∧
        List.Forall₂ CompiledField.Checks adult.rules field.checkers := by
  intro rules adult
  have hconflict : FieldSpec.Defective ⟨some .number, rules, none⟩ "age"
      (.typeConflict "age" .pattern .number) :=
    .conflict rfl ⟨⟨[], rfl⟩, List.forall_mem_singleton.mpr rfl, rfl⟩
  have hmalformed : FieldSpec.Defective ⟨none, rules, none⟩ "age" (.missingOperand .min) :=
    .malformed nofun (List.nil_append _).symm nofun (.noOperand nofun rfl)
  have hadult : adult.WellFormed :=
    (@FieldSpec.exists_ofSpec_eq_ok_iff adult "age" false _).mp ⟨_, rfl⟩
  have hexactly := compiles_exactly_well_formed (ofRoot .object) "age" adult
  refine ⟨?_, ?_, hadult, hexactly.ok_iff.mpr hadult, hexactly.checkers hadult⟩
  · exact ((compiles_exactly_well_formed (ofRoot .object) "age" _).error_iff _).mpr hconflict
  · exact ((compiles_exactly_well_formed (ofRoot .object) "age" _).error_iff _).mpr hmalformed

end Validator

end FieldRules
