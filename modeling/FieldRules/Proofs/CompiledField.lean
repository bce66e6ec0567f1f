import FieldRules.Validator
import Mathlib.Data.List.Forall2

namespace FieldRules

variable {ε α β : Type}

theorem except_map_eq_ok_iff {f : α → β} {result : Except ε α} {value : β} :
    result.map f = .ok value ↔ ∃ source, result = .ok source ∧ f source = value := by
  cases result <;> simp [Except.map]

theorem except_bind_eq_ok_iff {f : α → Except ε β} {result : Except ε α} {value : β} :
    (result >>= f) = .ok value ↔ ∃ source, result = .ok source ∧ f source = .ok value := by
  cases result <;> simp [bind, Except.bind]

theorem except_map_eq_error_iff {f : α → β} {result : Except ε α} {error : ε} :
    result.map f = .error error ↔ result = .error error := by
  cases result <;> simp [Except.map]

theorem except_bind_eq_error_iff {f : α → Except ε β} {result : Except ε α} {error : ε} :
    (result >>= f) = .error error ↔
      result = .error error ∨ ∃ source, result = .ok source ∧ f source = .error error := by
  cases result <;> simp [bind, Except.bind]

section mapM

variable {f : α → Except ε β} {items : List α}

theorem mapM_eq_ok_iff_forall₂ {values : List β} :
    items.mapM f = .ok values ↔
      List.Forall₂ (fun item value => f item = .ok value) items values := by
  induction items generalizing values with
  | nil =>
      rw [List.mapM_nil, List.forall₂_nil_left_iff]
      constructor
      · intro h
        cases h
        rfl
      · intro h
        subst values
        rfl
  | cons item rest ih =>
      rw [List.mapM_cons, List.forall₂_cons_left_iff]
      simp only [except_bind_eq_ok_iff, ih]
      constructor
      · intro h
        obtain ⟨first, hfirst, others, hothers, heq⟩ := h
        cases heq
        exact ⟨first, others, hfirst, hothers, rfl⟩
      · intro h
        obtain ⟨first, others, hfirst, hothers, heq⟩ := h
        subst values
        exact ⟨first, hfirst, others, hothers, rfl⟩

theorem map_eq_of_mapM_eq_ok {values : List β} (h : items.mapM f = .ok values) :
    items.map f = values.map .ok := by
  have hall := mapM_eq_ok_iff_forall₂.mp h
  clear h
  induction hall with
  | nil => rfl
  | cons hfirst _ ih => rw [List.map_cons, List.map_cons, hfirst, ih]

theorem mem_of_mapM_eq_error {error : ε} (h : items.mapM f = .error error) :
    .error error ∈ items.map f := by
  induction items with
  | nil => cases h
  | cons item rest ih =>
      rw [List.mapM_cons] at h
      rw [List.map_cons, List.mem_cons]
      cases hitem : f item with
      | error other =>
          rw [hitem] at h
          cases h
          exact .inl rfl
      | ok value =>
          right
          apply ih
          cases hrest : rest.mapM f with
          | error other =>
              rw [hitem, hrest] at h
              cases h
              rfl
          | ok values =>
              rw [hitem, hrest] at h
              cases h

theorem mapM_eq_error_iff {error : ε} :
    items.mapM f = .error error ↔ ∃ before item after, items = before ++ item :: after ∧
      (∀ other ∈ before, ∃ value, f other = .ok value) ∧ f item = .error error := by
  constructor
  · intro h
    induction items with
    | nil => cases h
    | cons first rest ih =>
        rw [List.mapM_cons, except_bind_eq_error_iff] at h
        rcases h with hfirst | ⟨value, hfirst, h⟩
        · exact ⟨[], first, rest, rfl, nofun, hfirst⟩
        · rcases except_bind_eq_error_iff.mp h with hrest | ⟨values, -, h⟩
          · obtain ⟨before, item, after, rfl, hbefore, hitem⟩ := ih hrest
            refine ⟨first :: before, item, after, rfl, ?_, hitem⟩
            exact List.forall_mem_cons.mpr ⟨⟨value, hfirst⟩, hbefore⟩
          · cases h
  · intro h
    obtain ⟨before, item, after, rfl, hbefore, hitem⟩ := h
    induction before with
    | nil =>
        rw [List.nil_append, List.mapM_cons, hitem]
        rfl
    | cons first rest ih =>
        obtain ⟨⟨value, hfirst⟩, hrest⟩ := List.forall_mem_cons.mp hbefore
        rw [List.cons_append, List.mapM_cons, hfirst, except_bind_eq_error_iff]
        exact .inr ⟨value, rfl, except_bind_eq_error_iff.mpr (.inl (ih hrest))⟩

end mapM

/-- The outcomes of gathering results in no fixed order: all values in their places, or the error of
any one that failed. -/
inductive Gathers : List (Except ε α) → Except ε (List α) → Prop
  | values (values : List α) : Gathers (values.map .ok) (.ok values)
  | failure {results : List (Except ε α)} {error : ε} (failed : .error error ∈ results) :
      Gathers results (.error error)

theorem gathers_mapM (f : α → Except ε β) (items : List α) :
    Gathers (items.map f) (items.mapM f) := by
  cases hitems : items.mapM f with
  | ok values =>
      rw [map_eq_of_mapM_eq_ok hitems]
      exact .values values
  | error error => exact .failure (mem_of_mapM_eq_error hitems)

namespace Gathers

variable {f : α → Except ε β} {items : List α} {outcome : Except ε (List β)}

theorem eq_ok_of_forall {g : α → β} (h : Gathers (items.map f) outcome)
    (hall : ∀ item ∈ items, f item = .ok (g item)) : outcome = .ok (items.map g) := by
  have hitems : items.map f = (items.map g).map .ok := by
    rw [List.map_map]
    exact List.map_congr_left hall
  rw [hitems] at h
  generalize hresults : (items.map g).map Except.ok = results at h
  cases h with
  | values values =>
      have hinjective : Function.Injective (Except.ok : β → Except ε β) := fun _ _ heq => by
        cases heq
        rfl
      rw [List.map_injective_iff.mpr hinjective hresults]
  | failure failed =>
      rw [← hresults] at failed
      obtain ⟨_, _, hvalue⟩ := List.mem_map.mp failed
      cases hvalue

theorem exists_error_of_not_ok (h : Gathers (items.map f) outcome)
    (hfailed : ∃ item ∈ items, ∃ error, f item = .error error) :
    ∃ item ∈ items, ∃ error, f item = .error error ∧ outcome = .error error := by
  generalize hresults : items.map f = results at h
  cases h with
  | values values =>
      obtain ⟨item, hmem, error, herror⟩ := hfailed
      have hresult : .error error ∈ values.map Except.ok := by
        rw [← hresults, ← herror]
        exact List.mem_map_of_mem hmem
      obtain ⟨_, _, hvalue⟩ := List.mem_map.mp hresult
      cases hvalue
  | failure failed =>
      rw [← hresults] at failed
      obtain ⟨item, hmem, herror⟩ := List.mem_map.mp failed
      exact ⟨item, hmem, _, herror, rfl⟩

end Gathers

namespace Test

variable [Pattern.Engine]

/-- The tests of the kinds of rules, each with the operand that it needs. -/
inductive OfOperand : RuleKind → Option Value → Test → Prop
  | email {operand : Option Value} : OfOperand .email operand .email
  | min {bound : Number} : OfOperand .min (some (.num bound)) (.min bound)
  | max {bound : Number} : OfOperand .max (some (.num bound)) (.max bound)
  | minLength {n : Number} {bound : Nat} (natural : n.natural? = some bound) :
      OfOperand .minLength (some (.num n)) (.minLength bound)
  | maxLength {n : Number} {bound : Nat} (natural : n.natural? = some bound) :
      OfOperand .maxLength (some (.num n)) (.maxLength bound)
  | pattern {text : String} {p : Pattern} (read : Pattern.ofText? text = some p) :
      OfOperand .pattern (some (.str text)) (.pattern p)
  | equalTo {expected : Value} : OfOperand .equalTo (some expected) (.equalTo expected)

theorem OfOperand.kind_eq {kind : RuleKind} {operand : Option Value} {test : Test}
    (h : OfOperand kind operand test) : test.kind = kind := by
  cases h <;> rfl

end Test

namespace Rule

variable {rule : Rule} {test : Test}

theorem requireOperand_eq_ok_iff {operand : Value} :
    rule.requireOperand = .ok operand ↔ rule.operand = some operand := by
  rw [requireOperand]
  cases rule.operand <;> simp

theorem numberBound_eq_ok_iff {bound : Number} :
    rule.numberBound = .ok bound ↔ rule.operand = some (.num bound) := by
  rw [numberBound, except_bind_eq_ok_iff]
  simp only [requireOperand_eq_ok_iff]
  constructor
  · intro h
    obtain ⟨operand, hoperand, hbound⟩ := h
    cases operand with
    | num n =>
        cases hbound
        exact hoperand
    | _ => cases hbound
  · intro h
    exact ⟨.num bound, h, rfl⟩

theorem lengthBound_eq_ok_iff {bound : Nat} :
    rule.lengthBound = .ok bound ↔
      ∃ n : Number, rule.operand = some (.num n) ∧ n.natural? = some bound := by
  rw [lengthBound, except_bind_eq_ok_iff]
  simp only [requireOperand_eq_ok_iff]
  constructor
  · intro h
    obtain ⟨operand, hoperand, hbound⟩ := h
    cases operand with
    | num n =>
        refine ⟨n, hoperand, ?_⟩
        cases hn : n.natural? <;> simp_all
    | _ => cases hbound
  · intro h
    obtain ⟨n, hoperand, hnatural⟩ := h
    exact ⟨.num n, hoperand, by simp only [hnatural]⟩

variable [Pattern.Engine]

theorem searchPattern_eq_ok_iff {p : Pattern} :
    rule.searchPattern = .ok p ↔
      ∃ text, rule.operand = some (.str text) ∧ Pattern.ofText? text = some p := by
  rw [searchPattern, except_bind_eq_ok_iff]
  simp only [requireOperand_eq_ok_iff]
  constructor
  · intro h
    obtain ⟨operand, hoperand, hp⟩ := h
    cases operand with
    | str text =>
        refine ⟨text, hoperand, ?_⟩
        cases htext : Pattern.ofText? text <;> simp_all
    | _ => cases hp
  · intro h
    obtain ⟨text, hoperand, hread⟩ := h
    exact ⟨.str text, hoperand, by simp only [hread]⟩

theorem test_eq_ok_iff : rule.test = .ok test ↔ test.OfOperand rule.kind rule.operand := by
  obtain ⟨kind, operand, message⟩ := rule
  constructor
  · intro h
    cases kind with
    | email =>
        cases h
        exact .email
    | min =>
        obtain ⟨bound, hbound, rfl⟩ := except_map_eq_ok_iff.mp h
        rw [numberBound_eq_ok_iff.mp hbound]
        exact .min
    | max =>
        obtain ⟨bound, hbound, rfl⟩ := except_map_eq_ok_iff.mp h
        rw [numberBound_eq_ok_iff.mp hbound]
        exact .max
    | minLength =>
        obtain ⟨bound, hbound, rfl⟩ := except_map_eq_ok_iff.mp h
        obtain ⟨n, hoperand, hnatural⟩ := lengthBound_eq_ok_iff.mp hbound
        rw [hoperand]
        exact .minLength hnatural
    | maxLength =>
        obtain ⟨bound, hbound, rfl⟩ := except_map_eq_ok_iff.mp h
        obtain ⟨n, hoperand, hnatural⟩ := lengthBound_eq_ok_iff.mp hbound
        rw [hoperand]
        exact .maxLength hnatural
    | pattern =>
        obtain ⟨p, hp, rfl⟩ := except_map_eq_ok_iff.mp h
        obtain ⟨text, hoperand, hread⟩ := searchPattern_eq_ok_iff.mp hp
        rw [hoperand]
        exact .pattern hread
    | equalTo =>
        obtain ⟨expected, hexpected, rfl⟩ := except_map_eq_ok_iff.mp h
        rw [requireOperand_eq_ok_iff.mp hexpected]
        exact .equalTo
  · intro h
    cases h with
    | email => rfl
    | min => rfl
    | max => rfl
    | minLength hnatural =>
        exact except_map_eq_ok_iff.mpr ⟨_, lengthBound_eq_ok_iff.mpr ⟨_, rfl, hnatural⟩, rfl⟩
    | maxLength hnatural =>
        exact except_map_eq_ok_iff.mpr ⟨_, lengthBound_eq_ok_iff.mpr ⟨_, rfl, hnatural⟩, rfl⟩
    | pattern hread =>
        exact except_map_eq_ok_iff.mpr ⟨_, searchPattern_eq_ok_iff.mpr ⟨_, rfl, hread⟩, rfl⟩
    | equalTo => rfl

theorem compile_eq_ok_iff {checker : Checker} :
    rule.compile = .ok checker ↔
      checker.test.OfOperand rule.kind rule.operand ∧ checker.message = rule.resolvedMessage := by
  rw [compile, except_map_eq_ok_iff]
  simp only [test_eq_ok_iff]
  constructor
  · intro h
    obtain ⟨test, htest, heq⟩ := h
    subst checker
    exact ⟨htest, rfl⟩
  · intro h
    obtain ⟨htest, hmessage⟩ := h
    exact ⟨checker.test, htest, by rw [← hmessage]⟩

end Rule

theorem FieldSpec.checkRuleTypes_eq_ok_iff {spec : FieldSpec} {name : String} :
    spec.checkRuleTypes name = .ok () ↔
      ∀ kind, spec.kind = some kind → ∀ rule ∈ spec.rules, rule.kind.accepts kind = true := by
  rw [checkRuleTypes]
  cases hkind : spec.kind with
  | none => simp
  | some kind =>
      dsimp only
      cases hfind : spec.rules.find? fun rule => !rule.kind.accepts kind with
      | none =>
          rw [List.find?_eq_none] at hfind
          simpa using hfind
      | some rule =>
          have hmem := List.mem_of_find?_eq_some hfind
          have hrefused := List.find?_some hfind
          constructor
          · intro h
            cases h
          · intro h
            rw [h kind rfl rule hmem] at hrefused
            cases hrefused

namespace CompiledField

variable {field : CompiledField} {name : String} {spec : FieldSpec} {required : Bool}

theorem evaluate_eq_some_iff {enforce : Bool} {value : Value} {error : FieldError} :
    field.evaluate name enforce value = some error ↔
      (enforce = true ∧ field.conforms value = false ∧ error = field.typeError name value) ∨
      ((enforce = true → field.conforms value = true) ∧
        ∃ earlier checker later, field.checkers = earlier ++ checker :: later ∧
          (∀ other ∈ earlier, other.passes value = true) ∧ checker.passes value = false ∧
          error = ruleError name checker value) := by
  rw [evaluate]
  split
  next htype =>
    obtain ⟨henforce, hrefused⟩ : enforce = true ∧ field.conforms value = false := by
      simpa using htype
    simp [henforce, hrefused, eq_comm (a := error)]
  next hskip =>
    have hconforms : enforce = true → field.conforms value = true := by
      simpa using hskip
    rw [Option.map_eq_some_iff]
    constructor
    · intro h
      obtain ⟨checker, hfind, rfl⟩ := h
      obtain ⟨hfails, earlier, later, hsplit, hearlier⟩ := List.find?_eq_some_iff_append.mp hfind
      refine Or.inr ⟨hconforms, earlier, checker, later, hsplit, ?_, by simpa using hfails, rfl⟩
      simpa using hearlier
    · intro h
      rcases h with ⟨henforce, hrefused, -⟩ | ⟨-, hrule⟩
      · rw [hconforms henforce] at hrefused
        cases hrefused
      · obtain ⟨earlier, checker, later, hsplit, hearlier, hfails, rfl⟩ := hrule
        refine ⟨checker, List.find?_eq_some_iff_append.mpr ?_, rfl⟩
        exact ⟨by simpa using hfails, earlier, later, hsplit, by simpa using hearlier⟩

theorem evaluate_eq_none_iff {enforce : Bool} {value : Value} :
    field.evaluate name enforce value = none ↔
      (enforce = true → field.conforms value = true) ∧
        ∀ checker ∈ field.checkers, checker.passes value = true := by
  rw [evaluate]
  cases enforce with
  | false => simp
  | true => cases hconforms : field.conforms value <;> simp

variable [Pattern.Engine]

/-- A checker that is what its rule says: of its kind, with the test of its operand, and with its
message. -/
structure Checks (rule : Rule) (checker : Checker) : Prop where
  kind_eq : checker.kind = rule.kind
  test : checker.test.OfOperand rule.kind rule.operand
  message_eq : checker.message = rule.resolvedMessage

/-- A field that is what its specification says, with one checker for each rule, in order. -/
structure Renders (field : CompiledField) (spec : FieldSpec) (required : Bool) : Prop where
  kind_eq : field.kind = spec.kind
  typeMessage_eq : field.typeMessage = spec.typeMessage
  required_eq : field.required = required
  checkers : List.Forall₂ Checks spec.rules field.checkers
  accepts : ∀ kind, spec.kind = some kind → ∀ rule ∈ spec.rules, rule.kind.accepts kind = true

theorem checks_iff_compile_eq_ok {rule : Rule} {checker : Checker} :
    Checks rule checker ↔ rule.compile = .ok checker := by
  rw [Rule.compile_eq_ok_iff]
  constructor
  · intro h
    exact ⟨h.test, h.message_eq⟩
  · intro h
    exact ⟨h.1.kind_eq, h.1, h.2⟩

theorem ofSpec_eq_ok_iff : ofSpec name spec required = .ok field ↔ field.Renders spec required := by
  have hcheckers : List.Forall₂ Checks spec.rules field.checkers ↔
      spec.rules.mapM Rule.compile = .ok field.checkers := by
    rw [mapM_eq_ok_iff_forall₂]
    constructor
    · exact List.Forall₂.imp fun _ _ => checks_iff_compile_eq_ok.mp
    · exact List.Forall₂.imp fun _ _ => checks_iff_compile_eq_ok.mpr
  simp only [ofSpec, except_bind_eq_ok_iff]
  constructor
  · intro h
    obtain ⟨_, hkinds, checkers, hcompiled, heq⟩ := h
    cases heq
    exact ⟨rfl, rfl, rfl, hcheckers.mpr hcompiled, FieldSpec.checkRuleTypes_eq_ok_iff.mp hkinds⟩
  · intro h
    obtain ⟨kind, fieldRequired, typeMessage, checkers⟩ := field
    obtain ⟨rfl, rfl, rfl, hall, haccepts⟩ := h
    exact ⟨(), FieldSpec.checkRuleTypes_eq_ok_iff.mpr haccepts, checkers, hcheckers.mp hall, rfl⟩

end CompiledField

end FieldRules
