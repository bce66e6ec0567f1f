import FieldRules.Pattern.Program
import FieldRules.Proofs.Bulk.Entries
import FieldRules.Proofs.CompiledField

namespace FieldRules.Validator

variable {validator : Validator} {name : String} {value : Value}

/-- The error of a value that counts as present. -/
def valueError? (validator : Validator) (name : String) (value : Value) : Option FieldError :=
  (validator.compiled.find? name).bind fun field =>
    field.evaluate name validator.config.enforceTypes value

theorem rejection?_eq_valueError? (h : validator.config.Defines (some value)) :
    validator.rejection? (name, some value) = validator.valueError? name value := by
  rw [rejection?, definedValue?_of_defines h, valueError?]

theorem valueError?_of_not_compiled (h : validator.compiled.contains name = false) :
    validator.valueError? name value = none := by
  have hfind : validator.compiled.find? name = none := by
    simpa [Table.contains] using h
  rw [valueError?, hfind, Option.bind_none]

theorem validateProperty_of_not_compiled (h : validator.compiled.contains name = false) :
    validator.validateProperty name value = (validator, .error (.notCompiled name)) := by
  rw [validateProperty, compiledField_of_contains_eq_false h]

theorem validateProperty_of_compiled (h : validator.compiled.contains name = true) :
    validator.validateProperty name value =
      ({ validator with
          errors := validator.errors.recordAll (validator.valueError? name value).toList },
        .ok (validator.valueError? name value).isNone) := by
  obtain ⟨field, hfield⟩ := Option.isSome_iff_exists.mp h
  simp only [validateProperty, compiledField, valueError?, hfield, Option.bind_some]
  cases field.evaluate name validator.config.enforceTypes value with
  | none => rfl
  | some error => rfl

theorem validateProperty_eq_error_iff :
    validator.validateProperty name value = (validator, .error (.notCompiled name)) ↔
      validator.compiled.contains name = false := by
  constructor
  · intro h
    cases hcompiled : validator.compiled.contains name with
    | false => rfl
    | true =>
        rw [validateProperty_of_compiled hcompiled] at h
        cases congrArg Prod.snd h
  · exact validateProperty_of_not_compiled

theorem field_of_valueError? {error : FieldError} (h : validator.valueError? name value = some error) :
    error.field = name := by
  obtain ⟨field, -, hevaluate⟩ := Option.bind_eq_some_iff.mp h
  rcases CompiledField.evaluate_eq_some_iff.mp hevaluate with
    ⟨-, -, rfl⟩ | ⟨-, earlier, checker, later, -, -, -, rfl⟩
  · rfl
  · rfl

theorem errors_validateProperty (validator : Validator) (name : String) (value : Value) :
    (validator.validateProperty name value).1.errors =
      validator.errors.recordAll (validator.valueError? name value).toList := by
  cases hcompiled : validator.compiled.contains name with
  | false =>
      rw [validateProperty_of_not_compiled hcompiled, valueError?_of_not_compiled hcompiled]
      rfl
  | true => rw [validateProperty_of_compiled hcompiled]

end FieldRules.Validator

namespace FieldRules

/-- A rule compiles into a checker that a value passes. -/
def Rule.Admits [Pattern.Engine] (rule : Rule) (value : Value) : Prop :=
  ∃ checker, rule.compile = .ok checker ∧ checker.passes value = true

namespace CompiledField

variable {field left right : CompiledField} {name : String} {enforce : Bool} {value : Value}
  {error : FieldError}

def AllowsType (field : CompiledField) (enforce : Bool) (value : Value) : Prop :=
  enforce = false ∨ field.kind = none ∨ ∃ kind, field.kind = some kind ∧ kind.admits value = true

/-- The checker at `index` is the first one that rejects a value. -/
structure RejectsFirstAt (field : CompiledField) (value : Value) (index : Nat)
    (checker : Checker) : Prop where
  found : field.checkers[index]? = some checker
  rejects : checker.passes value = false
  least : ∀ earlier < index, ∀ other, field.checkers[earlier]? = some other →
    other.passes value = true

/-- The errors of a value: that of the type, whatever the rules, or that of the first rule that
rejects it. -/
inductive Reports (field : CompiledField) (name : String) (enforce : Bool) (value : Value) :
    FieldError → Prop
  | type {kind : Kind} (enforced : enforce = true) (declared : field.kind = some kind)
      (refused : kind.admits value = false) :
      Reports field name enforce value
        { field := name
          message := field.typeMessage.getD ("Value must be of type " ++ kind.name)
          code := "invalid_type"
          got := some value.text }
  | rule {index : Nat} {checker : Checker} (allowed : field.AllowsType enforce value)
      (first : field.RejectsFirstAt value index checker) :
      Reports field name enforce value
        { field := name
          message := checker.message
          code := checker.kind.code
          got := some value.text }

theorem conforms_eq_true_iff :
    field.conforms value = true ↔
      field.kind = none ∨ ∃ kind, field.kind = some kind ∧ kind.admits value = true := by
  rw [conforms]
  cases field.kind with
  | none => simp
  | some kind => simp

theorem conforms_eq_false_iff :
    field.conforms value = false ↔
      ∃ kind, field.kind = some kind ∧ kind.admits value = false := by
  rw [conforms]
  cases field.kind with
  | none => simp
  | some kind => simp

theorem allowsType_iff :
    field.AllowsType enforce value ↔ (enforce = true → field.conforms value = true) := by
  rw [AllowsType, ← conforms_eq_true_iff]
  cases enforce with
  | false => simp
  | true => simp

theorem typeError_eq {kind : Kind} (h : field.kind = some kind) :
    field.typeError name value =
      { field := name
        message := field.typeMessage.getD ("Value must be of type " ++ kind.name)
        code := "invalid_type"
        got := some value.text } := by
  rw [typeError, h]
  rfl

theorem exists_rejectsFirstAt_iff {checker : Checker} :
    (∃ index, field.RejectsFirstAt value index checker) ↔
      ∃ earlier later, field.checkers = earlier ++ checker :: later ∧
        (∀ other ∈ earlier, other.passes value = true) ∧ checker.passes value = false := by
  constructor
  · intro h
    obtain ⟨index, hfound, hrejects, hleast⟩ := h
    obtain ⟨hlt, hchecker⟩ := List.getElem?_eq_some_iff.mp hfound
    refine ⟨field.checkers.take index, field.checkers.drop (index + 1), ?_, ?_, hrejects⟩
    · rw [← hchecker, List.getElem_cons_drop, List.take_append_drop]
    · intro other hother
      obtain ⟨earlier, hearlier, rfl⟩ := List.mem_take_iff_getElem.mp hother
      have hbefore : earlier < index := by omega
      exact hleast earlier hbefore _ (List.getElem?_eq_getElem (by omega))
  · intro h
    obtain ⟨earlier, later, hsplit, hearlier, hrejects⟩ := h
    refine ⟨earlier.length, ?_, hrejects, ?_⟩
    · rw [hsplit, List.getElem?_append_right (Nat.le_refl _), Nat.sub_self]
      rfl
    · intro i hi other hother
      rw [hsplit, List.getElem?_append_left hi] at hother
      exact hearlier other (List.mem_of_getElem? hother)

theorem evaluate_eq_some_iff_reports :
    field.evaluate name enforce value = some error ↔ field.Reports name enforce value error := by
  rw [evaluate_eq_some_iff, ← allowsType_iff]
  constructor
  · intro h
    rcases h with ⟨henforced, hrefused, rfl⟩ | ⟨hallowed, hrule⟩
    · obtain ⟨kind, hkind, hadmits⟩ := conforms_eq_false_iff.mp hrefused
      rw [typeError_eq hkind]
      exact .type henforced hkind hadmits
    · obtain ⟨earlier, checker, later, hsplit, hearlier, hrejects, rfl⟩ := hrule
      obtain ⟨index, hfirst⟩ :=
        exists_rejectsFirstAt_iff.mpr ⟨earlier, later, hsplit, hearlier, hrejects⟩
      exact .rule hallowed hfirst
  · intro h
    cases h with
    | type henforced hkind hadmits =>
        have hrefused := conforms_eq_false_iff.mpr ⟨_, hkind, hadmits⟩
        exact .inl ⟨henforced, hrefused, (typeError_eq hkind).symm⟩
    | @rule index checker hallowed hfirst =>
        obtain ⟨earlier, later, hsplit, hearlier, hrejects⟩ :=
          exists_rejectsFirstAt_iff.mp ⟨index, hfirst⟩
        exact .inr ⟨hallowed, earlier, checker, later, hsplit, hearlier, hrejects, rfl⟩

theorem evaluate_eq_none_iff_allowsType (name : String) :
    field.evaluate name enforce value = none ↔
      field.AllowsType enforce value ∧ ∀ checker ∈ field.checkers, checker.passes value = true := by
  rw [evaluate_eq_none_iff, allowsType_iff]

theorem evaluate_append (hkind : right.kind = left.kind) :
    { left with checkers := left.checkers ++ right.checkers }.evaluate name enforce value =
      (left.evaluate name enforce value).or (right.evaluate name enforce value) := by
  have hconforms : right.conforms value = left.conforms value := by
    rw [conforms, conforms, hkind]
  have hboth : { left with checkers := left.checkers ++ right.checkers }.conforms value =
      left.conforms value := rfl
  rw [evaluate, evaluate, evaluate, hboth, hconforms]
  split
  next => rfl
  next => rw [List.find?_append, Option.map_or]

variable [Pattern.Engine]

theorem ofSpec_append {kind : Option Kind} {typeMessage : Option String} {required : Bool}
    {first second : List Rule}
    (hleft : ofSpec name ⟨kind, first, typeMessage⟩ required = .ok left)
    (hright : ofSpec name ⟨kind, second, typeMessage⟩ required = .ok right) :
    ofSpec name ⟨kind, first ++ second, typeMessage⟩ required =
      .ok { left with checkers := left.checkers ++ right.checkers } := by
  rw [ofSpec_eq_ok_iff] at hleft hright ⊢
  refine ⟨hleft.kind_eq, hleft.typeMessage_eq, hleft.required_eq,
    List.rel_append hleft.checkers hright.checkers, ?_⟩
  intro kind hkind rule hrule
  rcases List.mem_append.mp hrule with hfirst | hsecond
  · exact hleft.accepts kind hkind rule hfirst
  · exact hright.accepts kind hkind rule hsecond

theorem exists_forall₂_checks {rules : List Rule}
    (h : ∀ rule ∈ rules, ∃ checker, Checks rule checker) :
    ∃ checkers, List.Forall₂ Checks rules checkers := by
  induction rules with
  | nil => exact ⟨[], .nil⟩
  | cons rule rest ih =>
      obtain ⟨checker, hchecker⟩ := h rule List.mem_cons_self
      obtain ⟨checkers, hcheckers⟩ :=
        ih fun other hother => h other (List.mem_cons_of_mem rule hother)
      exact ⟨checker :: checkers, .cons hchecker hcheckers⟩

theorem exists_checks_of_mem {rules : List Rule} {checkers : List Checker}
    (h : List.Forall₂ Checks rules checkers) :
    ∀ rule ∈ rules, ∃ checker, Checks rule checker := by
  induction h with
  | nil => simp
  | cons hfirst _ ih => exact List.forall_mem_cons.mpr ⟨⟨_, hfirst⟩, ih⟩

theorem forall_passes_iff {rules : List Rule} {checkers : List Checker}
    (h : List.Forall₂ Checks rules checkers) :
    (∀ checker ∈ checkers, checker.passes value = true) ↔ ∀ rule ∈ rules, rule.Admits value := by
  induction h with
  | nil => simp
  | cons hfirst _ ih =>
      rw [List.forall_mem_cons, List.forall_mem_cons, ih, Rule.Admits,
        checks_iff_compile_eq_ok.mp hfirst]
      simp

/-- A field with the same rules in another order, or some of them more than once. -/
theorem exists_ofSpec_of_same_rules {kind : Option Kind} {typeMessage : Option String}
    {required : Bool} {rules others : List Rule} (hsame : ∀ rule, rule ∈ others ↔ rule ∈ rules)
    (hfield : ofSpec name ⟨kind, rules, typeMessage⟩ required = .ok field) :
    ∃ other, ofSpec name ⟨kind, others, typeMessage⟩ required = .ok other ∧
      ∀ enforce value, other.evaluate name enforce value = none ↔
        field.evaluate name enforce value = none := by
  rw [ofSpec_eq_ok_iff] at hfield
  have hchecks := exists_checks_of_mem hfield.checkers
  obtain ⟨checkers, hcheckers⟩ :=
    exists_forall₂_checks fun rule hrule => hchecks rule ((hsame rule).mp hrule)
  refine ⟨{ field with checkers := checkers }, ofSpec_eq_ok_iff.mpr ?_, ?_⟩
  · exact ⟨hfield.kind_eq, hfield.typeMessage_eq, hfield.required_eq, hcheckers,
      fun kind hkind rule hrule => hfield.accepts kind hkind rule ((hsame rule).mp hrule)⟩
  · intro enforce value
    rw [evaluate_eq_none_iff, evaluate_eq_none_iff, forall_passes_iff hcheckers,
      forall_passes_iff hfield.checkers]
    simp only [hsame]
    rfl

end CompiledField

namespace Validator

variable {validator next : Validator} {name : String} {value : Value}

def valueOutcome (validator : Validator) (name : String) (value : Value) :
    Except UsageError Bool × ErrorMap :=
  ((validator.validateProperty name value).2, (validator.validateProperty name value).1.errors)

theorem validateProperty_of_find? {field : CompiledField}
    (hfield : validator.compiled.find? name = some field) :
    validator.validateProperty name value =
      ({ validator with
          errors := validator.errors.recordAll
            (field.evaluate name validator.config.enforceTypes value).toList },
        .ok (field.evaluate name validator.config.enforceTypes value).isNone) := by
  have hcompiled : validator.compiled.contains name = true := by
    rw [Table.contains, hfield]
    rfl
  rw [validateProperty_of_compiled hcompiled, valueError?, hfield, Option.bind_some]

theorem validateProperty_install {spec : FieldSpec} {field : CompiledField} {value : Value} :
    { validator with
        schema := validator.schema.store name spec
        compiled := validator.compiled.insert name field }.validateProperty name value =
      ({ validator with
          schema := validator.schema.store name spec
          compiled := validator.compiled.insert name field
          errors := validator.errors.recordAll
            (field.evaluate name validator.config.enforceTypes value).toList },
        .ok (field.evaluate name validator.config.enforceTypes value).isNone) :=
  validateProperty_of_find? (Table.find?_insert_self validator.compiled)

section

variable [Pattern.Engine]

/-- How lists of rules compose that are installed under one name, with one kind, one message for the
kind and one configuration: rules behind others only matter to the values that those let pass, and
for whether a value passes only the set of the rules matters. -/
structure ComposesRules (validator : Validator) (name : String) : Prop where
  append : ∀ kind typeMessage first second left right,
    validator.install ⟨name, ⟨kind, first, typeMessage⟩⟩ = (left, .ok ()) →
    validator.install ⟨name, ⟨kind, second, typeMessage⟩⟩ = (right, .ok ()) →
    ∃ both, validator.install ⟨name, ⟨kind, first ++ second, typeMessage⟩⟩ = (both, .ok ()) ∧
      ∀ value,
        ((left.validateProperty name value).2 = .ok false ∧
          both.valueOutcome name value = left.valueOutcome name value) ∨
        ((left.validateProperty name value).2 = .ok true ∧
          both.valueOutcome name value = right.valueOutcome name value)
  reorder : ∀ kind typeMessage rules others left,
    (∀ rule, rule ∈ others ↔ rule ∈ rules) →
    validator.install ⟨name, ⟨kind, rules, typeMessage⟩⟩ = (left, .ok ()) →
    ∃ right, validator.install ⟨name, ⟨kind, others, typeMessage⟩⟩ = (right, .ok ()) ∧
      ∀ value, (right.validateProperty name value).2 = (left.validateProperty name value).2

theorem install_eq_ok_iff {draft : Draft} :
    validator.install draft = (next, .ok ()) ↔
      ∃ field, CompiledField.ofSpec draft.name draft.spec
          (validator.schema.isRequired draft.name) = .ok field ∧
        next = { validator with
          schema := validator.schema.store draft.name draft.spec
          compiled := validator.compiled.insert draft.name field } := by
  rw [install]
  cases CompiledField.ofSpec draft.name draft.spec (validator.schema.isRequired draft.name) with
  | error error => simp
  | ok field => simp [eq_comm]

theorem composesRules (validator : Validator) (name : String) : validator.ComposesRules name where
  append := by
    intro kind typeMessage first second left right hleft hright
    obtain ⟨leftField, hleftField, rfl⟩ := install_eq_ok_iff.mp hleft
    obtain ⟨rightField, hrightField, rfl⟩ := install_eq_ok_iff.mp hright
    have hkind : rightField.kind = leftField.kind :=
      (CompiledField.ofSpec_eq_ok_iff.mp hrightField).kind_eq.trans
        (CompiledField.ofSpec_eq_ok_iff.mp hleftField).kind_eq.symm
    have hboth := CompiledField.ofSpec_append hleftField hrightField
    refine ⟨_, install_eq_ok_iff.mpr ⟨_, hboth, rfl⟩, ?_⟩
    intro value
    simp only [valueOutcome, validateProperty_install, CompiledField.evaluate_append hkind]
    cases leftField.evaluate name validator.config.enforceTypes value with
    | none => exact .inr ⟨rfl, rfl⟩
    | some error => exact .inl ⟨rfl, rfl⟩
  reorder := by
    intro kind typeMessage rules others left hsame hleft
    obtain ⟨field, hfield, rfl⟩ := install_eq_ok_iff.mp hleft
    obtain ⟨other, hother, hpasses⟩ := CompiledField.exists_ofSpec_of_same_rules hsame hfield
    refine ⟨_, install_eq_ok_iff.mpr ⟨other, hother, rfl⟩, ?_⟩
    intro value
    simp only [validateProperty_install]
    rw [Except.ok.injEq, Bool.eq_iff_iff, Option.isNone_iff_eq_none, Option.isNone_iff_eq_none]
    exact hpasses validator.config.enforceTypes value

theorem first_failure_wins {field : CompiledField}
    (hfield : validator.compiled.find? name = some field) (value : Value) :
    (validator.validateProperty name value = (validator, .ok true) ↔
      field.AllowsType validator.config.enforceTypes value ∧
        ∀ checker ∈ field.checkers, checker.passes value = true) ∧
    (¬ (field.AllowsType validator.config.enforceTypes value ∧
        ∀ checker ∈ field.checkers, checker.passes value = true) →
      ∃ error, field.Reports name validator.config.enforceTypes value error ∧
        validator.validateProperty name value =
          ({ validator with errors := validator.errors.record error }, .ok false) ∧
        (validator.errors.record error).find? name = some error ∧
        (∀ other, other ≠ name →
          (validator.errors.record error).find? other = validator.errors.find? other) ∧
        (validator.errors.record error).table.keys =
          if name ∈ validator.errors.table.keys then validator.errors.table.keys
          else validator.errors.table.keys ++ [name]) ∧
    validator.ComposesRules name := by
  rw [← CompiledField.evaluate_eq_none_iff_allowsType name]
  refine ⟨?_, ?_, validator.composesRules name⟩
  · rw [validateProperty_of_find? hfield]
    cases field.evaluate name validator.config.enforceTypes value with
    | none => exact ⟨fun _ => rfl, fun _ => rfl⟩
    | some error =>
        constructor
        · intro h
          cases congrArg Prod.snd h
        · intro h
          cases h
  · intro hfails
    obtain ⟨error, herror⟩ := Option.ne_none_iff_exists'.mp hfails
    have hreports := CompiledField.evaluate_eq_some_iff_reports.mp herror
    have hname : error.field = name := by
      cases hreports with
      | type => rfl
      | rule => rfl
    refine ⟨error, hreports, ?_, ?_, ?_, ?_⟩
    · rw [validateProperty_of_find? hfield, herror]
      rfl
    · rw [ErrorMap.find?_record, if_pos hname.symm]
    · intro other hother
      rw [ErrorMap.find?_record, hname, if_neg hother]
    · have hkeys : (validator.errors.record error).table.keys =
          if error.field ∈ validator.errors.table.keys then validator.errors.table.keys
          else validator.errors.table.keys ++ [error.field] :=
        Table.keys_insert validator.errors.table
      rw [hkeys, hname]

end

def password : CompiledField :=
  ⟨some .string, true, none,
    [⟨.minLength 4, "too short"⟩,
      ⟨.equalTo (.str "open"), "Value does not match the compared value"⟩]⟩

def guarded : Validator :=
  ((ofRoot .object).declareField "word" true
    [.asKind .string, .minLength 4, .message "too short", .equalTo (.str "open")] true).1

theorem first_failure_wins_short :
    guarded.compiled.find? "word" = some password ∧
      ¬ (password.AllowsType false (.str "no") ∧
        ∀ checker ∈ password.checkers, checker.passes (.str "no") = true) ∧
      (∃ error, password.Reports "word" false (.str "no") error ∧
        guarded.validateProperty "word" (.str "no") =
          ({ guarded with errors := guarded.errors.record error }, .ok false)) ∧
      ((guarded.validateProperty "word" (.str "no")).1.errors.find? "word").map
        FieldError.message = some "too short" := by
  have hfield : guarded.compiled.find? "word" = some password := rfl
  have hfails : ¬ (password.AllowsType false (.str "no") ∧
      ∀ checker ∈ password.checkers, checker.passes (.str "no") = true) := by
    intro h
    cases h.2 _ List.mem_cons_self
  obtain ⟨-, hrejects, -⟩ := first_failure_wins hfield (.str "no")
  obtain ⟨error, hreports, hresult, -⟩ := hrejects hfails
  exact ⟨hfield, hfails, ⟨error, hreports, hresult⟩, rfl⟩

end Validator

end FieldRules
