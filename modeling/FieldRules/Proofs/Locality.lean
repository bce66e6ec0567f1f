import FieldRules.Proofs.Declaration
import FieldRules.Proofs.FirstFailure

namespace FieldRules

namespace Draft

variable {draft middle : Draft} {before calls : List Call} {made count : Nat} {error : UsageError}

theorem callAll_append_of_ok (h : draft.callAll made before = .ok middle) (calls : List Call) :
    draft.callAll made (before ++ calls) = middle.callAll (made + before.length) calls := by
  induction before generalizing draft made with
  | nil =>
      cases h
      rfl
  | cons call rest ih =>
      rw [callAll] at h
      rw [List.cons_append, callAll]
      cases hcall : draft.call call with
      | error error =>
          rw [hcall] at h
          cases h
      | ok next =>
          rw [hcall] at h
          have hcount : made + (call :: rest).length = made + 1 + rest.length := by
            rw [List.length_cons]
            omega
          rw [hcount]
          exact ih h

theorem callAll_eq_error_iff :
    draft.callAll made calls = .error (error, count) ↔
      ∃ before call after middle, calls = before ++ call :: after ∧
        draft.callAll made before = .ok middle ∧ middle.call call = .error error ∧
        count = made + before.length := by
  constructor
  · intro h
    induction calls generalizing draft made with
    | nil => cases h
    | cons call rest ih =>
        rw [callAll] at h
        cases hcall : draft.call call with
        | error failure =>
            rw [hcall] at h
            cases h
            exact ⟨[], call, rest, draft, rfl, rfl, hcall, rfl⟩
        | ok next =>
            rw [hcall] at h
            obtain ⟨before, failing, after, middle, hsplit, hbefore, hfailed, hcount⟩ := ih h
            refine ⟨call :: before, failing, after, middle, by rw [hsplit]; rfl, ?_, hfailed, ?_⟩
            · rw [callAll, hcall]
              exact hbefore
            · rw [hcount, List.length_cons]
              omega
  · intro h
    obtain ⟨before, call, after, middle, rfl, hbefore, hfailed, rfl⟩ := h
    rw [callAll_append_of_ok hbefore, callAll, hfailed]

end Draft

section

variable [Pattern.Engine]

/-- How a declaration by some calls ends, and the specification that it leaves behind: that of the
calls when they are compiled, whether or not this fails, and the empty one when they are not. -/
inductive Ends (name : String) (required : Bool) (calls : List Call) :
    Bool → Declared → FieldSpec → Prop
  | failedCall {compile : Bool} {before after : List Call} {call : Call} {draft : Draft}
      {error : UsageError} (split : calls = before ++ call :: after)
      (made : (Draft.start name).callAll 0 before = .ok draft)
      (failed : draft.call call = .error error) :
      Ends name required calls compile (.failed error before.length) .empty
  | dropped {draft : Draft} (made : (Draft.start name).callAll 0 calls = .ok draft) :
      Ends name required calls false .dropped .empty
  | failedCompile {spec : FieldSpec} {error : UsageError}
      (made : (Draft.start name).callAll 0 calls = .ok ⟨name, spec⟩)
      (failed : CompiledField.ofSpec name spec required = .error error) :
      Ends name required calls true (.failed error calls.length) spec
  | compiled {spec : FieldSpec} {field : CompiledField}
      (made : (Draft.start name).callAll 0 calls = .ok ⟨name, spec⟩)
      (compiled : CompiledField.ofSpec name spec required = .ok field) :
      Ends name required calls true .compiled spec

end

namespace Validator

variable {validator next : Validator} {name : String} {required : Bool} {calls : List Call}
  {compile : Bool} {ending : Declared} {spec : FieldSpec}

/-- The next validator differs in nothing but what it knows about one name. -/
structure DeclaresOnly (validator : Validator) (name : String) (next : Validator) : Prop where
  field?_eq : ∀ other, other ≠ name → next.schema.field? other = validator.schema.field? other
  isRequired_eq : ∀ other, other ≠ name →
    next.schema.isRequired other = validator.schema.isRequired other
  compiled_eq : ∀ other, other ≠ name →
    next.compiled.find? other = validator.compiled.find? other
  fieldNames_eq : next.schema.fieldNames =
    if name ∈ validator.schema.fieldNames then validator.schema.fieldNames
    else validator.schema.fieldNames ++ [name]
  requiredNames_eq : next.schema.requiredNames.filter (· != name) =
    validator.schema.requiredNames.filter (· != name)
  errors_eq : next.errors = validator.errors
  config_eq : next.config = validator.config
  root_eq : next.schema.root = validator.schema.root

namespace DeclaresOnly

theorem declare (validator : Validator) (name : String) (required : Bool) :
    validator.DeclaresOnly name (validator.declare name required) where
  field?_eq other h := by
    rw [Validator.declare, Schema.field?_declare, if_neg h]
  isRequired_eq other h := by
    rw [Validator.declare, Schema.isRequired_declare, if_neg h]
  compiled_eq other h := Table.find?_erase_of_ne validator.compiled h
  fieldNames_eq := Table.keys_insert validator.schema.fields
  requiredNames_eq := by
    rw [Validator.declare, Schema.requiredNames_declare]
    cases required with
    | true =>
        rw [if_pos rfl]
        split
        · rfl
        · simp
    | false => simp
  errors_eq := rfl
  config_eq := rfl
  root_eq := rfl

theorem mem_fieldNames (h : validator.DeclaresOnly name next) : name ∈ next.schema.fieldNames := by
  rw [h.fieldNames_eq]
  split
  next hmem => exact hmem
  next => simp

theorem storeSpec (h : validator.DeclaresOnly name next) (spec : FieldSpec) :
    validator.DeclaresOnly name (next.storeSpec name spec) where
  field?_eq other hne := by
    rw [Validator.storeSpec, Schema.field?_store, if_neg hne, h.field?_eq other hne]
  isRequired_eq := h.isRequired_eq
  compiled_eq := h.compiled_eq
  fieldNames_eq := by
    rw [← h.fieldNames_eq]
    exact Table.keys_insert_of_mem next.schema.fields h.mem_fieldNames
  requiredNames_eq := h.requiredNames_eq
  errors_eq := h.errors_eq
  config_eq := h.config_eq
  root_eq := h.root_eq

theorem storeField (h : validator.DeclaresOnly name next) (field : CompiledField) :
    validator.DeclaresOnly name (next.storeField name field) where
  field?_eq := h.field?_eq
  isRequired_eq := h.isRequired_eq
  compiled_eq other hne := by
    rw [Validator.storeField, Table.find?_insert_of_ne _ hne, h.compiled_eq other hne]
  fieldNames_eq := h.fieldNames_eq
  requiredNames_eq := h.requiredNames_eq
  errors_eq := h.errors_eq
  config_eq := h.config_eq
  root_eq := h.root_eq

variable [Pattern.Engine]

theorem declareField (validator : Validator) (name : String) (required : Bool) (calls : List Call)
    (compile : Bool) :
    validator.DeclaresOnly name (validator.declareField name required calls compile).1 := by
  have hdeclared := declare validator name required
  rcases validator.declareField_cases name required calls compile with
    ⟨error, made, -, heq⟩ | ⟨spec, -, -, heq⟩ | ⟨spec, error, -, -, -, heq⟩ |
      ⟨spec, field, -, -, -, heq⟩
  · rw [heq]
    exact hdeclared
  · rw [heq]
    exact hdeclared
  · rw [heq]
    exact hdeclared.storeSpec spec
  · rw [heq]
    exact (hdeclared.storeSpec spec).storeField field

end DeclaresOnly

section

variable [Pattern.Engine]

theorem ends_declareField (validator : Validator) (name : String) (required : Bool)
    (calls : List Call) (compile : Bool) :
    ∃ spec, (validator.declareField name required calls compile).1.schema.field? name =
        some spec ∧
      Ends name required calls compile (validator.declareField name required calls compile).2
        spec := by
  rcases validator.declareField_cases name required calls compile with
    ⟨error, made, hcalls, heq⟩ | ⟨spec, hcalls, hdropped, heq⟩ |
      ⟨spec, error, hcalls, hcompile, hfield, heq⟩ | ⟨spec, field, hcalls, hcompile, hfield, heq⟩
  · obtain ⟨before, call, after, draft, hsplit, hbefore, hfailed, hmade⟩ :=
      Draft.callAll_eq_error_iff.mp hcalls
    rw [Nat.zero_add] at hmade
    rw [heq, hmade]
    exact ⟨.empty, Schema.field?_declare_self, .failedCall hsplit hbefore hfailed⟩
  · subst hdropped
    rw [heq]
    exact ⟨.empty, Schema.field?_declare_self, .dropped hcalls⟩
  · subst hcompile
    rw [heq]
    exact ⟨spec, Schema.field?_store_self, .failedCompile hcalls hfield⟩
  · subst hcompile
    rw [heq]
    exact ⟨spec, Schema.field?_store_self, .compiled hcalls hfield⟩

theorem eq_of_ends (h : Ends name required calls compile ending spec) (validator : Validator) :
    (validator.declareField name required calls compile).2 = ending ∧
      (validator.declareField name required calls compile).1.schema.field? name = some spec := by
  have hrequired : (validator.declare name required).schema.isRequired name = required :=
    Schema.isRequired_declare_self
  cases h with
  | failedCall hsplit hbefore hfailed =>
      have hcalls := Draft.callAll_eq_error_iff.mpr
        ⟨_, _, _, _, hsplit, hbefore, hfailed, (Nat.zero_add _).symm⟩
      simp [declareField, hcalls, declare, Schema.field?_declare]
  | dropped hcalls => simp [declareField, hcalls, declare, Schema.field?_declare]
  | failedCompile hcalls hfield =>
      simp [declareField, hcalls, install, hrequired, hfield, Schema.field?_store]
  | compiled hcalls hfield =>
      simp [declareField, hcalls, install, hrequired, hfield, Schema.field?_store]

theorem isRequired_declareField (validator : Validator) (name : String) (required : Bool)
    (calls : List Call) (compile : Bool) :
    (validator.declareField name required calls compile).1.schema.isRequired name = required := by
  rw [Schema.isRequired, required_declareField]
  exact Schema.isRequired_declare_self

theorem validateProperty_after_iff (h : validator.compiled.contains name = false)
    (operations : List Operation) (value : Value) :
    (validator.after operations).validateProperty name value =
        (validator.after operations, .error (.notCompiled name)) ↔
      ¬ validator.CompilesLast operations name := by
  rw [validateProperty_eq_error_iff, ← contains_after_iff h, Bool.not_eq_true]

theorem declaration_stays_local
    (h : validator.declareField name required calls compile = (next, ending)) :
    validator.DeclaresOnly name next ∧ next.schema.isRequired name = required ∧
    (∃ spec, next.schema.field? name = some spec ∧
      ∀ ended stored, Ends name required calls compile ended stored ↔
        ended = ending ∧ stored = spec) ∧
    (next.compiled.contains name = true ↔ ending = .compiled) ∧
    (ending ≠ .compiled → ∀ operations value,
      (next.after operations).validateProperty name value =
          (next.after operations, .error (.notCompiled name)) ↔
        ¬ next.CompilesLast operations name) := by
  have hnext : next = (validator.declareField name required calls compile).1 := by rw [h]
  have hending : ending = (validator.declareField name required calls compile).2 := by rw [h]
  clear h
  subst hnext hending
  obtain ⟨spec, hspec, hends⟩ := ends_declareField validator name required calls compile
  refine ⟨.declareField validator name required calls compile,
    isRequired_declareField validator name required calls compile, ⟨spec, hspec, ?_⟩,
    contains_declareField_self, ?_⟩
  · intro ended stored
    constructor
    · intro hother
      obtain ⟨hended, hstored⟩ := eq_of_ends hother validator
      rw [hspec] at hstored
      exact ⟨hended.symm, (Option.some.inj hstored).symm⟩
    · intro hsame
      obtain ⟨rfl, rfl⟩ := hsame
      exact hends
  · intro hfailed operations value
    apply validateProperty_after_iff
    rw [← Bool.not_eq_true, contains_declareField_self]
    exact hfailed

end

def roster : Validator :=
  ((ofRoot .object).performAll
    [.declareField "age" true [.asKind .integer] true,
      .declareField "name" true [.asKind .string, .minLength 2] true,
      .validateProperty "name" (.str "A")]).1

def mistyped : Validator :=
  (roster.declareField "age" false [.minLength 2, .asKind .number] true).1

theorem declaration_stays_local_mistyped :
    roster.declareField "age" false [.minLength 2, .asKind .number] true =
        (mistyped, .failed (.typeConflict "age" .minLength .number) 2) ∧
      roster.DeclaresOnly "age" mistyped ∧ mistyped.schema.fieldNames = ["age", "name"] ∧
      mistyped.schema.requiredNames = ["name"] := by
  have h : roster.declareField "age" false [.minLength 2, .asKind .number] true =
      (mistyped, .failed (.typeConflict "age" .minLength .number) 2) := rfl
  exact ⟨h, (declaration_stays_local h).1, rfl, rfl⟩

end Validator

end FieldRules
