import FieldRules.Proofs.CompiledField

namespace FieldRules

/-! What a declaration changes: the specification of its field, its place among the required fields,
and its compiled form. Over a session these stay in step: a compiled field is always what its
present specification makes of it, and a name is compiled exactly when its last declaration compiled
it. -/

namespace Draft

variable {draft next : Draft}

theorem name_of_attach {rule : Rule} (h : draft.attach rule = .ok next) :
    next.name = draft.name := by
  unfold attach at h
  split at h
  · split at h
    · cases h
      rfl
    · cases h
      rfl
  · split at h
    · cases h
      rfl
    · cases h

theorem name_setMessage (draft : Draft) (text : String) :
    (draft.setMessage text).name = draft.name := by
  unfold setMessage
  split
  · rfl
  · rfl

theorem name_of_call {call : Call} (h : draft.call call = .ok next) : next.name = draft.name := by
  cases call with
  | asKind kind =>
      cases h
      rfl
  | equalTo expected =>
      cases h
      rfl
  | message text =>
      cases h
      exact name_setMessage draft text
  | ruleText text =>
      cases hrule : Rule.ofText? text with
      | error error =>
          simp only [Draft.call, hrule] at h
          cases h
      | ok rule =>
          simp only [Draft.call, hrule] at h
          exact name_of_attach h
  | _ => exact name_of_attach h

theorem name_of_callAll {calls : List Call} {made : Nat} (h : draft.callAll made calls = .ok next) :
    next.name = draft.name := by
  induction calls generalizing draft made with
  | nil =>
      cases h
      rfl
  | cons call rest ih =>
      rw [callAll] at h
      split at h
      next middle hcall => exact (ih h).trans (name_of_call hcall)
      next => cases h

end Draft

namespace Schema

variable {schema : Schema} {name other : String} {required : Bool} {spec : FieldSpec}

theorem field?_declare :
    (schema.declare name required).field? other =
      if other = name then some .empty else schema.field? other :=
  Table.find?_insert schema.fields

theorem field?_store :
    (schema.store name spec).field? other =
      if other = name then some spec else schema.field? other :=
  Table.find?_insert schema.fields

theorem isRequired_declare :
    (schema.declare name required).isRequired other =
      if other = name then required else schema.isRequired other := by
  cases required with
  | true => exact Table.contains_insert schema.required
  | false => exact Table.contains_erase schema.required

theorem requiredNames_declare :
    (schema.declare name required).requiredNames =
      if required then
        if name ∈ schema.requiredNames then schema.requiredNames
        else schema.requiredNames ++ [name]
      else schema.requiredNames.filter (· != name) := by
  cases required with
  | true => exact Table.keys_insert schema.required
  | false => exact Table.keys_erase schema.required

theorem field?_declare_self : (schema.declare name required).field? name = some .empty := by
  rw [field?_declare, if_pos rfl]

theorem field?_store_self : (schema.store name spec).field? name = some spec := by
  rw [field?_store, if_pos rfl]

theorem isRequired_declare_self : (schema.declare name required).isRequired name = required := by
  rw [isRequired_declare, if_pos rfl]

end Schema

namespace Validator

def storeSpec (validator : Validator) (name : String) (spec : FieldSpec) : Validator :=
  { validator with schema := validator.schema.store name spec }

def storeField (validator : Validator) (name : String) (field : CompiledField) : Validator :=
  { validator with compiled := validator.compiled.insert name field }

variable [Pattern.Engine]

/-- The ways in which a declaration ends: a call fails, the draft is dropped, or it is stored, with
or without being compiled. -/
theorem declareField_cases (validator : Validator) (name : String) (required : Bool)
    (calls : List Call) (compile : Bool) :
    (∃ error made, (Draft.start name).callAll 0 calls = .error (error, made) ∧
      validator.declareField name required calls compile =
        (validator.declare name required, .failed error made)) ∨
    (∃ spec, (Draft.start name).callAll 0 calls = .ok ⟨name, spec⟩ ∧ compile = false ∧
      validator.declareField name required calls compile =
        (validator.declare name required, .dropped)) ∨
    (∃ spec error, (Draft.start name).callAll 0 calls = .ok ⟨name, spec⟩ ∧ compile = true ∧
      CompiledField.ofSpec name spec required = .error error ∧
      validator.declareField name required calls compile =
        ((validator.declare name required).storeSpec name spec, .failed error calls.length)) ∨
    (∃ spec field, (Draft.start name).callAll 0 calls = .ok ⟨name, spec⟩ ∧ compile = true ∧
      CompiledField.ofSpec name spec required = .ok field ∧
      validator.declareField name required calls compile =
        (((validator.declare name required).storeSpec name spec).storeField name field,
          .compiled)) := by
  have hrequired : (validator.declare name required).schema.isRequired name = required :=
    Schema.isRequired_declare_self
  cases hcalls : (Draft.start name).callAll 0 calls with
  | error failure =>
      obtain ⟨error, made⟩ := failure
      left
      exact ⟨error, made, rfl, by rw [declareField, hcalls]⟩
  | ok draft =>
      obtain ⟨drafted, spec⟩ := draft
      have hname : drafted = name := Draft.name_of_callAll hcalls
      subst drafted
      right
      cases compile with
      | false =>
          left
          exact ⟨spec, rfl, rfl, by simp [declareField, hcalls]⟩
      | true =>
          right
          cases hfield : CompiledField.ofSpec name spec required with
          | error error =>
              left
              refine ⟨spec, error, rfl, rfl, hfield, ?_⟩
              simp [declareField, hcalls, install, hrequired, hfield, storeSpec]
          | ok field =>
              right
              refine ⟨spec, field, rfl, rfl, hfield, ?_⟩
              simp [declareField, hcalls, install, hrequired, hfield, storeSpec, storeField]

theorem required_declareField (validator : Validator) (name : String) (required : Bool)
    (calls : List Call) (compile : Bool) :
    (validator.declareField name required calls compile).1.schema.required =
      (validator.schema.declare name required).required := by
  rcases validator.declareField_cases name required calls compile with
    ⟨error, made, -, heq⟩ | ⟨spec, -, -, heq⟩ | ⟨spec, error, -, -, -, heq⟩ |
      ⟨spec, field, -, -, -, heq⟩
  · rw [heq]
    rfl
  · rw [heq]
    rfl
  · rw [heq]
    rfl
  · rw [heq]
    rfl

end Validator

def Operation.Declares (name : String) : Operation → Prop
  | .declareField declared _ _ _ => declared = name
  | _ => False

theorem Operation.declaration_or_none (operation : Operation) :
    (∃ name required calls compile, operation = .declareField name required calls compile) ∨
      ∀ name, ¬ operation.Declares name := by
  cases operation with
  | declareField name required calls compile => exact .inl ⟨name, required, calls, compile, rfl⟩
  | _ => exact .inr fun _ hdeclares => hdeclares

namespace Validator

variable {validator : Validator} {name other : String} {required : Bool} {spec : FieldSpec}
  {field : CompiledField}

theorem exists_last_declaration {operations : List Operation}
    (h : ∃ operation ∈ operations, operation.Declares name) :
    ∃ before required calls compile later,
      operations = before ++ .declareField name required calls compile :: later ∧
        ∀ operation ∈ later, ¬ operation.Declares name := by
  induction operations with
  | nil =>
      obtain ⟨operation, hmem, -⟩ := h
      cases hmem
  | cons operation rest ih =>
      by_cases hrest : ∃ later ∈ rest, later.Declares name
      · obtain ⟨before, required, calls, compile, later, heq, hlater⟩ := ih hrest
        exact ⟨operation :: before, required, calls, compile, later, by rw [heq]; rfl, hlater⟩
      · obtain ⟨found, hmem, hdeclares⟩ := h
        rcases List.mem_cons.mp hmem with heq | htail
        · subst found
          cases operation with
          | declareField declared required calls compile =>
              have hname : declared = name := hdeclares
              subst declared
              refine ⟨[], required, calls, compile, rest, rfl, ?_⟩
              intro later hlater hagain
              exact hrest ⟨later, hlater, hagain⟩
          | _ => exact False.elim hdeclares
        · exact absurd ⟨found, htail, hdeclares⟩ hrest

variable [Pattern.Engine]

/-- Required fields are declared, and so are compiled ones, each of which is what its specification
and its place among the required fields make of it. -/
structure Coherent (validator : Validator) : Prop where
  required_declared : ∀ name, validator.schema.isRequired name = true →
    ∃ spec, validator.schema.field? name = some spec
  compiled_current : ∀ name field, validator.compiled.find? name = some field →
    ∃ spec, validator.schema.field? name = some spec ∧
      CompiledField.ofSpec name spec (validator.schema.isRequired name) = .ok field

theorem coherent_ofRoot (root : Kind) : (ofRoot root).Coherent := by
  constructor
  · intro name hrequired
    cases hrequired
  · intro name field hfield
    cases hfield

namespace Coherent

theorem declare (h : validator.Coherent) (name : String) (required : Bool) :
    (validator.declare name required).Coherent := by
  constructor
  · intro other hother
    simp only [Validator.declare, Schema.isRequired_declare, Schema.field?_declare] at hother ⊢
    split
    next => exact ⟨.empty, rfl⟩
    next hne =>
      rw [if_neg hne] at hother
      exact h.required_declared other hother
  · intro other field hfield
    simp only [Validator.declare, Table.find?_erase] at hfield
    simp only [Validator.declare, Schema.isRequired_declare, Schema.field?_declare]
    split at hfield
    next => cases hfield
    next hne =>
      rw [if_neg hne, if_neg hne]
      exact h.compiled_current other field hfield

theorem storeSpec (h : validator.Coherent) (hfield : validator.compiled.find? name = none)
    (spec : FieldSpec) : (validator.storeSpec name spec).Coherent := by
  constructor
  · intro other hother
    simp only [Validator.storeSpec, Schema.field?_store]
    split
    next => exact ⟨spec, rfl⟩
    next => exact h.required_declared other hother
  · intro other found hfound
    simp only [Validator.storeSpec, Schema.field?_store]
    split
    next heq =>
      subst other
      simp only [Validator.storeSpec, hfield] at hfound
      cases hfound
    next => exact h.compiled_current other found hfound

theorem storeField (h : validator.Coherent) (hspec : validator.schema.field? name = some spec)
    (hfield : CompiledField.ofSpec name spec (validator.schema.isRequired name) = .ok field) :
    (validator.storeField name field).Coherent := by
  constructor
  · exact h.required_declared
  · intro other found hfound
    simp only [Validator.storeField, Table.find?_insert] at hfound
    split at hfound
    next heq =>
      subst other
      cases hfound
      exact ⟨spec, hspec, hfield⟩
    next => exact h.compiled_current other found hfound

theorem declareField (h : validator.Coherent) (name : String) (required : Bool) (calls : List Call)
    (compile : Bool) : (validator.declareField name required calls compile).1.Coherent := by
  have hdeclared := h.declare name required
  have hstored : ∀ spec, ((validator.declare name required).storeSpec name spec).Coherent :=
    hdeclared.storeSpec (Table.find?_erase_self validator.compiled)
  rcases validator.declareField_cases name required calls compile with
    ⟨error, made, -, heq⟩ | ⟨spec, -, -, heq⟩ | ⟨spec, error, -, -, -, heq⟩ |
      ⟨spec, field, -, -, hfield, heq⟩
  · rw [heq]
    exact hdeclared
  · rw [heq]
    exact hdeclared
  · rw [heq]
    exact hstored spec
  · rw [heq]
    have hrequired : (validator.schema.declare name required).isRequired name = required :=
      Schema.isRequired_declare_self
    exact (hstored spec).storeField Schema.field?_store_self (hrequired.symm ▸ hfield)

end Coherent

theorem perform_of_not_declares (validator : Validator) {operation : Operation}
    (h : ∀ name, ¬ operation.Declares name) :
    (validator.perform operation).1.schema = validator.schema ∧
      (validator.perform operation).1.compiled = validator.compiled := by
  cases operation with
  | declareField name required calls compile => exact absurd rfl (h name)
  | validateProperty name value =>
      simp only [perform, validateProperty]
      split
      · exact ⟨rfl, rfl⟩
      · split
        · exact ⟨rfl, rfl⟩
        · exact ⟨rfl, rfl⟩
  | _ => exact ⟨rfl, rfl⟩

theorem Coherent.perform (h : validator.Coherent) (operation : Operation) :
    (validator.perform operation).1.Coherent := by
  rcases operation.declaration_or_none with ⟨name, required, calls, compile, heq⟩ | hnone
  · subst operation
    exact h.declareField name required calls compile
  · obtain ⟨hschema, hcompiled⟩ := validator.perform_of_not_declares hnone
    constructor
    · rw [hschema]
      exact h.required_declared
    · rw [hschema, hcompiled]
      exact h.compiled_current

theorem Reachable.coherent (h : Reachable validator) : validator.Coherent := by
  induction h with
  | ofRoot root => exact coherent_ofRoot root
  | perform _ operation ih => exact ih.perform operation

def after (validator : Validator) (operations : List Operation) : Validator :=
  (validator.performAll operations).1

@[simp] theorem after_nil (validator : Validator) : validator.after [] = validator := rfl

@[simp] theorem after_cons (validator : Validator) (operation : Operation)
    (operations : List Operation) :
    validator.after (operation :: operations) = (validator.perform operation).1.after operations :=
  rfl

theorem Reachable.after (h : Reachable validator) (operations : List Operation) :
    Reachable (validator.after operations) := by
  induction operations generalizing validator with
  | nil => exact h
  | cons operation rest ih => exact ih (h.perform operation)

/-- The changes of single settings are steps of sessions like that of a whole configuration. -/
theorem Reachable.settings (h : Reachable validator) (policy : NullPolicy)
    (report enforce : Bool) :
    Reachable (validator.withNullPolicy policy) ∧
      Reachable (validator.withAbsentRequiredReported report) ∧
      Reachable (validator.withTypeEnforcement enforce) :=
  ⟨h.perform (.configure _), h.perform (.configure _), h.perform (.configure _)⟩

theorem contains_declareField_self {calls : List Call} {compile : Bool} :
    (validator.declareField name required calls compile).1.compiled.contains name = true ↔
      (validator.declareField name required calls compile).2 = .compiled := by
  have hdropped : (validator.declare name required).compiled.contains name = false := by
    simp [declare, Table.contains_erase]
  rcases validator.declareField_cases name required calls compile with
    ⟨error, made, -, heq⟩ | ⟨spec, -, -, heq⟩ | ⟨spec, error, -, -, -, heq⟩ |
      ⟨spec, field, -, -, -, heq⟩
  · simp [heq, hdropped]
  · simp [heq, hdropped]
  · simp [heq, storeSpec, hdropped]
  · simp [heq, storeField, Table.contains_insert]

theorem contains_declareField_of_ne {calls : List Call} {compile : Bool} (h : other ≠ name) :
    (validator.declareField name required calls compile).1.compiled.contains other =
      validator.compiled.contains other := by
  have hkept : (validator.declare name required).compiled.contains other =
      validator.compiled.contains other := by
    simp [declare, Table.contains_erase, h]
  rcases validator.declareField_cases name required calls compile with
    ⟨error, made, -, heq⟩ | ⟨spec, -, -, heq⟩ | ⟨spec, error, -, -, -, heq⟩ |
      ⟨spec, field, -, -, -, heq⟩
  · rw [heq, hkept]
  · rw [heq, hkept]
  · rw [heq]
    exact hkept
  · rw [heq]
    simp only [storeField, storeSpec, Table.contains_insert, hkept]
    simp [h]

theorem contains_perform_of_not_declares {operation : Operation}
    (h : ¬ operation.Declares name) :
    (validator.perform operation).1.compiled.contains name = validator.compiled.contains name := by
  rcases operation.declaration_or_none with ⟨declared, required, calls, compile, heq⟩ | hnone
  · subst operation
    exact contains_declareField_of_ne fun heq => h heq.symm
  · rw [(validator.perform_of_not_declares hnone).2]

theorem contains_after_of_not_declares {operations : List Operation}
    (h : ∀ operation ∈ operations, ¬ operation.Declares name) :
    (validator.after operations).compiled.contains name = validator.compiled.contains name := by
  induction operations generalizing validator with
  | nil => rfl
  | cons operation rest ih =>
      rw [after_cons, ih fun later hlater => h later (List.mem_cons_of_mem operation hlater),
        contains_perform_of_not_declares (h operation List.mem_cons_self)]

/-- The last declaration of a name among some operations compiles it. -/
def CompilesLast (validator : Validator) (operations : List Operation) (name : String) : Prop :=
  ∃ before required calls compile later,
    operations = before ++ .declareField name required calls compile :: later ∧
      (∀ operation ∈ later, ¬ operation.Declares name) ∧
      ((validator.after before).declareField name required calls compile).2 = .compiled

theorem after_append (validator : Validator) (first second : List Operation) :
    validator.after (first ++ second) = (validator.after first).after second := by
  induction first generalizing validator with
  | nil => rfl
  | cons operation rest ih => exact ih (validator.perform operation).1

theorem contains_after_last_declaration {before later : List Operation} {calls : List Call}
    {compile : Bool} (hlater : ∀ operation ∈ later, ¬ operation.Declares name) :
    (validator.after
        (before ++ .declareField name required calls compile :: later)).compiled.contains name =
          true ↔
      ((validator.after before).declareField name required calls compile).2 = .compiled := by
  rw [after_append, after_cons, contains_after_of_not_declares hlater]
  exact contains_declareField_self

theorem contains_after_iff {operations : List Operation}
    (h : validator.compiled.contains name = false) :
    (validator.after operations).compiled.contains name = true ↔
      validator.CompilesLast operations name := by
  constructor
  · intro hcompiled
    have hdeclared : ∃ operation ∈ operations, operation.Declares name := by
      apply Classical.byContradiction
      intro hnone
      rw [contains_after_of_not_declares, h] at hcompiled
      · cases hcompiled
      · intro operation hmem hdeclares
        exact hnone ⟨operation, hmem, hdeclares⟩
    obtain ⟨before, required, calls, compile, later, heq, hlater⟩ :=
      exists_last_declaration hdeclared
    subst operations
    exact ⟨before, required, calls, compile, later, rfl, hlater,
      (contains_after_last_declaration hlater).mp hcompiled⟩
  · intro hlast
    obtain ⟨before, required, calls, compile, later, heq, hlater, hcompiled⟩ := hlast
    subst operations
    exact (contains_after_last_declaration hlater).mpr hcompiled

theorem compiled_fields_follow_schema (root : Kind) (operations : List Operation) :
    (∀ name, ((ofRoot root).after operations).schema.isRequired name = true →
      ∃ spec, ((ofRoot root).after operations).schema.field? name = some spec) ∧
    (∀ name field, ((ofRoot root).after operations).compiled.find? name = some field →
      ∃ spec, ((ofRoot root).after operations).schema.field? name = some spec ∧
        CompiledField.ofSpec name spec
          (((ofRoot root).after operations).schema.isRequired name) = .ok field ∧
        field.Renders spec (((ofRoot root).after operations).schema.isRequired name)) ∧
    (∀ name, ((ofRoot root).after operations).compiled.contains name = true ↔
      (ofRoot root).CompilesLast operations name) := by
  have hcoherent := ((Reachable.ofRoot root).after operations).coherent
  refine ⟨hcoherent.required_declared, ?_, ?_⟩
  · intro name field hfield
    obtain ⟨spec, hspec, hcurrent⟩ := hcoherent.compiled_current name field hfield
    exact ⟨spec, hspec, hcurrent, CompiledField.ofSpec_eq_ok_iff.mp hcurrent⟩
  · intro name
    exact contains_after_iff rfl

end Validator

end FieldRules
