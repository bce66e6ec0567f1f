import FieldRules.Proofs.Bulk.Contents
import FieldRules.Proofs.Locality
import Mathlib.Data.List.Induction

namespace FieldRules

/-! The two orders in which a schema lists names. All fields stand in the order of their first
declarations, and the required ones in the order of the declarations that have made them required
since they were last optional. So a field that turns from optional to required moves behind the
other required ones, and where no field does so the two orders agree. -/

namespace Operation

def declared? : Operation → Option String
  | .declareField name _ _ _ => some name
  | _ => none

def declaredAs? (required : Bool) : Operation → Option String
  | .declareField name as _ _ => if as = required then some name else none
  | _ => none

variable {operation : Operation} {name : String}

theorem declared?_of_not_declares (h : ∀ name, ¬ operation.Declares name) :
    operation.declared? = none := by
  cases operation with
  | declareField name => exact absurd rfl (h name)
  | _ => rfl

theorem declaredAs?_of_not_declares (h : ∀ name, ¬ operation.Declares name) (required : Bool) :
    operation.declaredAs? required = none := by
  cases operation with
  | declareField name => exact absurd rfl (h name)
  | _ => rfl

theorem declaredAs?_of_declared? (h : operation.declared? = some name) :
    operation.declaredAs? true = some name ∨ operation.declaredAs? false = some name := by
  cases operation with
  | declareField declared required =>
      cases h
      cases required with
      | true => exact .inl rfl
      | false => exact .inr rfl
  | _ => cases h

theorem toList_declaredAs?_true (operation : Operation) :
    (operation.declaredAs? true).toList =
      operation.declared?.toList.filter (operation.declaredAs? false ≠ some ·) := by
  cases operation with
  | declareField name required =>
      cases required with
      | true => rfl
      | false => simp [declaredAs?, declared?]
  | _ => rfl

end Operation

/-- The names that some operations declare as required and not as optional afterwards, one for each
of these declarations. -/
def lastingRequirements : List Operation → List String
  | [] => []
  | operation :: later =>
      ((operation.declaredAs? true).toList.filter fun name =>
          ∀ other ∈ later, other.declaredAs? false ≠ some name) ++
        lastingRequirements later

/-- No field turns from optional to required. -/
def LeavesOptional (operations : List Operation) : Prop :=
  operations.Pairwise fun earlier later =>
    ∀ name, earlier.declaredAs? false = some name → later.declaredAs? true ≠ some name

theorem filterMap_cons_toList {α β : Type} {f : α → Option β} {item : α} {items : List α} :
    (item :: items).filterMap f = (f item).toList ++ items.filterMap f := by
  cases hitem : f item <;> simp [hitem]

section lastingRequirements

variable {operations : List Operation} {operation : Operation} {name : String}

theorem lastingRequirements_concat :
    lastingRequirements (operations ++ [operation]) =
      (lastingRequirements operations).filter (operation.declaredAs? false ≠ some ·) ++
        (operation.declaredAs? true).toList := by
  induction operations with
  | nil => simp [lastingRequirements]
  | cons first later ih =>
      have hfirst (name : String) :
          (∀ other ∈ later ++ [operation], other.declaredAs? false ≠ some name) ↔
            operation.declaredAs? false ≠ some name ∧
              ∀ other ∈ later, other.declaredAs? false ≠ some name := by
        rw [List.forall_mem_append, List.forall_mem_singleton, and_comm]
      rw [List.cons_append, lastingRequirements, ih, lastingRequirements, List.filter_append,
        List.filter_filter, List.append_assoc]
      simp only [hfirst, Bool.decide_and]

/-- Unless fields turn from optional to required, the lasting requirements are all the declarations
of fields that are never optional. -/
theorem lastingRequirements_of_leavesOptional (h : LeavesOptional operations) :
    lastingRequirements operations =
      (operations.filterMap Operation.declared?).filter fun name =>
        ∀ operation ∈ operations, operation.declaredAs? false ≠ some name := by
  induction operations with
  | nil => rfl
  | cons first later ih =>
      obtain ⟨hfirst, hlater⟩ := List.pairwise_cons.mp h
      have hrest : lastingRequirements later =
          (later.filterMap Operation.declared?).filter fun name =>
            ∀ operation ∈ first :: later, operation.declaredAs? false ≠ some name := by
        rw [ih hlater]
        apply List.filter_congr
        intro name hname
        obtain ⟨operation, hmem, hdeclared⟩ := List.mem_filterMap.mp hname
        rw [decide_eq_decide, List.forall_mem_cons]
        constructor
        · intro hnever
          refine ⟨?_, hnever⟩
          intro hoptional
          rcases Operation.declaredAs?_of_declared? hdeclared with hrequired | hagain
          · exact hfirst operation hmem name hoptional hrequired
          · exact hnever operation hmem hagain
        · exact fun hnever => hnever.2
      rw [lastingRequirements, hrest, Operation.toList_declaredAs?_true, List.filter_filter,
        filterMap_cons_toList, List.filter_append]
      simp only [List.forall_mem_cons, Bool.decide_and, Bool.and_comm]

end lastingRequirements

theorem eraseDups_concat_toList {names : List String} {name? : Option String} :
    (names ++ name?.toList).eraseDups = names.eraseDups ++ name?.toList.filter (· ∉ names) := by
  rw [List.eraseDups_append]
  congr 1
  cases name? with
  | none => rfl
  | some name =>
      have hsingle : [name].eraseDups = [name] := eraseDups_of_nodup (by simp)
      by_cases hmem : name ∈ names <;> simp [List.removeAll, hmem, hsingle]

theorem filter_concat_eq_cons_iff {keep : String → Bool} {name : String} {names : List String}
    (h : name ∉ names) :
    names.filter keep ++ [name] = name :: names.filter keep ↔
      ∀ other ∈ names, keep other = false := by
  cases hkept : names.filter keep with
  | nil => simpa using hkept
  | cons other rest =>
      have hother : other ∈ names ∧ keep other = true := by
        rw [← List.mem_filter, hkept]
        exact List.mem_cons_self
      constructor
      · intro hsame
        have hname : other = name := (List.cons.inj hsame).1
        exact absurd (hname ▸ hother.1) h
      · intro hnone
        rw [hnone other hother.1] at hother
        cases hother.2

namespace Schema

variable {schema : Schema} {name : String}

theorem isRequired_iff_mem : schema.isRequired name = true ↔ name ∈ schema.requiredNames :=
  Table.contains_iff_mem_keys schema.required

theorem isSome_field?_iff_mem : (schema.field? name).isSome = true ↔ name ∈ schema.fieldNames :=
  Table.contains_iff_mem_keys schema.fields

def InOrder (schema : Schema) : Prop :=
  schema.requiredNames = schema.fieldNames.filter schema.isRequired

end Schema

namespace Validator

variable {validator : Validator} {name : String} {calls : List Call}
  {compile : Bool} {operations : List Operation} {operation : Operation}

/-- The required names stand in the order of the fields, and so do the errors of those that bulk
validation finds absent. -/
structure ListsInOrder (validator : Validator) : Prop where
  inOrder : validator.schema.InOrder
  keys_validateEntries : ∀ entries, (validator.validateEntries entries).2 = .ok () →
    (validator.validateEntries entries).1.errors.table.keys =
      validator.errors.table.keys ++
        newNames validator.errors.table.keys
          ((entries.filter fun entry => decide (validator.Fails entry)).map Prod.fst) ++
        (validator.schema.fieldNames.filter fun name =>
          decide (validator.IsAbsent entries name)).filter (· ∉ validator.errors.table.keys)

theorem listsInOrder_of_inOrder (h : validator.schema.InOrder) : validator.ListsInOrder where
  inOrder := h
  keys_validateEntries entries hok := by
    have habsent : (validator.schema.requiredNames.filter fun name =>
          decide (validator.IsAbsent entries name)) =
        validator.schema.fieldNames.filter fun name =>
          decide (validator.IsAbsent entries name) := by
      rw [h, List.filter_filter]
      apply List.filter_congr
      intro name _
      rw [← Bool.decide_coe (validator.schema.isRequired name), ← Bool.decide_and,
        decide_eq_decide, and_iff_left_iff_imp]
      exact fun habsent => habsent.2.1
    rw [validateEntries_eq] at hok ⊢
    rw [keys_recordAll_bulkErrors (bulkResult_eq_ok_iff.mp hok), habsent]

section

variable [Pattern.Engine]

theorem fieldNames_perform :
    (validator.perform operation).1.schema.fieldNames =
      validator.schema.fieldNames ++
        operation.declared?.toList.filter (· ∉ validator.schema.fieldNames) := by
  rcases operation.declaration_or_none with ⟨name, required, calls, compile, rfl⟩ | hnone
  · have hnames := (DeclaresOnly.declareField validator name required calls compile).fieldNames_eq
    rw [perform, hnames]
    by_cases hmem : name ∈ validator.schema.fieldNames <;> simp [Operation.declared?, hmem]
  · rw [(validator.perform_of_not_declares hnone).1, Operation.declared?_of_not_declares hnone]
    simp

theorem requiredNames_perform :
    (validator.perform operation).1.schema.requiredNames =
      validator.schema.requiredNames.filter (operation.declaredAs? false ≠ some ·) ++
        (operation.declaredAs? true).toList.filter (· ∉ validator.schema.requiredNames) := by
  rcases operation.declaration_or_none with ⟨name, required, calls, compile, rfl⟩ | hnone
  · rw [perform, Schema.requiredNames, required_declareField]
    change (validator.schema.declare name required).requiredNames = _
    rw [Schema.requiredNames_declare]
    cases required with
    | true =>
        by_cases hmem : name ∈ validator.schema.requiredNames <;>
          simp [Operation.declaredAs?, hmem]
    | false => simp [Operation.declaredAs?, bne, Bool.beq_eq_decide_eq, eq_comm (a := name)]
  · have hnames := Operation.declaredAs?_of_not_declares hnone
    rw [(validator.perform_of_not_declares hnone).1, hnames, hnames]
    simp

theorem after_concat (validator : Validator) (operations : List Operation)
    (operation : Operation) :
    validator.after (operations ++ [operation]) =
      ((validator.after operations).perform operation).1 := by
  rw [after_append, after_cons, after_nil]

theorem fieldNames_after (root : Kind) (operations : List Operation) :
    ((ofRoot root).after operations).schema.fieldNames =
      (operations.filterMap Operation.declared?).eraseDups := by
  induction operations using List.reverseRecOn with
  | nil => rfl
  | append_singleton operations operation ih =>
      rw [after_concat, fieldNames_perform, ih, List.filterMap_append, filterMap_cons_toList,
        List.filterMap_nil, List.append_nil, eraseDups_concat_toList]
      simp only [List.mem_eraseDups]

theorem requiredNames_after (root : Kind) (operations : List Operation) :
    ((ofRoot root).after operations).schema.requiredNames =
      (lastingRequirements operations).eraseDups := by
  induction operations using List.reverseRecOn with
  | nil => rfl
  | append_singleton operations operation ih =>
      rw [after_concat, requiredNames_perform, ih, lastingRequirements_concat,
        eraseDups_concat_toList, filter_eraseDups]
      congr 1
      apply List.filter_congr
      intro name hname
      rw [Operation.toList_declaredAs?_true] at hname
      simp [of_decide_eq_true (List.mem_filter.mp hname).2]

theorem mem_fieldNames_of_mem_requiredNames (h : Reachable validator)
    (hname : name ∈ validator.schema.requiredNames) : name ∈ validator.schema.fieldNames := by
  obtain ⟨spec, hspec⟩ := h.coherent.required_declared name (Schema.isRequired_iff_mem.mpr hname)
  rw [← Schema.isSome_field?_iff_mem, hspec]
  rfl

theorem requiredNames_perm (h : Reachable validator) :
    validator.schema.requiredNames.Perm
      (validator.schema.fieldNames.filter validator.schema.isRequired) := by
  apply (List.perm_ext_iff_of_nodup validator.schema.required.nodup_keys
    (validator.schema.fields.nodup_keys.filter _)).mpr
  intro name
  constructor
  · intro hname
    rw [List.mem_filter]
    exact ⟨mem_fieldNames_of_mem_requiredNames h hname, Schema.isRequired_iff_mem.mpr hname⟩
  · intro hname
    exact Schema.isRequired_iff_mem.mp (List.mem_filter.mp hname).2

theorem inOrder_after (root : Kind) (h : LeavesOptional operations) :
    ((ofRoot root).after operations).schema.InOrder := by
  have hnames : ((ofRoot root).after operations).schema.requiredNames =
      ((ofRoot root).after operations).schema.fieldNames.filter fun name =>
        ∀ operation ∈ operations, operation.declaredAs? false ≠ some name := by
    rw [requiredNames_after, lastingRequirements_of_leavesOptional h, fieldNames_after,
      filter_eraseDups]
  rw [Schema.InOrder, hnames]
  apply List.filter_congr
  intro name hname
  rw [Bool.eq_iff_iff, Schema.isRequired_iff_mem, hnames, List.mem_filter]
  simp [hname]

theorem requiredNames_declareField_of_optional (h : validator.schema.isRequired name = false) :
    (validator.declareField name true calls compile).1.schema.requiredNames =
      validator.schema.requiredNames ++ [name] := by
  have hfresh : name ∉ validator.schema.requiredNames := by
    rw [← Schema.isRequired_iff_mem, h]
    exact Bool.false_ne_true
  change (validator.perform (.declareField name true calls compile)).1.schema.requiredNames = _
  rw [requiredNames_perform]
  simp [Operation.declaredAs?, hfresh]

/-- A field that turns from optional to required stays in order exactly where no required field
follows it. -/
theorem inOrder_declareField_iff {before later : List String} (h : validator.schema.InOrder)
    (hsplit : validator.schema.fieldNames = before ++ name :: later)
    (hoptional : validator.schema.isRequired name = false) :
    (validator.declareField name true calls compile).1.schema.InOrder ↔
      ∀ other ∈ later, validator.schema.isRequired other = false := by
  have hlocal := DeclaresOnly.declareField validator name true calls compile
  have hself := isRequired_declareField validator name true calls compile
  have hnodup : (before ++ name :: later).Nodup := hsplit ▸ validator.schema.fields.nodup_keys
  obtain ⟨-, hrest, hbefore⟩ := List.nodup_append.mp hnodup
  have hlater : name ∉ later := (List.nodup_cons.mp hrest).1
  have hkept (names : List String) (hname : name ∉ names) :
      names.filter (validator.declareField name true calls compile).1.schema.isRequired =
        names.filter validator.schema.isRequired := by
    apply List.filter_congr
    intro other hother
    exact hlocal.isRequired_eq other fun heq => hname (heq ▸ hother)
  rw [Schema.InOrder, requiredNames_declareField_of_optional hoptional, hlocal.fieldNames_eq, h,
    hsplit, if_pos (by simp), List.filter_append, List.filter_append,
    List.filter_cons_of_pos hself, List.filter_cons_of_neg (by simp [hoptional]),
    hkept before fun hname => hbefore name hname name List.mem_cons_self rfl, hkept later hlater,
    List.append_assoc, List.append_cancel_left_eq]
  exact filter_concat_eq_cons_iff hlater

/-- How a validator lists the fields that some operations have declared. -/
structure Lists (validator : Validator) (operations : List Operation) : Prop where
  fieldNames_eq : validator.schema.fieldNames =
    (operations.filterMap Operation.declared?).eraseDups
  requiredNames_eq : validator.schema.requiredNames = (lastingRequirements operations).eraseDups
  requiredNames_perm : validator.schema.requiredNames.Perm
    (validator.schema.fieldNames.filter validator.schema.isRequired)
  inOrder_declareField_iff : ∀ before name later calls compile, validator.schema.InOrder →
    validator.schema.fieldNames = before ++ name :: later →
    validator.schema.isRequired name = false →
      ((validator.declareField name true calls compile).1.schema.InOrder ↔
        ∀ other ∈ later, validator.schema.isRequired other = false)

theorem lists_after (root : Kind) (operations : List Operation) :
    ((ofRoot root).after operations).Lists operations where
  fieldNames_eq := fieldNames_after root operations
  requiredNames_eq := requiredNames_after root operations
  requiredNames_perm := requiredNames_perm ((Reachable.ofRoot root).after operations)
  inOrder_declareField_iff _ _ _ _ _ h hsplit hoptional :=
    Validator.inOrder_declareField_iff h hsplit hoptional

theorem required_names_stand_as_required (root : Kind) (operations : List Operation) :
    ((ofRoot root).after operations).Lists operations ∧
      (LeavesOptional operations → ((ofRoot root).after operations).ListsInOrder) :=
  ⟨lists_after root operations, fun h => listsInOrder_of_inOrder (inOrder_after root h)⟩

end

def introduction : List Operation :=
  [.declareField "nickname" false [] true, .declareField "name" true [] true,
    .declareField "age" true [] true, .declareField "name" true [.minLength 2] true,
    .declareField "age" false [] false]

theorem required_names_stand_as_required_introduction :
    LeavesOptional introduction ∧ ((ofRoot .object).after introduction).ListsInOrder ∧
      ((ofRoot .object).after introduction).schema.requiredNames = ["name"] := by
  have h : LeavesOptional introduction := by
    simp [LeavesOptional, introduction, Operation.declaredAs?]
  exact ⟨h, (required_names_stand_as_required .object introduction).2 h, by decide⟩

/-- The name turns required when the age is so already. -/
def afterthought : List Operation :=
  [.declareField "name" false [] true, .declareField "age" true [] true,
    .declareField "name" true [] true, .configure ⟨.missing, true, false⟩]

theorem declaration_order_is_lost :
    ((ofRoot .object).after afterthought).schema.fieldNames = ["name", "age"] ∧
      ((ofRoot .object).after afterthought).schema.requiredNames = ["age", "name"] ∧
      ¬ ((ofRoot .object).after afterthought).schema.InOrder ∧
      (((ofRoot .object).after afterthought).validateAll []).1.errors.table.keys =
        ["age", "name"] :=
  ⟨by decide, by decide, by unfold Schema.InOrder; decide, by decide⟩

end Validator

end FieldRules
