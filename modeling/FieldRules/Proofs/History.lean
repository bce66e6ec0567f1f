import FieldRules.Proofs.Bulk.Contents
import FieldRules.Proofs.Locality

namespace FieldRules.Validator

variable {validator : Validator} {operation : Operation} {operations : List Operation}
  {name : String} {value : Value} {entries : List Entry}

/-- The errors that an operation records, in their order. -/
def recorded (validator : Validator) : Operation → List FieldError
  | .validateProperty name value => (validator.valueError? name value).toList
  | .validateAll record => validator.bulkErrors (record.map Entry.ofMember)
  | .validateEntries entries => validator.bulkErrors entries
  | _ => []

def failing (validator : Validator) : Operation → List String
  | .validateProperty name value =>
      match (validator.validateProperty name value).2 with
      | .ok false => [name]
      | _ => []
  | .validateAll record => validator.bulkFailures (record.map Entry.ofMember)
  | .validateEntries entries => validator.bulkFailures entries
  | _ => []

theorem map_field_recorded (operation : Operation) :
    (validator.recorded operation).map FieldError.field = validator.failing operation := by
  cases operation with
  | validateProperty name value =>
      cases hcompiled : validator.compiled.contains name with
      | false =>
          simp only [recorded, failing, valueError?_of_not_compiled hcompiled,
            validateProperty_of_not_compiled hcompiled]
          rfl
      | true =>
          simp only [recorded, failing, validateProperty_of_compiled hcompiled]
          cases herror : validator.valueError? name value with
          | none => rfl
          | some error => exact congrArg (fun field => [field]) (field_of_valueError? herror)
  | validateAll record => exact map_field_bulkErrors (record.map Entry.ofMember)
  | validateEntries entries => exact map_field_bulkErrors entries
  | _ => rfl

theorem errors_validateProperty_of_passes (h : (validator.validateProperty name value).2 ≠ .ok false) :
    (validator.validateProperty name value).1.errors = validator.errors := by
  cases hcompiled : validator.compiled.contains name with
  | false => rw [validateProperty_of_not_compiled hcompiled]
  | true =>
      rw [validateProperty_of_compiled hcompiled] at h ⊢
      cases herror : validator.valueError? name value with
      | none => rfl
      | some error =>
          rw [herror] at h
          exact absurd rfl h

theorem eq_of_mem_failing_validateProperty {other : String}
    (h : other ∈ validator.failing (.validateProperty name value)) : other = name := by
  rw [failing] at h
  split at h
  · exact List.mem_singleton.mp h
  · cases h

theorem mem_or_isAbsent_of_mem_bulkFailures (h : name ∈ validator.bulkFailures entries) :
    name ∈ entries.map Prod.fst ∨ validator.IsAbsent entries name := by
  rcases List.mem_append.mp h with hentry | habsent
  · left
    obtain ⟨entry, hmem, rfl⟩ := List.mem_map.mp hentry
    have hchecked : entry ∈ validator.checked entries := (List.mem_filter.mp hmem).1
    exact List.mem_map_of_mem ((List.takeWhile_sublist _).subset hchecked)
  · right
    split at habsent
    · simpa using (List.mem_filter.mp habsent).2
    · cases habsent

section

variable [Pattern.Engine]

def recordedAll (validator : Validator) : List Operation → List FieldError
  | [] => []
  | operation :: operations =>
      validator.recorded operation ++ (validator.perform operation).1.recordedAll operations

def failingAll (validator : Validator) : List Operation → List String
  | [] => []
  | operation :: operations =>
      validator.failing operation ++ (validator.perform operation).1.failingAll operations

theorem errors_perform (h : operation ≠ .clearErrors) :
    (validator.perform operation).1.errors =
      validator.errors.recordAll (validator.recorded operation) := by
  cases operation with
  | declareField name required calls compile =>
      exact (DeclaresOnly.declareField validator name required calls compile).errors_eq
  | configure config => rfl
  | validateProperty name value => exact errors_validateProperty validator name value
  | validateAll record =>
      exact congrArg (fun outcome => outcome.1.errors)
        (validator.validateEntries_eq (record.map Entry.ofMember))
  | validateEntries entries =>
      exact congrArg (fun outcome => outcome.1.errors) (validator.validateEntries_eq entries)
  | validateBatch records => rfl
  | clearErrors => exact absurd rfl h

theorem errors_after (h : Operation.clearErrors ∉ operations) :
    (validator.after operations).errors =
      validator.errors.recordAll (validator.recordedAll operations) := by
  induction operations generalizing validator with
  | nil => rfl
  | cons operation rest ih =>
      rw [List.mem_cons, not_or] at h
      obtain ⟨hfirst, hrest⟩ := h
      rw [after_cons, ih hrest, errors_perform (Ne.symm hfirst), recordedAll,
        ErrorMap.recordAll_append]

theorem map_field_recordedAll (operations : List Operation) :
    (validator.recordedAll operations).map FieldError.field =
      validator.failingAll operations := by
  induction operations generalizing validator with
  | nil => rfl
  | cons operation rest ih => rw [recordedAll, failingAll, List.map_append, map_field_recorded, ih]

theorem Reachable.keyed (h : Reachable validator) : validator.errors.Keyed := by
  induction h with
  | ofRoot root => exact ErrorMap.keyed_empty
  | @perform validator _ operation ih =>
      by_cases hclears : operation = .clearErrors
      · subst operation
        exact ErrorMap.keyed_empty
      · rw [errors_perform hclears]
        exact ih.recordAll _

theorem keys_after (h : Operation.clearErrors ∉ operations) :
    (validator.after operations).errors.table.keys =
      validator.errors.table.keys ++
        newNames validator.errors.table.keys (validator.failingAll operations) := by
  rw [errors_after h, ErrorMap.keys_recordAll, map_field_recordedAll]

theorem keys_after_of_empty (h : Operation.clearErrors ∉ operations)
    (hempty : validator.errors = .empty) :
    (validator.after operations).errors.table.keys =
      (validator.failingAll operations).eraseDups := by
  rw [errors_after h, hempty, ErrorMap.keys_recordAll_empty, map_field_recordedAll]

theorem find?_perform_of_not_failing (h : operation ≠ .clearErrors)
    (hname : name ∉ validator.failing operation) :
    (validator.perform operation).1.errors.find? name = validator.errors.find? name := by
  have hnone : lastFor? name (validator.recorded operation) = none := by
    rw [lastFor?_eq_none_iff]
    intro error herror hfield
    rw [← map_field_recorded] at hname
    exact hname (hfield ▸ List.mem_map_of_mem herror)
  rw [errors_perform h, ErrorMap.find?_recordAll, hnone, Option.none_or]

theorem find?_after_of_not_failing (h : Operation.clearErrors ∉ operations)
    (hname : name ∉ validator.failingAll operations) :
    (validator.after operations).errors.find? name = validator.errors.find? name := by
  induction operations generalizing validator with
  | nil => rfl
  | cons operation rest ih =>
      rw [List.mem_cons, not_or] at h
      rw [failingAll, List.mem_append, not_or] at hname
      rw [after_cons, ih h.2 hname.2, find?_perform_of_not_failing (Ne.symm h.1) hname.1]

/-- What an operation leaves of the errors: all of them where nothing is validated or a value
passes, and otherwise those of the names that are not validated. -/
structure KeepsErrors (validator : Validator) : Prop where
  declareField : ∀ name required calls compile,
    (validator.declareField name required calls compile).1.errors = validator.errors
  configure : ∀ config, (validator.withConfig config).errors = validator.errors
  validateBatch : ∀ records,
    (validator.perform (.validateBatch records)).1.errors = validator.errors
  passing : ∀ name value, (validator.validateProperty name value).2 ≠ .ok false →
    (validator.validateProperty name value).1.errors = validator.errors
  property : ∀ name value other, other ≠ name →
    (validator.validateProperty name value).1.errors.find? other = validator.errors.find? other
  bulk : ∀ entries name, name ∉ entries.map Prod.fst → ¬ validator.IsAbsent entries name →
    (validator.validateEntries entries).1.errors.find? name = validator.errors.find? name
  record : ∀ record name, name ∉ record.map Prod.fst →
    ¬ validator.IsAbsent (record.map Entry.ofMember) name →
      (validator.validateAll record).1.errors.find? name = validator.errors.find? name

theorem find?_validateEntries_of_not_mem (hmem : name ∉ entries.map Prod.fst)
    (habsent : ¬ validator.IsAbsent entries name) :
    (validator.validateEntries entries).1.errors.find? name = validator.errors.find? name := by
  have hkeeps : Operation.validateEntries entries ≠ .clearErrors := nofun
  apply find?_perform_of_not_failing hkeeps
  intro hfails
  exact (mem_or_isAbsent_of_mem_bulkFailures hfails).elim hmem habsent

theorem keepsErrors (validator : Validator) : validator.KeepsErrors where
  declareField name required calls compile :=
    (DeclaresOnly.declareField validator name required calls compile).errors_eq
  configure _ := rfl
  validateBatch _ := rfl
  passing _ _ h := errors_validateProperty_of_passes h
  property name value other hother := by
    have hkeeps : Operation.validateProperty name value ≠ .clearErrors := nofun
    apply find?_perform_of_not_failing hkeeps
    intro hfails
    exact hother (eq_of_mem_failing_validateProperty hfails)
  bulk _ _ hmem habsent := find?_validateEntries_of_not_mem hmem habsent
  record record name hmem habsent := by
    apply find?_validateEntries_of_not_mem
    · rw [List.map_map]
      exact hmem
    · exact habsent

/-- How the errors stand after some operations: none is lost or moves, a field holds at most one,
and where there were none before they stand in the order in which their fields first failed. -/
structure HoldsErrors (validator : Validator) (operations : List Operation) : Prop where
  keepsErrors : validator.KeepsErrors
  keys_kept : validator.errors.table.keys <+: (validator.after operations).errors.table.keys
  find?_eq : ∀ name, name ∉ validator.failingAll operations →
    (validator.after operations).errors.find? name = validator.errors.find? name
  map_field_toList : (validator.after operations).errors.toList.map FieldError.field =
    (validator.after operations).errors.table.keys
  nodup_fields : ((validator.after operations).errors.toList.map FieldError.field).Nodup
  keys_ofRoot : ∀ root, ((ofRoot root).after operations).errors.table.keys =
    ((ofRoot root).failingAll operations).eraseDups
  keys_clearErrors : (validator.clearErrors.after operations).errors.table.keys =
    (validator.clearErrors.failingAll operations).eraseDups

theorem errors_are_kept (hreachable : Reachable validator)
    (h : Operation.clearErrors ∉ operations) : validator.HoldsErrors operations where
  keepsErrors := validator.keepsErrors
  keys_kept := by
    rw [keys_after h]
    exact List.prefix_append _ _
  find?_eq name hname := find?_after_of_not_failing h hname
  map_field_toList := (hreachable.after operations).keyed.map_field_toList
  nodup_fields := by
    rw [(hreachable.after operations).keyed.map_field_toList]
    exact (validator.after operations).errors.table.nodup_keys
  keys_ofRoot root := keys_after_of_empty h rfl
  keys_clearErrors := keys_after_of_empty h rfl

end

def renewal : List Operation :=
  [.declareField "name" false [.pattern "("] true, .configure ⟨.present, true, true⟩,
    .validateAll [("age", .null)], .validateBatch [], .validateProperty "name" .null]

theorem errors_are_kept_renewal :
    Reachable roster ∧ Operation.clearErrors ∉ renewal ∧
      roster.errors.table.keys <+: (roster.after renewal).errors.table.keys ∧
      (roster.after renewal).errors.table.keys = ["name", "age"] := by
  have hreachable : Reachable roster := (Reachable.ofRoot .object).after _
  have hkeeps : Operation.clearErrors ∉ renewal := by simp [renewal]
  exact ⟨hreachable, hkeeps, (errors_are_kept hreachable hkeeps).keys_kept, by decide⟩

end FieldRules.Validator
