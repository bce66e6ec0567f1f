import FieldRules.Proofs.FirstFailure

namespace FieldRules.Validator

/-! Bulk validation adds to the accumulated errors what it would leave by itself, whatever they are.
So a batch gives each record the errors that validating it alone leaves, validating the same entries
again adds nothing, and present values bring what each of them would bring in its turn, up to the
first one whose field is not compiled. -/

variable {validator : Validator} {record : List (String × Value)}
  {records : List (List (String × Value))} {entries : List Entry} {name : String} {value : Value}

theorem validateEntries_eq_merge (validator : Validator) (entries : List Entry) :
    validator.validateEntries entries =
      ({ validator with
          errors :=
            validator.errors.merge (validator.clearErrors.validateEntries entries).1.errors },
        (validator.clearErrors.validateEntries entries).2) := by
  have halone : (validator.clearErrors.validateEntries entries).1.errors =
      ErrorMap.empty.recordAll (validator.bulkErrors entries) := by
    rw [validateEntries_eq]
    rfl
  have hresult : (validator.clearErrors.validateEntries entries).2 =
      validator.bulkResult entries := by
    rw [validateEntries_eq]
    rfl
  rw [halone, hresult, ErrorMap.merge_recordAll_empty, validateEntries_eq]

theorem evaluateRecord_eq (record : List (String × Value)) :
    validator.evaluateRecord record =
      (validator.validateAll record).2.map fun _ =>
        (validator.clearErrors.validateAll record).1.errors := by
  rw [evaluateRecord, validateAll, validateAll, validateEntries_eq, validateEntries_eq,
    evaluateEntries_eq]
  cases hresult : validator.bulkResult (record.map Entry.ofMember) <;> rfl

theorem evaluateRecord_eq_ok_iff {map : ErrorMap} :
    validator.evaluateRecord record = .ok map ↔
      (validator.validateAll record).2 = .ok () ∧
        (validator.clearErrors.validateAll record).1.errors = map := by
  rw [evaluateRecord_eq, except_map_eq_ok_iff]
  constructor
  · intro h
    obtain ⟨_, hresult, hmap⟩ := h
    exact ⟨hresult, hmap⟩
  · intro h
    exact ⟨(), h⟩

theorem evaluateRecord_eq_error_iff {error : UsageError} :
    validator.evaluateRecord record = .error error ↔
      (validator.validateAll record).2 = .error error := by
  rw [evaluateRecord_eq]
  cases (validator.validateAll record).2 with
  | ok result =>
      constructor
      · intro h
        cases h
      · intro h
        cases h
  | error other =>
      constructor
      · intro h
        cases h
        rfl
      · intro h
        cases h
        rfl

theorem exists_name_of_validateAll_error {error : UsageError}
    (h : (validator.validateAll record).2 = .error error) :
    ∃ name, error = .notCompiled name := by
  rw [validateAll, validateEntries_eq] at h
  obtain ⟨entry, -, herror⟩ := bulkResult_eq_error_iff.mp h
  exact ⟨entry.1, herror⟩

theorem evaluateRecord_with_errors (errors : ErrorMap) (record : List (String × Value)) :
    { validator with errors := errors }.evaluateRecord record =
      validator.evaluateRecord record := by
  rw [evaluateRecord, evaluateRecord, evaluateEntries_eq, evaluateEntries_eq]
  rfl

theorem validateBatch_with_errors (errors : ErrorMap)
    (records : List (List (String × Value))) :
    { validator with errors := errors }.validateBatch records =
      validator.validateBatch records := by
  have hrecord : { validator with errors := errors }.evaluateRecord =
      validator.evaluateRecord := by
    funext record
    exact evaluateRecord_with_errors errors record
  rw [validateBatch, hrecord, validateBatch]

theorem validateAll_of_evaluateRecord {map : ErrorMap}
    (h : validator.evaluateRecord record = .ok map) :
    validator.validateAll record =
      ({ validator with errors := validator.errors.merge map }, .ok ()) := by
  obtain ⟨hresult, hmap⟩ := evaluateRecord_eq_ok_iff.mp h
  have halone : (validator.clearErrors.validateEntries (record.map Entry.ofMember)).2 = .ok () := by
    have hmerge := congrArg Prod.snd
      (validator.validateEntries_eq_merge (record.map Entry.ofMember))
    exact hmerge.symm.trans hresult
  rw [validateAll, validateEntries_eq_merge, halone]
  rw [validateAll] at hmap
  rw [hmap]

theorem performAll_validateAll [Pattern.Engine] {maps : List ErrorMap}
    (h : List.Forall₂ (fun record map => validator.evaluateRecord record = .ok map) records maps)
    (errors : ErrorMap) :
    { validator with errors := errors }.performAll (records.map .validateAll) =
      ({ validator with errors := maps.foldl ErrorMap.merge errors },
        records.map fun _ => .bulk (.ok ())) := by
  induction h generalizing errors with
  | nil => rfl
  | cons hfirst hrest ih =>
      have hstep := validateAll_of_evaluateRecord
        ((evaluateRecord_with_errors errors _).trans hfirst)
      simp only [List.map_cons, performAll, perform, hstep, List.foldl_cons]
      rw [ih]

theorem validateBatch_of_all_ok {outcome : Except UsageError (List ErrorMap)}
    (h : Gathers (records.map validator.evaluateRecord) outcome)
    (hall : ∀ record ∈ records, (validator.validateAll record).2 = .ok ()) :
    outcome = .ok (records.map fun record =>
      (validator.clearErrors.validateAll record).1.errors) := by
  apply h.eq_ok_of_forall
  intro record hmem
  exact evaluateRecord_eq_ok_iff.mpr ⟨hall record hmem, rfl⟩

theorem validateBatch_of_failed {outcome : Except UsageError (List ErrorMap)}
    (h : Gathers (records.map validator.evaluateRecord) outcome)
    (hfailed : ∃ record ∈ records, (validator.validateAll record).2 ≠ .ok ()) :
    ∃ record ∈ records, ∃ name, (validator.validateAll record).2 = .error (.notCompiled name) ∧
      outcome = .error (.notCompiled name) := by
  have herrors : ∃ record ∈ records, ∃ error, validator.evaluateRecord record = .error error := by
    obtain ⟨record, hmem, hresult⟩ := hfailed
    cases herror : (validator.validateAll record).2 with
    | ok result => exact absurd herror hresult
    | error error => exact ⟨record, hmem, error, evaluateRecord_eq_error_iff.mpr herror⟩
  obtain ⟨record, hmem, error, herror, houtcome⟩ := h.exists_error_of_not_ok herrors
  have hresult := evaluateRecord_eq_error_iff.mp herror
  obtain ⟨name, hname⟩ := exists_name_of_validateAll_error hresult
  subst error
  exact ⟨record, hmem, name, hresult, houtcome⟩

theorem bulk_validation_merges [Pattern.Engine] (validator : Validator) :
    (∀ entries, validator.validateEntries entries =
      ({ validator with
          errors :=
            validator.errors.merge (validator.clearErrors.validateEntries entries).1.errors },
        (validator.clearErrors.validateEntries entries).2)) ∧
    (∀ records, Gathers (List.map validator.evaluateRecord records)
      (validator.validateBatch records)) ∧
    (∀ records outcome, Gathers (List.map validator.evaluateRecord records) outcome →
      ((∀ record ∈ records, (validator.validateAll record).2 = .ok ()) →
        outcome = .ok (records.map fun record =>
          (validator.clearErrors.validateAll record).1.errors)) ∧
      ((∃ record ∈ records, (validator.validateAll record).2 ≠ .ok ()) →
        ∃ record ∈ records, ∃ name,
          (validator.validateAll record).2 = .error (.notCompiled name) ∧
            outcome = .error (.notCompiled name))) ∧
    (∀ records, (validator.perform (.validateBatch records)).1 = validator ∧
      ∀ errors, { validator with errors := errors }.validateBatch records =
        validator.validateBatch records) ∧
    (∀ records maps, validator.validateBatch records = .ok maps →
      validator.performAll (records.map .validateAll) =
        ({ validator with errors := maps.foldl ErrorMap.merge validator.errors },
          records.map fun _ => .bulk (.ok ()))) := by
  refine ⟨validator.validateEntries_eq_merge, ?_, ?_, ?_, ?_⟩
  · intro records
    exact gathers_mapM validator.evaluateRecord records
  · intro records outcome hgathers
    exact ⟨validateBatch_of_all_ok hgathers, validateBatch_of_failed hgathers⟩
  · intro records
    exact ⟨rfl, fun errors => validateBatch_with_errors errors records⟩
  · intro records maps hbatch
    exact performAll_validateAll (mapM_eq_ok_iff_forall₂.mp hbatch) validator.errors

theorem validateEntries_with_errors (errors : ErrorMap) (entries : List Entry) :
    { validator with errors := errors }.validateEntries entries =
      ({ validator with errors := errors.recordAll (validator.bulkErrors entries) },
        validator.bulkResult entries) := by
  rw [validateEntries_eq]
  rfl

theorem bulk_validation_is_idempotent (validator : Validator) :
    (∀ entries, (validator.validateEntries entries).1.validateEntries entries =
      validator.validateEntries entries) ∧
    (∀ record, (validator.validateAll record).1.validateAll record =
      validator.validateAll record) := by
  have hentries : ∀ entries, (validator.validateEntries entries).1.validateEntries entries =
      validator.validateEntries entries := by
    intro entries
    have hfirst : validator.validateEntries entries =
        ({ validator with errors := validator.errors.recordAll (validator.bulkErrors entries) },
          validator.bulkResult entries) := validateEntries_eq entries
    rw [hfirst, validateEntries_with_errors, ErrorMap.recordAll_recordAll_self]
  exact ⟨hentries, fun record => hentries (record.map Entry.ofMember)⟩

/-- Validates values one after the other until a field is not compiled. -/
def validateInTurn (validator : Validator) : List Entry → Validator × Except UsageError Unit
  | [] => (validator, .ok ())
  | (_, none) :: entries => validator.validateInTurn entries
  | (name, some value) :: entries =>
      match validator.validateProperty name value with
      | (validator, .ok _) => validator.validateInTurn entries
      | (validator, .error error) => (validator, .error error)

theorem validateInTurn_of_isStray (h : validator.IsStray (name, some value)) :
    validator.validateInTurn ((name, some value) :: entries) =
      (validator, .error (.notCompiled name)) := by
  rw [validateInTurn, validateProperty_of_not_compiled h.2]

theorem validateInTurn_of_not_isStray (hstray : ¬ validator.IsStray (name, some value))
    (hdefined : validator.config.Defines (some value)) :
    validator.validateInTurn ((name, some value) :: entries) =
      { validator with
        errors := validator.errors.recordAll
          (validator.rejection? (name, some value)).toList }.validateInTurn entries := by
  have hcompiled : validator.compiled.contains name = true := by
    rw [← Bool.not_eq_false]
    exact fun hmissing => hstray ⟨hdefined, hmissing⟩
  rw [validateInTurn, validateProperty_of_compiled hcompiled, rejection?_eq_valueError? hdefined]

theorem recordEntries_cons_of_not_isStray {entry : Entry} (h : ¬ validator.IsStray entry)
    (errors : ErrorMap) :
    validator.recordEntries errors (entry :: entries) =
      validator.recordEntries (errors.recordAll (validator.rejection? entry).toList) entries := by
  rw [recordEntries, evaluateEntry_of_not_isStray h]
  cases validator.rejection? entry with
  | none => rfl
  | some error => rfl

theorem validateInTurn_eq_recordEntries
    (h : ∀ entry ∈ entries, validator.config.Defines entry.2) (errors : ErrorMap) :
    { validator with errors := errors }.validateInTurn entries =
      ({ validator with errors := (validator.recordEntries errors entries).1 },
        (validator.recordEntries errors entries).2) := by
  induction entries generalizing errors with
  | nil => rfl
  | cons entry rest ih =>
      obtain ⟨name, value?⟩ := entry
      have hdefined := h (name, value?) List.mem_cons_self
      have hrest : ∀ entry ∈ rest, validator.config.Defines entry.2 := by
        intro entry hentry
        exact h entry (List.mem_cons_of_mem _ hentry)
      obtain ⟨value, rfl⟩ := exists_value_of_defines hdefined
      by_cases hstray : validator.IsStray (name, some value)
      · have hsame : { validator with errors := errors }.IsStray (name, some value) := hstray
        rw [validateInTurn_of_isStray hsame, recordEntries, evaluateEntry_of_isStray hstray]
      · have hsame : ¬ { validator with errors := errors }.IsStray (name, some value) := hstray
        rw [validateInTurn_of_not_isStray hsame hdefined,
          recordEntries_cons_of_not_isStray hstray]
        exact ih hrest _

theorem evaluateEntries_without_absences (h : validator.config.reportAbsentRequired = false)
    (errors : ErrorMap) :
    validator.evaluateEntries errors entries = validator.recordEntries errors entries := by
  rw [evaluateEntries]
  split
  next heq => rw [heq]
  next heq => rw [heq, h, if_neg Bool.false_ne_true]

theorem bulk_validation_is_in_turn (hreport : validator.config.reportAbsentRequired = false) :
    (∀ entries, (∀ entry ∈ entries, validator.config.Defines entry.2) →
      validator.validateEntries entries = validator.validateInTurn entries) ∧
    (∀ record, (∀ member ∈ record, validator.config.Defines (some member.2)) →
      validator.validateAll record = validator.validateInTurn (record.map Entry.ofMember)) := by
  have hentries : ∀ entries, (∀ entry ∈ entries, validator.config.Defines entry.2) →
      validator.validateEntries entries = validator.validateInTurn entries := by
    intro entries hdefined
    have hturns := validateInTurn_eq_recordEntries hdefined validator.errors
    rw [validateEntries, evaluateEntries_without_absences hreport]
    exact hturns.symm
  refine ⟨hentries, ?_⟩
  intro record hdefined
  apply hentries
  intro entry hentry
  obtain ⟨member, hmember, rfl⟩ := List.mem_map.mp hentry
  exact hdefined member hmember

def adults : Validator :=
  ((ofRoot .object).performAll
    [.declareField "age" true [.asKind .integer, .min (.num (.ofUInt64 18))] true,
      .validateProperty "age" (.num (.ofUInt64 17))]).1

def travels : List Entry :=
  [("age", some (.num (.ofUInt64 3))), ("age", some (.num (.ofUInt64 20))),
    ("city", some (.str "Rome")), ("age", some (.num (.ofUInt64 4)))]

theorem bulk_validation_is_in_turn_travels :
    adults.config.reportAbsentRequired = false ∧
      (∀ entry ∈ travels, adults.config.Defines entry.2) ∧
      adults.validateEntries travels = adults.validateInTurn travels ∧
      (adults.validateEntries travels).2 = .error (.notCompiled "city") := by
  have hdefined : ∀ entry ∈ travels, adults.config.Defines entry.2 := by decide
  exact ⟨rfl, hdefined, (bulk_validation_is_in_turn rfl).1 travels hdefined, rfl⟩

end FieldRules.Validator
