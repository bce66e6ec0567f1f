import FieldRules.Proofs.Recording
import FieldRules.Validator
import Mathlib.Data.List.TakeWhile

namespace FieldRules

/-- Whether a value counts as present. -/
def Config.Defines (config : Config) : Option Value → Prop
  | none => False
  | some .null => config.nullPolicy = .present
  | some _ => True

instance (config : Config) : DecidablePred config.Defines
  | none => .isFalse id
  | some .null => inferInstanceAs (Decidable (config.nullPolicy = .present))
  | some (.bool _) | some (.num _) | some (.str _) | some (.arr _) | some (.obj _) =>
      .isTrue trivial

namespace Validator

variable {validator : Validator}

theorem definedValue?_of_defines {value : Value} (h : validator.config.Defines (some value)) :
    validator.definedValue? (some value) = some value := by
  cases value with
  | null =>
      have hpolicy : validator.config.nullPolicy = .present := h
      simp [definedValue?, hpolicy]
  | _ => rfl

theorem definedValue?_of_not_defines {value? : Option Value}
    (h : ¬ validator.config.Defines value?) : validator.definedValue? value? = none := by
  cases value? with
  | none => rfl
  | some value =>
      cases value with
      | null =>
          cases hpolicy : validator.config.nullPolicy with
          | missing => simp [definedValue?, hpolicy]
          | present => exact absurd hpolicy h
      | _ => exact absurd trivial h

theorem exists_value_of_defines {value? : Option Value} (h : validator.config.Defines value?) :
    ∃ value, value? = some value := by
  cases value? with
  | none => exact False.elim h
  | some value => exact ⟨value, rfl⟩

/-- An entry with a value for a field that is not compiled. -/
def IsStray (validator : Validator) (entry : Entry) : Prop :=
  validator.config.Defines entry.2 ∧ validator.compiled.contains entry.1 = false

instance : DecidablePred validator.IsStray := fun _ => instDecidableAnd

/-- The error of an entry that is not stray, if any. -/
def rejection? (validator : Validator) (entry : Entry) : Option FieldError :=
  match validator.definedValue? entry.2 with
  | none => some (requiredError entry.1)
  | some value =>
      (validator.compiled.find? entry.1).bind fun field =>
        field.evaluate entry.1 validator.config.enforceTypes value

theorem compiledField_of_contains_eq_false {name : String}
    (h : validator.compiled.contains name = false) :
    validator.compiledField name = .error (.notCompiled name) := by
  have hfind : validator.compiled.find? name = none := by
    simpa [Table.contains] using h
  simp [compiledField, hfind]

theorem evaluateEntry_of_isStray {entry : Entry} (h : validator.IsStray entry) :
    validator.evaluateEntry entry = .error (.notCompiled entry.1) := by
  obtain ⟨name, value?⟩ := entry
  obtain ⟨hdefines, hcompiled⟩ := h
  obtain ⟨value, rfl⟩ := exists_value_of_defines hdefines
  rw [evaluateEntry, definedValue?_of_defines hdefines]
  simp only [compiledField_of_contains_eq_false hcompiled]
  rfl

theorem evaluateEntry_of_not_isStray {entry : Entry} (h : ¬ validator.IsStray entry) :
    validator.evaluateEntry entry = .ok (validator.rejection? entry) := by
  obtain ⟨name, value?⟩ := entry
  by_cases hdefines : validator.config.Defines value?
  · obtain ⟨value, rfl⟩ := exists_value_of_defines hdefines
    rw [evaluateEntry, rejection?, definedValue?_of_defines hdefines]
    cases hfind : validator.compiled.find? name with
    | none =>
        have hcompiled : validator.compiled.contains name = false := by
          simp [Table.contains, hfind]
        exact absurd ⟨hdefines, hcompiled⟩ h
    | some field => simp [compiledField, hfind, bind, Except.bind, pure, Except.pure]
  · rw [evaluateEntry, rejection?, definedValue?_of_not_defines hdefines]

/-- The entries that are checked: those before the first stray one. -/
def checked (validator : Validator) (entries : List Entry) : List Entry :=
  entries.takeWhile fun entry => decide (¬ validator.IsStray entry)

def firstStray? (validator : Validator) (entries : List Entry) : Option Entry :=
  entries.find? fun entry => decide (validator.IsStray entry)

def bulkResult (validator : Validator) (entries : List Entry) : Except UsageError Unit :=
  match validator.firstStray? entries with
  | none => .ok ()
  | some entry => .error (.notCompiled entry.1)

def absenceErrors (validator : Validator) (entries : List Entry) : List FieldError :=
  if validator.config.reportAbsentRequired then
    (validator.absentNames entries).map requiredError
  else []

def bulkErrors (validator : Validator) (entries : List Entry) : List FieldError :=
  match validator.firstStray? entries with
  | none => entries.filterMap validator.rejection? ++ validator.absenceErrors entries
  | some _ => (validator.checked entries).filterMap validator.rejection?

section firstStray?

variable {entries before after : List Entry} {entry : Entry}

theorem firstStray?_eq_none_iff :
    validator.firstStray? entries = none ↔ ∀ entry ∈ entries, ¬ validator.IsStray entry := by
  simp [firstStray?]

theorem firstStray?_eq_some_iff :
    validator.firstStray? entries = some entry ↔
      ∃ before after, entries = before ++ entry :: after ∧
        (∀ earlier ∈ before, ¬ validator.IsStray earlier) ∧ validator.IsStray entry := by
  rw [firstStray?, List.find?_eq_some_iff_append]
  constructor
  · intro h
    obtain ⟨hstray, before, after, heq, hbefore⟩ := h
    exact ⟨before, after, heq, by simpa using hbefore, by simpa using hstray⟩
  · intro h
    obtain ⟨before, after, heq, hbefore, hstray⟩ := h
    exact ⟨by simpa using hstray, before, after, heq, by simpa using hbefore⟩

theorem checked_of_no_stray (h : ∀ entry ∈ entries, ¬ validator.IsStray entry) :
    validator.checked entries = entries := by
  rw [checked, List.takeWhile_eq_self_iff]
  simpa using h

theorem checked_append_stray (hbefore : ∀ earlier ∈ before, ¬ validator.IsStray earlier)
    (hentry : validator.IsStray entry) :
    validator.checked (before ++ entry :: after) = before := by
  rw [checked, List.takeWhile_append_of_pos]
  · simp [hentry]
  · simpa using hbefore

theorem checked_cons_of_isStray (h : validator.IsStray entry) :
    validator.checked (entry :: entries) = [] := by
  simp [checked, h]

theorem checked_cons_of_not_isStray (h : ¬ validator.IsStray entry) :
    validator.checked (entry :: entries) = entry :: validator.checked entries := by
  simp [checked, h]

theorem bulkResult_cons_of_isStray (h : validator.IsStray entry) :
    validator.bulkResult (entry :: entries) = .error (.notCompiled entry.1) := by
  simp [bulkResult, firstStray?, h]

theorem bulkResult_cons_of_not_isStray (h : ¬ validator.IsStray entry) :
    validator.bulkResult (entry :: entries) = validator.bulkResult entries := by
  simp [bulkResult, firstStray?, h]

end firstStray?

theorem recordEntries_eq (errors : ErrorMap) (entries : List Entry) :
    validator.recordEntries errors entries =
      (errors.recordAll ((validator.checked entries).filterMap validator.rejection?),
        validator.bulkResult entries) := by
  induction entries generalizing errors with
  | nil => rfl
  | cons entry rest ih =>
      by_cases hstray : validator.IsStray entry
      · rw [recordEntries, evaluateEntry_of_isStray hstray, checked_cons_of_isStray hstray,
          bulkResult_cons_of_isStray hstray]
        rfl
      · rw [recordEntries, evaluateEntry_of_not_isStray hstray, checked_cons_of_not_isStray hstray,
          bulkResult_cons_of_not_isStray hstray]
        cases hrejection : validator.rejection? entry with
        | none => simp [ih, hrejection]
        | some error => simp [ih, hrejection]

theorem evaluateEntries_eq (errors : ErrorMap) (entries : List Entry) :
    validator.evaluateEntries errors entries =
      (errors.recordAll (validator.bulkErrors entries), validator.bulkResult entries) := by
  rw [evaluateEntries, recordEntries_eq]
  cases hstray : validator.firstStray? entries with
  | some entry => simp [bulkErrors, bulkResult, hstray]
  | none =>
      have hchecked := checked_of_no_stray (firstStray?_eq_none_iff.mp hstray)
      simp only [bulkErrors, bulkResult, hstray, hchecked, absenceErrors]
      cases validator.config.reportAbsentRequired with
      | true => simp [ErrorMap.recordAll_append]
      | false => simp

theorem validateEntries_eq (entries : List Entry) :
    validator.validateEntries entries =
      ({ validator with errors := validator.errors.recordAll (validator.bulkErrors entries) },
        validator.bulkResult entries) := by
  rw [validateEntries, evaluateEntries_eq]

theorem bulkResult_eq_ok_iff {entries : List Entry} :
    validator.bulkResult entries = .ok () ↔ ∀ entry ∈ entries, ¬ validator.IsStray entry := by
  rw [← firstStray?_eq_none_iff, bulkResult]
  cases validator.firstStray? entries <;> simp

theorem bulkResult_eq_error_iff {entries : List Entry} {error : UsageError} :
    validator.bulkResult entries = .error error ↔
      ∃ entry, validator.firstStray? entries = some entry ∧ error = .notCompiled entry.1 := by
  rw [bulkResult]
  cases validator.firstStray? entries <;> simp [eq_comm]

theorem bulkErrors_of_no_stray {entries : List Entry}
    (h : ∀ entry ∈ entries, ¬ validator.IsStray entry) :
    validator.bulkErrors entries =
      entries.filterMap validator.rejection? ++ validator.absenceErrors entries := by
  rw [bulkErrors, firstStray?_eq_none_iff.mpr h]

theorem isStray_withAbsentRequiredReported (report : Bool) :
    (validator.withAbsentRequiredReported report).IsStray = validator.IsStray := by
  funext entry
  obtain ⟨name, value?⟩ := entry
  cases value? with
  | none => rfl
  | some value => cases value <;> rfl

theorem rejection?_withAbsentRequiredReported (report : Bool) :
    (validator.withAbsentRequiredReported report).rejection? = validator.rejection? := by
  funext entry
  obtain ⟨name, value?⟩ := entry
  cases value? with
  | none => rfl
  | some value => cases value <;> rfl

theorem absenceErrors_withAbsentRequiredReported_false (entries : List Entry) :
    (validator.withAbsentRequiredReported false).absenceErrors entries = [] := rfl

theorem bulkErrors_of_firstStray? {before after : List Entry} {entry : Entry}
    (hbefore : ∀ earlier ∈ before, ¬ validator.IsStray earlier)
    (hentry : validator.IsStray entry) :
    validator.bulkErrors (before ++ entry :: after) = before.filterMap validator.rejection? := by
  have hfirst : validator.firstStray? (before ++ entry :: after) = some entry :=
    firstStray?_eq_some_iff.mpr ⟨before, after, rfl, hbefore, hentry⟩
  simp [bulkErrors, hfirst, checked_append_stray hbefore hentry]

theorem validateEntries_without_absences {entries : List Entry}
    (h : ∀ entry ∈ entries, ¬ validator.IsStray entry) :
    (validator.withAbsentRequiredReported false).validateEntries entries =
      ({ validator.withAbsentRequiredReported false with
          errors := validator.errors.recordAll (entries.filterMap validator.rejection?) },
        .ok ()) := by
  have hentries : ∀ entry ∈ entries,
      ¬ (validator.withAbsentRequiredReported false).IsStray entry := by
    rwa [isStray_withAbsentRequiredReported]
  rw [validateEntries_eq, bulkErrors_of_no_stray hentries, bulkResult_eq_ok_iff.mpr hentries,
    rejection?_withAbsentRequiredReported, absenceErrors_withAbsentRequiredReported_false,
    List.append_nil]
  rfl

theorem bulkResult_of_undefined {before after : List Entry} {entry : Entry}
    (h : ¬ validator.config.Defines entry.2) :
    validator.bulkResult (before ++ entry :: after) = validator.bulkResult (before ++ after) := by
  have hstray : ¬ validator.IsStray entry := fun hentry => h hentry.1
  simp [bulkResult, firstStray?, List.find?_append, hstray]

/-- Bulk validation fails exactly on stray entries. It reports the first of them, and leaves behind
what the entries before it alone would leave. -/
theorem validateEntries_fails_at_first_stray (validator : Validator) (entries : List Entry) :
    ((∃ error, (validator.validateEntries entries).2 = .error error) ↔
      ∃ entry ∈ entries, validator.IsStray entry) ∧
    (∀ error, (validator.validateEntries entries).2 = .error error →
      ∃ before entry after, entries = before ++ entry :: after ∧
        (∀ earlier ∈ before, ¬ validator.IsStray earlier) ∧ validator.IsStray entry ∧
        error = .notCompiled entry.1 ∧
        ((validator.withAbsentRequiredReported false).validateEntries before).2 = .ok () ∧
        (validator.validateEntries entries).1 =
          { validator with
            errors :=
              ((validator.withAbsentRequiredReported false).validateEntries before).1.errors }) ∧
    (∀ before entry after, entries = before ++ entry :: after →
      ¬ validator.config.Defines entry.2 →
        (validator.validateEntries entries).2 =
          (validator.validateEntries (before ++ after)).2) := by
  simp only [validateEntries_eq entries]
  refine ⟨?_, ?_, ?_⟩
  · constructor
    · intro h
      obtain ⟨error, herror⟩ := h
      obtain ⟨entry, hfirst, -⟩ := bulkResult_eq_error_iff.mp herror
      obtain ⟨before, after, rfl, -, hentry⟩ := firstStray?_eq_some_iff.mp hfirst
      exact ⟨entry, by simp, hentry⟩
    · intro h
      obtain ⟨entry, hmem, hentry⟩ := h
      cases hfirst : validator.firstStray? entries with
      | none => exact absurd hentry (firstStray?_eq_none_iff.mp hfirst entry hmem)
      | some first => exact ⟨_, bulkResult_eq_error_iff.mpr ⟨first, hfirst, rfl⟩⟩
  · intro error hresult
    obtain ⟨entry, hfirst, herror⟩ := bulkResult_eq_error_iff.mp hresult
    obtain ⟨before, after, rfl, hbefore, hentry⟩ := firstStray?_eq_some_iff.mp hfirst
    refine ⟨before, entry, after, rfl, hbefore, hentry, herror, ?_, ?_⟩
    · rw [validateEntries_without_absences hbefore]
    · rw [validateEntries_without_absences hbefore, bulkErrors_of_firstStray? hbefore hentry]
  · intro before entry after hsplit hundefined
    subst entries
    rw [validateEntries_eq]
    exact bulkResult_of_undefined hundefined

end Validator

end FieldRules
