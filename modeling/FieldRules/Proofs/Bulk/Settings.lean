import FieldRules.Proofs.Bulk.Contents
import FieldRules.Proofs.FirstFailure
import Mathlib.Data.List.Nodup

namespace FieldRules

/-- An entry with a missing value in the place of a null. -/
def Entry.withoutNull : Entry → Entry
  | (name, some .null) => (name, none)
  | entry => entry

theorem Entry.fst_withoutNull (entry : Entry) : entry.withoutNull.1 = entry.1 := by
  obtain ⟨name, value?⟩ := entry
  cases value? with
  | none => rfl
  | some value => cases value <;> rfl

theorem Entry.withoutNull_eq_self {entry : Entry} (h : entry.2 ≠ some .null) :
    entry.withoutNull = entry := by
  obtain ⟨name, value?⟩ := entry
  cases value? with
  | none => rfl
  | some value =>
      cases value with
      | null => exact absurd rfl h
      | _ => rfl

namespace Validator

variable {validator left right : Validator} {entries : List Entry} {entry : Entry}

def bulkOutcome (validator : Validator) (entries : List Entry) :
    ErrorMap × Except UsageError Unit :=
  ((validator.validateEntries entries).1.errors, (validator.validateEntries entries).2)

theorem bulkOutcome_eq_evaluateEntries (validator : Validator) (entries : List Entry) :
    validator.bulkOutcome entries = validator.evaluateEntries validator.errors entries := rfl

theorem bulkOutcome_eq (validator : Validator) (entries : List Entry) :
    validator.bulkOutcome entries =
      (validator.errors.recordAll (validator.bulkErrors entries), validator.bulkResult entries) := by
  rw [bulkOutcome, validateEntries_eq]

theorem recordEntries_congr {f : Entry → Entry}
    (h : ∀ entry, left.evaluateEntry entry = right.evaluateEntry (f entry)) (errors : ErrorMap)
    (entries : List Entry) :
    left.recordEntries errors entries = right.recordEntries errors (entries.map f) := by
  induction entries generalizing errors with
  | nil => rfl
  | cons entry rest ih =>
      rw [List.map_cons, recordEntries, recordEntries, h]
      cases right.evaluateEntry (f entry) with
      | error error => rfl
      | ok error? =>
          cases error? with
          | none => exact ih errors
          | some error => exact ih (errors.record error)

section nullPolicy

theorem evaluateEntry_withoutNull (policy : NullPolicy) (entry : Entry) :
    (validator.withNullPolicy .missing).evaluateEntry entry =
      (validator.withNullPolicy policy).evaluateEntry entry.withoutNull := by
  obtain ⟨name, value?⟩ := entry
  cases value? with
  | none => rfl
  | some value => cases value <;> rfl

theorem bulkOutcome_withoutNull (policy : NullPolicy) (entries : List Entry) :
    (validator.withNullPolicy .missing).bulkOutcome entries =
      (validator.withNullPolicy policy).bulkOutcome (entries.map Entry.withoutNull) := by
  have habsent : (validator.withNullPolicy .missing).absentNames entries =
      (validator.withNullPolicy policy).absentNames (entries.map Entry.withoutNull) := by
    have hnames : (entries.map Entry.withoutNull).map Prod.fst = entries.map Prod.fst := by
      rw [List.map_map]
      apply List.map_congr_left
      intro entry _
      exact Entry.fst_withoutNull entry
    rw [absentNames, absentNames, hnames]
    rfl
  rw [bulkOutcome_eq_evaluateEntries, bulkOutcome_eq_evaluateEntries, evaluateEntries,
    evaluateEntries, recordEntries_congr (evaluateEntry_withoutNull policy), habsent]
  rfl

theorem bulkOutcome_withNullPolicy_congr (policy other : NullPolicy)
    (h : ∀ entry ∈ entries, entry.2 ≠ some .null) :
    (validator.withNullPolicy policy).bulkOutcome entries =
      (validator.withNullPolicy other).bulkOutcome entries := by
  have hsame : entries.map Entry.withoutNull = entries.map id := by
    apply List.map_congr_left
    intro entry hentry
    exact Entry.withoutNull_eq_self (h entry hentry)
  rw [List.map_id] at hsame
  have hpolicy := validator.bulkOutcome_withoutNull policy entries
  have hother := validator.bulkOutcome_withoutNull other entries
  rw [hsame] at hpolicy hother
  rw [← hpolicy, hother]

end nullPolicy

section absences

/-- Reporting absent fields adds their errors to those of the entries, unless the result is an
error. -/
structure AddsAbsences (validator : Validator) (entries : List Entry) : Prop where
  result_eq : ((validator.withAbsentRequiredReported true).bulkOutcome entries).2 =
    ((validator.withAbsentRequiredReported false).bulkOutcome entries).2
  errors_of_ok : ((validator.withAbsentRequiredReported false).bulkOutcome entries).2 = .ok () →
    ((validator.withAbsentRequiredReported true).bulkOutcome entries).1 =
      ((validator.withAbsentRequiredReported false).bulkOutcome entries).1.recordAll
        ((validator.schema.requiredNames.filter (· ∉ entries.map Prod.fst)).map requiredError)
  errors_of_error : ∀ error,
    ((validator.withAbsentRequiredReported false).bulkOutcome entries).2 = .error error →
      ((validator.withAbsentRequiredReported true).bulkOutcome entries).1 =
        ((validator.withAbsentRequiredReported false).bulkOutcome entries).1

theorem bulkResult_withAbsentRequiredReported (report : Bool) (entries : List Entry) :
    (validator.withAbsentRequiredReported report).bulkResult entries =
      validator.bulkResult entries := by
  simp only [bulkResult, firstStray?, isStray_withAbsentRequiredReported]

theorem checked_withAbsentRequiredReported (report : Bool) (entries : List Entry) :
    (validator.withAbsentRequiredReported report).checked entries = validator.checked entries := by
  simp only [checked, isStray_withAbsentRequiredReported]

theorem absenceErrors_withAbsentRequiredReported_true (entries : List Entry) :
    (validator.withAbsentRequiredReported true).absenceErrors entries =
      (validator.schema.requiredNames.filter (· ∉ entries.map Prod.fst)).map requiredError := by
  apply congrArg (List.map requiredError)
  apply List.filter_congr
  intro name _
  simp

theorem bulkErrors_withAbsentRequiredReported_true
    (h : ∀ entry ∈ entries, ¬ validator.IsStray entry) :
    (validator.withAbsentRequiredReported true).bulkErrors entries =
      (validator.withAbsentRequiredReported false).bulkErrors entries ++
        (validator.schema.requiredNames.filter (· ∉ entries.map Prod.fst)).map requiredError := by
  have hentries : ∀ report, ∀ entry ∈ entries,
      ¬ (validator.withAbsentRequiredReported report).IsStray entry := by
    intro report
    rwa [isStray_withAbsentRequiredReported]
  rw [bulkErrors_of_no_stray (hentries true), bulkErrors_of_no_stray (hentries false),
    rejection?_withAbsentRequiredReported, rejection?_withAbsentRequiredReported,
    absenceErrors_withAbsentRequiredReported_false, List.append_nil,
    absenceErrors_withAbsentRequiredReported_true]

theorem bulkErrors_of_error {error : UsageError} (h : validator.bulkResult entries = .error error) :
    validator.bulkErrors entries = (validator.checked entries).filterMap validator.rejection? := by
  obtain ⟨entry, hfirst, -⟩ := bulkResult_eq_error_iff.mp h
  rw [bulkErrors, hfirst]

theorem addsAbsences (validator : Validator) (entries : List Entry) :
    validator.AddsAbsences entries := by
  constructor
  · simp only [bulkOutcome_eq, bulkResult_withAbsentRequiredReported]
  · intro hresult
    simp only [bulkOutcome_eq, bulkResult_withAbsentRequiredReported] at hresult ⊢
    rw [bulkErrors_withAbsentRequiredReported_true (bulkResult_eq_ok_iff.mp hresult),
      ErrorMap.recordAll_append]
    rfl
  · intro error hresult
    have herror : ∀ report,
        (validator.withAbsentRequiredReported report).bulkResult entries = .error error := by
      intro report
      rw [bulkResult_withAbsentRequiredReported]
      simpa only [bulkOutcome_eq, bulkResult_withAbsentRequiredReported] using hresult
    simp only [bulkOutcome_eq, bulkErrors_of_error (herror _), checked_withAbsentRequiredReported,
      rejection?_withAbsentRequiredReported]
    rfl

end absences

section distinctNames

variable {name : String}

theorem lastFor?_rejections_of_not_mem (h : name ∉ entries.map Prod.fst) :
    lastFor? name (entries.filterMap validator.rejection?) = none := by
  apply lastFor?_rejections_of_passes
  intro entry hentry hname
  exact absurd (hname ▸ List.mem_map_of_mem hentry) h

theorem lastFor?_rejections_of_mem (hnodup : (entries.map Prod.fst).Nodup)
    (hentry : entry ∈ entries) :
    lastFor? entry.1 (entries.filterMap validator.rejection?) = validator.rejection? entry := by
  cases hrejection : validator.rejection? entry with
  | none =>
      apply lastFor?_rejections_of_passes
      intro other hother hname
      have hsame : other = entry := List.inj_on_of_nodup_map hnodup hother hentry hname
      subst other
      exact rejection?_eq_none_iff_not_fails.mp hrejection
  | some error =>
      obtain ⟨before, later, rfl⟩ := List.append_of_mem hentry
      apply lastFor?_rejections_of_rejects (rejection?_eq_some_iff.mp hrejection)
      intro other hother hname
      rw [List.map_append, List.map_cons, List.nodup_append, List.nodup_cons] at hnodup
      exact absurd (hname ▸ List.mem_map_of_mem hother) hnodup.2.1.1

theorem lastFor?_bulkErrors (h : name ∈ entries.map Prod.fst) :
    lastFor? name (validator.bulkErrors entries) =
      lastFor? name ((validator.checked entries).filterMap validator.rejection?) := by
  rw [bulkErrors]
  cases hfirst : validator.firstStray? entries with
  | some entry => rfl
  | none =>
      have hpresent : ¬ validator.IsAbsent entries name := fun habsent => habsent.2.2 h
      dsimp only
      rw [checked_of_no_stray (firstStray?_eq_none_iff.mp hfirst), lastFor?_append,
        lastFor?_absenceErrors_of_not_isAbsent hpresent, Option.none_or]

theorem find?_bulkOutcome_of_checked (hnodup : (entries.map Prod.fst).Nodup)
    (hentry : entry ∈ validator.checked entries) :
    (validator.bulkOutcome entries).1.find? entry.1 =
      (validator.rejection? entry).or (validator.errors.find? entry.1) := by
  have hsublist : (validator.checked entries).Sublist entries := List.takeWhile_sublist _
  have hname : entry.1 ∈ entries.map Prod.fst := List.mem_map_of_mem (hsublist.subset hentry)
  rw [bulkOutcome_eq, ErrorMap.find?_recordAll, lastFor?_bulkErrors hname,
    lastFor?_rejections_of_mem (hnodup.sublist (hsublist.map Prod.fst)) hentry]

theorem find?_bulkOutcome_of_not_checked (hnodup : (entries.map Prod.fst).Nodup)
    (hentry : entry ∈ entries) (hskipped : entry ∉ validator.checked entries) :
    (validator.bulkOutcome entries).1.find? entry.1 = validator.errors.find? entry.1 := by
  have hsublist : (validator.checked entries).Sublist entries := List.takeWhile_sublist _
  have hfresh : entry.1 ∉ (validator.checked entries).map Prod.fst := by
    intro hmem
    obtain ⟨other, hother, hname⟩ := List.mem_map.mp hmem
    have hsame : other = entry :=
      List.inj_on_of_nodup_map hnodup (hsublist.subset hother) hentry hname
    exact hskipped (hsame ▸ hother)
  rw [bulkOutcome_eq, ErrorMap.find?_recordAll, lastFor?_bulkErrors (List.mem_map_of_mem hentry),
    lastFor?_rejections_of_not_mem hfresh, Option.none_or]

end distinctNames

section types

/-- An entry conforms unless it has a value that its field does not admit. -/
def Conforms (validator : Validator) (entry : Entry) : Prop :=
  ∀ value field, entry.2 = some value → validator.config.Defines entry.2 →
    validator.compiled.find? entry.1 = some field → field.conforms value = true

/-- Enforcing types adds errors of entries that do not conform, and leaves alone those that do. -/
structure EnforcesTypes (validator : Validator) (entries : List Entry) : Prop where
  result_eq : ((validator.withTypeEnforcement true).bulkOutcome entries).2 =
    ((validator.withTypeEnforcement false).bulkOutcome entries).2
  fails : ∀ entry, (validator.withTypeEnforcement false).Fails entry →
    (validator.withTypeEnforcement true).Fails entry
  contains : ∀ name,
    ((validator.withTypeEnforcement false).bulkOutcome entries).1.contains name = true →
      ((validator.withTypeEnforcement true).bulkOutcome entries).1.contains name = true
  conforming : ∀ entry ∈ entries, validator.Conforms entry →
    (validator.withTypeEnforcement true).evaluateEntry entry =
        (validator.withTypeEnforcement false).evaluateEntry entry ∧
      ((validator.withTypeEnforcement true).bulkOutcome entries).1.find? entry.1 =
        ((validator.withTypeEnforcement false).bulkOutcome entries).1.find? entry.1
  refused : ∀ entry, ¬ validator.Conforms entry →
    ∃ error, error.code = "invalid_type" ∧
      (validator.withTypeEnforcement true).evaluateEntry entry = .ok (some error) ∧
      (entry ∈ validator.checked entries →
        ((validator.withTypeEnforcement true).bulkOutcome entries).1.find? entry.1 = some error)

theorem bulkResult_withTypeEnforcement (enforce : Bool) (entries : List Entry) :
    (validator.withTypeEnforcement enforce).bulkResult entries = validator.bulkResult entries :=
  rfl

theorem fails_withTypeEnforcement (h : (validator.withTypeEnforcement false).Fails entry) :
    (validator.withTypeEnforcement true).Fails entry := by
  rcases h with hundefined | ⟨value, field, hvalue, hfield, hrefused⟩
  · exact .inl hundefined
  · rcases hrefused with ⟨henforced, -⟩ | hrule
    · cases henforced
    · exact .inr ⟨value, field, hvalue, hfield, .inr hrule⟩

theorem bulkFailures_withTypeEnforcement {name : String}
    (h : name ∈ (validator.withTypeEnforcement false).bulkFailures entries) :
    name ∈ (validator.withTypeEnforcement true).bulkFailures entries := by
  rcases List.mem_append.mp h with hentry | habsent
  · apply List.mem_append_left
    obtain ⟨entry, hmem, hname⟩ := List.mem_map.mp hentry
    obtain ⟨hchecked, hfails⟩ := List.mem_filter.mp hmem
    rw [decide_eq_true_eq] at hfails
    exact hname ▸ List.mem_map_of_mem
      (List.mem_filter.mpr ⟨hchecked, decide_eq_true (fails_withTypeEnforcement hfails)⟩)
  · exact List.mem_append_right _ habsent

theorem rejection?_of_conforms (h : validator.Conforms entry) :
    (validator.withTypeEnforcement true).rejection? entry =
      (validator.withTypeEnforcement false).rejection? entry := by
  obtain ⟨name, value?⟩ := entry
  by_cases hdefined : validator.config.Defines value?
  · obtain ⟨value, rfl⟩ := exists_value_of_defines hdefined
    have hon : (validator.withTypeEnforcement true).config.Defines (some value) := hdefined
    have hoff : (validator.withTypeEnforcement false).config.Defines (some value) := hdefined
    rw [rejection?_of_defined hon, rejection?_of_defined hoff]
    cases hfield : validator.compiled.find? name with
    | none => simp only [withTypeEnforcement, hfield, Option.bind_none]
    | some field =>
        have hconforms := h value field rfl hdefined hfield
        simp [withTypeEnforcement, hfield, CompiledField.evaluate, hconforms]
  · have hon : ¬ (validator.withTypeEnforcement true).config.Defines value? := hdefined
    have hoff : ¬ (validator.withTypeEnforcement false).config.Defines value? := hdefined
    rw [rejection?_of_undefined hon, rejection?_of_undefined hoff]

theorem evaluateEntry_of_conforms (h : validator.Conforms entry) :
    (validator.withTypeEnforcement true).evaluateEntry entry =
      (validator.withTypeEnforcement false).evaluateEntry entry := by
  by_cases hstray : validator.IsStray entry
  · have hon : (validator.withTypeEnforcement true).IsStray entry := hstray
    have hoff : (validator.withTypeEnforcement false).IsStray entry := hstray
    rw [evaluateEntry_of_isStray hon, evaluateEntry_of_isStray hoff]
  · have hon : ¬ (validator.withTypeEnforcement true).IsStray entry := hstray
    have hoff : ¬ (validator.withTypeEnforcement false).IsStray entry := hstray
    rw [evaluateEntry_of_not_isStray hon, evaluateEntry_of_not_isStray hoff,
      rejection?_of_conforms h]

theorem exists_rejection?_of_not_conforms (h : ¬ validator.Conforms entry) :
    ∃ error, error.code = "invalid_type" ∧
      (validator.withTypeEnforcement true).rejection? entry = some error := by
  obtain ⟨name, value?⟩ := entry
  simp only [Conforms, not_forall, Bool.not_eq_true] at h
  obtain ⟨value, field, hvalue, hdefined, hfield, hrefused⟩ := h
  subst hvalue
  exact ⟨field.typeError name value, rfl,
    rejection?_eq_some_iff.mpr (.kind hdefined hfield rfl hrefused)⟩

theorem not_isStray_of_not_conforms (h : ¬ validator.Conforms entry) :
    ¬ validator.IsStray entry := by
  intro hstray
  apply h
  intro value field hvalue hdefined hfield
  have hmissing : validator.compiled.contains entry.1 = false := hstray.2
  rw [Table.contains, hfield, Option.isSome_some] at hmissing
  cases hmissing

theorem enforcesTypes (validator : Validator) {entries : List Entry}
    (hnodup : (entries.map Prod.fst).Nodup) : validator.EnforcesTypes entries := by
  refine ⟨?_, fun _ => fails_withTypeEnforcement, ?_, ?_, ?_⟩
  · simp only [bulkOutcome_eq, bulkResult_withTypeEnforcement]
  · intro name hcontains
    rw [bulkOutcome_eq, ErrorMap.contains_recordAll_iff, map_field_bulkErrors] at hcontains ⊢
    exact hcontains.imp_left bulkFailures_withTypeEnforcement
  · intro entry hentry hconforms
    refine ⟨evaluateEntry_of_conforms hconforms, ?_⟩
    by_cases hchecked : entry ∈ validator.checked entries
    · have hon : entry ∈ (validator.withTypeEnforcement true).checked entries := hchecked
      have hoff : entry ∈ (validator.withTypeEnforcement false).checked entries := hchecked
      rw [find?_bulkOutcome_of_checked hnodup hon, find?_bulkOutcome_of_checked hnodup hoff,
        rejection?_of_conforms hconforms]
      rfl
    · have hon : entry ∉ (validator.withTypeEnforcement true).checked entries := hchecked
      have hoff : entry ∉ (validator.withTypeEnforcement false).checked entries := hchecked
      rw [find?_bulkOutcome_of_not_checked hnodup hentry hon,
        find?_bulkOutcome_of_not_checked hnodup hentry hoff]
      rfl
  · intro entry hrefused
    have hon : ¬ (validator.withTypeEnforcement true).IsStray entry :=
      not_isStray_of_not_conforms hrefused
    obtain ⟨error, hcode, hrejection⟩ := exists_rejection?_of_not_conforms hrefused
    refine ⟨error, hcode, ?_, ?_⟩
    · rw [evaluateEntry_of_not_isStray hon, hrejection]
    · intro hchecked
      have hfirst : entry ∈ (validator.withTypeEnforcement true).checked entries := hchecked
      rw [find?_bulkOutcome_of_checked hnodup hfirst, hrejection, Option.some_or]

end types

theorem validateProperty_withConfig {config : Config}
    (h : config.enforceTypes = validator.config.enforceTypes) (name : String) (value : Value) :
    (validator.withConfig config).validateProperty name value =
      ((validator.validateProperty name value).1.withConfig config,
        (validator.validateProperty name value).2) := by
  have herror : (validator.withConfig config).valueError? name value =
      validator.valueError? name value := by
    simp only [valueError?, withConfig, h]
  cases hcompiled : validator.compiled.contains name with
  | false =>
      have hsame : (validator.withConfig config).compiled.contains name = false := hcompiled
      rw [validateProperty_of_not_compiled hcompiled, validateProperty_of_not_compiled hsame]
  | true =>
      have hsame : (validator.withConfig config).compiled.contains name = true := hcompiled
      rw [validateProperty_of_compiled hcompiled, validateProperty_of_compiled hsame, herror]
      rfl

/-- What each setting does to bulk validation, and what none of them does: the null policy is as
good as replacing nulls, the report of absent fields only adds errors, and the check of types
replaces the errors of values that are not of their kind. Single values are validated by the check
of types alone. -/
structure OrthogonalSettings (validator : Validator) : Prop where
  withoutNull : ∀ policy entries, (validator.withNullPolicy .missing).bulkOutcome entries =
    (validator.withNullPolicy policy).bulkOutcome (entries.map Entry.withoutNull)
  nullPolicy : ∀ policy other entries, (∀ entry ∈ entries, entry.2 ≠ some .null) →
    (validator.withNullPolicy policy).bulkOutcome entries =
      (validator.withNullPolicy other).bulkOutcome entries
  addsAbsences : ∀ entries, validator.AddsAbsences entries
  enforcesTypes : ∀ entries, (entries.map Prod.fst).Nodup → validator.EnforcesTypes entries
  validateAll : ∀ record, validator.validateAll record =
    validator.validateEntries (record.map Entry.ofMember)
  validateProperty : ∀ config name value,
    config.enforceTypes = validator.config.enforceTypes →
      (validator.withConfig config).validateProperty name value =
        ((validator.validateProperty name value).1.withConfig config,
          (validator.validateProperty name value).2)
  settings : ∀ policy report enforce,
    ((validator.withNullPolicy policy).withAbsentRequiredReported report).withTypeEnforcement
      enforce = { validator with config := ⟨policy, report, enforce⟩ }

theorem settings_are_orthogonal (validator : Validator) : validator.OrthogonalSettings where
  withoutNull := bulkOutcome_withoutNull
  nullPolicy policy other _ hentries := bulkOutcome_withNullPolicy_congr policy other hentries
  addsAbsences := validator.addsAbsences
  enforcesTypes _ hnodup := validator.enforcesTypes hnodup
  validateAll _ := rfl
  validateProperty _ name value henforce := validateProperty_withConfig henforce name value
  settings _ _ _ := rfl

def answers : List Entry := [("age", some (.str "ten")), ("name", some .null)]

theorem settings_are_orthogonal_answers :
    (answers.map Prod.fst).Nodup ∧
      (signup.withNullPolicy .missing).bulkOutcome answers =
        (signup.withNullPolicy .present).bulkOutcome (answers.map Entry.withoutNull) ∧
      signup.AddsAbsences answers ∧ signup.EnforcesTypes answers ∧
      (((signup.withTypeEnforcement false).bulkOutcome answers).1.find? "age").map
        FieldError.code = some "min" ∧
      (((signup.withTypeEnforcement true).bulkOutcome answers).1.find? "age").map
        FieldError.code = some "invalid_type" := by
  have horthogonal := settings_are_orthogonal signup
  have hnodup : (answers.map Prod.fst).Nodup := by decide
  exact ⟨hnodup, horthogonal.withoutNull .present answers, horthogonal.addsAbsences answers,
    horthogonal.enforcesTypes answers hnodup, rfl, rfl⟩

end Validator

end FieldRules
