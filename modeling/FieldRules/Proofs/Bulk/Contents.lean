import FieldRules.Pattern.Program
import FieldRules.Proofs.Bulk.Entries
import FieldRules.Proofs.CompiledField
import Mathlib.Logic.ExistsUnique

namespace FieldRules.Validator

variable {validator : Validator} {entries : List Entry} {entry : Entry} {error : FieldError}

/-- An entry fails when it has no value, or when its value fails the declared kind or a rule. -/
def Fails (validator : Validator) (entry : Entry) : Prop :=
  ¬ validator.config.Defines entry.2 ∨
    ∃ value field, entry.2 = some value ∧ validator.compiled.find? entry.1 = some field ∧
      ((validator.config.enforceTypes = true ∧ field.conforms value = false) ∨
        ∃ checker ∈ field.checkers, checker.passes value = false)

/-- The error with which an entry fails. -/
inductive Rejects (validator : Validator) : Entry → FieldError → Prop
  | undefined {name : String} {value? : Option Value}
      (undefined : ¬ validator.config.Defines value?) :
      Rejects validator (name, value?) (requiredError name)
  | kind {name : String} {value : Value} {field : CompiledField}
      (defined : validator.config.Defines (some value))
      (compiled : validator.compiled.find? name = some field)
      (enforced : validator.config.enforceTypes = true)
      (refused : field.conforms value = false) :
      Rejects validator (name, some value) (field.typeError name value)
  | rule {name : String} {value : Value} {field : CompiledField} {earlier later : List Checker}
      {checker : Checker}
      (defined : validator.config.Defines (some value))
      (compiled : validator.compiled.find? name = some field)
      (conforms : validator.config.enforceTypes = true → field.conforms value = true)
      (checkers : field.checkers = earlier ++ checker :: later)
      (passed : ∀ other ∈ earlier, other.passes value = true)
      (failed : checker.passes value = false) :
      Rejects validator (name, some value) (CompiledField.ruleError name checker value)

theorem rejection?_of_undefined (h : ¬ validator.config.Defines entry.2) :
    validator.rejection? entry = some (requiredError entry.1) := by
  rw [rejection?, definedValue?_of_not_defines h]

theorem rejection?_of_defined {name : String} {value : Value}
    (h : validator.config.Defines (some value)) :
    validator.rejection? (name, some value) =
      (validator.compiled.find? name).bind fun field =>
        field.evaluate name validator.config.enforceTypes value := by
  rw [rejection?, definedValue?_of_defines h]

theorem rejection?_eq_some_iff :
    validator.rejection? entry = some error ↔ validator.Rejects entry error := by
  constructor
  · intro h
    obtain ⟨name, value?⟩ := entry
    by_cases hdefines : validator.config.Defines value?
    · obtain ⟨value, rfl⟩ := exists_value_of_defines hdefines
      rw [rejection?_of_defined hdefines, Option.bind_eq_some_iff] at h
      obtain ⟨field, hfield, hevaluate⟩ := h
      rw [CompiledField.evaluate_eq_some_iff] at hevaluate
      obtain ⟨henforced, hrefused, rfl⟩ | hrule := hevaluate
      · exact .kind hdefines hfield henforced hrefused
      · obtain ⟨hconforms, earlier, checker, later, hsplit, hpassed, hfailed, rfl⟩ := hrule
        exact .rule hdefines hfield hconforms hsplit hpassed hfailed
    · rw [rejection?_of_undefined hdefines] at h
      cases h
      exact .undefined hdefines
  · intro h
    cases h with
    | undefined hundefined => exact rejection?_of_undefined hundefined
    | kind hdefines hfield henforced hrefused =>
        rw [rejection?_of_defined hdefines, hfield, Option.bind_some]
        exact CompiledField.evaluate_eq_some_iff.mpr (.inl ⟨henforced, hrefused, rfl⟩)
    | rule hdefines hfield hconforms hsplit hpassed hfailed =>
        rw [rejection?_of_defined hdefines, hfield, Option.bind_some]
        exact CompiledField.evaluate_eq_some_iff.mpr
          (.inr ⟨hconforms, _, _, _, hsplit, hpassed, hfailed, rfl⟩)

theorem rejection?_eq_none_iff_not_fails :
    validator.rejection? entry = none ↔ ¬ validator.Fails entry := by
  obtain ⟨name, value?⟩ := entry
  by_cases hdefines : validator.config.Defines value?
  · obtain ⟨value, rfl⟩ := exists_value_of_defines hdefines
    rw [rejection?_of_defined hdefines, Fails]
    cases hfield : validator.compiled.find? name with
    | none => simp [hdefines]
    | some field =>
        rw [Option.bind_some, CompiledField.evaluate_eq_none_iff]
        simp [hdefines]
  · have hfails : validator.Fails (name, value?) := Or.inl hdefines
    rw [rejection?_of_undefined hdefines]
    simp [hfails]

theorem fails_iff_isSome : validator.Fails entry ↔ (validator.rejection? entry).isSome = true := by
  rw [← Option.ne_none_iff_isSome, ne_eq, rejection?_eq_none_iff_not_fails, Classical.not_not]

theorem fails_iff_existsUnique_rejects :
    validator.Fails entry ↔ ∃! error, validator.Rejects entry error := by
  simp only [← rejection?_eq_some_iff]
  rw [fails_iff_isSome, Option.isSome_iff_exists]
  constructor
  · intro h
    obtain ⟨error, herror⟩ := h
    refine ⟨error, herror, ?_⟩
    intro other hother
    exact Option.some.inj (hother.symm.trans herror)
  · intro h
    exact h.exists

theorem Rejects.fails (h : validator.Rejects entry error) : validator.Fails entry := by
  rw [fails_iff_isSome, rejection?_eq_some_iff.mpr h]
  rfl

instance : DecidablePred validator.Fails := fun _ => decidable_of_iff _ fails_iff_isSome.symm

theorem field_of_rejects (h : validator.Rejects entry error) : error.field = entry.1 := by
  cases h <;> rfl

def IsAbsent (validator : Validator) (entries : List Entry) (name : String) : Prop :=
  validator.config.reportAbsentRequired = true ∧ validator.schema.isRequired name = true ∧
    name ∉ entries.map Prod.fst

instance : DecidablePred (validator.IsAbsent entries) := fun _ => instDecidableAnd

section absenceErrors

variable {name : String}

theorem absenceErrors_eq :
    validator.absenceErrors entries =
      (validator.schema.requiredNames.filter fun name =>
        decide (validator.IsAbsent entries name)).map requiredError := by
  rw [absenceErrors, absentNames]
  cases hreport : validator.config.reportAbsentRequired with
  | false => simp [IsAbsent, hreport]
  | true =>
      rw [if_pos rfl]
      apply congrArg (List.map requiredError)
      apply List.filter_congr
      intro name hname
      have hrequired : validator.schema.isRequired name = true :=
        (Table.contains_iff_mem_keys validator.schema.required).mpr hname
      rw [Bool.eq_iff_iff, decide_eq_true_eq]
      simp [IsAbsent, hreport, hrequired]

theorem mem_absenceErrors_iff :
    error ∈ validator.absenceErrors entries ↔
      ∃ name, validator.IsAbsent entries name ∧ requiredError name = error := by
  rw [absenceErrors_eq]
  simp only [List.mem_map, List.mem_filter, decide_eq_true_eq]
  constructor
  · intro h
    obtain ⟨name, ⟨-, habsent⟩, herror⟩ := h
    exact ⟨name, habsent, herror⟩
  · intro h
    obtain ⟨name, habsent, herror⟩ := h
    have hname : name ∈ validator.schema.requiredNames :=
      (Table.contains_iff_mem_keys validator.schema.required).mp habsent.2.1
    exact ⟨name, ⟨hname, habsent⟩, herror⟩

theorem lastFor?_absenceErrors_of_isAbsent (h : validator.IsAbsent entries name) :
    lastFor? name (validator.absenceErrors entries) = some (requiredError name) := by
  cases hlast : lastFor? name (validator.absenceErrors entries) with
  | none =>
      have hmem : requiredError name ∈ validator.absenceErrors entries :=
        mem_absenceErrors_iff.mpr ⟨name, h, rfl⟩
      exact absurd rfl (lastFor?_eq_none_iff.mp hlast _ hmem)
  | some found =>
      obtain ⟨hmem, hfield⟩ := mem_and_field_of_lastFor? hlast
      obtain ⟨other, -, rfl⟩ := mem_absenceErrors_iff.mp hmem
      have hname : other = name := hfield
      rw [hname]

theorem lastFor?_absenceErrors_of_not_isAbsent (h : ¬ validator.IsAbsent entries name) :
    lastFor? name (validator.absenceErrors entries) = none := by
  rw [lastFor?_eq_none_iff]
  intro found hmem hfield
  obtain ⟨other, habsent, rfl⟩ := mem_absenceErrors_iff.mp hmem
  have hname : other = name := hfield
  exact h (hname ▸ habsent)

theorem map_field_absenceErrors :
    (validator.absenceErrors entries).map FieldError.field =
      validator.schema.requiredNames.filter fun name =>
        decide (validator.IsAbsent entries name) := by
  rw [absenceErrors_eq, List.map_map]
  exact List.map_id _

end absenceErrors

theorem map_field_rejections (entries : List Entry) :
    (entries.filterMap validator.rejection?).map FieldError.field =
      (entries.filter fun entry => decide (validator.Fails entry)).map Prod.fst := by
  induction entries with
  | nil => rfl
  | cons entry rest ih =>
      cases hrejection : validator.rejection? entry with
      | none =>
          have hpasses := rejection?_eq_none_iff_not_fails.mp hrejection
          rw [List.filterMap_cons_none hrejection, List.filter_cons_of_neg (by simp [hpasses]), ih]
      | some error =>
          have hrejects := rejection?_eq_some_iff.mp hrejection
          rw [List.filterMap_cons_some hrejection,
            List.filter_cons_of_pos (by simp [hrejects.fails]),
            List.map_cons, List.map_cons, ih, field_of_rejects hrejects]

/-- The names that fail in bulk validation, in the order in which they do: those of the entries that
are checked, and then those of absent fields, which are not looked for once an entry is stray. -/
def bulkFailures (validator : Validator) (entries : List Entry) : List String :=
  ((validator.checked entries).filter fun entry => decide (validator.Fails entry)).map Prod.fst ++
    match validator.firstStray? entries with
    | none => validator.schema.requiredNames.filter fun name =>
        decide (validator.IsAbsent entries name)
    | some _ => []

theorem map_field_bulkErrors (entries : List Entry) :
    (validator.bulkErrors entries).map FieldError.field = validator.bulkFailures entries := by
  rw [bulkErrors, bulkFailures]
  cases hfirst : validator.firstStray? entries with
  | none =>
      rw [checked_of_no_stray (firstStray?_eq_none_iff.mp hfirst), List.map_append,
        map_field_rejections, map_field_absenceErrors]
  | some entry => rw [map_field_rejections, List.append_nil]

theorem lastFor?_rejections_of_passes {name : String}
    (h : ∀ entry ∈ entries, entry.1 = name → ¬ validator.Fails entry) :
    lastFor? name (entries.filterMap validator.rejection?) = none := by
  rw [lastFor?_eq_none_iff]
  intro error hmem hfield
  obtain ⟨entry, hentry, hrejection⟩ := List.mem_filterMap.mp hmem
  have hrejects := rejection?_eq_some_iff.mp hrejection
  apply h entry hentry
  · rw [← hfield, field_of_rejects hrejects]
  · exact hrejects.fails

theorem lastFor?_rejections_of_rejects {before later : List Entry}
    (hrejects : validator.Rejects entry error)
    (hlater : ∀ other ∈ later, other.1 = entry.1 → ¬ validator.Fails other) :
    lastFor? entry.1 ((before ++ entry :: later).filterMap validator.rejection?) = some error := by
  rw [List.filterMap_append, List.filterMap_cons_some (rejection?_eq_some_iff.mpr hrejects),
    lastFor?_append, lastFor?_cons, lastFor?_rejections_of_passes hlater,
    if_pos (field_of_rejects hrejects).symm]
  rfl

theorem keys_recordAll_bulkErrors (h : ∀ entry ∈ entries, ¬ validator.IsStray entry) :
    (validator.errors.recordAll (validator.bulkErrors entries)).table.keys =
      validator.errors.table.keys ++
        newNames validator.errors.table.keys
          ((entries.filter fun entry => decide (validator.Fails entry)).map Prod.fst) ++
        (validator.schema.requiredNames.filter fun name =>
          decide (validator.IsAbsent entries name)).filter (· ∉ validator.errors.table.keys) := by
  have hnodup : (validator.schema.requiredNames.filter fun name =>
      decide (validator.IsAbsent entries name)).Nodup :=
    validator.schema.required.nodup_keys.filter _
  rw [ErrorMap.keys_recordAll, bulkErrors_of_no_stray h, List.map_append, map_field_rejections,
    map_field_absenceErrors, newNames_append_of_disjoint hnodup, List.append_assoc]
  intro name habsent hfails
  simp only [List.mem_filter, decide_eq_true_eq] at habsent
  obtain ⟨entry, hentry, hname⟩ := List.mem_map.mp hfails
  exact habsent.2.2.2 (hname ▸ List.mem_map_of_mem (List.mem_filter.mp hentry).1)

theorem not_fails_iff {name : String} {value : Value}
    (h : ¬ validator.IsStray (name, some value)) :
    ¬ validator.Fails (name, some value) ↔
      validator.config.Defines (some value) ∧
        ∃ field, validator.compiled.find? name = some field ∧
          (validator.config.enforceTypes = true → field.conforms value = true) ∧
          ∀ checker ∈ field.checkers, checker.passes value = true := by
  rw [← rejection?_eq_none_iff_not_fails]
  by_cases hdefines : validator.config.Defines (some value)
  · rw [rejection?_of_defined hdefines]
    cases hfield : validator.compiled.find? name with
    | none =>
        have hcompiled : validator.compiled.contains name = false := by
          simp [Table.contains, hfield]
        exact absurd ⟨hdefines, hcompiled⟩ h
    | some field =>
        rw [Option.bind_some, CompiledField.evaluate_eq_none_iff]
        simp [hdefines]
  · rw [rejection?_of_undefined hdefines]
    simp [hdefines]

theorem bulkErrors_eq_nil_iff (h : ∀ entry ∈ entries, ¬ validator.IsStray entry) :
    validator.bulkErrors entries = [] ↔
      (∀ entry ∈ entries, ¬ validator.Fails entry) ∧
        (validator.config.reportAbsentRequired = true →
          ∀ name ∈ validator.schema.requiredNames, name ∈ entries.map Prod.fst) := by
  rw [bulkErrors_of_no_stray h, List.append_eq_nil_iff, List.filterMap_eq_nil_iff]
  simp only [rejection?_eq_none_iff_not_fails]
  apply and_congr_right
  intro _
  rw [absenceErrors]
  cases validator.config.reportAbsentRequired with
  | false => simp
  | true => simp [absentNames]

theorem find?_recordAll_bulkErrors (h : ∀ entry ∈ entries, ¬ validator.IsStray entry)
    (name : String) :
    (validator.errors.recordAll (validator.bulkErrors entries)).find? name =
      ((lastFor? name (validator.absenceErrors entries)).or
        (lastFor? name (entries.filterMap validator.rejection?))).or
          (validator.errors.find? name) := by
  rw [ErrorMap.find?_recordAll, bulkErrors_of_no_stray h, lastFor?_append]

theorem isEmpty_recordAll_bulkErrors_iff {record : List (String × Value)}
    (h : ∀ entry ∈ record.map Entry.ofMember, ¬ validator.IsStray entry) :
    (ErrorMap.empty.recordAll (validator.bulkErrors (record.map Entry.ofMember))).isEmpty = true ↔
      (∀ name value, (name, value) ∈ record →
        validator.config.Defines (some value) ∧
          ∃ field, validator.compiled.find? name = some field ∧
            (validator.config.enforceTypes = true → field.conforms value = true) ∧
            ∀ checker ∈ field.checkers, checker.passes value = true) ∧
      (validator.config.reportAbsentRequired = true →
        ∀ name ∈ validator.schema.requiredNames, name ∈ record.map Prod.fst) := by
  have hnames : (record.map Entry.ofMember).map Prod.fst = record.map Prod.fst := by
    rw [List.map_map]
    rfl
  rw [ErrorMap.isEmpty_recordAll_empty_iff, bulkErrors_eq_nil_iff h, hnames]
  apply and_congr_left
  intro _
  constructor
  · intro hpasses name value hmem
    have hentry : (name, some value) ∈ record.map Entry.ofMember :=
      List.mem_map_of_mem (f := Entry.ofMember) hmem
    exact (not_fails_iff (h _ hentry)).mp (hpasses _ hentry)
  · intro hpasses entry hentry
    obtain ⟨⟨name, value⟩, hmem, heq⟩ := List.mem_map.mp hentry
    subst entry
    exact (not_fails_iff (h _ hentry)).mpr (hpasses name value hmem)

/-- What the errors are after bulk validation of some entries: each name holds the error that it is
absent, or else the error of its last failing entry, or else what it held before. -/
structure Settles (validator : Validator) (entries : List Entry) (errors : ErrorMap) : Prop where
  absent : ∀ name, validator.IsAbsent entries name →
    errors.find? name = some (requiredError name)
  failed : ∀ before entry later error, entries = before ++ entry :: later →
    validator.Rejects entry error →
    (∀ other ∈ later, other.1 = entry.1 → ¬ validator.Fails other) →
      errors.find? entry.1 = some error
  kept : ∀ name, ¬ validator.IsAbsent entries name →
    (∀ entry ∈ entries, entry.1 = name → ¬ validator.Fails entry) →
      errors.find? name = validator.errors.find? name
  keys_eq : errors.table.keys =
    validator.errors.table.keys ++
      newNames validator.errors.table.keys
        ((entries.filter fun entry => decide (validator.Fails entry)).map Prod.fst) ++
      (validator.schema.requiredNames.filter fun name =>
        decide (validator.IsAbsent entries name)).filter (· ∉ validator.errors.table.keys)

theorem settles_recordAll_bulkErrors (h : ∀ entry ∈ entries, ¬ validator.IsStray entry) :
    validator.Settles entries (validator.errors.recordAll (validator.bulkErrors entries)) := by
  refine ⟨?_, ?_, ?_, keys_recordAll_bulkErrors h⟩
  · intro name habsent
    rw [find?_recordAll_bulkErrors h, lastFor?_absenceErrors_of_isAbsent habsent]
    rfl
  · intro before entry later error hsplit hrejects hlater
    subst entries
    have hpresent : ¬ validator.IsAbsent (before ++ entry :: later) entry.1 := by
      intro habsent
      exact habsent.2.2 (by simp)
    rw [find?_recordAll_bulkErrors h, lastFor?_absenceErrors_of_not_isAbsent hpresent,
      lastFor?_rejections_of_rejects hrejects hlater]
    rfl
  · intro name hpresent hpasses
    rw [find?_recordAll_bulkErrors h, lastFor?_absenceErrors_of_not_isAbsent hpresent,
      lastFor?_rejections_of_passes hpasses]
    rfl

theorem validateEntries_settles {validator after : Validator} {entries : List Entry}
    (h : validator.validateEntries entries = (after, .ok ())) :
    validator.Settles entries after.errors ∧
    (∀ entry, validator.Fails entry ↔ ∃! error, validator.Rejects entry error) ∧
    (∀ record : List (String × Value), entries = record.map Entry.ofMember →
      validator.errors = .empty →
      (after.errors.isEmpty = true ↔
        (∀ name value, (name, value) ∈ record →
          validator.config.Defines (some value) ∧
            ∃ field, validator.compiled.find? name = some field ∧
              (validator.config.enforceTypes = true → field.conforms value = true) ∧
              ∀ checker ∈ field.checkers, checker.passes value = true) ∧
        (validator.config.reportAbsentRequired = true →
          ∀ name ∈ validator.schema.requiredNames, name ∈ record.map Prod.fst))) := by
  rw [validateEntries_eq, Prod.mk.injEq] at h
  obtain ⟨hafter, hresult⟩ := h
  subst after
  have hstray := bulkResult_eq_ok_iff.mp hresult
  refine ⟨settles_recordAll_bulkErrors hstray, fun _ => fails_iff_existsUnique_rejects, ?_⟩
  intro record hrecord hempty
  subst entries
  rw [hempty]
  exact isEmpty_recordAll_bulkErrors_iff hstray

def signup : Validator :=
  ((ofRoot .object).performAll
    [.declareField "age" true [.asKind .integer, .min (.num (.ofUInt64 18))] true,
      .declareField "email" true [.asKind .string, .minLength 3] true,
      .declareField "name" false [.asKind .string, .maxLength 3] true,
      .configure ⟨.missing, true, true⟩,
      .validateProperty "name" (.str "long")]).1

theorem validateEntries_settles_signup :
    (signup.validateEntries [("age", some (.num (.ofUInt64 17))), ("name", none)]).2 = .ok () ∧
      signup.Settles [("age", some (.num (.ofUInt64 17))), ("name", none)]
        (signup.validateEntries [("age", some (.num (.ofUInt64 17))), ("name", none)]).1.errors ∧
      (signup.validateEntries
        [("age", some (.num (.ofUInt64 17))), ("name", none)]).1.errors.table.keys =
          ["name", "age", "email"] :=
  ⟨rfl, (validateEntries_settles rfl).1, rfl⟩

end FieldRules.Validator
