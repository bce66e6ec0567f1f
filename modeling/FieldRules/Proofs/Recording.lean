import FieldRules.Report
import Mathlib.Data.Finset.Card
import Mathlib.Data.List.DropRight
import Mathlib.Data.List.Induction

namespace FieldRules

/-! Recording errors one after the other: a field holds its last error, in the place where it first
failed. So what a map has kept since the last clear comes to the same as all that was recorded, and
its report holds just these errors, in their order. -/

theorem filter_eraseDups (keep : String → Bool) (names : List String) :
    names.eraseDups.filter keep = (names.filter keep).eraseDups := by
  induction hlength : names.length using Nat.strongRecOn generalizing names with
  | ind length ih =>
      cases names with
      | nil => rfl
      | cons name rest =>
          have hshorter : (rest.filter fun other => !other == name).length < length := by
            have hle := List.length_filter_le (fun other => !other == name) rest
            simp only [List.length_cons] at hlength
            omega
          have hrest := ih _ hshorter (rest.filter fun other => !other == name) rfl
          rw [List.eraseDups_cons]
          cases hkeep : keep name with
          | true =>
              rw [List.filter_cons_of_pos hkeep, List.filter_cons_of_pos hkeep,
                List.eraseDups_cons, hrest, List.filter_filter, List.filter_filter]
              simp only [Bool.and_comm]
          | false =>
              have hdropped : ¬ keep name = true := by simp [hkeep]
              rw [List.filter_cons_of_neg hdropped, List.filter_cons_of_neg hdropped, hrest,
                List.filter_filter]
              apply congrArg List.eraseDups
              apply List.filter_congr
              intro other _
              cases hother : keep other with
              | false => rfl
              | true =>
                  have hne : other ≠ name := by
                    intro heq
                    rw [heq, hkeep] at hother
                    cases hother
                  simp [hne]

theorem eraseDups_of_nodup {names : List String} (h : names.Nodup) : names.eraseDups = names := by
  induction names with
  | nil => rfl
  | cons name rest ih =>
      obtain ⟨hfresh, hrest⟩ := List.nodup_cons.mp h
      have hkept : (rest.filter fun other => !other == name) = rest := by
        rw [List.filter_eq_self]
        intro other hother
        have hne : other ≠ name := fun heq => hfresh (heq ▸ hother)
        simp [hne]
      rw [List.eraseDups_cons, hkept, ih hrest]

/-- The names that are not known yet, each where it first comes. -/
def newNames (known names : List String) : List String :=
  (names.filter (· ∉ known)).eraseDups

section newNames

variable {known names more : List String}

theorem newNames_append_of_disjoint (hnodup : more.Nodup)
    (hdisjoint : ∀ name ∈ more, name ∉ names) :
    newNames known (names ++ more) = newNames known names ++ more.filter (· ∉ known) := by
  have hkept : (more.filter (· ∉ known)).removeAll (names.filter (· ∉ known)) =
      more.filter (· ∉ known) := by
    rw [List.removeAll, List.filter_eq_self]
    intro name hname
    have hfresh := hdisjoint name (List.mem_filter.mp hname).1
    simp [hfresh]
  rw [newNames, List.filter_append, List.eraseDups_append, hkept,
    eraseDups_of_nodup (hnodup.filter _), newNames]

theorem newNames_eq_nil (h : ∀ name ∈ names, name ∈ known) : newNames known names = [] := by
  have hnone : names.filter (· ∉ known) = [] := by
    rw [List.filter_eq_nil_iff]
    intro name hname
    simp [h name hname]
  rw [newNames, hnone]
  rfl

end newNames

def lastFor? (field : String) (errors : List FieldError) : Option FieldError :=
  errors.findRev? (·.field == field)

section lastFor?

variable {field : String} {error : FieldError} {errors : List FieldError}

theorem lastFor?_eq_find?_reverse :
    lastFor? field errors = errors.reverse.find? (·.field == field) :=
  List.findRev?_eq_find?_reverse

theorem lastFor?_cons :
    lastFor? field (error :: errors) =
      (lastFor? field errors).or (if field = error.field then some error else none) := by
  rw [lastFor?_eq_find?_reverse, List.reverse_cons, List.find?_append, List.find?_singleton,
    ← lastFor?_eq_find?_reverse]
  simp only [beq_iff_eq, eq_comm (a := field)]

theorem lastFor?_append (errors more : List FieldError) :
    lastFor? field (errors ++ more) = (lastFor? field more).or (lastFor? field errors) := by
  simp only [lastFor?_eq_find?_reverse, List.reverse_append, List.find?_append]

theorem lastFor?_eq_none_iff :
    lastFor? field errors = none ↔ ∀ error ∈ errors, error.field ≠ field := by
  rw [lastFor?_eq_find?_reverse, List.find?_eq_none]
  simp

theorem mem_and_field_of_lastFor? (h : lastFor? field errors = some error) :
    error ∈ errors ∧ error.field = field := by
  rw [lastFor?_eq_find?_reverse] at h
  have hmem := List.mem_of_find?_eq_some h
  have hfield := List.find?_some h
  exact ⟨List.mem_reverse.mp hmem, beq_iff_eq.mp hfield⟩

end lastFor?

namespace ErrorMap

variable {field : String}

def merge (errors more : ErrorMap) : ErrorMap := errors.recordAll more.toList

/-- Each error stands under its own field. -/
def Keyed (errors : ErrorMap) : Prop :=
  ∀ field error, errors.find? field = some error → error.field = field

@[simp] theorem recordAll_nil (errors : ErrorMap) : errors.recordAll [] = errors := rfl

@[simp] theorem recordAll_cons (errors : ErrorMap) (error : FieldError) (more : List FieldError) :
    errors.recordAll (error :: more) = (errors.record error).recordAll more := rfl

theorem recordAll_append (errors : ErrorMap) (first second : List FieldError) :
    errors.recordAll (first ++ second) = (errors.recordAll first).recordAll second :=
  List.foldl_append

theorem eq_of_find? {left right : ErrorMap} (hkeys : left.table.keys = right.table.keys)
    (hfind : ∀ field, left.find? field = right.find? field) : left = right := by
  obtain ⟨left⟩ := left
  obtain ⟨right⟩ := right
  exact congrArg ErrorMap.mk (Table.eq_of_find? hkeys hfind)

theorem find?_record (errors : ErrorMap) (error : FieldError) :
    (errors.record error).find? field =
      if field = error.field then some error else errors.find? field :=
  Table.find?_insert errors.table

/-- A field holds its last error, or else what it held before. -/
theorem find?_recordAll (errors : ErrorMap) (more : List FieldError) :
    (errors.recordAll more).find? field = (lastFor? field more).or (errors.find? field) := by
  induction more generalizing errors with
  | nil => rfl
  | cons error rest ih =>
      rw [recordAll_cons, ih, find?_record, lastFor?_cons, Option.or_assoc]
      split
      next => rfl
      next => rfl

theorem contains_recordAll_iff (errors : ErrorMap) (more : List FieldError) :
    (errors.recordAll more).contains field = true ↔
      field ∈ more.map FieldError.field ∨ errors.contains field = true := by
  have hfind : (errors.recordAll more).contains field =
      ((lastFor? field more).or (errors.find? field)).isSome :=
    congrArg Option.isSome (find?_recordAll errors more)
  rw [hfind]
  cases hlast : lastFor? field more with
  | none =>
      have hfresh := lastFor?_eq_none_iff.mp hlast
      have hnew : field ∉ more.map FieldError.field := by simpa using hfresh
      simp only [hnew, false_or, Option.none_or]
      exact Iff.rfl
  | some error =>
      obtain ⟨hmem, hfield⟩ := mem_and_field_of_lastFor? hlast
      have hknown : field ∈ more.map FieldError.field := hfield ▸ List.mem_map_of_mem hmem
      simp [hknown]

/-- Known fields keep their places; new ones follow in the order of their first errors. -/
theorem keys_recordAll (errors : ErrorMap) (more : List FieldError) :
    (errors.recordAll more).table.keys =
      errors.table.keys ++ newNames errors.table.keys (more.map FieldError.field) := by
  unfold newNames
  induction more generalizing errors with
  | nil => simp
  | cons error rest ih =>
      have hrecord : (errors.record error).table.keys =
          if error.field ∈ errors.table.keys then errors.table.keys
          else errors.table.keys ++ [error.field] :=
        Table.keys_insert errors.table
      rw [recordAll_cons, ih, hrecord, List.map_cons]
      split
      next hmem => rw [List.filter_cons_of_neg (by simp [hmem])]
      next hnew =>
        rw [List.append_assoc, List.filter_cons_of_pos (by simp [hnew]), List.eraseDups_cons,
          List.filter_filter]
        simp [Bool.and_comm, Bool.beq_eq_decide_eq]

theorem keys_recordAll_empty (more : List FieldError) :
    (empty.recordAll more).table.keys = (more.map FieldError.field).eraseDups := by
  have hall : (more.map FieldError.field).filter (· ∉ empty.table.keys) =
      more.map FieldError.field := by
    rw [List.filter_eq_self]
    intro field _
    simp [empty]
  rw [keys_recordAll, newNames, hall]
  rfl

/-- Recorded again, errors change nothing: their fields have places, and hold the last of them. -/
theorem recordAll_recordAll_self (errors : ErrorMap) (more : List FieldError) :
    (errors.recordAll more).recordAll more = errors.recordAll more := by
  apply eq_of_find?
  · have hknown : ∀ field ∈ more.map FieldError.field,
        field ∈ (errors.recordAll more).table.keys := by
      intro field hfield
      apply (Table.contains_iff_mem_keys (errors.recordAll more).table).mp
      exact (contains_recordAll_iff errors more).mpr (.inl hfield)
    rw [keys_recordAll (errors.recordAll more), newNames_eq_nil hknown, List.append_nil]
  · intro field
    rw [find?_recordAll, find?_recordAll, ← Option.or_assoc, Option.or_self]

theorem isEmpty_recordAll_empty_iff {more : List FieldError} :
    (empty.recordAll more).isEmpty = true ↔ more = [] := by
  rw [isEmpty, Table.isEmpty_iff_keys_eq_nil, keys_recordAll_empty]
  cases more with
  | nil => simp
  | cons error rest => simp [List.eraseDups_cons]

theorem keyed_empty : Keyed empty := by
  intro field error hfind
  cases hfind

theorem Keyed.record {errors : ErrorMap} (h : errors.Keyed) (error : FieldError) :
    (errors.record error).Keyed := by
  intro field found hfind
  rw [find?_record] at hfind
  split at hfind
  next heq =>
    cases hfind
    exact heq.symm
  next => exact h field found hfind

theorem Keyed.recordAll {errors : ErrorMap} (h : errors.Keyed) (more : List FieldError) :
    (errors.recordAll more).Keyed := by
  induction more generalizing errors with
  | nil => exact h
  | cons error rest ih => exact ih (h.record error)

theorem Keyed.field_eq {errors : ErrorMap} (h : errors.Keyed) {entry : String × FieldError}
    (hmem : entry ∈ errors.table.entries) : entry.2.field = entry.1 :=
  h entry.1 entry.2 (Entries.find?_of_mem errors.table.nodup_keys hmem)

theorem Keyed.map_field_toList {errors : ErrorMap} (h : errors.Keyed) :
    errors.toList.map FieldError.field = errors.table.keys := by
  rw [toList, Table.values, List.map_map, Table.keys, Entries.keys]
  apply List.map_congr_left
  intro entry hmem
  exact h.field_eq hmem

private theorem lastFor?_values {entries : List (String × FieldError)}
    (hnodup : (Entries.keys entries).Nodup) (hkeyed : ∀ entry ∈ entries, entry.2.field = entry.1) :
    lastFor? field (entries.map Prod.snd) = Entries.find? field entries := by
  induction entries with
  | nil => rfl
  | cons entry rest ih =>
      obtain ⟨hfresh, hrest⟩ := List.nodup_cons.mp hnodup
      have hfield := hkeyed entry List.mem_cons_self
      have htail := ih hrest fun other hother => hkeyed other (List.mem_cons_of_mem entry hother)
      rw [List.map_cons, lastFor?_cons, htail, hfield]
      split
      next heq =>
        rw [heq, Entries.find?_eq_none_iff.mpr hfresh]
        simp [Entries.find?]
      next hne => simp [Entries.find?, Ne.symm hne]

theorem Keyed.lastFor?_toList {errors : ErrorMap} (h : errors.Keyed) :
    lastFor? field errors.toList = errors.find? field :=
  lastFor?_values errors.table.nodup_keys fun _ hmem => h.field_eq hmem

theorem merge_recordAll_empty (errors : ErrorMap) (more : List FieldError) :
    errors.merge (empty.recordAll more) = errors.recordAll more := by
  have hkeyed : (empty.recordAll more).Keyed := keyed_empty.recordAll more
  apply eq_of_find?
  · have hnodup : (empty.recordAll more).table.keys.Nodup :=
      (empty.recordAll more).table.nodup_keys
    rw [merge, keys_recordAll, keys_recordAll, hkeyed.map_field_toList, newNames, newNames,
      eraseDups_of_nodup (hnodup.filter _), keys_recordAll_empty, filter_eraseDups]
  · intro field
    have hempty : empty.find? field = none := rfl
    rw [merge, find?_recordAll, find?_recordAll, hkeyed.lastFor?_toList, find?_recordAll, hempty,
      Option.or_none]

end ErrorMap

namespace Report

variable {left right report : Report} {errors : List FieldError}

theorem toList_inj : left.toList = right.toList ↔ left = right := by
  obtain ⟨first, more⟩ := left
  obtain ⟨first', more'⟩ := right
  simp [toList]

theorem append_assoc (first second third : Report) :
    first ++ second ++ third = first ++ (second ++ third) := by
  apply toList_inj.mp
  simp only [toList_append, List.append_assoc]

theorem toList_foldl_append_single (report : Report) (more : List FieldError) :
    (more.foldl (fun report error => report ++ single error) report).toList =
      report.toList ++ more := by
  induction more generalizing report with
  | nil => exact (List.append_nil _).symm
  | cons error rest ih =>
      rw [List.foldl_cons, ih, toList_append, toList_single, List.append_assoc,
        List.singleton_append]

theorem ofList?_eq_none_iff : ofList? errors = none ↔ errors = [] := by
  cases errors with
  | nil => simp [ofList?]
  | cons first more => simp [ofList?]

theorem ofList?_eq_some_iff : ofList? errors = some report ↔ report.toList = errors := by
  cases errors with
  | nil => simp [ofList?, toList]
  | cons first more =>
      have hfold := toList_foldl_append_single (single first) more
      rw [toList_single, List.singleton_append] at hfold
      rw [ofList?, Option.some.injEq, ← toList_inj, hfold, eq_comm]

structure Joins (left right joined : Report) : Prop where
  toList_eq : joined.toList = left.toList ++ right.toList
  size_eq : joined.size = left.size + right.size
  forField?_eq : ∀ field,
    joined.forField? field = (left.forField? field).or (right.forField? field)
  withCode_eq : ∀ code, joined.withCode code = left.withCode code ++ right.withCode code

theorem joins_append (left right : Report) : Joins left right (left ++ right) where
  toList_eq := toList_append left right
  size_eq := by rw [size, toList_append, List.length_append, size, size]
  forField?_eq field := by rw [forField?, toList_append, List.find?_append, forField?, forField?]
  withCode_eq code := by rw [withCode, toList_append, List.filter_append, withCode, withCode]

end Report

namespace ErrorMap

variable {errors : ErrorMap} {field : String} {report : Report}

inductive Step where
  | record (error : FieldError)
  | clear

def Step.recorded? : Step → Option FieldError
  | .record error => some error
  | .clear => none

def perform (errors : ErrorMap) : Step → ErrorMap
  | .record error => errors.record error
  | .clear => empty

def after (errors : ErrorMap) (steps : List Step) : ErrorMap := steps.foldl perform errors

/-- The errors that were recorded since the last clear. -/
def sinceClear (steps : List Step) : List FieldError :=
  (steps.rtakeWhile (·.recorded?.isSome)).filterMap Step.recorded?

theorem sinceClear_concat_record (steps : List Step) (error : FieldError) :
    sinceClear (steps ++ [.record error]) = sinceClear steps ++ [error] := by
  rw [sinceClear, List.rtakeWhile_concat_pos _ _ _ rfl, List.filterMap_append]
  rfl

theorem sinceClear_concat_clear (steps : List Step) : sinceClear (steps ++ [.clear]) = [] := by
  rw [sinceClear, List.rtakeWhile_concat_neg _ _ _ Bool.false_ne_true]
  rfl

theorem after_empty (steps : List Step) :
    empty.after steps = empty.recordAll (sinceClear steps) := by
  induction steps using List.reverseRecOn with
  | nil => rfl
  | append_singleton steps step ih =>
      have hlast : empty.after (steps ++ [step]) = (empty.after steps).perform step :=
        List.foldl_concat _ _ _ _
      rw [hlast, ih]
      cases step with
      | record error =>
          rw [sinceClear_concat_record, recordAll_append]
          rfl
      | clear =>
          rw [sinceClear_concat_clear]
          rfl

theorem toList_eq_filterMap_keys (errors : ErrorMap) :
    errors.toList = errors.table.keys.filterMap errors.find? := by
  rw [toList, Table.values, Table.keys, Entries.keys, List.filterMap_map, ← List.filterMap_eq_map]
  apply List.filterMap_congr
  intro entry hmem
  exact (Entries.find?_of_mem errors.table.nodup_keys hmem).symm

private theorem find?_values {entries : List (String × FieldError)}
    (hkeyed : ∀ entry ∈ entries, entry.2.field = entry.1) :
    (entries.map Prod.snd).find? (·.field == field) = Entries.find? field entries := by
  induction entries with
  | nil => rfl
  | cons entry rest ih =>
      have hfield := hkeyed entry List.mem_cons_self
      have htail := ih fun other hother => hkeyed other (List.mem_cons_of_mem entry hother)
      by_cases heq : entry.1 = field
      · simp [Entries.find?, hfield, heq]
      · simpa [Entries.find?, hfield, heq] using htail

theorem Keyed.find?_toList (h : errors.Keyed) :
    errors.toList.find? (·.field == field) = errors.find? field :=
  find?_values fun _ hmem => h.field_eq hmem

theorem Keyed.messages_eq (h : errors.Keyed) :
    errors.messages = errors.toList.map fun error => (error.field, error.message) := by
  rw [messages, toList, Table.values, List.map_map]
  apply List.map_congr_left
  intro entry hmem
  simp only [Function.comp_apply, h.field_eq hmem]

theorem toList_recordAll_empty (log : List FieldError) :
    (empty.recordAll log).toList =
      (log.map FieldError.field).eraseDups.filterMap (lastFor? · log) := by
  have hfind : (empty.recordAll log).find? = (lastFor? · log) := by
    funext field
    rw [find?_recordAll]
    exact Option.or_none
  rw [toList_eq_filterMap_keys, keys_recordAll_empty, hfind]

theorem map_field_toList_recordAll_empty (log : List FieldError) :
    (empty.recordAll log).toList.map FieldError.field = (log.map FieldError.field).eraseDups := by
  rw [(keyed_empty.recordAll log).map_field_toList, keys_recordAll_empty]

theorem nodup_map_field_recordAll_empty (log : List FieldError) :
    ((empty.recordAll log).toList.map FieldError.field).Nodup := by
  rw [(keyed_empty.recordAll log).map_field_toList]
  exact (empty.recordAll log).table.nodup_keys

theorem size_recordAll_empty (log : List FieldError) :
    (empty.recordAll log).size = (log.map FieldError.field).toFinset.card := by
  have hfields : ((empty.recordAll log).toList.map FieldError.field).toFinset =
      (log.map FieldError.field).toFinset := by
    ext field
    rw [map_field_toList_recordAll_empty, List.mem_toFinset, List.mem_toFinset,
      List.mem_eraseDups]
  rw [← hfields, List.toFinset_card_of_nodup (nodup_map_field_recordAll_empty log)]
  simp [size, Table.size, toList, Table.values]

theorem Keyed.contains_iff (h : errors.Keyed) :
    errors.contains field = true ↔ field ∈ errors.toList.map FieldError.field := by
  rw [h.map_field_toList]
  exact Table.contains_iff_mem_keys errors.table

/-- What a map holds of a log: the last error of each field, once, in the order in which the fields
first come. All ways of reading the map agree with this list. -/
structure Summarizes (errors : ErrorMap) (log : List FieldError) : Prop where
  toList_eq : errors.toList = (log.map FieldError.field).eraseDups.filterMap (lastFor? · log)
  fields_eq : errors.toList.map FieldError.field = (log.map FieldError.field).eraseDups
  nodup : (errors.toList.map FieldError.field).Nodup
  size_eq : errors.size = (log.map FieldError.field).toFinset.card
  isEmpty_iff : errors.isEmpty = true ↔ log = []
  contains_iff : ∀ field,
    errors.contains field = true ↔ field ∈ errors.toList.map FieldError.field
  find?_eq : ∀ field, errors.find? field = errors.toList.find? (·.field == field)
  message?_eq : ∀ field, errors.message? field =
    (errors.toList.find? (·.field == field)).map FieldError.message
  messages_eq : errors.messages = errors.toList.map fun error => (error.field, error.message)

theorem summarizes_recordAll_empty (log : List FieldError) :
    (empty.recordAll log).Summarizes log where
  toList_eq := toList_recordAll_empty log
  fields_eq := map_field_toList_recordAll_empty log
  nodup := nodup_map_field_recordAll_empty log
  size_eq := size_recordAll_empty log
  isEmpty_iff := isEmpty_recordAll_empty_iff
  contains_iff _ := (keyed_empty.recordAll log).contains_iff
  find?_eq _ := (keyed_empty.recordAll log).find?_toList.symm
  message?_eq field := by rw [message?, (keyed_empty.recordAll log).find?_toList]
  messages_eq := (keyed_empty.recordAll log).messages_eq

/-- What the report of a map tells: all of its errors, in their order. -/
structure IsReportedBy (errors : ErrorMap) (report : Report) : Prop where
  toList_eq : report.toList = errors.toList
  head?_eq : errors.toList.head? = some report.first
  forField?_eq : ∀ field, report.forField? field = errors.find? field

theorem Keyed.isReportedBy (hkeyed : errors.Keyed) (h : errors.report? = some report) :
    errors.IsReportedBy report := by
  have hlist : report.toList = errors.toList := Report.ofList?_eq_some_iff.mp h
  constructor
  · exact hlist
  · rw [← hlist]
    rfl
  · intro field
    rw [Report.forField?, hlist, hkeyed.find?_toList]

theorem toList_eq_nil_iff (errors : ErrorMap) : errors.toList = [] ↔ errors.isEmpty = true := by
  simp [toList, isEmpty, Table.values, Table.isEmpty]

theorem report?_recordAll_empty_eq_none_iff {log : List FieldError} :
    (empty.recordAll log).report? = none ↔ log = [] := by
  rw [report?, Report.ofList?_eq_none_iff, toList_eq_nil_iff, isEmpty_recordAll_empty_iff]

theorem history_is_reported (steps : List Step) (first second third : Report) :
    (empty.after steps).Summarizes (sinceClear steps) ∧
    ((empty.after steps).report? = none ↔ sinceClear steps = []) ∧
    (∀ report, (empty.after steps).report? = some report →
      (empty.after steps).IsReportedBy report) ∧
    Report.Joins first second (first ++ second) ∧
    first ++ second ++ third = first ++ (second ++ third) := by
  rw [after_empty]
  refine ⟨summarizes_recordAll_empty _, report?_recordAll_empty_eq_none_iff, ?_,
    Report.joins_append first second, Report.append_assoc first second third⟩
  intro report hreport
  exact (keyed_empty.recordAll _).isReportedBy hreport

def wardrobe : List Step :=
  [.record (.ofMessage "hat" "too big"), .clear, .record (.ofMessage "coat" "torn"),
    .record (.ofMessage "hat" "too small"), .record (.ofMessage "coat" "lost")]

def losses : Report := .single (.ofMessage "coat" "lost") ++ .single (.ofMessage "hat" "too small")

theorem history_is_reported_wardrobe :
    (empty.after wardrobe).report? = some losses ∧
      (empty.after wardrobe).IsReportedBy losses := by
  have hreport : (empty.after wardrobe).report? = some losses := by decide
  have hreported := (history_is_reported wardrobe losses losses losses).2.2.1 losses hreport
  exact ⟨hreport, hreported⟩

end ErrorMap

end FieldRules
