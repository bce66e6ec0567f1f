import FieldRules.Proofs.Bulk.Independence
import FieldRules.Proofs.Bulk.Settings
import FieldRules.Proofs.Value.Equality

namespace FieldRules

/-! The order of data decides nothing but the order of what is found. Values whose members stand in
another order, at any depth, fail the same rules and get the same error but for the text of the
value; a record with its names in another order brings each name the same error; and in a batch each
record keeps its errors, wherever it stands. -/

namespace Value

/-- What any reordering keeps: a value as it is, the length of an array, and being an object. -/
inductive SameForm : Value → Value → Prop
  | same (a : Value) : SameForm a a
  | arr {items others : List Value} (length_eq : items.length = others.length) :
      SameForm (.arr items) (.arr others)
  | obj (members others : List (String × Value)) : SameForm (.obj members) (.obj others)

namespace SameForm

variable {a b c : Value}

theorem trans (hab : SameForm a b) (hbc : SameForm b c) : SameForm a c := by
  cases hab with
  | same => exact hbc
  | arr hlength =>
      cases hbc with
      | same => exact .arr hlength
      | arr hlength' => exact .arr (hlength.trans hlength')
  | obj members =>
      cases hbc with
      | same => exact .obj members _
      | obj _ others => exact .obj members others

theorem admits_eq (h : SameForm a b) (kind : Kind) : kind.admits a = kind.admits b := by
  cases h with
  | same => rfl
  | arr => cases kind <;> rfl
  | obj => cases kind <;> rfl

theorem length?_eq (h : SameForm a b) : Test.length? a = Test.length? b := by
  cases h with
  | same => rfl
  | arr hlength => exact congrArg some hlength
  | obj => rfl

theorem compare?_eq (h : SameForm a b) (bound : Number) :
    Test.compare? a bound = Test.compare? b bound := by
  cases h <;> rfl

theorem search_eq (h : SameForm a b) (p : Pattern) : Test.search p a = Test.search p b := by
  cases h <;> rfl

end SameForm

variable {a b : Value}

theorem equalItems_replace (h : ∀ c, a.equal c = b.equal c) (before after others : List Value) :
    equalItems (before ++ a :: after) others = equalItems (before ++ b :: after) others := by
  induction before generalizing others with
  | nil =>
      cases others with
      | nil => rfl
      | cons other others => rw [List.nil_append, List.nil_append, equalItems, equalItems, h]
  | cons item before ih =>
      cases others with
      | nil => rfl
      | cons other others => rw [List.cons_append, List.cons_append, equalItems, equalItems, ih]

theorem equalMembers_replace (h : ∀ c, a.equal c = b.equal c) (name : String)
    (before after others : List (String × Value)) :
    equalMembers (before ++ (name, a) :: after) others =
      equalMembers (before ++ (name, b) :: after) others := by
  induction before with
  | nil =>
      rw [List.nil_append, List.nil_append, equalMembers, equalMembers]
      simp only [h]
  | cons member before ih => rw [List.cons_append, List.cons_append, equalMembers, equalMembers, ih]

theorem equalMembers_perm {members members' : List (String × Value)} (h : members.Perm members')
    (others : List (String × Value)) :
    equalMembers members others = equalMembers members' others := by
  rw [Bool.eq_iff_iff, equalMembers_iff, equalMembers_iff]
  simp only [h.mem_iff]

namespace Reordered

theorem sameForm (h : Reordered a b) : SameForm a b := by
  induction h with
  | refl a => exact .same a
  | trans _ _ ihFirst ihSecond => exact ihFirst.trans ihSecond
  | members => exact .obj _ _
  | item before after => exact .arr (by simp)
  | member => exact .obj _ _

/-- What a reordered value is equal to. The members of the other side are only looked up, so nothing
is asked of their names. -/
theorem equal_eq (h : Reordered a b) (c : Value) : a.equal c = b.equal c := by
  induction h generalizing c with
  | refl => rfl
  | trans _ _ ihFirst ihSecond => exact (ihFirst c).trans (ihSecond c)
  | members hperm =>
      cases c with
      | obj others => rw [equal, equal, hperm.length_eq, equalMembers_perm hperm]
      | _ => rfl
  | item before after _ ih =>
      cases c with
      | arr others => rw [equal, equal, equalItems_replace ih]
      | _ => rfl
  | @member a b before after name _ ih =>
      cases c with
      | obj others =>
          have hlength : (before ++ (name, a) :: after).length =
              (before ++ (name, b) :: after).length := by simp
          rw [equal, equal, equalMembers_replace ih, hlength]
      | _ => rfl

theorem passes_eq (h : Reordered a b) (checker : Checker) :
    checker.passes a = checker.passes b := by
  obtain ⟨test, message⟩ := checker
  rw [Checker.passes, Checker.passes]
  cases test with
  | minLength bound => rw [Test.passes, Test.passes, h.sameForm.length?_eq]
  | maxLength bound => rw [Test.passes, Test.passes, h.sameForm.length?_eq]
  | min bound => rw [Test.passes, Test.passes, h.sameForm.compare?_eq]
  | max bound => rw [Test.passes, Test.passes, h.sameForm.compare?_eq]
  | pattern p => exact h.sameForm.search_eq p
  | equalTo expected => exact h.equal_eq expected
  | email => exact h.sameForm.search_eq Email.pattern

end Reordered

end Value

def FieldError.withBlankGot (error : FieldError) : FieldError :=
  { error with got := error.got.map fun _ => "" }

namespace CompiledField

open Value

variable {field : CompiledField} {name : String} {enforce : Bool} {a b : Value}

theorem conforms_reordered (h : Reordered a b) : field.conforms a = field.conforms b := by
  rw [conforms, conforms]
  cases field.kind with
  | none => rfl
  | some kind => exact h.sameForm.admits_eq kind

theorem allowsType_reordered (h : Reordered a b) :
    field.AllowsType enforce a ↔ field.AllowsType enforce b := by
  rw [allowsType_iff, allowsType_iff, conforms_reordered h]

theorem RejectsFirstAt.reordered {index : Nat} {checker : Checker}
    (hfirst : field.RejectsFirstAt a index checker) (h : Reordered a b) :
    field.RejectsFirstAt b index checker where
  found := hfirst.found
  rejects := by
    rw [← h.passes_eq]
    exact hfirst.rejects
  least earlier hearlier other hother := by
    rw [← h.passes_eq]
    exact hfirst.least earlier hearlier other hother

theorem evaluate_reordered (h : Reordered a b) :
    (field.evaluate name enforce a).map FieldError.withBlankGot =
      (field.evaluate name enforce b).map FieldError.withBlankGot := by
  rw [evaluate, evaluate, conforms_reordered h]
  simp only [h.passes_eq]
  split
  next => rfl
  next =>
    rw [Option.map_map, Option.map_map]
    rfl

end CompiledField

theorem lastFor?_map_withBlankGot (field : String) (errors : List FieldError) :
    lastFor? field (errors.map FieldError.withBlankGot) =
      (lastFor? field errors).map FieldError.withBlankGot := by
  rw [lastFor?_eq_find?_reverse, lastFor?_eq_find?_reverse, ← List.map_reverse, List.find?_map]
  rfl

namespace ErrorMap

variable {left right errors : ErrorMap} {more others : List FieldError}

theorem mem_keys_iff (errors : ErrorMap) (field : String) :
    field ∈ errors.table.keys ↔ (errors.find? field).isSome = true :=
  (Table.contains_iff_mem_keys errors.table).symm

theorem keys_perm_of_find? (h : ∀ field, left.find? field = right.find? field) :
    left.table.keys.Perm right.table.keys := by
  have hleft : left.table.keys.Nodup := left.table.nodup_keys
  have hright : right.table.keys.Nodup := right.table.nodup_keys
  rw [List.perm_ext_iff_of_nodup hleft hright]
  intro field
  rw [mem_keys_iff, mem_keys_iff, h]

/-- Errors that were added to the same ones: each name has the same error on both sides, and the
names that were added differ at most in their order. -/
structure AddsAlike (before left right : ErrorMap) : Prop where
  find?_eq : ∀ name, left.find? name = right.find? name
  keys_eq : ∃ added added', left.table.keys = before.table.keys ++ added ∧
    right.table.keys = before.table.keys ++ added' ∧ added.Perm added'

theorem addsAlike_recordAll
    (h : ∀ name, (errors.recordAll more).find? name = (errors.recordAll others).find? name) :
    AddsAlike errors (errors.recordAll more) (errors.recordAll others) where
  find?_eq := h
  keys_eq := by
    have hperm := keys_perm_of_find? h
    rw [keys_recordAll, keys_recordAll, List.perm_append_left_iff] at hperm
    exact ⟨_, _, keys_recordAll errors more, keys_recordAll errors others, hperm⟩

/-- The same names in the same places, with errors that differ at most in the texts of values. -/
structure AgreesButGot (left right : ErrorMap) : Prop where
  keys_eq : left.table.keys = right.table.keys
  find?_eq : ∀ name, (left.find? name).map FieldError.withBlankGot =
    (right.find? name).map FieldError.withBlankGot

theorem agreesButGot_recordAll
    (h : more.map FieldError.withBlankGot = others.map FieldError.withBlankGot) :
    AgreesButGot (errors.recordAll more) (errors.recordAll others) where
  keys_eq := by
    have hfields : more.map FieldError.field = others.map FieldError.field := by
      have hmapped := congrArg (List.map FieldError.field) h
      rwa [List.map_map, List.map_map] at hmapped
    rw [keys_recordAll, keys_recordAll, hfields]
  find?_eq name := by
    rw [find?_recordAll, find?_recordAll, Option.map_or, Option.map_or,
      ← lastFor?_map_withBlankGot, ← lastFor?_map_withBlankGot, h]

end ErrorMap

namespace Validator

variable {validator : Validator}

section names

variable {entries others : List Entry}

theorem bulkResult_eq_ok_perm (h : entries.Perm others) :
    validator.bulkResult entries = .ok () ↔ validator.bulkResult others = .ok () := by
  rw [bulkResult_eq_ok_iff, bulkResult_eq_ok_iff]
  simp only [h.mem_iff]

theorem absenceErrors_perm (h : entries.Perm others) :
    validator.absenceErrors entries = validator.absenceErrors others := by
  have habsent : ∀ name, validator.IsAbsent entries name ↔ validator.IsAbsent others name := by
    intro name
    rw [IsAbsent, IsAbsent, (h.map Prod.fst).mem_iff]
  simp only [absenceErrors_eq, habsent]

theorem lastFor?_rejections_perm (h : entries.Perm others) (hnodup : (entries.map Prod.fst).Nodup)
    (name : String) :
    lastFor? name (entries.filterMap validator.rejection?) =
      lastFor? name (others.filterMap validator.rejection?) := by
  have hnames : (entries.map Prod.fst).Perm (others.map Prod.fst) := h.map Prod.fst
  by_cases hname : name ∈ entries.map Prod.fst
  · obtain ⟨entry, hentry, rfl⟩ := List.mem_map.mp hname
    rw [lastFor?_rejections_of_mem hnodup hentry,
      lastFor?_rejections_of_mem (hnames.nodup_iff.mp hnodup) (h.mem_iff.mp hentry)]
  · rw [lastFor?_rejections_of_not_mem hname,
      lastFor?_rejections_of_not_mem (hname ∘ hnames.mem_iff.mpr)]

theorem find?_recordAll_bulkErrors_perm (h : entries.Perm others)
    (hnodup : (entries.map Prod.fst).Nodup) (hresult : validator.bulkResult entries = .ok ())
    (name : String) :
    (validator.errors.recordAll (validator.bulkErrors entries)).find? name =
      (validator.errors.recordAll (validator.bulkErrors others)).find? name := by
  have hentries := bulkResult_eq_ok_iff.mp hresult
  have hothers := bulkResult_eq_ok_iff.mp ((bulkResult_eq_ok_perm h).mp hresult)
  rw [find?_recordAll_bulkErrors hentries, find?_recordAll_bulkErrors hothers,
    absenceErrors_perm h, lastFor?_rejections_perm h hnodup]

end names

section members

variable {record other : List (String × Value)} {first second : String × Value}

structure MembersAlike (first second : String × Value) : Prop where
  name_eq : first.1 = second.1
  reordered : Value.Reordered first.2 second.2

theorem defines_reordered {a b : Value} (h : Value.Reordered a b) :
    validator.config.Defines (some a) ↔ validator.config.Defines (some b) := by
  cases h.sameForm <;> rfl

theorem isStray_reordered (h : MembersAlike first second) :
    validator.IsStray (Entry.ofMember first) ↔ validator.IsStray (Entry.ofMember second) := by
  rw [IsStray, IsStray, Entry.ofMember, Entry.ofMember, defines_reordered h.reordered, h.name_eq]

theorem rejection?_reordered (h : MembersAlike first second) :
    (validator.rejection? (Entry.ofMember first)).map FieldError.withBlankGot =
      (validator.rejection? (Entry.ofMember second)).map FieldError.withBlankGot := by
  obtain ⟨name, a⟩ := first
  obtain ⟨name', b⟩ := second
  obtain ⟨hname, hreordered⟩ := h
  dsimp only at hname hreordered
  subst name'
  rw [Entry.ofMember, Entry.ofMember]
  by_cases hdefines : validator.config.Defines (some a)
  · rw [rejection?_of_defined hdefines,
      rejection?_of_defined ((defines_reordered hreordered).mp hdefines)]
    cases validator.compiled.find? name with
    | none => rfl
    | some field => exact CompiledField.evaluate_reordered hreordered
  · have hdefines' : ¬ validator.config.Defines (some b) :=
      hdefines ∘ (defines_reordered hreordered).mpr
    rw [rejection?_of_undefined hdefines, rejection?_of_undefined hdefines']

theorem bulkResult_reordered (h : List.Forall₂ MembersAlike record other) :
    validator.bulkResult (record.map Entry.ofMember) =
      validator.bulkResult (other.map Entry.ofMember) := by
  induction h with
  | nil => rfl
  | @cons first second record other hfirst _ ih =>
      rw [List.map_cons, List.map_cons]
      by_cases hstray : validator.IsStray (Entry.ofMember first)
      · have hname : (Entry.ofMember first).1 = (Entry.ofMember second).1 := hfirst.name_eq
        rw [bulkResult_cons_of_isStray hstray,
          bulkResult_cons_of_isStray ((isStray_reordered hfirst).mp hstray), hname]
      · rw [bulkResult_cons_of_not_isStray hstray,
          bulkResult_cons_of_not_isStray (hstray ∘ (isStray_reordered hfirst).mpr), ih]

theorem rejections_reordered (h : List.Forall₂ MembersAlike record other) :
    ((validator.checked (record.map Entry.ofMember)).filterMap validator.rejection?).map
        FieldError.withBlankGot =
      ((validator.checked (other.map Entry.ofMember)).filterMap validator.rejection?).map
        FieldError.withBlankGot := by
  rw [List.map_filterMap, List.map_filterMap]
  induction h with
  | nil => rfl
  | @cons first second record other hfirst _ ih =>
      rw [List.map_cons, List.map_cons]
      by_cases hstray : validator.IsStray (Entry.ofMember first)
      · rw [checked_cons_of_isStray hstray,
          checked_cons_of_isStray ((isStray_reordered hfirst).mp hstray)]
      · rw [checked_cons_of_not_isStray hstray,
          checked_cons_of_not_isStray (hstray ∘ (isStray_reordered hfirst).mpr),
          List.filterMap_cons, List.filterMap_cons, rejection?_reordered hfirst, ih]

theorem absenceErrors_reordered (h : List.Forall₂ MembersAlike record other) :
    validator.absenceErrors (record.map Entry.ofMember) =
      validator.absenceErrors (other.map Entry.ofMember) := by
  have hnames : (record.map Entry.ofMember).map Prod.fst =
      (other.map Entry.ofMember).map Prod.fst := by
    induction h with
    | nil => rfl
    | cons hfirst _ ih => exact congrArg₂ List.cons hfirst.name_eq ih
  rw [absenceErrors, absenceErrors, absentNames, absentNames, hnames]

theorem bulkErrors_reordered (h : List.Forall₂ MembersAlike record other) :
    (validator.bulkErrors (record.map Entry.ofMember)).map FieldError.withBlankGot =
      (validator.bulkErrors (other.map Entry.ofMember)).map FieldError.withBlankGot := by
  have hresult := validator.bulkResult_reordered h
  have hrejections := validator.rejections_reordered h
  cases hrecord : validator.bulkResult (record.map Entry.ofMember) with
  | error error =>
      rw [bulkErrors_of_error hrecord, bulkErrors_of_error (hresult.symm.trans hrecord),
        hrejections]
  | ok =>
      have hfits := bulkResult_eq_ok_iff.mp hrecord
      have hfits' := bulkResult_eq_ok_iff.mp (hresult.symm.trans hrecord)
      rw [checked_of_no_stray hfits, checked_of_no_stray hfits'] at hrejections
      rw [bulkErrors_of_no_stray hfits, bulkErrors_of_no_stray hfits', List.map_append,
        List.map_append, hrejections, absenceErrors_reordered h]

end members

theorem validateBatch_arranged {records : List (List (String × Value))} {maps : List ErrorMap}
    (h : validator.validateBatch records = .ok maps) :
    maps.length = records.length ∧
      ∀ arranged, (records.zip maps).Perm arranged →
        validator.validateBatch (arranged.map Prod.fst) = .ok (arranged.map Prod.snd) := by
  obtain ⟨hlength, hpairs⟩ := List.forall₂_iff_zip.mp (mapM_eq_ok_iff_forall₂.mp h)
  refine ⟨hlength.symm, ?_⟩
  intro arranged hperm
  apply mapM_eq_ok_iff_forall₂.mpr
  rw [List.forall₂_map_left_iff, List.forall₂_map_right_iff, List.forall₂_same]
  intro pair hpair
  exact hpairs (hperm.mem_iff.mpr hpair)

/-- Neither the order of names in a record nor that of members inside its values changes what is
refused, and a batch in another order gives the same errors in that order. -/
theorem data_order_is_immaterial (validator : Validator) :
    (∀ record other, List.Perm record other → (Entries.keys record).Nodup →
      ((validator.validateAll record).2 = .ok () ↔ (validator.validateAll other).2 = .ok ()) ∧
      ((validator.validateAll record).2 = .ok () →
        validator.errors.AddsAlike (validator.validateAll record).1.errors
          (validator.validateAll other).1.errors)) ∧
    (∀ record other, List.Forall₂ MembersAlike record other →
      (validator.validateAll record).2 = (validator.validateAll other).2 ∧
      (validator.validateAll record).1.errors.AgreesButGot (validator.validateAll other).1.errors) ∧
    (∀ (field : CompiledField) a b, Value.Reordered a b →
      (field.AllowsType validator.config.enforceTypes a ↔
        field.AllowsType validator.config.enforceTypes b) ∧
      ∀ index checker,
        field.RejectsFirstAt a index checker ↔ field.RejectsFirstAt b index checker) ∧
    (∀ records maps, validator.validateBatch records = .ok maps →
      maps.length = records.length ∧
        ∀ arranged, List.Perm (records.zip maps) arranged →
          validator.validateBatch (arranged.map Prod.fst) = .ok (arranged.map Prod.snd)) := by
  refine ⟨?_, ?_, ?_, fun _ _ => validateBatch_arranged⟩
  · intro record other hperm hnodup
    have hentries : (record.map Entry.ofMember).Perm (other.map Entry.ofMember) :=
      hperm.map Entry.ofMember
    have hnames : ((record.map Entry.ofMember).map Prod.fst).Nodup := by
      rw [List.map_map]
      exact hnodup
    rw [validateAll, validateAll, validateEntries_eq, validateEntries_eq]
    refine ⟨bulkResult_eq_ok_perm hentries, fun hresult => ?_⟩
    exact ErrorMap.addsAlike_recordAll (find?_recordAll_bulkErrors_perm hentries hnames hresult)
  · intro record other halike
    rw [validateAll, validateAll, validateEntries_eq, validateEntries_eq]
    exact ⟨bulkResult_reordered halike,
      ErrorMap.agreesButGot_recordAll (bulkErrors_reordered halike)⟩
  · intro field a b hreordered
    refine ⟨CompiledField.allowsType_reordered hreordered, fun index checker => ?_⟩
    exact ⟨fun hfirst => hfirst.reordered hreordered,
      fun hfirst => hfirst.reordered hreordered.symm⟩

def wide : Value := .obj [("width", .num (.ofUInt64 3)), ("height", .num (.ofUInt64 1))]

def turned : Value := .obj [("height", .num (.ofUInt64 1)), ("width", .num (.ofUInt64 3))]

def parcels : Validator :=
  ((ofRoot .object).performAll
    [.declareField "name" true [.asKind .string, .minLength 2] true,
      .declareField "size" false [.asKind .object, .equalTo wide] true,
      .configure ⟨.missing, true, true⟩]).1

theorem data_order_is_immaterial_parcels :
    let record := [("size", wide), ("name", Value.str "A")]
    let other := [("name", Value.str "A"), ("size", wide)]
    let alike := [("size", turned), ("name", Value.str "A")]
    (List.Perm record other ∧ (Entries.keys record).Nodup ∧
      List.Forall₂ MembersAlike record alike ∧ (parcels.validateAll record).2 = .ok ()) ∧
    parcels.errors.AddsAlike (parcels.validateAll record).1.errors
      (parcels.validateAll other).1.errors ∧
    (parcels.validateAll record).1.errors.AgreesButGot (parcels.validateAll alike).1.errors ∧
    (parcels.validateAll alike).1.errors.table.keys = ["name"] ∧
    ∃ found missing, parcels.validateBatch [record, []] = .ok [found, missing] ∧
      parcels.validateBatch [[], record] = .ok [missing, found] := by
  intro record other alike
  have hperm : List.Perm record other := .swap _ _ []
  have hnodup : (Entries.keys record).Nodup := by decide
  have hturned : Value.Reordered wide turned := .members (.swap _ _ [])
  have halike : List.Forall₂ MembersAlike record alike :=
    .cons ⟨rfl, hturned⟩ (.cons ⟨rfl, .refl _⟩ .nil)
  have hresult : (parcels.validateAll record).2 = .ok () := rfl
  have hbatch : parcels.validateBatch [record, []] =
      .ok [(parcels.validateAll record).1.errors, (parcels.validateAll []).1.errors] := rfl
  obtain ⟨hnames, hmembers, -, hrecords⟩ := data_order_is_immaterial parcels
  refine ⟨⟨hperm, hnodup, halike, hresult⟩, (hnames _ _ hperm hnodup).2 hresult,
    (hmembers _ _ halike).2, rfl, _, _, hbatch, ?_⟩
  exact (hrecords _ _ hbatch).2 [([], _), (record, _)] (.swap _ _ [])

end Validator

end FieldRules
