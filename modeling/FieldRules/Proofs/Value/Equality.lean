import FieldRules.Proofs.Number.Comparison
import FieldRules.Value
import Mathlib.Data.List.Perm.Subperm

namespace FieldRules

namespace Entries

variable {α β : Type} {name : String} {value : α} {entries others : List (String × α)}

theorem mem_of_find? (h : find? name entries = some value) : (name, value) ∈ entries := by
  induction entries with
  | nil => cases h
  | cons entry rest ih =>
      rw [find?] at h
      split at h
      next hkey =>
        cases h
        rw [← hkey]
        exact List.mem_cons_self
      next => exact List.mem_cons_of_mem entry (ih h)

theorem find?_eq_some_iff_mem (hnodup : (keys entries).Nodup) :
    find? name entries = some value ↔ (name, value) ∈ entries :=
  ⟨mem_of_find?, find?_of_mem hnodup⟩

theorem find?_perm (hperm : entries.Perm others) (hnodup : (keys entries).Nodup) :
    find? name entries = find? name others := by
  have hothers : (keys others).Nodup := (hperm.map Prod.fst).nodup_iff.mp hnodup
  apply Option.ext
  intro value
  rw [find?_eq_some_iff_mem hnodup, find?_eq_some_iff_mem hothers, hperm.mem_iff]

theorem find?_append (before after : List (String × α)) :
    find? name (before ++ after) = (find? name before).or (find? name after) := by
  induction before with
  | nil => rfl
  | cons entry before ih =>
      rw [List.cons_append, find?, find?]
      split
      next => rfl
      next => exact ih

theorem find?_append_cons_self {before after : List (String × α)} (hfresh : name ∉ keys before) :
    find? name (before ++ (name, value) :: after) = some value := by
  rw [find?_append, find?_eq_none_iff.mpr hfresh]
  simp [find?]

theorem find?_append_cons_of_ne {other : String} (before after : List (String × α))
    (hne : other ≠ name) :
    find? other (before ++ (name, value) :: after) = find? other (before ++ after) := by
  rw [find?_append, find?_append, find?, if_neg hne.symm]

theorem keys_perm_of_find? {others : List (String × β)} (hentries : (keys entries).Nodup)
    (hlength : entries.length = others.length)
    (hfind : ∀ name ∈ keys entries, name ∈ keys others) : (keys entries).Perm (keys others) := by
  have hsub : (keys entries).Subperm (keys others) := List.subperm_of_subset hentries hfind
  apply hsub.perm_of_length_le
  simp [keys, hlength]

end Entries

namespace Value

/-- Equality by structure: of numbers when neither is the greater one, of arrays item by item, and
of objects when every name is either missing in both or has related values in both. -/
inductive Alike : Value → Value → Prop
  | null : Alike .null .null
  | bool (b : Bool) : Alike (.bool b) (.bool b)
  | num {x y : Number} (compare_eq : x.compare y = .eq) : Alike (.num x) (.num y)
  | str (text : String) : Alike (.str text) (.str text)
  | arr {items others : List Value} (length_eq : items.length = others.length)
      (item : ∀ (i : Nat) a b, items[i]? = some a → others[i]? = some b → Alike a b) :
      Alike (.arr items) (.arr others)
  | obj {members others : List (String × Value)}
      (missing : ∀ name, Entries.find? name members = none ↔ Entries.find? name others = none)
      (member : ∀ name a b, Entries.find? name members = some a →
        Entries.find? name others = some b → Alike a b) :
      Alike (.obj members) (.obj others)

namespace Alike

variable {a b c : Value}

theorem refl (a : Value) : Alike a a := by
  induction a using inductionOnParts with
  | null => exact .null
  | bool b => exact .bool b
  | num n => exact .num n.compare_self
  | str text => exact .str text
  | arr items ih =>
      refine .arr rfl fun i a b ha hb => ?_
      obtain rfl : a = b := Option.some.inj (ha.symm.trans hb)
      exact ih a (List.mem_of_getElem? ha)
  | obj members ih =>
      refine .obj (fun _ => Iff.rfl) fun name a b ha hb => ?_
      obtain rfl : a = b := Option.some.inj (ha.symm.trans hb)
      exact ih _ (Entries.mem_of_find? ha)

theorem symm (h : Alike a b) : Alike b a := by
  induction h with
  | null => exact .null
  | bool b => exact .bool b
  | num heq => exact .num (Number.compare_eq_eq_comm.mp heq)
  | str text => exact .str text
  | arr hlength _ ih => exact .arr hlength.symm fun i a b ha hb => ih i b a hb ha
  | obj hmissing _ ih =>
      exact .obj (fun name => (hmissing name).symm) fun name a b ha hb => ih name b a hb ha

end Alike

theorem equal_arr_iff {items others : List Value} :
    (arr items).equal (arr others) = true ↔
      items.length = others.length ∧
        ∀ (i : Nat) a b, items[i]? = some a → others[i]? = some b → a.equal b = true := by
  rw [equal, equalItems_iff]

theorem equal_obj_iff {members others : List (String × Value)}
    (hmembers : (Entries.keys members).Nodup) (hothers : (Entries.keys others).Nodup) :
    (obj members).equal (obj others) = true ↔
      (∀ name, Entries.find? name members = none ↔ Entries.find? name others = none) ∧
        ∀ name a b, Entries.find? name members = some a → Entries.find? name others = some b →
          a.equal b = true := by
  rw [equal, Bool.and_eq_true, beq_iff_eq, equalMembers_iff]
  constructor
  · rintro ⟨hlength, hequal⟩
    have hperm : (Entries.keys members).Perm (Entries.keys others) := by
      apply Entries.keys_perm_of_find? hmembers hlength
      intro name hname
      obtain ⟨member, hmember, rfl⟩ := List.mem_map.mp hname
      obtain ⟨other, hother, -⟩ := hequal member hmember
      exact Entries.isSome_find?_iff.mp (hother ▸ rfl)
    constructor
    · intro name
      rw [Entries.find?_eq_none_iff, Entries.find?_eq_none_iff, hperm.mem_iff]
    · intro name a b ha hb
      obtain ⟨other, hother, hvalue⟩ := hequal (name, a) (Entries.mem_of_find? ha)
      obtain rfl : other = b := Option.some.inj (hother.symm.trans hb)
      exact hvalue
  · rintro ⟨hmissing, hequal⟩
    constructor
    · have hperm : (Entries.keys members).Perm (Entries.keys others) := by
        rw [List.perm_ext_iff_of_nodup hmembers hothers]
        intro name
        have hname := hmissing name
        rwa [Entries.find?_eq_none_iff, Entries.find?_eq_none_iff, not_iff_not] at hname
      simpa [Entries.keys] using hperm.length_eq
    · intro member hmember
      have hfind := Entries.find?_of_mem hmembers hmember
      cases hother : Entries.find? member.1 others with
      | none =>
          rw [(hmissing member.1).mpr hother] at hfind
          cases hfind
      | some other => exact ⟨other, rfl, hequal member.1 member.2 other hfind hother⟩

theorem alike_bool_iff {x y : Bool} : Alike (bool x) (bool y) ↔ x = y := by
  constructor
  · intro h
    cases h
    rfl
  · intro h
    exact h ▸ .bool x

theorem alike_num_iff {x y : Number} : Alike (num x) (num y) ↔ x.compare y = .eq := by
  constructor
  · intro h
    cases h with
    | num heq => exact heq
  · exact .num

theorem alike_str_iff {text other : String} : Alike (str text) (str other) ↔ text = other := by
  constructor
  · intro h
    cases h
    rfl
  · intro h
    exact h ▸ .str text

theorem alike_arr_iff {items others : List Value} :
    Alike (arr items) (arr others) ↔
      items.length = others.length ∧
        ∀ (i : Nat) a b, items[i]? = some a → others[i]? = some b → Alike a b := by
  constructor
  · intro h
    cases h with
    | arr hlength hitem => exact ⟨hlength, hitem⟩
  · intro h
    exact .arr h.1 h.2

theorem alike_obj_iff {members others : List (String × Value)} :
    Alike (obj members) (obj others) ↔
      (∀ name, Entries.find? name members = none ↔ Entries.find? name others = none) ∧
        ∀ name a b, Entries.find? name members = some a → Entries.find? name others = some b →
          Alike a b := by
  constructor
  · intro h
    cases h with
    | obj hmissing hmember => exact ⟨hmissing, hmember⟩
  · intro h
    exact .obj h.1 h.2

theorem equal_iff_alike {a b : Value} (ha : a.NamesDistinct) (hb : b.NamesDistinct) :
    a.equal b = true ↔ Alike a b := by
  induction a using inductionOnParts generalizing b with
  | null =>
      cases b with
      | null => exact ⟨fun _ => .null, fun _ => rfl⟩
      | _ => exact ⟨nofun, nofun⟩
  | bool x =>
      cases b with
      | bool y => exact beq_iff_eq.trans alike_bool_iff.symm
      | _ => exact ⟨nofun, nofun⟩
  | num x =>
      cases b with
      | num y => exact beq_iff_eq.trans alike_num_iff.symm
      | _ => exact ⟨nofun, nofun⟩
  | str text =>
      cases b with
      | str other => exact beq_iff_eq.trans alike_str_iff.symm
      | _ => exact ⟨nofun, nofun⟩
  | arr items ih =>
      cases b with
      | arr others =>
          rw [namesDistinct_arr] at ha hb
          rw [equal_arr_iff, alike_arr_iff]
          refine and_congr_right fun _ => forall₃_congr fun i a b => ?_
          refine imp_congr_right fun hi => imp_congr_right fun hi' => ?_
          have hmem := List.mem_of_getElem? hi
          exact ih a hmem (ha a hmem) (hb b (List.mem_of_getElem? hi'))
      | _ => exact ⟨nofun, nofun⟩
  | obj members ih =>
      cases b with
      | obj others =>
          rw [namesDistinct_obj] at ha hb
          rw [equal_obj_iff ha.1 hb.1, alike_obj_iff]
          refine and_congr_right fun _ => forall₃_congr fun name a b => ?_
          refine imp_congr_right fun hname => imp_congr_right fun hname' => ?_
          have hmem := Entries.mem_of_find? hname
          exact ih _ hmem (ha.2 _ hmem) (hb.2 _ (Entries.mem_of_find? hname'))
      | _ => exact ⟨nofun, nofun⟩

theorem equal_self {a : Value} (ha : a.NamesDistinct) : a.equal a = true :=
  (equal_iff_alike ha ha).mpr (.refl a)

theorem equal_comm {a b : Value} (ha : a.NamesDistinct) (hb : b.NamesDistinct) :
    a.equal b = b.equal a := by
  rw [Bool.eq_iff_iff, equal_iff_alike ha hb, equal_iff_alike hb ha]
  exact ⟨Alike.symm, Alike.symm⟩

/-- One value is the other with the members of objects in another order, at any depth. -/
inductive Reordered : Value → Value → Prop
  | refl (a : Value) : Reordered a a
  | trans {a b c : Value} (first : Reordered a b) (second : Reordered b c) : Reordered a c
  | members {members others : List (String × Value)} (perm : members.Perm others) :
      Reordered (.obj members) (.obj others)
  | item {a b : Value} (before after : List Value) (h : Reordered a b) :
      Reordered (.arr (before ++ a :: after)) (.arr (before ++ b :: after))
  | member {a b : Value} (before after : List (String × Value)) (name : String)
      (h : Reordered a b) :
      Reordered (.obj (before ++ (name, a) :: after)) (.obj (before ++ (name, b) :: after))

namespace Reordered

variable {a b c : Value}

private theorem getElem?_append_cons_of_ne {before after : List Value} {i : Nat}
    (hne : i ≠ before.length) : (before ++ a :: after)[i]? = (before ++ b :: after)[i]? := by
  rcases Nat.lt_or_gt_of_ne hne with hlt | hgt
  · rw [List.getElem?_append_left hlt, List.getElem?_append_left hlt]
  · obtain ⟨k, rfl⟩ := Nat.exists_eq_add_of_lt hgt
    rw [Nat.add_assoc, List.getElem?_append_right (Nat.le_add_right _ _),
      List.getElem?_append_right (Nat.le_add_right _ _), Nat.add_sub_cancel_left]
    rfl

theorem symm (h : Reordered a b) : Reordered b a := by
  induction h with
  | refl a => exact .refl a
  | trans _ _ ihFirst ihSecond => exact .trans ihSecond ihFirst
  | members hperm => exact .members hperm.symm
  | item before after _ ih => exact .item before after ih
  | member before after name _ ih => exact .member before after name ih

theorem namesDistinct (h : Reordered a b) (ha : a.NamesDistinct) : b.NamesDistinct := by
  induction h with
  | refl => exact ha
  | trans _ _ ihFirst ihSecond => exact ihSecond (ihFirst ha)
  | members hperm =>
      rw [namesDistinct_obj] at ha ⊢
      exact ⟨(hperm.map Prod.fst).nodup_iff.mp ha.1,
        fun member hmember => ha.2 member (hperm.mem_iff.mpr hmember)⟩
  | item before after _ ih =>
      simp only [namesDistinct_arr, List.forall_mem_append, List.forall_mem_cons] at ha ⊢
      exact ⟨ha.1, ih ha.2.1, ha.2.2⟩
  | member before after name _ ih =>
      simp only [namesDistinct_obj, Entries.keys_append, Entries.keys_cons,
        List.forall_mem_append, List.forall_mem_cons] at ha ⊢
      exact ⟨ha.1, ha.2.1, ih ha.2.2.1, ha.2.2.2⟩

theorem alike (h : Reordered a b) (ha : a.NamesDistinct) (hac : Alike a c) : Alike b c := by
  induction h generalizing c with
  | refl => exact hac
  | trans first _ ihFirst ihSecond => exact ihSecond (first.namesDistinct ha) (ihFirst ha hac)
  | @members members others hperm =>
      have hfind (name : String) : Entries.find? name members = Entries.find? name others :=
        Entries.find?_perm hperm (namesDistinct_obj.mp ha).1
      cases hac with
      | obj hmissing halike =>
          simp only [hfind] at hmissing halike
          exact .obj hmissing halike
  | @item a b before after _ ih =>
      cases hac with
      | @arr _ others hlength halike =>
          refine .arr (by simpa using hlength) fun i first second hi hi' => ?_
          by_cases hplace : i = before.length
          · subst i
            obtain rfl : b = first := by simpa using hi
            have hbefore := (namesDistinct_arr.mp ha) a (by simp)
            exact ih hbefore (halike before.length a second (by simp) hi')
          · apply halike i first second _ hi'
            rw [← hi]
            exact getElem?_append_cons_of_ne hplace
  | @member a b before after name _ ih =>
      have hdistinct := namesDistinct_obj.mp ha
      have hfresh : name ∉ Entries.keys before := Entries.not_mem_keys_of_nodup hdistinct.1
      cases hac with
      | @obj _ others hmissing halike =>
          refine .obj (fun other => ?_) fun other first second hother hother' => ?_
          · rw [← hmissing other]
            by_cases hname : other = name
            · subst other
              rw [Entries.find?_append_cons_self hfresh, Entries.find?_append_cons_self hfresh]
              simp
            · rw [Entries.find?_append_cons_of_ne before after hname,
                Entries.find?_append_cons_of_ne before after hname]
          · by_cases hname : other = name
            · subst other
              rw [Entries.find?_append_cons_self hfresh] at hother
              cases hother
              exact ih (hdistinct.2 (name, a) (by simp))
                (halike name a second (Entries.find?_append_cons_self hfresh) hother')
            · apply halike other first second _ hother'
              rw [← hother, Entries.find?_append_cons_of_ne before after hname,
                Entries.find?_append_cons_of_ne before after hname]

end Reordered

/-- Equality is the structural relation. So it is reflexive and symmetric, and the order of members
does not matter, at any depth of either value. -/
theorem equal_is_structural (a b : Value) (ha : a.NamesDistinct) (hb : b.NamesDistinct) :
    (a.equal b = true ↔ Alike a b) ∧ a.equal a = true ∧ a.equal b = b.equal a ∧
      ∀ a' b', Reordered a a' → Reordered b b' → a'.equal b' = a.equal b := by
  refine ⟨equal_iff_alike ha hb, equal_self ha, equal_comm ha hb, fun a' b' haa' hbb' => ?_⟩
  have ha' := haa'.namesDistinct ha
  have hb' := hbb'.namesDistinct hb
  rw [Bool.eq_iff_iff, equal_iff_alike ha' hb', equal_iff_alike ha hb]
  constructor
  · intro h
    exact (hbb'.symm.alike hb' (haa'.symm.alike ha' h).symm).symm
  · intro h
    exact (hbb'.alike hb (haa'.alike ha h).symm).symm

theorem equal_is_structural_settings :
    let sizes := ("sizes", arr [num (.int (-1) (by decide) (by decide)), null])
    let theme := ("theme", str "dark")
    (obj [theme, sizes]).NamesDistinct ∧ (obj [sizes, theme]).NamesDistinct ∧
      Reordered (obj [theme, sizes]) (obj [sizes, theme]) ∧
      (obj [theme, sizes]).equal (obj [sizes, theme]) = true := by
  intro sizes theme
  have hdistinct : (obj [theme, sizes]).NamesDistinct := by
    simp [NamesDistinct, MembersNamesDistinct, ItemsNamesDistinct, theme, sizes]
  have hreordered : Reordered (obj [theme, sizes]) (obj [sizes, theme]) :=
    .members (.swap sizes theme [])
  obtain ⟨-, hself, -, horder⟩ := equal_is_structural _ _ hdistinct hdistinct
  refine ⟨hdistinct, hreordered.namesDistinct hdistinct, hreordered, ?_⟩
  rw [horder _ _ (.refl _) hreordered, hself]

end Value

end FieldRules
