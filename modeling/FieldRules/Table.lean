/-! Lists of named entries, and tables of one value per name. A name is looked up at its first
entry, written in place when it has one, and appended when it has none, so a table keeps its names
in the order in which they first came. It is determined by that order and by what it finds under the
names. -/

namespace FieldRules.Entries

variable {α : Type} {name other : String} {value : α} {entries : List (String × α)}

def keys (entries : List (String × α)) : List String :=
  entries.map Prod.fst

def find? (name : String) : List (String × α) → Option α
  | [] => none
  | (key, value) :: rest => if key = name then some value else find? name rest

def insert (name : String) (value : α) : List (String × α) → List (String × α)
  | [] => [(name, value)]
  | (key, old) :: rest =>
      if key = name then (name, value) :: rest else (key, old) :: insert name value rest

def erase (name : String) (entries : List (String × α)) : List (String × α) :=
  entries.filter fun entry => entry.1 != name

@[simp] theorem keys_nil : keys ([] : List (String × α)) = [] := rfl

@[simp] theorem keys_cons (entry : String × α) :
    keys (entry :: entries) = entry.1 :: keys entries := rfl

@[simp] theorem keys_append (left right : List (String × α)) :
    keys (left ++ right) = keys left ++ keys right :=
  List.map_append

theorem find?_eq_none_iff : find? name entries = none ↔ name ∉ keys entries := by
  induction entries with
  | nil => simp [find?]
  | cons entry rest ih =>
      by_cases h : entry.1 = name
      · simp [find?, h]
      · simp [find?, h, ih, Ne.symm h]

theorem isSome_find?_iff : (find? name entries).isSome ↔ name ∈ keys entries := by
  rw [← Option.ne_none_iff_isSome, ne_eq, find?_eq_none_iff, Classical.not_not]

@[simp] theorem find?_insert_self : find? name (insert name value entries) = some value := by
  induction entries with
  | nil => simp [insert, find?]
  | cons entry rest ih =>
      by_cases h : entry.1 = name
      · simp [insert, find?, h]
      · simp [insert, find?, h, ih]

theorem find?_insert_of_ne (h : other ≠ name) :
    find? other (insert name value entries) = find? other entries := by
  induction entries with
  | nil => simp [insert, find?, Ne.symm h]
  | cons entry rest ih =>
      by_cases hentry : entry.1 = name
      · simp [insert, find?, hentry, Ne.symm h]
      · simp [insert, find?, hentry, ih]

theorem keys_insert_of_mem (h : name ∈ keys entries) :
    keys (insert name value entries) = keys entries := by
  induction entries with
  | nil => simp at h
  | cons entry rest ih =>
      by_cases hentry : entry.1 = name
      · simp [insert, hentry]
      · have hrest : name ∈ keys rest := by simpa [Ne.symm hentry] using h
        simp [insert, hentry, ih hrest]

theorem insert_of_not_mem (h : name ∉ keys entries) :
    insert name value entries = entries ++ [(name, value)] := by
  induction entries with
  | nil => rfl
  | cons entry rest ih =>
      have hentry : entry.1 ≠ name := fun heq => h (by simp [heq])
      have hrest : name ∉ keys rest := fun hmem => h (by simp [hmem])
      simp [insert, hentry, ih hrest]

theorem keys_insert_of_not_mem (h : name ∉ keys entries) :
    keys (insert name value entries) = keys entries ++ [name] := by
  simp [insert_of_not_mem h]

theorem nodup_keys_insert (h : (keys entries).Nodup) :
    (keys (insert name value entries)).Nodup := by
  by_cases hmem : name ∈ keys entries
  · rwa [keys_insert_of_mem hmem]
  · rw [keys_insert_of_not_mem hmem, List.nodup_append]
    refine ⟨h, List.nodup_cons.2 ⟨by simp, List.nodup_nil⟩, ?_⟩
    intro left hleft right hright heq
    subst right
    exact hmem (List.mem_singleton.1 hright ▸ hleft)

theorem keys_erase : keys (erase name entries) = (keys entries).filter (· != name) := by
  induction entries with
  | nil => rfl
  | cons entry rest ih =>
      by_cases h : entry.1 = name
      · simpa [erase, h] using ih
      · simpa [erase, h] using ih

theorem nodup_keys_erase (h : (keys entries).Nodup) : (keys (erase name entries)).Nodup := by
  rw [keys_erase]
  exact h.filter _

@[simp] theorem find?_erase_self : find? name (erase name entries) = none := by
  rw [find?_eq_none_iff, keys_erase]
  simp

theorem find?_erase_of_ne (h : other ≠ name) :
    find? other (erase name entries) = find? other entries := by
  induction entries with
  | nil => rfl
  | cons entry rest ih =>
      by_cases hentry : entry.1 = name
      · simpa [erase, find?, hentry, Ne.symm h] using ih
      · by_cases hother : entry.1 = other
        · simp [erase, find?, hother, h]
        · simpa [erase, find?, hentry, hother] using ih

theorem find?_of_mem (hnodup : (keys entries).Nodup) (hmem : (name, value) ∈ entries) :
    find? name entries = some value := by
  induction entries with
  | nil => cases hmem
  | cons entry rest ih =>
      obtain ⟨hfresh, hrest⟩ := List.nodup_cons.mp hnodup
      rcases List.mem_cons.mp hmem with rfl | htail
      · simp [find?]
      · have hne : entry.1 ≠ name := by
          intro heq
          exact hfresh (heq ▸ List.mem_map_of_mem htail)
        simpa [find?, hne] using ih hrest htail

theorem not_mem_keys_of_nodup {before after : List (String × α)} {entry : String × α}
    (hnodup : (keys (before ++ entry :: after)).Nodup) : entry.1 ∉ keys before := by
  rw [keys_append, List.nodup_append] at hnodup
  exact fun hbefore => hnodup.2.2 _ hbefore _ List.mem_cons_self rfl

theorem eq_of_find? {left right : List (String × α)} (hnodup : (keys left).Nodup)
    (hkeys : keys left = keys right)
    (hfind : ∀ name, find? name left = find? name right) : left = right := by
  induction left generalizing right with
  | nil =>
      cases right with
      | nil => rfl
      | cons entry rest => cases hkeys
  | cons entry rest ih =>
      cases right with
      | nil => cases hkeys
      | cons other others =>
          obtain ⟨key, value⟩ := entry
          obtain ⟨key', value'⟩ := other
          simp only [keys_cons, List.cons.injEq] at hkeys
          obtain ⟨rfl, hkeys⟩ := hkeys
          obtain ⟨hfresh, hrest⟩ := List.nodup_cons.mp hnodup
          have hvalue : value = value' := by
            simpa [find?] using hfind key
          have htail : rest = others := by
            apply ih hrest hkeys
            intro name
            by_cases heq : key = name
            · subst name
              rw [find?_eq_none_iff.mpr hfresh, find?_eq_none_iff.mpr (hkeys ▸ hfresh)]
            · simpa [find?, heq] using hfind name
          rw [hvalue, htail]

end FieldRules.Entries

namespace FieldRules

structure Table (α : Type) where
  entries : List (String × α)
  nodup_keys : (Entries.keys entries).Nodup

namespace Table

variable {α : Type} {name other : String} {value : α}

def empty : Table α := ⟨[], List.nodup_nil⟩

def keys (table : Table α) : List String := Entries.keys table.entries

def values (table : Table α) : List α := table.entries.map Prod.snd

def size (table : Table α) : Nat := table.entries.length

def isEmpty (table : Table α) : Bool := table.entries.isEmpty

def find? (table : Table α) (name : String) : Option α :=
  Entries.find? name table.entries

def contains (table : Table α) (name : String) : Bool :=
  (table.find? name).isSome

def insert (table : Table α) (name : String) (value : α) : Table α :=
  ⟨Entries.insert name value table.entries, Entries.nodup_keys_insert table.nodup_keys⟩

/-- Removes a name; the others keep their order. -/
def erase (table : Table α) (name : String) : Table α :=
  ⟨Entries.erase name table.entries, Entries.nodup_keys_erase table.nodup_keys⟩

@[ext] theorem ext {left right : Table α} (h : left.entries = right.entries) : left = right := by
  cases left
  cases right
  simp_all

@[simp] theorem find?_empty : (empty : Table α).find? name = none := rfl

@[simp] theorem keys_empty : (empty : Table α).keys = [] := rfl

@[simp] theorem find?_insert_self (table : Table α) :
    (table.insert name value).find? name = some value :=
  Entries.find?_insert_self

theorem find?_insert_of_ne (table : Table α) (h : other ≠ name) :
    (table.insert name value).find? other = table.find? other :=
  Entries.find?_insert_of_ne h

@[simp] theorem find?_erase_self (table : Table α) : (table.erase name).find? name = none :=
  Entries.find?_erase_self

theorem find?_erase_of_ne (table : Table α) (h : other ≠ name) :
    (table.erase name).find? other = table.find? other :=
  Entries.find?_erase_of_ne h

theorem contains_iff_mem_keys (table : Table α) : table.contains name ↔ name ∈ table.keys :=
  Entries.isSome_find?_iff

theorem keys_insert_of_mem (table : Table α) (h : name ∈ table.keys) :
    (table.insert name value).keys = table.keys :=
  Entries.keys_insert_of_mem h

theorem keys_insert_of_not_mem (table : Table α) (h : name ∉ table.keys) :
    (table.insert name value).keys = table.keys ++ [name] :=
  Entries.keys_insert_of_not_mem h

theorem keys_erase (table : Table α) :
    (table.erase name).keys = table.keys.filter (· != name) :=
  Entries.keys_erase

theorem eq_of_find? {left right : Table α} (hkeys : left.keys = right.keys)
    (hfind : ∀ name, left.find? name = right.find? name) : left = right :=
  Table.ext (Entries.eq_of_find? left.nodup_keys hkeys hfind)

theorem find?_insert (table : Table α) :
    (table.insert name value).find? other =
      if other = name then some value else table.find? other := by
  split
  next heq => rw [heq, find?_insert_self]
  next hne => exact find?_insert_of_ne table hne

theorem find?_erase (table : Table α) :
    (table.erase name).find? other = if other = name then none else table.find? other := by
  split
  next heq => rw [heq, find?_erase_self]
  next hne => exact find?_erase_of_ne table hne

theorem keys_insert (table : Table α) :
    (table.insert name value).keys =
      if name ∈ table.keys then table.keys else table.keys ++ [name] := by
  split
  next hmem => exact keys_insert_of_mem table hmem
  next hnew => exact keys_insert_of_not_mem table hnew

theorem contains_insert (table : Table α) :
    (table.insert name value).contains other =
      if other = name then true else table.contains other := by
  rw [contains, find?_insert]
  split
  next => rfl
  next => rfl

theorem contains_erase (table : Table α) :
    (table.erase name).contains other =
      if other = name then false else table.contains other := by
  rw [contains, find?_erase]
  split
  next => rfl
  next => rfl

theorem isEmpty_iff_keys_eq_nil (table : Table α) : table.isEmpty = true ↔ table.keys = [] := by
  simp [isEmpty, keys, Entries.keys]

end Table

end FieldRules
