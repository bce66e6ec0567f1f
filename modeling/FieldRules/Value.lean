import FieldRules.Number
import FieldRules.Table

namespace FieldRules

/-- JSON values. The members of an object keep their order. -/
inductive Value where
  | null
  | bool (value : Bool)
  | num (value : Number)
  | str (value : String)
  | arr (items : List Value)
  | obj (members : List (String × Value))
deriving Inhabited

namespace Value

mutual
/-- Whether every object inside a value names each of its members once. -/
def NamesDistinct : Value → Prop
  | .arr items => ItemsNamesDistinct items
  | .obj members => (Entries.keys members).Nodup ∧ MembersNamesDistinct members
  | _ => True

def ItemsNamesDistinct : List Value → Prop
  | [] => True
  | item :: items => NamesDistinct item ∧ ItemsNamesDistinct items

def MembersNamesDistinct : List (String × Value) → Prop
  | [] => True
  | (_, value) :: members => NamesDistinct value ∧ MembersNamesDistinct members
end

mutual
/-- The number of arrays and objects that are nested in a value, itself counted. -/
def depth : Value → Nat
  | .arr items => itemsDepth items + 1
  | .obj members => membersDepth members + 1
  | _ => 0

def itemsDepth : List Value → Nat
  | [] => 0
  | item :: items => max (depth item) (itemsDepth items)

def membersDepth : List (String × Value) → Nat
  | [] => 0
  | (_, value) :: members => max (depth value) (membersDepth members)
end

mutual
/-- Equality by structure: numbers are equal by value, arrays item by item, and objects when
they have equally many members and each member of the first has an equal one of its name in the
second. -/
def equal : Value → Value → Bool
  | .null, .null => true
  | .bool a, .bool b => a == b
  | .num a, .num b => a.compare b == .eq
  | .str a, .str b => a == b
  | .arr items, .arr others => equalItems items others
  | .obj members, .obj others =>
      members.length == others.length && equalMembers members others
  | _, _ => false

def equalItems : List Value → List Value → Bool
  | [], [] => true
  | item :: items, other :: others => equal item other && equalItems items others
  | _, _ => false

def equalMembers : List (String × Value) → List (String × Value) → Bool
  | [], _ => true
  | (name, value) :: members, others =>
      (match Entries.find? name others with
        | some other => equal value other
        | none => false) && equalMembers members others
end

@[elab_as_elim] theorem inductionOnParts {motive : Value → Prop} (null : motive .null)
    (bool : ∀ b, motive (.bool b)) (num : ∀ n, motive (.num n)) (str : ∀ text, motive (.str text))
    (arr : ∀ items, (∀ item ∈ items, motive item) → motive (.arr items))
    (obj : ∀ members, (∀ member ∈ members, motive member.2) → motive (.obj members))
    (value : Value) : motive value := by
  refine @Value.rec motive (fun items => ∀ item ∈ items, motive item)
    (fun members => ∀ member ∈ members, motive member.2) (fun member => motive member.2)
    null bool num str arr obj ?_ ?_ ?_ ?_ ?_ value
  · intro item hitem
    cases hitem
  · intro first items hfirst hitems item hitem
    rcases List.mem_cons.mp hitem with rfl | hitem
    · exact hfirst
    · exact hitems item hitem
  · intro member hmember
    cases hmember
  · intro first members hfirst hmembers member hmember
    rcases List.mem_cons.mp hmember with rfl | hmember
    · exact hfirst
    · exact hmembers member hmember
  · exact fun _ _ hvalue => hvalue

theorem itemsNamesDistinct_iff {items : List Value} :
    ItemsNamesDistinct items ↔ ∀ item ∈ items, item.NamesDistinct := by
  induction items with
  | nil => simp [ItemsNamesDistinct]
  | cons item items ih => simp [ItemsNamesDistinct, ih]

theorem membersNamesDistinct_iff {members : List (String × Value)} :
    MembersNamesDistinct members ↔ ∀ member ∈ members, member.2.NamesDistinct := by
  induction members with
  | nil => simp [MembersNamesDistinct]
  | cons member members ih => simp [MembersNamesDistinct, ih]

theorem namesDistinct_arr {items : List Value} :
    (arr items).NamesDistinct ↔ ∀ item ∈ items, item.NamesDistinct := by
  rw [NamesDistinct, itemsNamesDistinct_iff]

theorem namesDistinct_obj {members : List (String × Value)} :
    (obj members).NamesDistinct ↔
      (Entries.keys members).Nodup ∧ ∀ member ∈ members, member.2.NamesDistinct := by
  rw [NamesDistinct, membersNamesDistinct_iff]

theorem equalItems_iff {items others : List Value} :
    equalItems items others = true ↔
      items.length = others.length ∧
        ∀ (i : Nat) a b, items[i]? = some a → others[i]? = some b → a.equal b = true := by
  induction items generalizing others with
  | nil => cases others <;> simp [equalItems]
  | cons item items ih =>
      cases others with
      | nil => simp [equalItems]
      | cons other others =>
          rw [equalItems, Bool.and_eq_true, ih, List.length_cons, List.length_cons]
          constructor
          · rintro ⟨hfirst, hlength, hrest⟩
            refine ⟨congrArg (· + 1) hlength, fun i a b ha hb => ?_⟩
            cases i with
            | zero =>
                cases ha
                cases hb
                exact hfirst
            | succ i => exact hrest i a b ha hb
          · rintro ⟨hlength, hall⟩
            exact ⟨hall 0 item other rfl rfl, Nat.succ.inj hlength,
              fun i a b ha hb => hall (i + 1) a b ha hb⟩

theorem equalMembers_iff {members others : List (String × Value)} :
    equalMembers members others = true ↔
      ∀ member ∈ members, ∃ other,
        Entries.find? member.1 others = some other ∧ member.2.equal other = true := by
  induction members with
  | nil => simp [equalMembers]
  | cons member members ih =>
      rw [equalMembers, Bool.and_eq_true, ih, List.forall_mem_cons]
      cases Entries.find? member.1 others with
      | none => simp
      | some other => simp

end Value

end FieldRules
