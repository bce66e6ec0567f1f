/-! Sets of characters as ranges of code points, and their UTF-8 codes as words over ranges of
bytes. Ranges that overlap or touch are joined; the ranges on the two sides of the surrogates do not
touch. -/

namespace FieldRules

namespace Digest

def start : UInt64 := 14695981039346656037

/-- One step of the function FNV-1a, by a whole word. -/
def add (digest word : UInt64) : UInt64 := (digest ^^^ word) * 1099511628211

def ofWords (words : List UInt64) : UInt64 := words.foldl add start

end Digest

end FieldRules

namespace FieldRules.Unicode

/-- Ascending runs `(first, last, step)` of the code points `first, first + step, …, last`. -/
abbrev CodeSet := List (Nat × Nat × Nat)

namespace CodeSet

def contains (set : CodeSet) (c : Char) : Bool :=
  set.any fun (first, last, step) =>
    first ≤ c.toNat && c.toNat ≤ last && (c.toNat - first) % step == 0

/-- The runs as ranges `(first, last)`, one for each code point of a run with gaps. -/
def ranges (set : CodeSet) : List (Nat × Nat) :=
  set.flatMap fun (first, last, step) =>
    if step = 1 then [(first, last)]
    else (List.range ((last - first) / step + 1)).map fun i =>
      (first + i * step, first + i * step)

end CodeSet

/-- A set of characters: the ranges `(first, last)` of its code points, in ascending order. -/
structure CharSet where
  ranges : List (Nat × Nat)
deriving DecidableEq

def greatestCode : Nat := 0x10FFFF

/-- The code point behind another one, past the surrogates. -/
def codeAfter (code : Nat) : Nat :=
  if code = 0xD7FF then 0xE000 else code + 1

def codeBefore (code : Nat) : Nat :=
  if code = 0xE000 then 0xD7FF else code - 1

namespace CharSet

def within (code : Nat) (range : Nat × Nat) : Bool :=
  range.1 ≤ code && code ≤ range.2

def contains (set : CharSet) (c : Char) : Bool :=
  set.ranges.any (within c.toNat)

def empty : CharSet := ⟨[]⟩

def any : CharSet := ⟨[(0, greatestCode)]⟩

def range (first last : Char) : CharSet := ⟨[(first.toNat, last.toNat)]⟩

def single (c : Char) : CharSet := range c c

def ascii : CharSet := ⟨[(0, 0x7F)]⟩

def asciiDigit : CharSet := range '0' '9'

def asciiBlank : CharSet := ⟨[(0x9, 0xD), (0x20, 0x20)]⟩

def asciiWord : CharSet := ⟨[(0x30, 0x39), (0x41, 0x5A), (0x5F, 0x5F), (0x61, 0x7A)]⟩

/-- Joins the range from `first` to `last` with those of later ranges that overlap or touch it. -/
def joinFrom (first last : Nat) : List (Nat × Nat) → List (Nat × Nat)
  | [] => [(first, last)]
  | (next, stop) :: ranges =>
      if next ≤ last + 1 then joinFrom first (max last stop) ranges
      else (first, last) :: joinFrom next stop ranges

def ofRanges (ranges : List (Nat × Nat)) : CharSet :=
  match ranges.mergeSort fun a b => a.1 ≤ b.1 with
  | [] => empty
  | (first, last) :: ranges => ⟨joinFrom first last ranges⟩

def ofCodes (codes : List Nat) : CharSet :=
  ofRanges (codes.map fun code => (code, code))

def ofTables (tables : List CodeSet) : CharSet :=
  ofRanges (tables.flatMap CodeSet.ranges)

def unionAll (sets : List CharSet) : CharSet :=
  ofRanges (sets.flatMap ranges)

def union (left right : CharSet) : CharSet := unionAll [left, right]

def inter (left right : CharSet) : CharSet :=
  ⟨left.ranges.flatMap fun (first, last) =>
    right.ranges.filterMap fun (next, stop) =>
      if max first next ≤ min last stop then some (max first next, min last stop) else none⟩

/-- What is left of the range from `first` to `last` outside of later ranges. -/
def cut (first last : Nat) : List (Nat × Nat) → List (Nat × Nat)
  | [] => [(first, last)]
  | (next, stop) :: ranges =>
      if last < next then [(first, last)]
      else if stop < first then cut first last ranges
      else
        (if first < next then [(first, codeBefore next)] else []) ++
          (if stop < last then cut (codeAfter stop) last ranges else [])

def diff (left right : CharSet) : CharSet :=
  ⟨left.ranges.flatMap fun (first, last) => cut first last right.ranges⟩

def symmDiff (left right : CharSet) : CharSet :=
  (left.union right).diff (left.inter right)

/-- The ranges between ranges that follow `last`. Two ranges that end and start at the surrogates do
not touch, and their two neighbouring code points are taken for the range between them. -/
def gaps (last : Nat) : List (Nat × Nat) → List (Nat × Nat)
  | [] => if last < greatestCode then [(codeAfter last, greatestCode)] else []
  | (next, stop) :: ranges =>
      (min (codeAfter last) (codeBefore next), max (codeAfter last) (codeBefore next)) ::
        gaps stop ranges

def compl (set : CharSet) : CharSet :=
  match set.ranges with
  | [] => any
  | (first, last) :: ranges =>
      ⟨(if 0 < first then [(0, codeBefore first)] else []) ++ gaps last ranges⟩

def single? (set : CharSet) : Option Char :=
  match set.ranges with
  | [(first, last)] => if first = last then some (Char.ofNat first) else none
  | _ => none

def isAscii (set : CharSet) : Bool :=
  set.ranges.all fun (_, last) => last < 0x80

def digest (set : CharSet) : UInt64 :=
  set.ranges.foldl (fun digest (first, last) =>
    Digest.add (Digest.add digest (.ofNat first)) (.ofNat last)) Digest.start

/-- The set with all that is paired with one of its members, from the first to the second of a pair
and then back. -/
def close (pairs : List (Nat × Nat)) (set : CharSet) : CharSet :=
  let images := pairs.filterMap fun (code, image) =>
    if set.ranges.any (within code) then some image else none
  let set := set.union (ofCodes images)
  let codes := pairs.filterMap fun (code, image) =>
    if set.ranges.any (within image) then some code else none
  set.union (ofCodes codes)

@[simp] theorem contains_empty (c : Char) : empty.contains c = false := rfl

@[simp] theorem contains_any (c : Char) : any.contains c = true := by
  have h : c.toNat ≤ greatestCode := by
    have := c.valid
    simp only [UInt32.isValidChar, Nat.isValidChar] at this
    simp only [greatestCode, Char.toNat]
    omega
  simp [contains, any, within, h]

theorem contains_range (first last c : Char) :
    (range first last).contains c = (first ≤ c && c ≤ last) := by
  simp [contains, range, within, Char.le_def, UInt32.le_iff_toNat_le]

theorem contains_single (c d : Char) : (single c).contains d = (d == c) := by
  rw [single, contains_range, Bool.eq_iff_iff]
  simp only [Bool.and_eq_true, decide_eq_true_eq, beq_iff_eq]
  exact ⟨fun h => Char.le_antisymm h.2 h.1, fun h => h ▸ ⟨Char.le_refl _, Char.le_refl _⟩⟩

theorem any_within_joinFrom (code : Nat) (ranges : List (Nat × Nat)) :
    ∀ first last, (∀ range ∈ ranges, first ≤ range.1) → ranges.Pairwise (·.1 ≤ ·.1) →
      (joinFrom first last ranges).any (within code) =
        (within code (first, last) || ranges.any (within code)) := by
  induction ranges with
  | nil => simp [joinFrom]
  | cons range ranges ih =>
    intro first last hfirst hsorted
    obtain ⟨next, stop⟩ := range
    have hnext : first ≤ next := hfirst (next, stop) (List.mem_cons_self ..)
    rw [List.pairwise_cons] at hsorted
    rw [joinFrom, List.any_cons]
    split
    · rw [ih first (max last stop) (fun r h => hfirst r (List.mem_cons_of_mem _ h)) hsorted.2,
        ← Bool.or_assoc]
      congr 1
      rw [Bool.eq_iff_iff]
      simp only [within, Bool.and_eq_true, Bool.or_eq_true, decide_eq_true_eq]
      omega
    · rw [List.any_cons, ih next stop hsorted.1 hsorted.2]

theorem contains_ofRanges (ranges : List (Nat × Nat)) (c : Char) :
    (ofRanges ranges).contains c = ranges.any (within c.toNat) := by
  have hperm := List.mergeSort_perm ranges fun a b => a.1 ≤ b.1
  have hsorted : (ranges.mergeSort fun a b => a.1 ≤ b.1).Pairwise
      fun a b => decide (a.1 ≤ b.1) = true :=
    List.pairwise_mergeSort (by simp only [decide_eq_true_eq]; omega)
      (by simp only [Bool.or_eq_true, decide_eq_true_eq]; omega) ranges
  rw [← hperm.any_eq, ofRanges]
  revert hsorted
  generalize ranges.mergeSort (fun a b => decide (a.1 ≤ b.1)) = sorted
  intro hsorted
  cases sorted with
  | nil => rfl
  | cons range sorted =>
    simp only [decide_eq_true_eq, List.pairwise_cons] at hsorted
    exact any_within_joinFrom _ _ _ _ hsorted.1 hsorted.2

@[simp] theorem contains_unionAll (sets : List CharSet) (c : Char) :
    (unionAll sets).contains c = sets.any (·.contains c) := by
  simp only [unionAll, contains_ofRanges, List.any_flatMap]
  rfl

@[simp] theorem contains_union (left right : CharSet) (c : Char) :
    (left.union right).contains c = (left.contains c || right.contains c) := by
  simp [union]

@[simp] theorem contains_inter (left right : CharSet) (c : Char) :
    (left.inter right).contains c = (left.contains c && right.contains c) := by
  rw [Bool.eq_iff_iff]
  simp only [contains, inter, within, List.any_eq_true, List.mem_flatMap, List.mem_filterMap,
    Bool.and_eq_true, decide_eq_true_eq]
  constructor
  · rintro ⟨range, ⟨r, hr, s, hs, h⟩, hc⟩
    split at h
    · cases h
      exact ⟨⟨r, hr, by omega⟩, ⟨s, hs, by omega⟩⟩
    · cases h
  · rintro ⟨⟨r, hr, hrc⟩, ⟨s, hs, hsc⟩⟩
    exact ⟨(max r.1 s.1, min r.2 s.2), ⟨r, hr, s, hs, by rw [if_pos (by omega)]⟩, by omega⟩

end CharSet

abbrev ByteRange := UInt8 × UInt8

namespace Utf8

/-- Parts a range after each of the given code points that lies inside it. -/
def partAfter (range : Nat × Nat) : List Nat → List (Nat × Nat)
  | [] => [range]
  | bound :: bounds =>
      if range.1 ≤ bound ∧ bound < range.2 then
        (range.1, bound) :: partAfter (codeAfter bound, range.2) bounds
      else partAfter range bounds

/-- Parts a range into the end of a block, full blocks and the start of a block, and the full blocks
again for the greater blocks of the next size. -/
def partBlocks (range : Nat × Nat) : List Nat → List (Nat × Nat)
  | [] => [range]
  | size :: sizes =>
      let (first, last) := range
      if first / size = last / size then [range]
      else
        let start := (first + size - 1) / size * size
        let stop := (last + 1) / size * size
        (if first < start then [(first, start - 1)] else []) ++
          (if start < stop then partBlocks (start, stop - 1) sizes else []) ++
          (if stop ≤ last then [(stop, last)] else [])

def code (n : Nat) : List UInt8 :=
  String.utf8EncodeChar (Char.ofNat n)

/-- The words of a range, in the order of their code points. The range is parted first where the
length of the codes grows and at the surrogates, which have no codes. -/
def wordsOfRange (range : Nat × Nat) : List (List ByteRange) :=
  (partAfter range [0x7F, 0x7FF, 0xD7FF, 0xFFFF]).flatMap fun part =>
    if part.2 < 0x80 then [[(.ofNat part.1, .ofNat part.2)]]
    else (partBlocks part [0x40, 0x1000, 0x40000]).map fun (first, last) =>
      (code first).zip (code last)

end Utf8

def CharSet.words (set : CharSet) : List (List ByteRange) :=
  set.ranges.flatMap Utf8.wordsOfRange

end FieldRules.Unicode
