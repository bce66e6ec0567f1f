import FieldRules.Number
import Mathlib.Tactic.SplitIfs

namespace FieldRules

variable {m n d : Nat}

theorem div_le_roundDivEven (n d : Nat) : n / d ≤ roundDivEven n d := by
  unfold roundDivEven
  dsimp only
  split
  · exact Nat.le_refl _
  · split <;> omega

theorem roundDivEven_le_succ_div (n d : Nat) : roundDivEven n d ≤ n / d + 1 := by
  unfold roundDivEven
  dsimp only
  split
  · exact Nat.le_succ _
  · split <;> omega

theorem roundDivEven_mono (h : m ≤ n) : roundDivEven m d ≤ roundDivEven n d := by
  rcases Nat.lt_or_eq_of_le (Nat.div_le_div_right (c := d) h) with hlt | heq
  · calc
      roundDivEven m d ≤ m / d + 1 := roundDivEven_le_succ_div m d
      _ ≤ n / d := hlt
      _ ≤ roundDivEven n d := div_le_roundDivEven n d
  · have hrem : m % d ≤ n % d := by
      have hm := Nat.div_add_mod m d
      have hn := Nat.div_add_mod n d
      rw [heq] at hm
      omega
    rw [roundDivEven, roundDivEven, heq]
    split_ifs <;> omega

theorem round53_eq (n : Nat) :
    round53 n = roundDivEven n (1 <<< (n.log2 - 52)) <<< (n.log2 - 52) := by
  simp only [round53, roundDiv53, Nat.div_one]

theorem one_shiftLeft_log2_le_round53 (hn : n ≠ 0) : 1 <<< n.log2 ≤ round53 n := by
  rw [round53_eq]
  simp only [Nat.shiftLeft_eq, Nat.one_mul]
  have hsplit : 2 ^ n.log2 = 2 ^ n.log2 / 2 ^ (n.log2 - 52) * 2 ^ (n.log2 - 52) :=
    (Nat.div_mul_cancel (Nat.pow_dvd_pow 2 (Nat.sub_le ..))).symm
  rw [hsplit]
  apply Nat.mul_le_mul_right
  calc
    2 ^ n.log2 / 2 ^ (n.log2 - 52) ≤ n / 2 ^ (n.log2 - 52) :=
      Nat.div_le_div_right (Nat.log2_self_le hn)
    _ ≤ roundDivEven n (2 ^ (n.log2 - 52)) := div_le_roundDivEven _ _

theorem round53_le_one_shiftLeft_succ_log2 (n : Nat) : round53 n ≤ 1 <<< (n.log2 + 1) := by
  rw [round53_eq]
  simp only [Nat.shiftLeft_eq, Nat.one_mul]
  have hsplit : 2 ^ (n.log2 + 1) = 2 ^ (n.log2 - 52) * 2 ^ (n.log2 + 1 - (n.log2 - 52)) := by
    rw [← Nat.pow_add]
    congr 1
    omega
  obtain ⟨k, hk⟩ : ∃ k, 2 ^ (n.log2 + 1 - (n.log2 - 52)) = k + 1 :=
    Nat.exists_eq_succ_of_ne_zero (Nat.ne_of_gt (Nat.two_pow_pos _))
  have hlt : n < 2 ^ (n.log2 - 52) * (k + 1) := by
    rw [← hk, ← hsplit]
    exact Nat.lt_log2_self
  rw [hsplit, hk, Nat.mul_comm (2 ^ (n.log2 - 52))]
  exact Nat.mul_le_mul_right _ (roundDivEven_le hlt)

theorem log2_mono (h : m ≤ n) : m.log2 ≤ n.log2 := by
  rcases Nat.eq_zero_or_pos m with rfl | hm
  · simp
  · have hn : n ≠ 0 := by omega
    exact (Nat.le_log2 hn).mpr (Nat.le_trans (Nat.log2_self_le (by omega)) h)

theorem round53_mono (h : m ≤ n) : round53 m ≤ round53 n := by
  rcases Nat.lt_or_eq_of_le (log2_mono h) with hlt | heq
  · have hn : n ≠ 0 := by
      rintro rfl
      simp at hlt
    have hpow : 1 <<< (m.log2 + 1) ≤ 1 <<< n.log2 := by
      simp only [Nat.one_shiftLeft]
      exact Nat.pow_le_pow_right (by decide) hlt
    calc
      round53 m ≤ 1 <<< (m.log2 + 1) := round53_le_one_shiftLeft_succ_log2 m
      _ ≤ 1 <<< n.log2 := hpow
      _ ≤ round53 n := one_shiftLeft_log2_le_round53 hn
  · rw [round53_eq, round53_eq, heq, Nat.shiftLeft_eq _ (n.log2 - 52),
      Nat.shiftLeft_eq (roundDivEven n _)]
    exact Nat.mul_le_mul_right _ (roundDivEven_mono h)

theorem roundedUnits_mono {a b : Int} (h : a ≤ b) : roundedUnits a ≤ roundedUnits b := by
  unfold roundedUnits
  split
  next ha =>
    split
    next hb =>
      have hle : b.natAbs * Binary64.one ≤ a.natAbs * Binary64.one :=
        Nat.mul_le_mul_right _ (by omega)
      exact Int.neg_le_neg (Int.ofNat_le.mpr (round53_mono hle))
    next => omega
  next ha =>
    rw [if_neg (by omega)]
    have hle : a.natAbs * Binary64.one ≤ b.natAbs * Binary64.one :=
      Nat.mul_le_mul_right _ (by omega)
    exact Int.ofNat_le.mpr (round53_mono hle)

theorem shiftLeft_lt_one_shiftLeft {width shift exponent : Nat} (hn : n ≤ 1 <<< width)
    (h : width + shift < exponent) : n <<< shift < 1 <<< exponent := by
  rw [Nat.one_shiftLeft] at hn ⊢
  rw [Nat.shiftLeft_eq]
  calc
    n * 2 ^ shift ≤ 2 ^ width * 2 ^ shift := Nat.mul_le_mul_right _ hn
    _ = 2 ^ (width + shift) := (Nat.pow_add 2 width shift).symm
    _ < 2 ^ exponent := Nat.pow_lt_pow_right Nat.one_lt_two h

namespace Binary64

def ofNat (n : Nat) (h : n ≤ 1 <<< 53) : Binary64 where
  negative := false
  units := n <<< 1074
  round53_units := round53_shiftLeft h 1074
  units_lt := shiftLeft_lt_one_shiftLeft h (by decide)

end Binary64

end FieldRules

namespace FieldRules.Number

variable {x y z : Number}

section

variable {n m : Int} {hn : -0x8000000000000000 ≤ n} {hn' : n < 0x10000000000000000}
  {hm : -0x8000000000000000 ≤ m} {hm' : m < 0x10000000000000000}

theorem int64?_int_of_lt (h : n < 0x8000000000000000) : (int n hn hn').int64? = some n := if_pos h

theorem int64?_int_of_le (h : 0x8000000000000000 ≤ n) : (int n hn hn').int64? = none :=
  if_neg (Int.not_lt.mpr h)

theorem natural?_int_of_nonneg (h : 0 ≤ n) : (int n hn hn').natural? = some n.toNat := if_pos h

theorem natural?_int_of_neg (h : n < 0) : (int n hn hn').natural? = none :=
  if_neg (Int.not_le.mpr h)

theorem compare_toNat (hn : 0 ≤ n) (hm : 0 ≤ m) :
    Ord.compare n.toNat m.toNat = Ord.compare n m := by
  simp only [Ord.compare, compareOfLessAndEq]
  split_ifs <;> first | rfl | omega

/-- All the ways of comparing integers are one order. -/
theorem compare_int : (int n hn hn').compare (int m hm hm') = Ord.compare n m := by
  unfold compare
  rcases Int.lt_or_le n 0x8000000000000000 with hsigned | hlarge
  · rcases Int.lt_or_le m 0x8000000000000000 with hsigned' | hlarge'
    · simp only [int64?_int_of_lt hsigned, int64?_int_of_lt hsigned']
    · have hnatural' : 0 ≤ m := by omega
      simp only [int64?_int_of_lt hsigned, int64?_int_of_le hlarge',
        natural?_int_of_nonneg hnatural']
      rcases Int.lt_or_le n 0 with hnegative | hnatural
      · simp only [natural?_int_of_neg hnegative]
        exact (Int.compare_eq_lt.mpr (by omega)).symm
      · simp only [natural?_int_of_nonneg hnatural, compare_toNat hnatural hnatural']
  · have hnatural : 0 ≤ n := by omega
    simp only [int64?_int_of_le hlarge, natural?_int_of_nonneg hnatural]
    rcases Int.lt_or_le m 0 with hnegative' | hnatural'
    · have hsigned' : m < 0x8000000000000000 := by omega
      simp only [int64?_int_of_lt hsigned', natural?_int_of_neg hnegative']
      exact (Int.compare_eq_gt.mpr (by omega)).symm
    · simp only [natural?_int_of_nonneg hnatural', compare_toNat hnatural hnatural']

end

@[simp] theorem int64?_float (f : Binary64) : (float f).int64? = none := rfl

@[simp] theorem natural?_float (f : Binary64) : (float f).natural? = none := rfl

/-- Beside a binary64 number no integer is compared exactly. -/
theorem compare_eq_compare_units (h : x.isInteger = false ∨ y.isInteger = false) :
    x.compare y = Ord.compare x.units y.units := by
  cases x with
  | int => cases y with
    | int => rcases h with h | h <;> cases h
    | float =>
        unfold compare
        split <;> simp_all only [int64?_float, natural?_float, reduceCtorEq]
  | float => cases y <;> rfl

theorem compare_self (x : Number) : x.compare x = .eq := by
  cases x with
  | int => exact compare_int.trans (Int.compare_eq_eq.mpr rfl)
  | float => exact Int.compare_eq_eq.mpr rfl

theorem compare_swap (x y : Number) : (x.compare y).swap = y.compare x := by
  by_cases hkind : x.isInteger = false ∨ y.isInteger = false
  · rw [compare_eq_compare_units hkind, compare_eq_compare_units hkind.symm]
    exact Int.compare_swap _ _
  · cases x with
    | int => cases y with
      | int => rw [compare_int, compare_int, Int.compare_swap]
      | float => exact absurd (.inr rfl) hkind
    | float => exact absurd (.inl rfl) hkind

theorem compare_eq_eq_comm : x.compare y = .eq ↔ y.compare x = .eq := by
  rw [← compare_swap x y, Ordering.swap_eq_eq]

theorem units_eq_of_compare_eq_eq (h : x.compare y = .eq) : x.units = y.units := by
  by_cases hkind : x.isInteger = false ∨ y.isInteger = false
  · rw [compare_eq_compare_units hkind] at h
    exact Int.compare_eq_eq.mp h
  · cases x with
    | int => cases y with
      | int => exact congrArg roundedUnits (Int.compare_eq_eq.mp (compare_int ▸ h))
      | float => exact absurd (.inr rfl) hkind
    | float => exact absurd (.inl rfl) hkind

theorem compare_roundedUnits {n m : Int} (h : n ≠ m → roundedUnits n ≠ roundedUnits m) :
    Ord.compare (roundedUnits n) (roundedUnits m) = Ord.compare n m := by
  rcases Int.lt_trichotomy n m with hlt | rfl | hgt
  · rw [Int.compare_eq_lt.mpr hlt, Int.compare_eq_lt]
    exact Int.lt_iff_le_and_ne.mpr
      ⟨roundedUnits_mono (Int.le_of_lt hlt), h (Int.ne_of_lt hlt)⟩
  · rw [Int.compare_eq_eq.mpr rfl, Int.compare_eq_eq.mpr rfl]
  · rw [Int.compare_eq_gt.mpr hgt, Int.compare_eq_gt]
    exact Int.lt_iff_le_and_ne.mpr
      ⟨roundedUnits_mono (Int.le_of_lt hgt), (h (Int.ne_of_gt hgt)).symm⟩

/-- A binary64 number blurs two integers that differ but round alike: it compares alike with
both. -/
inductive Blurs : Number → Number → Number → Prop
  | intro {f : Binary64} {n m : Int} {hn : -0x8000000000000000 ≤ n} {hn' : n < 0x10000000000000000}
      {hm : -0x8000000000000000 ≤ m} {hm' : m < 0x10000000000000000}
      (ne : n ≠ m) (round : roundedUnits n = roundedUnits m) :
      Blurs (.float f) (.int n hn hn') (.int m hm hm')

theorem Blurs.compare_ne_eq (h : Blurs y x z) : x.compare z ≠ .eq := by
  cases h with
  | intro hne => exact fun heq => hne (Int.compare_eq_eq.mp (compare_int ▸ heq))

private theorem compare_left_congr_iff_of_int {n m : Int} {hn : -0x8000000000000000 ≤ n}
    {hn' : n < 0x10000000000000000} {hm : -0x8000000000000000 ≤ m} {hm' : m < 0x10000000000000000}
    {f : Binary64} (h : (int n hn hn').units = (float f).units) :
    (int n hn hn').compare (int m hm hm') = (float f).compare (int m hm hm') ↔
      ¬ Blurs (float f) (int n hn hn') (int m hm hm') := by
  have hfloat : (float f).compare (int m hm hm') =
      Ord.compare (roundedUnits n) (roundedUnits m) := by
    rw [compare_eq_compare_units (.inl rfl), ← h]
    rfl
  constructor
  · intro heq hblurs
    obtain ⟨hne, hround⟩ := hblurs
    rw [compare_int, hfloat, hround, Int.compare_eq_eq.mpr rfl] at heq
    exact hne (Int.compare_eq_eq.mp heq)
  · intro hsharp
    rw [compare_int, hfloat]
    exact (compare_roundedUnits fun hne hround => hsharp ⟨hne, hround⟩).symm

/-- Equal numbers compare alike with a third one, unless one of them blurs the other and the
third. -/
theorem compare_left_congr_iff (h : x.compare y = .eq) :
    x.compare z = y.compare z ↔ ¬ Blurs y x z ∧ ¬ Blurs x y z := by
  have hunits := units_eq_of_compare_eq_eq h
  cases x with
  | int n => cases y with
    | int m =>
        obtain rfl : n = m := Int.compare_eq_eq.mp (compare_int ▸ h)
        exact ⟨fun _ => ⟨nofun, nofun⟩, fun _ => rfl⟩
    | float g => cases z with
      | int m =>
          rw [compare_left_congr_iff_of_int hunits]
          exact ⟨fun hsharp => ⟨hsharp, nofun⟩, And.left⟩
      | float =>
          rw [compare_eq_compare_units (.inr rfl), compare_eq_compare_units (.inr rfl), hunits]
          exact ⟨fun _ => ⟨nofun, nofun⟩, fun _ => rfl⟩
  | float f => cases y with
    | int n => cases z with
      | int m =>
          rw [eq_comm, compare_left_congr_iff_of_int hunits.symm]
          exact ⟨fun hsharp => ⟨nofun, hsharp⟩, And.right⟩
      | float =>
          rw [compare_eq_compare_units (.inr rfl), compare_eq_compare_units (.inr rfl), hunits]
          exact ⟨fun _ => ⟨nofun, nofun⟩, fun _ => rfl⟩
    | float g =>
        rw [compare_eq_compare_units (.inl rfl), compare_eq_compare_units (.inl rfl), hunits]
        exact ⟨fun _ => ⟨nofun, nofun⟩, fun _ => rfl⟩

/-- Two numbers that equal a third one are equal, unless it blurs them. -/
theorem compare_eq_eq_trans_iff (hxy : x.compare y = .eq) (hyz : y.compare z = .eq) :
    x.compare z = .eq ↔ ¬ Blurs y x z := by
  constructor
  · exact fun h hblurs => hblurs.compare_ne_eq h
  · intro hsharp
    have hcongr : x.compare z = y.compare z := by
      rw [compare_left_congr_iff hxy]
      refine ⟨hsharp, fun hblurs => hblurs.compare_ne_eq hyz⟩
    rw [hcongr, hyz]

end FieldRules.Number
