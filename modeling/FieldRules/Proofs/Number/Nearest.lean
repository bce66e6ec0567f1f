import FieldRules.Proofs.Number.Comparison
import Mathlib.Algebra.Order.Field.Basic
import Mathlib.Data.Rat.Cast.Order

namespace FieldRules

variable {m u : Nat}

/-- The last place of a number with more than 53 binary digits. -/
def lastPlace (m : Nat) : Nat := 1 <<< (m.log2 - 52)

/-- The binary digits of a number down to its last place. There are at most 53 of them. -/
def significand (m : Nat) : Nat := m / lastPlace m

theorem lastPlace_eq (m : Nat) : lastPlace m = 2 ^ (m.log2 - 52) := Nat.one_shiftLeft _

theorem lastPlace_pos (m : Nat) : 0 < lastPlace m := by
  rw [lastPlace_eq]
  exact Nat.two_pow_pos _

theorem round53_eq_mul (m : Nat) : round53 m = roundDivEven m (lastPlace m) * lastPlace m := by
  rw [round53_eq, Nat.shiftLeft_eq, lastPlace_eq, Nat.one_shiftLeft]

theorem lastPlace_dvd_round53 (m : Nat) : lastPlace m ∣ round53 m := by
  rw [round53_eq_mul]
  exact Nat.dvd_mul_left _ _

theorem two_pow_log2_le (hm : m ≠ 0) : 2 ^ m.log2 ≤ significand m * lastPlace m := by
  have hdvd : lastPlace m ∣ 2 ^ m.log2 := by
    rw [lastPlace_eq]
    exact Nat.pow_dvd_pow 2 (Nat.sub_le ..)
  obtain ⟨k, hk⟩ := hdvd
  rw [hk, Nat.mul_comm]
  apply Nat.mul_le_mul_right
  rw [significand, Nat.le_div_iff_mul_le (lastPlace_pos m), Nat.mul_comm, ← hk]
  exact Nat.log2_self_le hm

theorem le_two_pow_succ_log2 (m : Nat) :
    (significand m + 1) * lastPlace m ≤ 2 ^ (m.log2 + 1) := by
  have hdvd : lastPlace m ∣ 2 ^ (m.log2 + 1) := by
    rw [lastPlace_eq]
    exact Nat.pow_dvd_pow 2 (by omega)
  obtain ⟨k, hk⟩ := hdvd
  rw [hk, Nat.mul_comm (lastPlace m)]
  apply Nat.mul_le_mul_right
  apply Nat.succ_le_of_lt
  rw [significand, Nat.div_lt_iff_lt_mul (lastPlace_pos m), Nat.mul_comm, ← hk]
  exact Nat.lt_log2_self

/-- No binary64 number lies strictly between the multiples of the last place around a number. -/
theorem le_or_le_of_round53_eq (hu : round53 u = u) :
    u ≤ significand m * lastPlace m ∨ (significand m + 1) * lastPlace m ≤ u := by
  rcases Nat.lt_trichotomy u.log2 m.log2 with hlt | heq | hgt
  · have hm : m ≠ 0 := by
      rintro rfl
      simp at hlt
    have hpow : 2 ^ (u.log2 + 1) ≤ 2 ^ m.log2 := Nat.pow_le_pow_right (by decide) hlt
    exact .inl (Nat.le_trans (Nat.le_of_lt Nat.lt_log2_self) (Nat.le_trans hpow (two_pow_log2_le hm)))
  · have hplace : lastPlace u = lastPlace m := by rw [lastPlace, lastPlace, heq]
    have hdvd := lastPlace_dvd_round53 u
    rw [hu, hplace] at hdvd
    obtain ⟨k, hk⟩ := hdvd
    rw [hk, Nat.mul_comm (lastPlace m)]
    rcases Nat.lt_or_ge (significand m) k with hmore | hless
    · exact .inr (Nat.mul_le_mul_right _ hmore)
    · exact .inl (Nat.mul_le_mul_right _ hless)
  · have hu0 : u ≠ 0 := by
      rintro rfl
      simp at hgt
    have hpow : 2 ^ (m.log2 + 1) ≤ 2 ^ u.log2 := Nat.pow_le_pow_right (by decide) hgt
    exact .inr (Nat.le_trans (le_two_pow_succ_log2 m) (Nat.le_trans hpow (Nat.log2_self_le hu0)))

theorem significand_bounds (hm : 53 ≤ m.log2) : 2 ^ 52 ≤ significand m ∧ significand m < 2 ^ 53 := by
  have hm0 : m ≠ 0 := by
    rintro rfl
    simp at hm
  have hlow : 2 ^ 52 * lastPlace m = 2 ^ m.log2 := by
    rw [lastPlace_eq, ← Nat.pow_add]
    congr 1
    omega
  have hhigh : 2 ^ 53 * lastPlace m = 2 ^ (m.log2 + 1) := by
    rw [lastPlace_eq, ← Nat.pow_add]
    congr 1
    omega
  constructor
  · rw [significand, Nat.le_div_iff_mul_le (lastPlace_pos m), hlow]
    exact Nat.log2_self_le hm0
  · rw [significand, Nat.div_lt_iff_lt_mul (lastPlace_pos m), hhigh]
    exact Nat.lt_log2_self

theorem significand_mul_two_pow {k : Nat} (hlow : 2 ^ 52 ≤ k) (hhigh : k < 2 ^ 53) (e : Nat) :
    significand (k * 2 ^ e) = k := by
  have hlog : (k * 2 ^ e).log2 = 52 + e := by
    rw [Nat.log2_eq_iff (Nat.ne_of_gt (Nat.mul_pos (by omega) (Nat.two_pow_pos e)))]
    constructor
    · rw [Nat.pow_add]
      exact Nat.mul_le_mul_right _ hlow
    · rw [Nat.add_right_comm, Nat.pow_add]
      exact Nat.mul_lt_mul_of_pos_right hhigh (Nat.two_pow_pos e)
  rw [significand, lastPlace_eq, hlog, Nat.add_sub_cancel_left]
  exact Nat.mul_div_cancel _ (Nat.two_pow_pos e)

theorem significand_mul_two_pow_mod_two {k : Nat} (hlow : 2 ^ 52 ≤ k) (hhigh : k ≤ 2 ^ 53)
    (even : k % 2 = 0) (e : Nat) : significand (k * 2 ^ e) % 2 = 0 := by
  rcases Nat.lt_or_eq_of_le hhigh with hlt | rfl
  · rw [significand_mul_two_pow hlow hlt, even]
  · have hcarry : 2 ^ 53 * 2 ^ e = 2 ^ 52 * 2 ^ (e + 1) := by
      rw [← Nat.pow_add, ← Nat.pow_add]
      congr 1
      omega
    rw [hcarry, significand_mul_two_pow (Nat.le_refl _) (by decide)]
    rfl

inductive RoundsTo (m : Nat) : Nat → Prop
  | down (near : 2 * (m % lastPlace m) < lastPlace m) : RoundsTo m (significand m * lastPlace m)
  | up (near : lastPlace m < 2 * (m % lastPlace m)) : RoundsTo m ((significand m + 1) * lastPlace m)
  | tie (half : 2 * (m % lastPlace m) = lastPlace m) :
      RoundsTo m ((significand m + significand m % 2) * lastPlace m)

theorem roundsTo_round53 (m : Nat) : RoundsTo m (round53 m) := by
  rw [round53_eq_mul, roundDivEven]
  split
  next hdown => exact .down hdown
  next hdown =>
    split
    next hup => exact .up hup
    next hup => exact .tie (by omega)

theorem significand_mul_lastPlace_add_mod (m : Nat) :
    significand m * lastPlace m + m % lastPlace m = m := by
  rw [Nat.mul_comm]
  exact Nat.div_add_mod m (lastPlace m)

theorem natAbs_round53_sub_le (hu : round53 u = u) :
    ((round53 m : Int) - m).natAbs ≤ ((u : Int) - m).natAbs := by
  have hbetween := le_or_le_of_round53_eq (m := m) hu
  have hsum := significand_mul_lastPlace_add_mod m
  have hrem := Nat.mod_lt m (lastPlace_pos m)
  have hround := roundsTo_round53 m
  rw [Nat.succ_mul] at hbetween
  generalize round53 m = rounded at hround ⊢
  cases hround with
  | down => omega
  | up =>
      rw [Nat.succ_mul]
      omega
  | tie =>
      rcases Nat.mod_two_eq_zero_or_one (significand m) with heven | hodd
      · rw [heven, Nat.add_zero]
        omega
      · rw [hodd, Nat.succ_mul]
        omega

theorem significand_of_natAbs_sub_eq (hu : round53 u = u) (hne : u ≠ round53 m)
    (heq : ((u : Int) - m).natAbs = ((round53 m : Int) - m).natAbs) :
    significand (round53 m) % 2 = 0 ∧ significand u % 2 = 1 := by
  have hbetween := le_or_le_of_round53_eq (m := m) hu
  have hsum := significand_mul_lastPlace_add_mod m
  have hrem := Nat.mod_lt m (lastPlace_pos m)
  have hround := roundsTo_round53 m
  rw [Nat.succ_mul] at hbetween
  generalize round53 m = rounded at hround hne heq ⊢
  cases hround with
  | down => omega
  | up =>
      rw [Nat.succ_mul] at hne heq
      omega
  | tie half =>
      have hlog : 53 ≤ m.log2 := by
        rw [lastPlace_eq] at half
        by_contra hless
        rw [Nat.sub_eq_zero_of_le (by omega)] at half
        omega
      obtain ⟨hlow, hhigh⟩ := significand_bounds hlog
      rcases Nat.mod_two_eq_zero_or_one (significand m) with heven | hodd
      · rw [heven, Nat.add_zero] at hne heq ⊢
        have hu : u = (significand m + 1) * lastPlace m := by
          rw [Nat.succ_mul]
          omega
        rw [hu, lastPlace_eq, significand_mul_two_pow hlow hhigh,
          significand_mul_two_pow (by omega) (by omega)]
        omega
      · rw [hodd, Nat.succ_mul] at hne heq
        have hu : u = significand m * lastPlace m := by omega
        rw [hodd, hu, lastPlace_eq, significand_mul_two_pow hlow hhigh]
        exact ⟨significand_mul_two_pow_mod_two (by omega) (by omega) (by omega) _, hodd⟩

theorem natAbs_round53_sub_le_int {v : Int} (hv : round53 v.natAbs = v.natAbs) :
    ((round53 m : Int) - m).natAbs ≤ (v - m).natAbs := by
  rcases Int.le_total 0 v with hpos | hneg
  · have hle := natAbs_round53_sub_le (m := m) hv
    rwa [Int.natAbs_of_nonneg hpos] at hle
  · have hle := natAbs_round53_sub_le (m := m) (u := 0) rfl
    omega

theorem significand_of_natAbs_sub_eq_int {v : Int} (hv : round53 v.natAbs = v.natAbs)
    (hne : v ≠ round53 m) (heq : (v - m).natAbs = ((round53 m : Int) - m).natAbs) :
    significand (round53 m) % 2 = 0 ∧ significand v.natAbs % 2 = 1 := by
  have hpos : 0 ≤ v := by
    by_contra hneg
    have hle := natAbs_round53_sub_le (m := m) (u := 0) rfl
    omega
  apply significand_of_natAbs_sub_eq hv
  · omega
  · rwa [Int.natAbs_of_nonneg hpos]

namespace Binary64

theorem mul_one_eq (n : Nat) : n * one = n <<< 1074 := by
  rw [Nat.shiftLeft_eq, one, Nat.one_shiftLeft]

theorem natAbs_signedUnits (x : Binary64) : x.signedUnits.natAbs = x.units := by
  rw [signedUnits]
  split <;> omega

theorem round53_natAbs_signedUnits (x : Binary64) :
    round53 x.signedUnits.natAbs = x.signedUnits.natAbs := by
  rw [natAbs_signedUnits, x.round53_units]

end Binary64

theorem natAbs_roundedUnits (n : Int) :
    (roundedUnits n).natAbs = round53 (n.natAbs * Binary64.one) := by
  rw [roundedUnits]
  split <;> omega

theorem int_mul_one (n : Int) :
    n * Binary64.one =
      if n < 0 then -((n.natAbs * Binary64.one : Nat) : Int)
      else (n.natAbs * Binary64.one : Nat) := by
  split
  next hneg =>
    rw [Int.natCast_mul, ← Int.neg_mul]
    congr 1
    omega
  next hpos =>
    rw [Int.natCast_mul]
    congr 1
    omega

theorem natAbs_roundedUnits_sub_le (n : Int) {v : Int} (hv : round53 v.natAbs = v.natAbs) :
    (roundedUnits n - n * Binary64.one).natAbs ≤ (v - n * Binary64.one).natAbs := by
  rw [roundedUnits, int_mul_one]
  split
  next =>
    rw [← Int.natAbs_neg v] at hv
    have hle := natAbs_round53_sub_le_int (m := n.natAbs * Binary64.one) hv
    omega
  next => exact natAbs_round53_sub_le_int hv

theorem significand_of_natAbs_sub_eq_units {n v : Int} (hv : round53 v.natAbs = v.natAbs)
    (hne : v ≠ roundedUnits n)
    (heq : (v - n * Binary64.one).natAbs = (roundedUnits n - n * Binary64.one).natAbs) :
    significand (roundedUnits n).natAbs % 2 = 0 ∧ significand v.natAbs % 2 = 1 := by
  rw [natAbs_roundedUnits]
  rw [roundedUnits, int_mul_one] at heq
  rw [roundedUnits] at hne
  split at heq
  next hneg =>
    rw [if_pos hneg] at hne
    rw [← Int.natAbs_neg v] at hv ⊢
    apply significand_of_natAbs_sub_eq_int hv
    · omega
    · omega
  next hpos =>
    rw [if_neg hpos] at hne
    exact significand_of_natAbs_sub_eq_int hv hne heq

namespace Binary64

variable {x y : Binary64} {n : Int}

/-- The rational number that a binary64 number denotes. -/
def exact (x : Binary64) : ℚ := x.signedUnits / one

/-- The binary64 number nearest to a rational number; of two that are equally near, the one with the
even significand. -/
structure IsNearest (x : Binary64) (q : ℚ) : Prop where
  nearest : ∀ y : Binary64, |x.exact - q| ≤ |y.exact - q|
  even : ∀ y : Binary64, y.exact ≠ x.exact → |y.exact - q| = |x.exact - q| →
    significand x.units % 2 = 0

theorem abs_exact_sub (x : Binary64) (n : Int) :
    |x.exact - n| = ((x.signedUnits - n * one).natAbs : ℚ) / one := by
  have hone : (one : ℚ) ≠ 0 := Nat.cast_ne_zero.mpr (Nat.ne_of_gt one_pos)
  have hsub : x.exact - n = ((x.signedUnits - n * one : Int) : ℚ) / one := by
    rw [exact, Int.cast_sub, Int.cast_mul, Int.cast_natCast, sub_div, mul_div_cancel_right₀ _ hone]
  rw [hsub, abs_div, Nat.abs_cast, Nat.cast_natAbs, Int.cast_abs]

theorem exact_inj : x.exact = y.exact ↔ x.signedUnits = y.signedUnits := by
  have hone : (one : ℚ) ≠ 0 := Nat.cast_ne_zero.mpr (Nat.ne_of_gt one_pos)
  rw [exact, exact, div_left_inj' hone, Int.cast_inj]

theorem exact_lt_exact : x.exact < y.exact ↔ x.signedUnits < y.signedUnits := by
  have hone : (0 : ℚ) < one := Nat.cast_pos.mpr one_pos
  rw [exact, exact, div_lt_div_iff_of_pos_right hone, Int.cast_lt]

theorem abs_exact_sub_le_iff :
    |x.exact - n| ≤ |y.exact - n| ↔
      (x.signedUnits - n * one).natAbs ≤ (y.signedUnits - n * one).natAbs := by
  have hone : (0 : ℚ) < one := Nat.cast_pos.mpr one_pos
  rw [abs_exact_sub, abs_exact_sub, div_le_div_iff_of_pos_right hone, Nat.cast_le]

theorem exists_signedUnits_eq (lower : -0x8000000000000000 ≤ n) (upper : n < 0x10000000000000000) :
    ∃ x : Binary64, x.signedUnits = roundedUnits n := by
  have hlarge : n.natAbs * one ≤ 1 <<< 64 <<< 1074 := by
    rw [← mul_one_eq]
    apply Nat.mul_le_mul_right
    rw [Nat.one_shiftLeft]
    omega
  have hunits : round53 (n.natAbs * one) < overflowUnits := by
    refine Nat.lt_of_le_of_lt (round53_mono hlarge) ?_
    rw [← Nat.shiftLeft_add, round53_shiftLeft (by decide)]
    exact shiftLeft_lt_one_shiftLeft (Nat.le_refl (1 <<< 0)) (by decide)
  refine ⟨⟨n < 0, round53 (n.natAbs * one), round53_round53 _, hunits⟩, ?_⟩
  rw [signedUnits, roundedUnits]
  simp only [decide_eq_true_eq]

theorem isNearest_iff (lower : -0x8000000000000000 ≤ n) (upper : n < 0x10000000000000000) :
    x.IsNearest n ↔ x.signedUnits = roundedUnits n := by
  constructor
  · intro h
    obtain ⟨y, hy⟩ := exists_signedUnits_eq lower upper
    by_contra hne
    have hle := abs_exact_sub_le_iff.mpr
      (hy ▸ natAbs_roundedUnits_sub_le n x.round53_natAbs_signedUnits)
    have heq := le_antisymm hle (h.nearest y)
    have heven := h.even y (fun hxy => hne (by rw [← exact_inj.mp hxy, hy])) heq
    have hunits := le_antisymm (abs_exact_sub_le_iff.mp heq.le) (abs_exact_sub_le_iff.mp heq.ge)
    rw [hy] at hunits
    have hodd := (significand_of_natAbs_sub_eq_units x.round53_natAbs_signedUnits hne hunits.symm).2
    rw [natAbs_signedUnits] at hodd
    omega
  · intro h
    constructor
    · intro y
      rw [abs_exact_sub_le_iff, h]
      exact natAbs_roundedUnits_sub_le n y.round53_natAbs_signedUnits
    · intro y hne heq
      have hunits := le_antisymm (abs_exact_sub_le_iff.mp heq.le) (abs_exact_sub_le_iff.mp heq.ge)
      rw [ne_eq, exact_inj] at hne
      rw [h] at hunits hne
      have heven := (significand_of_natAbs_sub_eq_units y.round53_natAbs_signedUnits hne hunits).1
      rwa [← h, natAbs_signedUnits] at heven

end Binary64

end FieldRules
