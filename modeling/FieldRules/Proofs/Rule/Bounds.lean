import FieldRules.Proofs.CompiledField
import FieldRules.Proofs.Number.Nearest
import Mathlib.Order.Compare

namespace FieldRules

/-! What the bounds of numbers make of the exact order. Only an integer that is compared with a
binary64 number is rounded, and rounding can make two numbers equal but never swaps them. -/

section Units

variable {n : Int} {x : Binary64}

theorem Binary64.exact_lt_intCast : x.exact < n ↔ x.signedUnits < n * Binary64.one := by
  have hone : (0 : ℚ) < Binary64.one := Nat.cast_pos.mpr Binary64.one_pos
  rw [Binary64.exact, div_lt_iff₀ hone, ← Int.cast_natCast, ← Int.cast_mul, Int.cast_lt]

theorem Binary64.intCast_lt_exact : n < x.exact ↔ n * Binary64.one < x.signedUnits := by
  have hone : (0 : ℚ) < Binary64.one := Nat.cast_pos.mpr Binary64.one_pos
  rw [Binary64.exact, lt_div_iff₀ hone, ← Int.cast_natCast, ← Int.cast_mul, Int.cast_lt]

theorem le_roundedUnits (h : x.signedUnits ≤ n * Binary64.one) :
    x.signedUnits ≤ roundedUnits n := by
  have hle := natAbs_roundedUnits_sub_le n x.round53_natAbs_signedUnits
  omega

theorem roundedUnits_le (h : n * Binary64.one ≤ x.signedUnits) :
    roundedUnits n ≤ x.signedUnits := by
  have hle := natAbs_roundedUnits_sub_le n x.round53_natAbs_signedUnits
  omega

theorem roundedUnits_eq_mul (h : n.natAbs ≤ 1 <<< 53) : roundedUnits n = n * Binary64.one := by
  rw [roundedUnits, int_mul_one, Binary64.mul_one_eq, round53_shiftLeft h]

theorem compare_eq_compare {a b : Int} {p q : ℚ} (hlt : p < q ↔ a < b) (hgt : q < p ↔ b < a) :
    Ord.compare a b = Ord.compare p q := by
  rcases Int.lt_trichotomy a b with h | h | h
  · rw [Int.compare_eq_lt.mpr h, compare_lt_iff_lt.mpr (hlt.mpr h)]
  · have heq : p = q := by
      apply le_antisymm
      · exact not_lt.mp fun hpq => Int.lt_irrefl b (h ▸ hgt.mp hpq)
      · exact not_lt.mp fun hqp => Int.lt_irrefl b (h ▸ hlt.mp hqp)
    rw [Int.compare_eq_eq.mpr h, compare_eq_iff_eq.mpr heq]
  · rw [Int.compare_eq_gt.mpr h, compare_gt_iff_gt.mpr (hgt.mpr h)]

end Units

namespace Number

variable {v b : Number}

/-- The rational number that a number denotes. -/
def exact : Number → ℚ
  | .int n _ _ => n
  | .float x => x.exact

/-- The numbers that are never rounded: small integers and binary64 numbers. -/
def Fits : Number → Prop
  | .int n _ _ => n.natAbs ≤ 1 <<< 53
  | .float _ => True

theorem isNearest_exact_iff {x : Binary64} : x.IsNearest v.exact ↔ x.signedUnits = v.units := by
  cases v with
  | int n lower upper => exact Binary64.isNearest_iff lower upper
  | float y =>
      rw [exact, units, ← Binary64.exact_inj]
      constructor
      · intro h
        have hle := h.nearest y
        rw [sub_self, abs_zero] at hle
        exact sub_eq_zero.mp (abs_nonpos_iff.mp hle)
      · intro h
        rw [← h]
        constructor
        · intro z
          rw [sub_self, abs_zero]
          exact abs_nonneg _
        · intro z hne heq
          rw [sub_self, abs_zero, abs_eq_zero, sub_eq_zero] at heq
          exact absurd heq hne

theorem exists_isNearest_exact (v : Number) : ∃ x : Binary64, x.IsNearest v.exact := by
  simp only [isNearest_exact_iff]
  cases v with
  | int n lower upper => exact Binary64.exists_signedUnits_eq lower upper
  | float x => exact ⟨x, rfl⟩

theorem compare_eq_exact_of_isInteger_eq (h : v.isInteger = b.isInteger) :
    v.compare b = Ord.compare v.exact b.exact := by
  cases v with
  | int n => cases b with
    | int m => exact compare_int.trans (compare_eq_compare Int.cast_lt Int.cast_lt)
    | float => cases h
  | float x => cases b with
    | int => cases h
    | float y => exact compare_eq_compare Binary64.exact_lt_exact Binary64.exact_lt_exact

/-- Beside a binary64 number, an integer compares as the binary64 number that is nearest to it. -/
theorem compare_eq_compare_nearest {x y : Binary64} (h : v.isInteger ≠ b.isInteger)
    (hx : x.IsNearest v.exact) (hy : y.IsNearest b.exact) :
    v.compare b = Ord.compare x.exact y.exact := by
  have hkind : v.isInteger = false ∨ b.isInteger = false := by
    rcases Bool.eq_false_or_eq_true v.isInteger with hv | hv
    · exact .inr (Bool.eq_false_iff.mpr fun hb => h (hv.trans hb.symm))
    · exact .inl hv
  rw [compare_eq_compare_units hkind, ← isNearest_exact_iff.mp hx, ← isNearest_exact_iff.mp hy]
  exact compare_eq_compare Binary64.exact_lt_exact Binary64.exact_lt_exact

theorem exact_lt_of_compare_eq_lt (h : v.compare b = .lt) : v.exact < b.exact := by
  by_cases hkind : v.isInteger = b.isInteger
  · rw [compare_eq_exact_of_isInteger_eq hkind] at h
    exact compare_lt_iff_lt.mp h
  · cases v with
    | int n => cases b with
      | int => exact absurd rfl hkind
      | float y =>
          rw [compare_eq_compare_units (.inr rfl)] at h
          have hlt : roundedUnits n < y.signedUnits := Int.compare_eq_lt.mp h
          apply Binary64.intCast_lt_exact.mpr
          exact Int.not_le.mp fun hle => Int.not_le.mpr hlt (le_roundedUnits hle)
    | float x => cases b with
      | int m =>
          have hlt : x.signedUnits < roundedUnits m := Int.compare_eq_lt.mp h
          apply Binary64.exact_lt_intCast.mpr
          exact Int.not_le.mp fun hle => Int.not_le.mpr hlt (roundedUnits_le hle)
      | float => exact absurd rfl hkind

theorem compare_eq_eq_or_eq_exact (v b : Number) :
    v.compare b = .eq ∨ v.compare b = Ord.compare v.exact b.exact := by
  cases hcompare : v.compare b with
  | eq => exact .inl rfl
  | lt => exact .inr (compare_lt_iff_lt.mpr (exact_lt_of_compare_eq_lt hcompare)).symm
  | gt =>
      have hswap : b.compare v = .lt := by rw [← compare_swap v b, hcompare, Ordering.swap]
      exact .inr (compare_gt_iff_gt.mpr (exact_lt_of_compare_eq_lt hswap)).symm

theorem compare_eq_exact_of_fits (hv : v.Fits) (hb : b.Fits) :
    v.compare b = Ord.compare v.exact b.exact := by
  by_cases hkind : v.isInteger = b.isInteger
  · exact compare_eq_exact_of_isInteger_eq hkind
  · cases v with
    | int n => cases b with
      | int => exact absurd rfl hkind
      | float y =>
          rw [compare_eq_compare_units (.inr rfl), units, roundedUnits_eq_mul hv]
          exact compare_eq_compare Binary64.intCast_lt_exact Binary64.exact_lt_intCast
    | float x => cases b with
      | int m =>
          rw [compare_eq_compare_units (.inl rfl), units, units, roundedUnits_eq_mul hb]
          exact compare_eq_compare Binary64.exact_lt_intCast Binary64.intCast_lt_exact
      | float => exact absurd rfl hkind

/-- An order of two numbers that is exact, but for an integer that is rounded beside a binary64
number. -/
structure OrderedAs (v b : Number) (order : Ordering) : Prop where
  alike : v.isInteger = b.isInteger → order = Ord.compare v.exact b.exact
  nearest : v.isInteger ≠ b.isInteger → ∀ x y : Binary64, x.IsNearest v.exact →
    y.IsNearest b.exact → order = Ord.compare x.exact y.exact
  eq_or_exact : order = .eq ∨ order = Ord.compare v.exact b.exact
  fits : v.Fits → b.Fits → order = Ord.compare v.exact b.exact

theorem orderedAs_compare (v b : Number) : v.OrderedAs b (v.compare b) where
  alike := compare_eq_exact_of_isInteger_eq
  nearest := fun hkind _ _ => compare_eq_compare_nearest hkind
  eq_or_exact := compare_eq_eq_or_eq_exact v b
  fits := compare_eq_exact_of_fits

end Number

namespace Test

variable {v b : Number}

theorem passes_min_num : (Test.min b).passes (.num v) = true ↔ v.compare b ≠ .lt := by
  simp [passes, compare?]

theorem passes_max_num : (Test.max b).passes (.num v) = true ↔ v.compare b ≠ .gt := by
  simp [passes, compare?]

theorem passes_equalTo_num :
    (Test.equalTo (.num b)).passes (.num v) = true ↔ v.compare b = .eq :=
  beq_iff_eq

theorem passes_min_of_exact_le (h : b.exact ≤ v.exact) : (Test.min b).passes (.num v) = true := by
  rw [passes_min_num]
  exact fun hlt => not_lt.mpr h (Number.exact_lt_of_compare_eq_lt hlt)

theorem passes_max_of_exact_le (h : v.exact ≤ b.exact) : (Test.max b).passes (.num v) = true := by
  rw [passes_max_num, ← Number.compare_swap b v, ne_eq, Ordering.swap_eq_gt]
  exact fun hlt => not_lt.mpr h (Number.exact_lt_of_compare_eq_lt hlt)

theorem passes_min_or_passes_max (v b : Number) :
    (Test.min b).passes (.num v) = true ∨ (Test.max b).passes (.num v) = true :=
  (le_total b.exact v.exact).imp passes_min_of_exact_le passes_max_of_exact_le

theorem passes_min_and_passes_max_iff :
    (Test.min b).passes (.num v) = true ∧ (Test.max b).passes (.num v) = true ↔
      (Test.equalTo (.num b)).passes (.num v) = true := by
  rw [passes_min_num, passes_max_num, passes_equalTo_num]
  cases v.compare b <;> decide

end Test

/-- A bound never rejects a number that keeps it exactly. Numbers are ordered exactly, but for an
integer beside a binary64 number, which is rounded to the nearest one; then the order errs towards
equality only. -/
theorem Rule.bounds_admit_exactly_ordered [Pattern.Engine] (v b : Number) (message : Message) :
    (∃ order, Test.compare? (.num v) b = some order ∧
      Test.compare? (.num b) v = some order.swap ∧ v.OrderedAs b order) ∧
    (∃ x y : Binary64, x.IsNearest v.exact ∧ y.IsNearest b.exact) ∧
    ∃ least greatest same : Checker,
      (Rule.mk .min (some (.num b)) message).compile = .ok least ∧
      (Rule.mk .max (some (.num b)) message).compile = .ok greatest ∧
      (Rule.mk .equalTo (some (.num b)) message).compile = .ok same ∧
      (b.exact ≤ v.exact → least.passes (.num v) = true) ∧
      (v.exact ≤ b.exact → greatest.passes (.num v) = true) ∧
      (least.passes (.num v) = true ∨ greatest.passes (.num v) = true) ∧
      (least.passes (.num v) = true ∧ greatest.passes (.num v) = true ↔
        same.passes (.num v) = true) := by
  refine ⟨⟨v.compare b, rfl, ?_, v.orderedAs_compare b⟩, ?_, ?_⟩
  · exact congrArg some (Number.compare_swap v b).symm
  · obtain ⟨x, hx⟩ := v.exists_isNearest_exact
    obtain ⟨y, hy⟩ := b.exists_isNearest_exact
    exact ⟨x, y, hx, hy⟩
  · refine ⟨_, _, _, rfl, rfl, rfl, ?_⟩
    exact ⟨Test.passes_min_of_exact_le, Test.passes_max_of_exact_le,
      Test.passes_min_or_passes_max v b, Test.passes_min_and_passes_max_iff⟩

end FieldRules
