/-! Binary floating point numbers of 64 bits: rounding to 53 significant binary digits, ties to
even; the finite numbers, as exact multiples of the smallest positive one; and the decimals that
they are written as. Zero has a sign, so equality of these numbers is finer than equality of the
values they denote. -/

namespace FieldRules

/-- The integer nearest to `n / d`; of two equally near ones, the even one. -/
def roundDivEven (n d : Nat) : Nat :=
  let quotient := n / d
  let remainder := n % d
  if 2 * remainder < d then quotient
  else if d < 2 * remainder then quotient + 1
  else quotient + quotient % 2

/-- The number with at most 53 significant binary digits nearest to `n / d`, among the integers. -/
def roundDiv53 (n d : Nat) : Nat :=
  let shift := (n / d).log2 - 52
  roundDivEven n (d <<< shift) <<< shift

def round53 (n : Nat) : Nat :=
  roundDiv53 n 1

theorem roundDivEven_mul_left {d : Nat} (hd : 0 < d) (q : Nat) : roundDivEven (d * q) d = q := by
  simp [roundDivEven, Nat.mul_div_cancel_left q hd, hd]

theorem roundDivEven_le {n d k : Nat} (h : n < d * (k + 1)) : roundDivEven n d ≤ k + 1 := by
  have hk : n / d ≤ k := Nat.lt_succ_iff.1 (Nat.div_lt_of_lt_mul h)
  unfold roundDivEven
  dsimp only
  split
  · omega
  · split <;> omega

theorem round53_shiftLeft {m : Nat} (hm : m ≤ 1 <<< 53) (s : Nat) :
    round53 (m <<< s) = m <<< s := by
  rw [Nat.one_shiftLeft] at hm
  unfold round53 roundDiv53
  simp only [Nat.shiftLeft_eq, Nat.div_one, Nat.one_mul]
  have hdvd : 2 ^ ((m * 2 ^ s).log2 - 52) ∣ m * 2 ^ s := by
    rcases Nat.eq_zero_or_pos m with rfl | hpos
    · simp
    have hne : m * 2 ^ s ≠ 0 := Nat.mul_ne_zero (by omega) (Nat.ne_of_gt (Nat.two_pow_pos s))
    rcases Nat.lt_or_eq_of_le hm with hlt | rfl
    · have hlog : (m * 2 ^ s).log2 < 53 + s := by
        rw [Nat.log2_lt hne, Nat.pow_add]
        exact Nat.mul_lt_mul_of_pos_right hlt (Nat.two_pow_pos s)
      exact Nat.dvd_trans (Nat.pow_dvd_pow 2 (by omega)) (Nat.dvd_mul_left _ _)
    · rw [← Nat.pow_add, Nat.log2_two_pow]
      exact Nat.pow_dvd_pow 2 (by omega)
  obtain ⟨q, hq⟩ := hdvd
  generalize (m * 2 ^ s).log2 - 52 = t at hq
  rw [hq, roundDivEven_mul_left (Nat.two_pow_pos t), Nat.mul_comm]

theorem exists_roundDiv53_eq (n : Nat) {d : Nat} (hd : 0 < d) :
    ∃ m s, m ≤ 1 <<< 53 ∧ roundDiv53 n d = m <<< s := by
  refine ⟨_, _, ?_, rfl⟩
  simp only [Nat.shiftLeft_eq, Nat.one_mul]
  have hlog : n / d < 2 ^ ((n / d).log2 + 1) := Nat.lt_log2_self
  have hpow : 2 ^ ((n / d).log2 + 1) ≤ 2 ^ 53 * 2 ^ ((n / d).log2 - 52) := by
    rw [← Nat.pow_add]
    exact Nat.pow_le_pow_right (by decide) (by omega)
  have hlt : n < d * 2 ^ ((n / d).log2 - 52) * (2 ^ 53 - 1 + 1) := by
    have h := (Nat.div_lt_iff_lt_mul hd).1 (Nat.lt_of_lt_of_le hlog hpow)
    rw [Nat.mul_comm, ← Nat.mul_assoc, Nat.mul_right_comm] at h
    simpa using h
  exact roundDivEven_le hlt

theorem round53_roundDiv53 (n : Nat) {d : Nat} (hd : 0 < d) :
    round53 (roundDiv53 n d) = roundDiv53 n d := by
  obtain ⟨m, s, hm, h⟩ := exists_roundDiv53_eq n hd
  rw [h, round53_shiftLeft hm]

theorem round53_round53 (n : Nat) : round53 (round53 n) = round53 n :=
  round53_roundDiv53 n (by decide)

/-- The first power of two that is out of range, in units of `2 ^ -1074`. -/
def overflowExponent : Nat := 2098

def overflowUnits : Nat := 1 <<< overflowExponent

/-- A finite binary64 number: a sign, and a magnitude counted in units of `2 ^ -1074`. -/
structure Binary64 where
  negative : Bool
  units : Nat
  round53_units : round53 units = units
  units_lt : units < overflowUnits
deriving DecidableEq

namespace Binary64

def one : Nat := 1 <<< 1074

theorem one_pos : 0 < one := by
  rw [one, Nat.one_shiftLeft]
  exact Nat.two_pow_pos 1074

def signedUnits (x : Binary64) : Int :=
  if x.negative then -(x.units : Int) else x.units

/-- The binary64 number nearest to `± n / d`, unless it is out of range. -/
def ofQuotient? (negative : Bool) (n d : Nat) (hd : 0 < d) : Option Binary64 :=
  let units := roundDiv53 (n * one) d
  if h : units < overflowUnits then
    some ⟨negative, units, round53_roundDiv53 _ hd, h⟩
  else
    none

def times? (x y : Binary64) : Option Binary64 :=
  ofQuotient? (x.negative != y.negative) (x.units * y.units) (one * one)
    (Nat.mul_pos one_pos one_pos)

def over? (x y : Binary64) : Option Binary64 :=
  if h : 0 < y.units then ofQuotient? (x.negative != y.negative) x.units y.units h else none

def tenPower? (exponent : Nat) : Option Binary64 :=
  ofQuotient? false (Nat.pow 10 exponent) 1 Nat.one_pos

def greatestTenPower : Nat := 308

/-- The number `x * 10 ^ exponent`, by one multiplication or by divisions, each of which rounds,
unless it is out of range. -/
def scale? (x : Binary64) (exponent : Int) : Option Binary64 :=
  if exponent.natAbs ≤ greatestTenPower then
    (tenPower? exponent.natAbs).bind fun power =>
      if 0 ≤ exponent then x.times? power else x.over? power
  else if x.units = 0 then some x
  else if 0 ≤ exponent then none
  else
    ((tenPower? greatestTenPower).bind x.over?).bind fun y => y.scale? (exponent + greatestTenPower)
termination_by exponent.natAbs
decreasing_by
  rw [greatestTenPower] at *
  omega

def ofDecimal? (negative : Bool) (significand : Nat) (exponent : Int) : Option Binary64 :=
  (ofQuotient? negative significand 1 Nat.one_pos).bind (·.scale? exponent)

end Binary64

/-- The units of the binary64 number nearest to the integer `n`, with its sign. -/
def roundedUnits (n : Int) : Int :=
  if n < 0 then -(round53 (n.natAbs * Binary64.one) : Int)
  else round53 (n.natAbs * Binary64.one)

/-- A positive decimal: its digits without trailing zeros, the first one standing for
`10 ^ exponent`. -/
structure Decimal where
  digits : List Char
  exponent : Int

/-- The interval of reals that round to a positive binary64 number, in quarters of a unit. The ends
belong to it when the significand is even. -/
structure RoundingInterval where
  low : Nat
  high : Nat
  closed : Bool

namespace RoundingInterval

/-- The interval around `units`; just above a power of two the gap below is half as wide. -/
def ofUnits (units : Nat) : RoundingInterval :=
  let shift := units.log2 - 52
  let significand := units >>> shift
  let gap := 1 <<< shift
  let below := if significand = 1 <<< 52 ∧ 0 < shift then gap else 2 * gap
  ⟨4 * units - below, 4 * units + 2 * gap, significand % 2 = 0⟩

def containsQuotient (interval : RoundingInterval) (n d : Nat) : Bool :=
  if interval.closed then
    interval.low * d ≤ n && n ≤ interval.high * d
  else
    interval.low * d < n && n < interval.high * d

end RoundingInterval

namespace Decimal

/-- Positive magnitudes are compared after multiplication with this power of ten, which makes an
integer of every decimal that is looked at. -/
private def scale : Nat := Nat.pow 10 400

/-- The neighbour of `value / d` on the grid of step `step` that lies in the interval: of two, the
nearer one, and the even one of two equally near. -/
private def gridPoint? (interval : RoundingInterval) (value d step : Nat) : Option Nat :=
  let below := value / (d * step)
  let inside (k : Nat) : Bool := interval.containsQuotient (4 * (k * step * d)) scale
  match inside below, inside (below + 1) with
  | true, true => some (roundDivEven value (d * step))
  | true, false => some below
  | false, true => some (below + 1)
  | false, false => none

private def dropTrailingZeros (digits : List Char) : List Char :=
  (digits.reverse.dropWhile (· == '0')).reverse

/-- The shortest decimal that rounds to the positive number of `units`. The search by the number of
digits ends at seventeen, where the grid is finer than the interval is wide. -/
def shortest (units : Nat) : Decimal :=
  let interval := RoundingInterval.ofUnits units
  let value := units * scale
  let length := (Nat.toDigits 10 (value / Binary64.one)).length
  let found := (List.range' 1 17).findSome? fun k =>
    let step := Nat.pow 10 (length - k)
    (gridPoint? interval value Binary64.one step).map (· * step)
  let digits := Nat.toDigits 10 (found.getD (value / Binary64.one))
  ⟨dropTrailingZeros digits, (digits.length : Int) - 401⟩

end Decimal

/-- How a decimal is laid out: the exponents written without an exponent part. -/
structure DecimalLayout where
  leastPlain : Int
  greatestPlain : Int

namespace DecimalLayout

private def zeros (n : Nat) : List Char := List.replicate n '0'

private def writeExponent (exponent : Int) : List Char :=
  if exponent < 0 then '-' :: Nat.toDigits 10 exponent.natAbs
  else '+' :: Nat.toDigits 10 exponent.natAbs

/-- Plain notation keeps at least one digit after the point; scientific notation has a sign on every
exponent and no point after a single digit. -/
def write (layout : DecimalLayout) (d : Decimal) : List Char :=
  if layout.leastPlain ≤ d.exponent ∧ d.exponent ≤ layout.greatestPlain then
    if d.exponent < 0 then
      '0' :: '.' :: (zeros (d.exponent.natAbs - 1) ++ d.digits)
    else
      let wholeLength := d.exponent.toNat + 1
      let whole := d.digits.take wholeLength
      let fraction := d.digits.drop wholeLength
      whole ++ zeros (wholeLength - whole.length) ++ '.' ::
        (if fraction.isEmpty then ['0'] else fraction)
  else
    match d.digits with
    | [] => []
    | [digit] => digit :: 'e' :: writeExponent d.exponent
    | digit :: more => digit :: '.' :: (more ++ 'e' :: writeExponent d.exponent)

def json : DecimalLayout := ⟨-5, 15⟩

end DecimalLayout

namespace Binary64

def write (x : Binary64) : List Char :=
  let magnitude :=
    if x.units = 0 then ['0', '.', '0']
    else DecimalLayout.json.write (Decimal.shortest x.units)
  if x.negative then '-' :: magnitude else magnitude

end Binary64

end FieldRules
