import FieldRules.Binary64

namespace FieldRules.Digits

def decimalValue (digits : List Char) : Nat :=
  digits.foldl (fun value digit => 10 * value + (digit.toNat - '0'.toNat)) 0

def hexDigit? (c : Char) : Option Nat :=
  if '0' ≤ c ∧ c ≤ '9' then some (c.toNat - '0'.toNat)
  else if 'a' ≤ c ∧ c ≤ 'f' then some (c.toNat - 'a'.toNat + 10)
  else if 'A' ≤ c ∧ c ≤ 'F' then some (c.toNat - 'A'.toNat + 10)
  else none

def hexValue? (digits : List Char) : Option Nat :=
  digits.foldlM (fun value digit => (hexDigit? digit).map (16 * value + ·)) 0

def hexDigit (n : Nat) : Char := Nat.digitChar n

end FieldRules.Digits

namespace FieldRules

/-- The numbers of JSON values: integers from `-2 ^ 63` to `2 ^ 64 - 1` are kept exactly, all others
are binary64 numbers. -/
inductive Number where
  | int (value : Int) (lower : -0x8000000000000000 ≤ value) (upper : value < 0x10000000000000000)
  | float (value : Binary64)
deriving DecidableEq

namespace Number

def ofInt? (n : Int) : Option Number :=
  if h : -0x8000000000000000 ≤ n ∧ n < 0x10000000000000000 then some (.int n h.1 h.2) else none

def ofUInt64 (n : UInt64) : Number :=
  .int n.toNat (by omega) (by have := n.toNat_lt; omega)

def isInteger : Number → Bool
  | .int .. => true
  | .float _ => false

def natural? : Number → Option Nat
  | .int n _ _ => if 0 ≤ n then some n.toNat else none
  | .float _ => none

def int64? : Number → Option Int
  | .int n _ _ => if n < 0x8000000000000000 then some n else none
  | .float _ => none

/-- The units of the binary64 number that is nearest to a number. -/
def units : Number → Int
  | .int n _ _ => roundedUnits n
  | .float x => x.signedUnits

/-- The order by value: of two signed integers, of two unsigned ones, of one that is only signed and
one that is only unsigned, and otherwise of binary64 numbers. -/
def compare (x y : Number) : Ordering :=
  match x.int64?, y.int64?, x.natural?, y.natural? with
  | some a, some b, _, _ => Ord.compare a b
  | _, _, some a, some b => Ord.compare a b
  | some _, _, _, some _ => .lt
  | _, some _, some _, _ => .gt
  | _, _, _, _ => Ord.compare x.units y.units

/-- An integer in decimal, any other number by the shortest decimal that it is nearest to. -/
def write : Number → List Char
  | .int n _ _ => if n < 0 then '-' :: Nat.toDigits 10 n.natAbs else Nat.toDigits 10 n.natAbs
  | .float x => x.write

theorem ofInt?_eq_some {n : Int} (lower : -0x8000000000000000 ≤ n)
    (upper : n < 0x10000000000000000) :
    ofInt? n = some (.int n lower upper) :=
  dif_pos ⟨lower, upper⟩

end Number

/-- The parts of a number literal; `whole` has no needless leading zero, and the fraction and the
exponent have at least one digit where they are present. -/
structure NumberLiteral where
  negative : Bool
  whole : List Char
  fraction : Option (List Char)
  exponent : Option Int

namespace NumberLiteral

open Digits

def scanDigits (text : List Char) : List Char × List Char :=
  (text.takeWhile Char.isDigit, text.dropWhile Char.isDigit)

def scanSign : List Char → Bool × List Char
  | '-' :: rest => (true, rest)
  | text => (false, text)

def scanWhole? (text : List Char) : Option (List Char × List Char) :=
  match scanDigits text with
  | ([], _) => none
  | ('0' :: _ :: _, _) => none
  | (digits, rest) => some (digits, rest)

def scanFraction? : List Char → Option (Option (List Char) × List Char)
  | '.' :: text =>
      match scanDigits text with
      | ([], _) => none
      | (digits, rest) => some (some digits, rest)
  | text => some (none, text)

def scanExponentDigits? (negative : Bool) (text : List Char) :
    Option (Option Int × List Char) :=
  match scanDigits text with
  | ([], _) => none
  | (digits, rest) =>
      some (some (if negative then -(decimalValue digits : Int) else decimalValue digits), rest)

def scanExponent? : List Char → Option (Option Int × List Char)
  | 'e' :: '-' :: text | 'E' :: '-' :: text => scanExponentDigits? true text
  | 'e' :: '+' :: text | 'E' :: '+' :: text => scanExponentDigits? false text
  | 'e' :: text | 'E' :: text => scanExponentDigits? false text
  | text => some (none, text)

def scan? (text : List Char) : Option (NumberLiteral × List Char) := do
  let (whole, rest) ← scanWhole? (scanSign text).2
  let (fraction, rest) ← scanFraction? rest
  let (exponent, rest) ← scanExponent? rest
  return (⟨(scanSign text).1, whole, fraction, exponent⟩, rest)

/-- The number that goes on with some digits as long as it is below `2 ^ 64`, and the other
digits. -/
def takeDigits (value : Nat) : List Char → Nat × List Char
  | [] => (value, [])
  | digit :: digits =>
      let next := 10 * value + (digit.toNat - '0'.toNat)
      if next < 0x10000000000000000 then takeDigits next digits else (value, digit :: digits)

/-- The binary64 number of a literal, computed in binary64 arithmetic from its first digits and a
power of ten, so not always the nearest one; there is none out of range. Digits of the whole part
that are not taken count as zeros, and those of the fraction not at all. -/
def float? (literal : NumberLiteral) : Option Binary64 :=
  let (whole, left) := takeDigits 0 literal.whole
  let fraction := literal.fraction.getD []
  let (significand, ignored) := takeDigits whole fraction
  Binary64.ofDecimal? literal.negative significand
    (left.length - (fraction.length - ignored.length : Nat) + literal.exponent.getD 0)

/-- The number of a literal: an integer, if it has no fraction and no exponent, is in range and is
not `-0`. -/
def number? (literal : NumberLiteral) : Option Number :=
  let value := decimalValue literal.whole
  let float? := literal.float?.map .float
  if literal.fraction.isSome ∨ literal.exponent.isSome then float?
  else if literal.negative then
    if value = 0 then float? else Number.ofInt? (-value) <|> float?
  else Number.ofInt? value <|> float?

theorem length_scanDigits (text : List Char) :
    (scanDigits text).1.length + (scanDigits text).2.length = text.length := by
  rw [← List.length_append]
  exact congrArg List.length List.takeWhile_append_dropWhile

theorem length_of_scanWhole? {text digits rest : List Char}
    (h : scanWhole? text = some (digits, rest)) : rest.length < text.length := by
  have hlength := length_scanDigits text
  unfold scanWhole? at h
  split at h
  · cases h
  · cases h
  · rename_i hne _ heq
    cases h
    rw [heq] at hlength
    cases digits with
    | nil => exact (hne rfl).elim
    | cons digit digits =>
        dsimp only [List.length_cons] at hlength
        omega

theorem length_of_scanFraction? {text rest : List Char} {fraction : Option (List Char)}
    (h : scanFraction? text = some (fraction, rest)) : rest.length ≤ text.length := by
  unfold scanFraction? at h
  split at h
  · rename_i after
    have hlength := length_scanDigits after
    split at h
    · cases h
    · rename_i heq
      cases h
      rw [heq] at hlength
      dsimp only [List.length_cons] at hlength ⊢
      omega
  · cases h
    exact Nat.le_refl _

private theorem length_of_scanExponentDigits? {text rest : List Char} {negative : Bool}
    {exponent : Option Int} (h : scanExponentDigits? negative text = some (exponent, rest)) :
    rest.length ≤ text.length := by
  have hlength := length_scanDigits text
  unfold scanExponentDigits? at h
  split at h
  · cases h
  · rename_i heq
    cases h
    rw [heq] at hlength
    dsimp only at hlength
    omega

theorem length_of_scanExponent? {text rest : List Char} {exponent : Option Int}
    (h : scanExponent? text = some (exponent, rest)) : rest.length ≤ text.length := by
  unfold scanExponent? at h
  split at h
  case h_7 =>
    cases h
    exact Nat.le_refl _
  all_goals
    have hrest := length_of_scanExponentDigits? h
    simp only [List.length_cons]
    omega

theorem length_of_scanSign (text : List Char) : (scanSign text).2.length ≤ text.length := by
  unfold scanSign
  split
  · exact Nat.le_succ _
  · exact Nat.le_refl _

theorem length_of_scan? {text rest : List Char} {literal : NumberLiteral}
    (h : scan? text = some (literal, rest)) : rest.length < text.length := by
  unfold scan? at h
  obtain ⟨⟨whole, afterWhole⟩, hwhole, h⟩ := Option.bind_eq_some_iff.1 h
  obtain ⟨⟨fraction, afterFraction⟩, hfraction, h⟩ := Option.bind_eq_some_iff.1 h
  obtain ⟨⟨exponent, afterExponent⟩, hexponent, h⟩ := Option.bind_eq_some_iff.1 h
  cases h
  have := length_of_scanSign text
  have := length_of_scanWhole? hwhole
  have := length_of_scanFraction? hfraction
  have := length_of_scanExponent? hexponent
  omega

end NumberLiteral

end FieldRules
