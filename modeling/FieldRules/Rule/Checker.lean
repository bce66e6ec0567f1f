import FieldRules.Pattern
import FieldRules.Rule

namespace FieldRules.Email

open FieldRules.Pattern

open FieldRules.Unicode

def wordChar : Expr := .chars .asciiWord

def joint : Expr := .chars (.unionAll [.single '.', .single '-'])

def words : Expr :=
  .seq wordChar.plus (.star (.seq joint.optional wordChar.plus))

def ending : Expr :=
  .seq (.chars (.single '.')) (.rep wordChar 2 (some 1))

/-- Words of ASCII letters, digits and underscores, joined by single dots and hyphens, on both sides
of an `@`, and at the end a dot and a word of two or three characters. -/
def address : Expr :=
  Expr.seqAll [.look .textStart, words, .chars (.single '@'), words, ending.plus, .look .textEnd]

def pattern : Pattern := ⟨address⟩

end FieldRules.Email

namespace FieldRules

inductive Test where
  | minLength (bound : Nat)
  | maxLength (bound : Nat)
  | min (bound : Number)
  | max (bound : Number)
  | pattern (p : Pattern)
  | equalTo (expected : Value)
  | email

namespace Test

def kind : Test → RuleKind
  | .minLength _ => .minLength
  | .maxLength _ => .maxLength
  | .min _ => .min
  | .max _ => .max
  | .pattern _ => .pattern
  | .equalTo _ => .equalTo
  | .email => .email

/-- The characters of a string or the items of an array. -/
def length? : Value → Option Nat
  | .str text => some text.length
  | .arr items => some items.length
  | _ => none

def compare? (value : Value) (bound : Number) : Option Ordering :=
  match value with
  | .num n => some (n.compare bound)
  | _ => none

def search (pattern : Pattern) : Value → Bool
  | .str text => pattern.occursIn text
  | _ => false

/-- Whether a value passes; one that the test cannot measure fails. -/
def passes (test : Test) (value : Value) : Bool :=
  match test with
  | .minLength bound => (length? value).any fun length => bound ≤ length
  | .maxLength bound => (length? value).any fun length => length ≤ bound
  | .min bound => (compare? value bound).any (· != .lt)
  | .max bound => (compare? value bound).any (· != .gt)
  | .pattern p => search p value
  | .equalTo expected => value.equal expected
  | .email => search Email.pattern value

end Test

structure Checker where
  test : Test
  message : String

namespace Checker

def kind (checker : Checker) : RuleKind := checker.test.kind

def passes (checker : Checker) (value : Value) : Bool := checker.test.passes value

end Checker

namespace Rule

def requireOperand (rule : Rule) : Except UsageError Value :=
  match rule.operand with
  | some operand => .ok operand
  | none => .error (.missingOperand rule.kind)

def lengthBound (rule : Rule) : Except UsageError Nat := do
  let operand ← rule.requireOperand
  match operand with
  | .num n =>
      match n.natural? with
      | some bound => .ok bound
      | none => .error (.invalidOperand rule.kind .natural operand)
  | _ => .error (.invalidOperand rule.kind .natural operand)

def numberBound (rule : Rule) : Except UsageError Number := do
  let operand ← rule.requireOperand
  match operand with
  | .num n => .ok n
  | _ => .error (.invalidOperand rule.kind .number operand)

def searchPattern [Pattern.Engine] (rule : Rule) : Except UsageError Pattern := do
  let operand ← rule.requireOperand
  match operand with
  | .str text =>
      match Pattern.ofText? text with
      | some pattern => .ok pattern
      | none => .error (.invalidPattern text)
  | _ => .error (.invalidOperand rule.kind .patternText operand)

def test [Pattern.Engine] (rule : Rule) : Except UsageError Test :=
  match rule.kind with
  | .email => .ok .email
  | .min => rule.numberBound.map .min
  | .max => rule.numberBound.map .max
  | .minLength => rule.lengthBound.map .minLength
  | .maxLength => rule.lengthBound.map .maxLength
  | .pattern => rule.searchPattern.map .pattern
  | .equalTo => rule.requireOperand.map .equalTo

def compile [Pattern.Engine] (rule : Rule) : Except UsageError Checker :=
  rule.test.map fun test => ⟨test, rule.resolvedMessage⟩

end Rule

end FieldRules
