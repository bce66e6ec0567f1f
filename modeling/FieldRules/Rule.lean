import FieldRules.Unicode.Tables
import FieldRules.Value.Text

namespace FieldRules

/-! Rules: a kind, perhaps an operand, and the message for values that fail. A rule can be written
as `kind` or `kind:operand`; everything behind the first colon is the operand. -/

inductive Kind where
  | object
  | array
  | string
  | number
  | integer
  | boolean
  | null
deriving DecidableEq

namespace Kind

def all : List Kind := [object, array, string, number, integer, boolean, null]

def name : Kind → String
  | .object => "object"
  | .array => "array"
  | .string => "string"
  | .number => "number"
  | .integer => "integer"
  | .boolean => "boolean"
  | .null => "null"

def ofName? (name : String) : Option Kind :=
  all.find? fun kind => kind.name == name

/-- The kind of a value; it is never `integer`, which is a part of `number`. -/
def ofValue : Value → Kind
  | .null => null
  | .bool _ => boolean
  | .num _ => number
  | .str _ => string
  | .arr _ => array
  | .obj _ => object

/-- Whether a value conforms to a kind: an integer is a number that is kept exactly. -/
def admits (kind : Kind) (value : Value) : Bool :=
  match kind, value with
  | .integer, .num n => n.isInteger
  | kind, value => kind == ofValue value

def isNumeric : Kind → Bool
  | .number | .integer => true
  | _ => false

end Kind

inductive RuleKind where
  | email
  | min
  | max
  | minLength
  | maxLength
  | pattern
  | equalTo
deriving DecidableEq

namespace RuleKind

def all : List RuleKind := [email, min, max, minLength, maxLength, pattern, equalTo]

def name : RuleKind → String
  | .email => "email"
  | .min => "min"
  | .max => "max"
  | .minLength => "minLength"
  | .maxLength => "maxLength"
  | .pattern => "pattern"
  | .equalTo => "equalTo"

def ofName? (name : String) : Option RuleKind :=
  all.find? fun kind => kind.name == name

def code : RuleKind → String
  | .email => "email"
  | .min => "min"
  | .max => "max"
  | .minLength => "min_length"
  | .maxLength => "max_length"
  | .pattern => "pattern"
  | .equalTo => "equal_to"

/-- The default message, in which `[value]` stands for the operand. -/
def template : RuleKind → String
  | .email => "Wrong email format"
  | .min => "Value must be larger than or equal to [value]"
  | .max => "Value must be less than or equal to [value]"
  | .minLength => "Text must have the minimum length of [value]"
  | .maxLength => "Text must have the maximum length of [value]"
  | .pattern => "Text must match the provided pattern"
  | .equalTo => "Value does not match the compared value"

def accepts (rule : RuleKind) (kind : Kind) : Bool :=
  match rule with
  | .minLength | .maxLength => kind == .string || kind == .array
  | .min | .max => kind.isNumeric
  | .pattern | .email => kind == .string
  | .equalTo => true

end RuleKind

inductive OperandShape where
  | natural
  | number
  | patternText
deriving DecidableEq

def OperandShape.description : OperandShape → String
  | .natural => "a non-negative integer"
  | .number => "a number"
  | .patternText => "a pattern string"

/-- Errors in the use of a validator, as opposed to values that fail their rules. -/
inductive UsageError where
  | notCompiled (field : String)
  | typeConflict (field : String) (rule : RuleKind) (kind : Kind)
  | unsupportedRule (name : String)
  | missingOperand (rule : RuleKind)
  | invalidOperand (rule : RuleKind) (expected : OperandShape) (got : Value)
  | invalidPattern (pattern : String)

namespace UsageError

def message : UsageError → String
  | .notCompiled field => "field '" ++ field ++ "' has not been compiled"
  | .typeConflict field rule kind =>
      "rule " ++ rule.name ++ " cannot be applied to field '" ++ field ++ "' with type " ++
        kind.name
  | .unsupportedRule name => "rule " ++ name ++ " is not supported"
  | .missingOperand rule => "rule " ++ rule.name ++ " requires an operand"
  | .invalidOperand rule expected got =>
      "invalid operand for rule " ++ rule.name ++ ": expected " ++ expected.description ++
        ", got " ++ got.text
  | .invalidPattern pattern => "invalid pattern '" ++ pattern ++ "'"

end UsageError

inductive Message where
  | default
  | literal (text : String)

structure Rule where
  kind : RuleKind
  operand : Option Value
  message : Message

namespace Rule

def ofKind (kind : RuleKind) : Rule := ⟨kind, none, .default⟩

def withOperand (rule : Rule) (operand : Value) : Rule := { rule with operand := some operand }

def withMessage (rule : Rule) (text : String) : Rule := { rule with message := .literal text }

def placeholder : List Char := "[value]".toList

def fillPlaceholder (value : List Char) : List Char → List Char
  | [] => []
  | c :: template =>
      if placeholder.isPrefixOf (c :: template) then
        value ++ template.drop (placeholder.length - 1)
      else c :: fillPlaceholder value template

/-- An operand as messages show it: a string as it is, any other value as JSON text. -/
def operandText : Value → String
  | .str text => text
  | operand => operand.text

/-- The message for values that fail: a literal one as it is, the default one with the operand in
its place. The message of an email rule shows no operand. -/
def resolvedMessage (rule : Rule) : String :=
  match rule.message, rule.kind, rule.operand with
  | .literal text, _, _ => text
  | .default, .email, _ => rule.kind.template
  | .default, _, none => rule.kind.template
  | .default, _, some operand =>
      String.ofList (fillPlaceholder (operandText operand).toList rule.kind.template.toList)

def greatestDepth : Nat := 127

/-- The operand that a text stands for: for a pattern the text itself, otherwise the value of which
it is the JSON text, or again the text itself. -/
def readOperand (kind : RuleKind) (text : String) : Value :=
  match kind with
  | .pattern => .str text
  | _ => (Value.read? greatestDepth text).getD (.str text)

/-- The rule that a text stands for. The name may have blanks around it. -/
def ofText? (text : String) : Except UsageError Rule :=
  let name := String.ofList (Unicode.trim (text.toList.takeWhile (· != ':')))
  match RuleKind.ofName? name with
  | none => .error (.unsupportedRule name)
  | some kind =>
      match text.toList.dropWhile (· != ':') with
      | [] => .ok (ofKind kind)
      | _ :: operand => .ok ((ofKind kind).withOperand (readOperand kind (String.ofList operand)))

end Rule

end FieldRules
