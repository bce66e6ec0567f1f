import FieldRules.Rule

namespace FieldRules

structure FieldSpec where
  kind : Option Kind
  rules : List Rule
  typeMessage : Option String

namespace FieldSpec

def empty : FieldSpec := ⟨none, [], none⟩

/-- The error for the first rule that a field of the declared kind cannot carry. -/
def checkRuleTypes (spec : FieldSpec) (field : String) : Except UsageError Unit :=
  match spec.kind with
  | none => .ok ()
  | some kind =>
      match spec.rules.find? (fun rule => !rule.kind.accepts kind) with
      | some rule => .error (.typeConflict field rule.kind kind)
      | none => .ok ()

end FieldSpec

/-- The fields stand in the order of their first declaration, and the names of the required ones in
the order in which they became required. -/
structure Schema where
  root : Kind
  required : Table Unit
  fields : Table FieldSpec

namespace Schema

def ofRoot (root : Kind) : Schema := ⟨root, .empty, .empty⟩

/-- Declares a field anew, with nothing known about it. -/
def declare (schema : Schema) (name : String) (required : Bool) : Schema :=
  { schema with
    fields := schema.fields.insert name .empty
    required :=
      if required then schema.required.insert name () else schema.required.erase name }

def store (schema : Schema) (name : String) (spec : FieldSpec) : Schema :=
  { schema with fields := schema.fields.insert name spec }

def field? (schema : Schema) (name : String) : Option FieldSpec := schema.fields.find? name

def fieldNames (schema : Schema) : List String := schema.fields.keys

def requiredNames (schema : Schema) : List String := schema.required.keys

def isRequired (schema : Schema) (name : String) : Bool := schema.required.contains name

end Schema

inductive Call where
  | asKind (kind : Kind)
  | email
  | minLength (bound : UInt64)
  | maxLength (bound : UInt64)
  | pattern (text : String)
  | min (bound : Value)
  | max (bound : Value)
  | equalTo (expected : Value)
  | rule (rule : Rule)
  | ruleText (text : String)
  | message (text : String)

structure Draft where
  name : String
  spec : FieldSpec

namespace Draft

def start (name : String) : Draft := ⟨name, .empty⟩

def addRule (draft : Draft) (rule : Rule) : Draft :=
  { draft with spec := { draft.spec with rules := draft.spec.rules ++ [rule] } }

def setKind (draft : Draft) (kind : Kind) : Draft :=
  { draft with spec := { draft.spec with kind := some kind } }

/-- Attaches a rule that fits the kind declared so far. Where no kind is declared, an email rule
declares strings. -/
def attach (draft : Draft) (rule : Rule) : Except UsageError Draft :=
  match draft.spec.kind with
  | none =>
      if rule.kind = .email then .ok ((draft.setKind .string).addRule rule)
      else .ok (draft.addRule rule)
  | some kind =>
      if rule.kind.accepts kind then .ok (draft.addRule rule)
      else .error (.typeConflict draft.name rule.kind kind)

/-- Words the error of the last rule, or that of the type when there is no rule yet. -/
def setMessage (draft : Draft) (text : String) : Draft :=
  match draft.spec.rules.getLast? with
  | some rule =>
      { draft with
        spec := { draft.spec with rules := draft.spec.rules.dropLast ++ [rule.withMessage text] } }
  | none => { draft with spec := { draft.spec with typeMessage := some text } }

private def lengthRule (kind : RuleKind) (bound : UInt64) : Rule :=
  (Rule.ofKind kind).withOperand (.num (.ofUInt64 bound))

def call (draft : Draft) : Call → Except UsageError Draft
  | .asKind kind => .ok (draft.setKind kind)
  | .email => draft.attach (.ofKind .email)
  | .minLength bound => draft.attach (lengthRule .minLength bound)
  | .maxLength bound => draft.attach (lengthRule .maxLength bound)
  | .pattern text => draft.attach ((Rule.ofKind .pattern).withOperand (.str text))
  | .min bound => draft.attach ((Rule.ofKind .min).withOperand bound)
  | .max bound => draft.attach ((Rule.ofKind .max).withOperand bound)
  | .equalTo expected => .ok (draft.addRule ((Rule.ofKind .equalTo).withOperand expected))
  | .rule rule => draft.attach rule
  | .ruleText text => Rule.ofText? text >>= draft.attach
  | .message text => .ok (draft.setMessage text)

/-- Makes calls until one fails; `made` of them have been made before. A failure comes with the
number of the calls before it. -/
def callAll (draft : Draft) (made : Nat) : List Call → Except (UsageError × Nat) Draft
  | [] => .ok draft
  | next :: calls =>
      match draft.call next with
      | .ok draft => draft.callAll (made + 1) calls
      | .error error => .error (error, made)

end Draft

end FieldRules
