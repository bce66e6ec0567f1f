import FieldRules.Report
import FieldRules.Rule.Checker
import FieldRules.Schema

namespace FieldRules

/-! Validators: fields are declared, then compiled, and only compiled fields are validated. Values
are validated by themselves, as entries of a record, where they may be missing, and in many records
at once. A session is a list of such operations. -/

/-- How bulk validation takes a null: as a missing value, or as a value like others. -/
inductive NullPolicy where
  | missing
  | present
deriving DecidableEq

structure Config where
  nullPolicy : NullPolicy
  reportAbsentRequired : Bool
  enforceTypes : Bool
deriving DecidableEq

namespace Config

def initial : Config := ⟨.missing, false, false⟩

end Config

structure CompiledField where
  kind : Option Kind
  required : Bool
  typeMessage : Option String
  checkers : List Checker

namespace CompiledField

/-- The field of a specification. Rules that do not fit the declared kind are reported before rules
that are malformed. -/
def ofSpec [Pattern.Engine] (name : String) (spec : FieldSpec) (required : Bool) :
    Except UsageError CompiledField := do
  spec.checkRuleTypes name
  let checkers ← spec.rules.mapM Rule.compile
  return ⟨spec.kind, required, spec.typeMessage, checkers⟩

def conforms (field : CompiledField) (value : Value) : Bool :=
  field.kind.all (·.admits value)

def typeError (field : CompiledField) (name : String) (value : Value) : FieldError :=
  let message :=
    field.typeMessage.getD
      ("Value must be of type " ++ (field.kind.map Kind.name).getD "")
  ((FieldError.ofMessage name message).withCode "invalid_type").withGot value.text

def ruleError (name : String) (checker : Checker) (value : Value) : FieldError :=
  ((FieldError.ofMessage name checker.message).withCode checker.kind.code).withGot value.text

/-- The error of a value: that of its type when types are enforced, or else that of the first rule
it fails. -/
def evaluate (field : CompiledField) (name : String) (enforceTypes : Bool) (value : Value) :
    Option FieldError :=
  if enforceTypes && !field.conforms value then some (field.typeError name value)
  else
    (field.checkers.find? fun checker => !checker.passes value).map fun checker =>
      ruleError name checker value

end CompiledField

structure Validator where
  schema : Schema
  compiled : Table CompiledField
  errors : ErrorMap
  config : Config

/-- How a declaration ended: a failure comes with the number of the calls made before it. -/
inductive Declared where
  | compiled
  | dropped
  | failed (error : UsageError) (made : Nat)

namespace Validator

def ofRoot (root : Kind) : Validator := ⟨.ofRoot root, .empty, .empty, .initial⟩

def withConfig (validator : Validator) (config : Config) : Validator :=
  { validator with config := config }

def withNullPolicy (validator : Validator) (policy : NullPolicy) : Validator :=
  { validator with config := { validator.config with nullPolicy := policy } }

def withAbsentRequiredReported (validator : Validator) (report : Bool) : Validator :=
  { validator with config := { validator.config with reportAbsentRequired := report } }

def withTypeEnforcement (validator : Validator) (enforce : Bool) : Validator :=
  { validator with config := { validator.config with enforceTypes := enforce } }

def clearErrors (validator : Validator) : Validator := { validator with errors := .empty }

def report? (validator : Validator) : Option Report := validator.errors.report?

def declare (validator : Validator) (name : String) (required : Bool) : Validator :=
  { validator with
    schema := validator.schema.declare name required
    compiled := validator.compiled.erase name }

/-- Stores what a draft says about its field, also when it cannot be compiled. -/
def install [Pattern.Engine] (validator : Validator) (draft : Draft) :
    Validator × Except UsageError Unit :=
  let stored := { validator with schema := validator.schema.store draft.name draft.spec }
  match CompiledField.ofSpec draft.name draft.spec (validator.schema.isRequired draft.name) with
  | .ok field => ({ stored with compiled := stored.compiled.insert draft.name field }, .ok ())
  | .error error => (stored, .error error)

/-- Declares a field by a list of calls, and compiles it unless it is dropped before. Whatever was
known about the field before is lost, also when a call fails. -/
def declareField [Pattern.Engine] (validator : Validator) (name : String) (required : Bool)
    (calls : List Call) (compile : Bool) : Validator × Declared :=
  let validator := validator.declare name required
  match (Draft.start name).callAll 0 calls with
  | .error (error, made) => (validator, .failed error made)
  | .ok draft =>
      if compile then
        match validator.install draft with
        | (validator, .ok ()) => (validator, .compiled)
        | (validator, .error error) => (validator, .failed error calls.length)
      else (validator, .dropped)

end Validator

abbrev Entry := String × Option Value

namespace Entry

def ofMember (member : String × Value) : Entry := (member.1, some member.2)

end Entry

def requiredError (name : String) : FieldError :=
  (FieldError.ofMessage name ("Property " ++ name ++ " is required")).withCode "required"

namespace Validator

def compiledField (validator : Validator) (name : String) : Except UsageError CompiledField :=
  match validator.compiled.find? name with
  | some field => .ok field
  | none => .error (.notCompiled name)

/-- Checks one value; whether it passes. A null is a value like others here. -/
def validateProperty (validator : Validator) (name : String) (value : Value) :
    Validator × Except UsageError Bool :=
  match validator.compiledField name with
  | .error error => (validator, .error error)
  | .ok field =>
      match field.evaluate name validator.config.enforceTypes value with
      | some error => ({ validator with errors := validator.errors.record error }, .ok false)
      | none => (validator, .ok true)

def definedValue? (validator : Validator) : Option Value → Option Value
  | some .null =>
      match validator.config.nullPolicy with
      | .missing => none
      | .present => some .null
  | value? => value?

/-- The error of an entry, if any. A missing value is an error also where no field is compiled. -/
def evaluateEntry (validator : Validator) (entry : Entry) :
    Except UsageError (Option FieldError) :=
  match validator.definedValue? entry.2 with
  | none => .ok (some (requiredError entry.1))
  | some value => do
      let field ← validator.compiledField entry.1
      return field.evaluate entry.1 validator.config.enforceTypes value

def recordEntries (validator : Validator) (errors : ErrorMap) :
    List Entry → ErrorMap × Except UsageError Unit
  | [] => (errors, .ok ())
  | entry :: entries =>
      match validator.evaluateEntry entry with
      | .error error => (errors, .error error)
      | .ok none => validator.recordEntries errors entries
      | .ok (some error) => validator.recordEntries (errors.record error) entries

def absentNames (validator : Validator) (entries : List Entry) : List String :=
  validator.schema.requiredNames.filter fun name => !(entries.map Prod.fst).contains name

def evaluateEntries (validator : Validator) (errors : ErrorMap) (entries : List Entry) :
    ErrorMap × Except UsageError Unit :=
  match validator.recordEntries errors entries with
  | (errors, .error error) => (errors, .error error)
  | (errors, .ok ()) =>
      if validator.config.reportAbsentRequired then
        (errors.recordAll ((validator.absentNames entries).map requiredError), .ok ())
      else (errors, .ok ())

def validateEntries (validator : Validator) (entries : List Entry) :
    Validator × Except UsageError Unit :=
  let (errors, result) := validator.evaluateEntries validator.errors entries
  ({ validator with errors := errors }, result)

def validateAll (validator : Validator) (record : List (String × Value)) :
    Validator × Except UsageError Unit :=
  validator.validateEntries (record.map Entry.ofMember)

def evaluateRecord (validator : Validator) (record : List (String × Value)) :
    Except UsageError ErrorMap :=
  match validator.evaluateEntries .empty (record.map Entry.ofMember) with
  | (errors, .ok ()) => .ok errors
  | (_, .error error) => .error error

/-- The errors of each record by itself, none of which is accumulated. -/
def validateBatch (validator : Validator) (records : List (List (String × Value))) :
    Except UsageError (List ErrorMap) :=
  records.mapM validator.evaluateRecord

end Validator

inductive Operation where
  | declareField (name : String) (required : Bool) (calls : List Call) (compile : Bool)
  | configure (config : Config)
  | validateProperty (name : String) (value : Value)
  | validateAll (record : List (String × Value))
  | validateEntries (entries : List Entry)
  | validateBatch (records : List (List (String × Value)))
  | clearErrors

inductive Outcome where
  | done
  | declared (declared : Declared)
  | property (result : Except UsageError Bool)
  | bulk (result : Except UsageError Unit)
  | batch (result : Except UsageError (List ErrorMap))

namespace Validator

variable [Pattern.Engine]

def perform (validator : Validator) : Operation → Validator × Outcome
  | .declareField name required calls compile =>
      let (validator, declared) := validator.declareField name required calls compile
      (validator, .declared declared)
  | .configure config => (validator.withConfig config, .done)
  | .validateProperty name value =>
      let (validator, result) := validator.validateProperty name value
      (validator, .property result)
  | .validateAll record =>
      let (validator, result) := validator.validateAll record
      (validator, .bulk result)
  | .validateEntries entries =>
      let (validator, result) := validator.validateEntries entries
      (validator, .bulk result)
  | .validateBatch records => (validator, .batch (validator.validateBatch records))
  | .clearErrors => (validator.clearErrors, .done)

def performAll (validator : Validator) : List Operation → Validator × List Outcome
  | [] => (validator, [])
  | operation :: operations =>
      let (validator, outcome) := validator.perform operation
      let (validator, outcomes) := validator.performAll operations
      (validator, outcome :: outcomes)

/-- The validators that some session leads to. -/
inductive Reachable : Validator → Prop
  | ofRoot (root : Kind) : Reachable (ofRoot root)
  | perform {validator : Validator} (h : Reachable validator) (operation : Operation) :
      Reachable (validator.perform operation).1

end Validator

end FieldRules
