import FieldRules.Table

namespace FieldRules

structure FieldError where
  field : String
  message : String
  code : String
  got : Option String
deriving DecidableEq

namespace FieldError

def ofMessage (field message : String) : FieldError :=
  ⟨field, message, "validation_error", none⟩

def withCode (error : FieldError) (code : String) : FieldError := { error with code := code }

def withGot (error : FieldError) (got : String) : FieldError := { error with got := some got }

def text (error : FieldError) : String :=
  error.field ++ ": " ++ error.message ++
    match error.got with
    | some got => " (got: " ++ got ++ ")"
    | none => ""

end FieldError

/-- A report of a failed validation: one field error or more, in order. -/
structure Report where
  first : FieldError
  more : List FieldError
deriving DecidableEq

namespace Report

def single (error : FieldError) : Report := ⟨error, []⟩

/-- The errors of a report in their order; whatever reads a report reads this list. -/
def toList (report : Report) : List FieldError := report.first :: report.more

def size (report : Report) : Nat := report.toList.length

def append (left right : Report) : Report := ⟨left.first, left.more ++ right.toList⟩

instance : Append Report := ⟨append⟩

/-- The report of some errors: the first one alone, and each of the others appended in its turn. -/
def ofList? : List FieldError → Option Report
  | [] => none
  | first :: more => some (more.foldl (fun report error => report ++ single error) (single first))

def forField? (report : Report) (field : String) : Option FieldError :=
  report.toList.find? (·.field == field)

def withCode (report : Report) (code : String) : List FieldError :=
  report.toList.filter (·.code == code)

private def numberedLines (number : Nat) : List FieldError → String
  | [] => ""
  | error :: errors =>
      "  " ++ toString number ++ ". " ++ error.text ++ "\n" ++ numberedLines (number + 1) errors

def text (report : Report) : String :=
  "Validation failed with " ++ toString report.size ++ " error(s):\n" ++
    numberedLines 1 report.toList

@[simp] theorem toList_single (error : FieldError) : (single error).toList = [error] := rfl

@[simp] theorem toList_append (left right : Report) :
    (left ++ right).toList = left.toList ++ right.toList := rfl

end Report

/-- The accumulated errors: one for each field, the last one recorded, in the order in which the
fields first failed. -/
structure ErrorMap where
  table : Table FieldError

namespace ErrorMap

def empty : ErrorMap := ⟨.empty⟩

def record (errors : ErrorMap) (error : FieldError) : ErrorMap :=
  ⟨errors.table.insert error.field error⟩

def recordAll (errors : ErrorMap) (more : List FieldError) : ErrorMap :=
  more.foldl record errors

def find? (errors : ErrorMap) (field : String) : Option FieldError := errors.table.find? field

def message? (errors : ErrorMap) (field : String) : Option String :=
  (errors.find? field).map FieldError.message

def contains (errors : ErrorMap) (field : String) : Bool := errors.table.contains field

def toList (errors : ErrorMap) : List FieldError := errors.table.values

def size (errors : ErrorMap) : Nat := errors.table.size

def isEmpty (errors : ErrorMap) : Bool := errors.table.isEmpty

def messages (errors : ErrorMap) : List (String × String) :=
  errors.table.entries.map fun entry => (entry.1, entry.2.message)

def report? (errors : ErrorMap) : Option Report := Report.ofList? errors.toList

end ErrorMap

end FieldRules
