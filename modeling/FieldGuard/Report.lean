import FieldGuard.Json.Writer
import FieldGuard.Violation.Collection

namespace FieldGuard

structure Report where
  violations : Violations
  warnings : List String
  context : Entries Value Value

namespace Report

inductive TextError where
  | noSize (typeName : String)
  | value (error : FieldGuard.TextError)
  deriving DecidableEq, Repr

def TextError.message : TextError → String
  | .noSize typeName => "object of type '" ++ typeName ++ "' has no len()"
  | .value e => e.message

def isValid (r : Report) : Bool := r.violations.isEmpty

def truth (r : Report) : Bool := r.isValid

def errors (r : Report) : List String := r.violations.messages

def label (v : Violation) : String := if v.field.isEmpty then "<record>" else v.field

def line (v : Violation) : String := label v ++ " [" ++ v.code.text ++ "]: " ++ v.message

def plural (noun : String) (n : Nat) : String := if n = 1 then noun else noun ++ "s"

def checkedFields : String := "checked_fields"

def checkedSuffix (r : Report) : Except TextError String :=
  match Value.lookup r.context checkedFields with
  | none | some .null => .ok ""
  | some v => match v.size? with
    | some n => .ok (": " ++ n.repr ++ " tagged fields checked")
    | none => .error (.noSize v.typeName)

def header (r : Report) : Except TextError String :=
  let count := r.violations.size
  let fields := (r.violations.toList.map label).eraseDups.length
  if r.isValid then r.checkedSuffix.map ("Validation passed" ++ ·)
  else .ok <| "Validation failed: " ++ count.repr ++ " " ++ plural "violation" count ++ " in " ++
    fields.repr ++ " " ++ plural "field" fields

def block (title : String) (lines : List String) : List String :=
  if lines.isEmpty then [] else ["", title] ++ lines

def contextLines [DepthLimit] (r : Report) : Except TextError (List String) :=
  (r.context.filter fun e => !e.1.isText checkedFields).mapM fun (k, v) =>
    match k.display (DepthLimit.limit .contextText), v.display (DepthLimit.limit .contextText) with
    | .ok key, .ok value => .ok ("  " ++ key ++ ": " ++ value)
    | .error e, _ | _, .error e => .error (.value e)

def lines [DepthLimit] (r : Report) : Except TextError (List String) := do
  let header ← r.header
  let context ← r.contextLines
  return header :: r.violations.toList.map (fun v => "  - " ++ line v) ++
    block "Warnings:" (r.warnings.map fun w => "  - " ++ w) ++ block "Context:" context

def text [DepthLimit] (r : Report) : Except TextError String :=
  r.lines.map fun ls => "\n".intercalate ls

def violationValue (v : Violation) : Value :=
  .keyed [("field", .text v.field), ("message", .text v.message), ("code", .text v.code.text)]

def toValue (r : Report) : Value :=
  .keyed [("is_valid", .bool r.isValid),
    ("violations", .list (r.violations.toList.map violationValue)),
    ("warnings", .list (r.warnings.map .text)), ("context", .mapping .plain r.context)]

def toJson [DepthLimit] (r : Report) : Except Json.WriteError String := Json.write r.toValue

def require (r : Report) : Except Violations Unit :=
  if r.isValid then .ok () else .error r.violations

theorem isValid_iff (r : Report) : r.isValid = true ↔ r.violations.toList = [] := by
  simp [isValid, Violations.isEmpty]

theorem require_eq_ok_iff (r : Report) : r.require = .ok () ↔ r.isValid = true := by
  simp [require]

end Report

end FieldGuard
