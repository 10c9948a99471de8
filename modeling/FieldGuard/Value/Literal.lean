import FieldGuard.Decimal.Shortest
import FieldGuard.Numeral
import FieldGuard.Value.Basic

namespace FieldGuard

def TextError.message : TextError → String
  | .tooLarge => Numeral.Error.tooLargeToWrite.message
  | .tooDeep => "maximum recursion depth exceeded while getting the repr of an object"
  | .raised _ message => message

namespace Value

def intText (n : Int) : Except TextError String :=
  match Numeral.write n with
  | .ok s => .ok s
  | .error _ => .error .tooLarge

def boolText (b : Bool) : String := if b then "True" else "False"

def commaSeparated (parts : List String) : String := ", ".intercalate parts

def tupleText (parts : List String) : String :=
  match parts with
  | [part] => "(" ++ part ++ ",)"
  | parts => "(" ++ commaSeparated parts ++ ")"

def listText (parts : List String) : String := "[" ++ commaSeparated parts ++ "]"

def braced (parts : List String) : String := "\x7b" ++ commaSeparated parts ++ "\x7d"

def entryText (p : String × String) : String := p.1 ++ ": " ++ p.2

/-- The text of a value inside others, with so many nested calls at most. A set is shown as the list
of its items, an ordered mapping as the list of its entries. -/
def literal : Nat → Value → Except TextError String
  | 0, _ => .error .tooDeep
  | _ + 1, .null => .ok "None"
  | _ + 1, .bool b => .ok (boolText b)
  | _ + 1, .int n => intText n
  | _ + 1, .float x => .ok x.text
  | _ + 1, .text s => .ok (Text.quoted s)
  | _ + 1, .bytes bs => .ok (Text.quotedBytes bs)
  | room + 1, .list items => return listText (← items.mapM (literal room))
  | room + 1, .tuple items => return tupleText (← items.mapM (literal room))
  | _ + 1, .set [] => .ok "set()"
  | 1, .set (_ :: _) => .error .tooDeep
  | room + 2, .set items => return braced (← items.mapM (literal room))
  | room + 1, .mapping .plain es => return braced (← es.mapM fun e => do
      return entryText (← literal room e.1, ← literal room e.2))
  | room + 1, .mapping .view es =>
    return "mappingproxy(" ++ (← literal room (.mapping .plain es)) ++ ")"
  | _ + 1, .mapping .ordered [] => .ok "OrderedDict()"
  | room + 1, .mapping .ordered es =>
    return "OrderedDict(" ++ (← literal room (.list (es.map fun e => .tuple [e.1, e.2]))) ++ ")"
  | _ + 1, .opaqueOf _ shown => shown.inside
  | _ + 1, .recordType t => .ok ("<class '" ++ t.module ++ "." ++ t.name ++ "'>")
  | _ + 1, .record _ _ shown => shown.inside

def display (room : Nat) : Value → Except TextError String
  | .text s => .ok s
  | .mapping .view es => literal (room - 1) (.mapping .plain es)
  | .opaqueOf _ shown => shown.alone
  | .record _ _ shown => shown.alone
  | v => literal room v

end Value

end FieldGuard
