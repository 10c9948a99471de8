import FieldGuard.Decimal.Shortest
import FieldGuard.Numeral
import FieldGuard.TypeHint.Meaning

namespace FieldGuard.TypeHint.Meaning

def commaSeparated (parts : List String) : String := ", ".intercalate parts

def parenthesized : List String → String
  | [part] => "(" ++ part ++ ",)"
  | parts => "(" ++ commaSeparated parts ++ ")"

def integerText (n : Int) : String := String.ofList (Numeral.decimal n)

def variableText (form : VariableForm) (name : String) : String :=
  match form with
  | .types => name
  | _ =>
    if ["T_co", "V_co", "VT_co", "CT_co"].contains name then "+" ++ name
    else if name = "T_contra" then "-" ++ name
    else "~" ++ name

def classText (name : String) : String := if name = "typing.Any" then name else
  "<class '" ++ name ++ "'>"

def areParameters : Meaning → Bool
  | .ellipsis | .tuple _ | .list _ => true
  | .typeVariable .parameters _ => true
  | .applied (.form "Concatenate") _ => true
  | _ => false

def appliedText (head : Head) (wholeParameters : Bool) (parts : List String) : String :=
  let arguments := if parts.isEmpty then "()" else commaSeparated parts
  match head with
  | .native origin expanded => (if expanded then "*" else "") ++ origin ++ "[" ++ arguments ++ "]"
  | .form "Unpack" => "*" ++ commaSeparated parts
  | .generic "Callable" =>
    if wholeParameters then "typing.Callable[" ++ arguments ++ "]"
    else "typing.Callable[[" ++ commaSeparated parts.dropLast ++ "], " ++
      parts.getLastD "" ++ "]"
  | .generic name | .form name => "typing." ++ name ++ "[" ++ arguments ++ "]"
  | .library name => name ++ "[" ++ arguments ++ "]"

def unionText (native : Bool) (members : List Meaning) (parts : List String) : String :=
  if native then " | ".intercalate (parts.map fun p => if p = "NoneType" then "None" else p)
  else match members, parts with
    | [.type "NoneType", _], [_, p] => "typing.Optional[" ++ p ++ "]"
    | [_, .type "NoneType"], [p, _] => "typing.Optional[" ++ p ++ "]"
    | _, parts => "typing.Union[" ++ commaSeparated parts ++ "]"

mutual

def written : Meaning → String
  | .none => "None"
  | .ellipsis => "Ellipsis"
  | .notImplemented => "NotImplemented"
  | .bool b => if b then "True" else "False"
  | .integer n => integerText n
  | .float x => x.text
  | .text s => Text.quoted s
  | .bytes bs => Text.quotedBytes bs
  | .list items => "[" ++ commaSeparated (writtenAll items) ++ "]"
  | .tuple items => parenthesized (writtenAll items)
  | .set frozen items =>
    if frozen then
      if items.isEmpty then "frozenset()"
      else "frozenset(\x7b" ++ commaSeparated (writtenAll items) ++ "\x7d)"
    else if items.isEmpty then "set()"
    else "\x7b" ++ commaSeparated (writtenAll items) ++ "\x7d"
  | .dict entries => "\x7b" ++ commaSeparated (writtenEntries entries) ++ "\x7d"
  | .slice start stop step =>
    "slice(" ++ commaSeparated [written start, written stop, written step] ++ ")"
  | .range start stop step =>
    "range(" ++ commaSeparated
      (([start, stop] ++ if step = 1 then [] else [step]).map integerText) ++ ")"
  | .type name => classText name
  | .module name => "<module '" ++ name ++ "'>"
  | .form name | .generic name => "typing." ++ name
  | .applied head args =>
    appliedText head (args.length == 2 && (args.head?).any areParameters) (typesWritten args)
  | .union native members => unionText native members (typesWritten members)
  | .annotated m notes =>
    "typing.Annotated[" ++ commaSeparated (typeWritten m :: writtenAll notes) ++ "]"
  | .quoted s _ => "ForwardRef(" ++ Text.quoted s ++ ")"
  | .typeVariable f name => variableText f name
  | .newType name _ => "records." ++ name
  | .function name => "<built-in function " ++ name ++ ">"
  | .method m name => "<built-in method " ++ name ++ " of " ++ typeName m ++ " object>"
  | .member owner name => "<method '" ++ name ++ "' of '" ++ owner ++ "' objects>"
  | .closure _ _ _ => "<function <lambda>>"
  | .iterator name _ _ | .other name => "<" ++ name ++ " object>"

def typeWritten : Meaning → String
  | .type name => name
  | .ellipsis => "..."
  | .function name => shortName name
  | .closure _ _ _ => "<lambda>"
  | m => written m

def writtenAll : List Meaning → List String
  | [] => []
  | m :: ms => written m :: writtenAll ms

def typesWritten : List Meaning → List String
  | [] => []
  | m :: ms => typeWritten m :: typesWritten ms

def writtenEntries : List (Meaning × Meaning) → List String
  | [] => []
  | (k, v) :: es => (written k ++ ": " ++ written v) :: writtenEntries es

end

def shown : Meaning → String
  | .text s => s
  | m => written m

end FieldGuard.TypeHint.Meaning
