import FieldGuard.Constraint.Basic
import FieldGuard.Kind
import FieldGuard.Value.Literal

/-!
Tags: constraints as text. A tag is the lead of a family and arguments between commas. Which
families and arguments are legal depends on the kind of the field; arguments beyond those that a
family takes are ignored.
-/

namespace FieldGuard

namespace Tag

inductive Reason where
  | notText
  | unsupportedKind
  | unknownFamily
  | lengthOnIntegers
  | missingArgument
  | notInteger (token : String)
  | negativeLength
  | missingBound
  deriving DecidableEq, Repr

def Reason.text : Reason → String
  | .notText => "tag must be a string"
  | .unsupportedKind => "field type is not supported"
  | .unknownFamily => "tag must start with one of " ++ ", ".intercalate (Family.all.map Family.lead)
  | .lengthOnIntegers => "len is only allowed on string fields"
  | .missingArgument => "missing argument"
  | .notInteger token => "argument " ++ Text.quoted token ++ " is not an integer"
  | .negativeLength => "length must be non-negative"
  | .missingBound => "range requires a lower and an upper bound"

structure Fault where
  tag : String
  reason : Reason
  deriving DecidableEq, Repr

def faultMessage (reason tag : String) : String :=
  "Validation Error: " ++ reason ++ ": " ++ Text.quoted tag

def unknownReason : String := "invalid validator syntax"

def Fault.message (f : Fault) : String := faultMessage f.reason.text f.tag

inductive Error where
  | fault (fault : Fault)
  | numeral (error : Numeral.Error)
  | text (error : TextError)
  deriving DecidableEq, Repr

def splitLead? (cs : List Char) : Option (Family × List Char) :=
  Family.all.findSome? fun f => (f.lead.toList.isPrefixOf? cs).map fun rest => (f, rest)

def integer (tag : String) (token : List Char) : Except Error Int :=
  match Numeral.readToken token with
  | .error e => .error (.numeral e)
  | .ok none => .error (.fault ⟨tag, .notInteger (String.ofList token)⟩)
  | .ok (some n) => .ok n

def membership (tag : String) (kind : Kind) (tokens : List (List Char)) : Except Error Constraint :=
  let c := .membership (String.ofList (tokens.headD [])) (tokens.tail.map String.ofList)
  if kind.isString then .ok c else (tokens.mapM (integer tag)).map fun _ => c

def constraintOf (tag : String) (kind : Kind) (family : Family) (tokens : List (List Char)) :
    Except Error Constraint :=
  let first := tokens.headD []
  match family with
  | .membership => membership tag kind tokens
  | .length => do
    let n ← integer tag first
    if n < 0 then throw (.fault ⟨tag, .negativeLength⟩)
    return .length n.toNat
  | .minimum => do return .minimum (← integer tag first)
  | .maximum => do return .maximum (← integer tag first)
  | .range =>
    match tokens.tail with
    | [] => .error (.fault ⟨tag, .missingBound⟩)
    | second :: _ => do return .range (← integer tag first) (← integer tag second)

def parse (tag : String) (kind : Kind) : Except Error Constraint :=
  match splitLead? tag.toList with
  | none => .error (.fault ⟨tag, .unknownFamily⟩)
  | some (family, arguments) =>
    let tokens := arguments.splitOn ','
    if family = .length ∧ kind.isString = false then .error (.fault ⟨tag, .lengthOnIntegers⟩)
    else if tokens.headD [] = [] then .error (.fault ⟨tag, .missingArgument⟩)
    else constraintOf tag kind family tokens

def read [DepthLimit] (tag : Value) (kind : Option Kind) : Except Error Constraint :=
  match tag with
  | .text s =>
    match kind with
    | none => .error (.fault ⟨s, .unsupportedKind⟩)
    | some k => parse s k
  | v =>
    match v.display (DepthLimit.limit .tagText) with
    | .ok s => .error (.fault ⟨s, .notText⟩)
    | .error e => .error (.text e)

def arguments : Constraint → List (List Char)
  | .length n => [Numeral.decimal n]
  | .membership first others => (first :: others).map String.toList
  | .minimum a => [Numeral.decimal a]
  | .maximum b => [Numeral.decimal b]
  | .range a b => [Numeral.decimal a, Numeral.decimal b]

def write (c : Constraint) : String :=
  String.ofList (c.family.lead.toList ++ [','].intercalate (arguments c))

theorem read_text [DepthLimit] (s : String) (k : Kind) : read (.text s) (some k) = parse s k := rfl

end Tag

end FieldGuard
