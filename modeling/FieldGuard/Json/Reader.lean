import FieldGuard.Decimal.Reader
import FieldGuard.Numeral
import FieldGuard.Text.Hex
import FieldGuard.Text.StandIn
import FieldGuard.Value.Basic

/-!
Reading JSON. Besides the standard's grammar the constants `NaN`, `Infinity` and `-Infinity` are
numbers, and of entries with one key the last value counts. A number with a fraction or an exponent
is a floating point number; one with neither is an integer.
-/

namespace FieldGuard.Json

open Text

inductive Nest where
  | object
  | array
  deriving DecidableEq, Repr

def Nest.text : Nest → String
  | .object => "object"
  | .array => "array"

inductive Error where
  | value
  | propertyName
  | colon
  | comma
  | extraData
  | unterminated
  | controlCharacter
  | badEscape
  | badUnicodeEscape
  | byteOrderMark
  | numeral (error : Numeral.Error)
  | tooDeep (kind : Nest)
  deriving DecidableEq, Repr

def Error.message : Error → String
  | .value => "Expecting value"
  | .propertyName => "Expecting property name enclosed in double quotes"
  | .colon => "Expecting ':' delimiter"
  | .comma => "Expecting ',' delimiter"
  | .extraData => "Extra data"
  | .unterminated => "Unterminated string starting at"
  | .controlCharacter => "Invalid control character at"
  | .badEscape => "Invalid \\escape"
  | .badUnicodeEscape => "Invalid \\uXXXX escape"
  | .byteOrderMark => "Unexpected UTF-8 BOM (decode using utf-8-sig)"
  | .numeral e => e.message
  | .tooDeep kind =>
    "maximum recursion depth exceeded while decoding a JSON " ++ kind.text ++
      " from a unicode string"

abbrev Reading (α : Type) := Except Error (α × List Char)

def isSpace (c : Char) : Bool := c == ' ' || c == '\t' || c == '\n' || c == '\r'

def skip (cs : List Char) : List Char := cs.dropWhile isSpace

def unescape? : Char → Option Char
  | '"' => some '"'
  | '\\' => some '\\'
  | '/' => some '/'
  | 'b' => some '\x08'
  | 'f' => some '\x0c'
  | 'n' => some '\n'
  | 'r' => some '\r'
  | 't' => some '\t'
  | _ => none

def hex4? (a b c d : Char) : Option Nat := do
  return (← hexValue? a) * 0x1000 + (← hexValue? b) * 0x100 + (← hexValue? c) * 0x10 +
    (← hexValue? d)

def isHigh (n : Nat) : Bool := decide (0xd800 ≤ n ∧ n ≤ 0xdbff)

def isLow (n : Nat) : Bool := decide (0xdc00 ≤ n ∧ n ≤ 0xdfff)

/-- The character of a code unit. A unit that is half of a pair has its stand-in, or else the
replacement character. -/
def unitChar [StandIns] (n : Nat) : Char :=
  if isHigh n || isLow n then (StandIns.char? (Fin.ofNat 0x800 (n - 0xd800))).getD '\ufffd'
  else Char.ofNat n

def pairChar (high low : Nat) : Char :=
  Char.ofNat (0x10000 + (high - 0xd800) * 0x400 + (low - 0xdc00))

def addChar (c : Char) (r : Reading (List Char)) : Reading (List Char) :=
  r.map fun (s, rest) => (c :: s, rest)

def readText [StandIns] : List Char → Reading (List Char)
  | [] => .error .unterminated
  | '"' :: rest => .ok ([], rest)
  | ['\\'] => .error .unterminated
  | '\\' :: 'u' :: a :: b :: c :: d :: rest =>
    match rest, hex4? a b c d with
    | [], _ => .error .badUnicodeEscape
    | _, none => .error .badUnicodeEscape
    | rest, some high =>
      if isHigh high then
        match rest with
        | '\\' :: 'u' :: a :: b :: c :: d :: e :: more =>
          match hex4? a b c d with
          | none => .error .badUnicodeEscape
          | some low =>
            if isLow low then addChar (pairChar high low) (readText (e :: more))
            else addChar (unitChar high) (readText ('\\' :: 'u' :: a :: b :: c :: d :: e :: more))
        | rest => addChar (unitChar high) (readText rest)
      else addChar (unitChar high) (readText rest)
  | '\\' :: c :: rest =>
    if c = 'u' then .error .badUnicodeEscape
    else match unescape? c with
      | some c => addChar c (readText rest)
      | none => .error .badEscape
  | c :: rest =>
    if c.toNat ≤ 0x1f then .error .controlCharacter else addChar c (readText rest)
termination_by cs => cs.length

def splitWhole? : List Char → Option (List Char × List Char)
  | '0' :: rest => some (['0'], rest)
  | cs => Binary64.splitRun? cs

def readNumber (cs : List Char) : Reading Value :=
  let (negative, body) := match cs with
    | '-' :: rest => (true, rest)
    | rest => (false, rest)
  match splitWhole? body with
  | none => .error .value
  | some (whole, rest) =>
    let (fraction, rest) := Binary64.splitFraction rest
    match Binary64.splitExponent? rest with
    | some (e, rest) => .ok (.float (Binary64.ofParts negative whole fraction e), rest)
    | none =>
      if fraction.isEmpty then
        match Numeral.ofDigits whole with
        | .ok n => .ok (.int (Numeral.signed negative n), rest)
        | .error e => .error (.numeral e)
      else .ok (.float (Binary64.ofParts negative whole fraction 0), rest)

def words : List (String × Value) :=
  [("null", .null), ("true", .bool true), ("false", .bool false), ("NaN", .float .nan),
    ("Infinity", .float (.infinity false)), ("-Infinity", .float (.infinity true))]

def readWord? (cs : List Char) : Option (Value × List Char) :=
  words.findSome? fun (w, v) => (w.toList.isPrefixOf? cs).map fun rest => (v, rest)

section Values

variable [StandIns]

mutual

/-- A value at the front, with so many arrays and objects open at most. Of two calls that follow
each other at least one has read a character, so twice as much fuel as characters is enough. -/
def readValue : Nat → Nat → List Char → Except Error (Value × List Char)
  | 0, _, _ => .error .value
  | _ + 1, _, '"' :: rest => (readText rest).map fun (s, rest) => (.text (String.ofList s), rest)
  | _ + 1, 0, '\x7b' :: _ => .error (.tooDeep .object)
  | fuel + 1, room + 1, '\x7b' :: rest =>
    match skip rest with
    | '\x7d' :: rest => .ok (.mapping .plain [], rest)
    | rest => readEntries fuel room [] rest
  | _ + 1, 0, '[' :: _ => .error (.tooDeep .array)
  | fuel + 1, room + 1, '[' :: rest =>
    match skip rest with
    | ']' :: rest => .ok (.list [], rest)
    | rest => readItems fuel room [] rest
  | _ + 1, _, cs =>
    match readWord? cs with
    | some r => .ok r
    | none => readNumber cs

def readEntries :
    Nat → Nat → Entries Value Value → List Char → Except Error (Value × List Char)
  | 0, _, _, _ => .error .value
  | fuel + 1, room, es, '"' :: rest => do
    let (key, rest) ← readText rest
    match skip rest with
    | ':' :: rest =>
      let (v, rest) ← readValue fuel room (skip rest)
      let es := Entries.put Value.sameKey (.text (String.ofList key)) v es
      match skip rest with
      | '\x7d' :: rest => return (.mapping .plain es, rest)
      | ',' :: rest => readEntries fuel room es (skip rest)
      | _ => throw .comma
    | _ => throw .colon
  | _ + 1, _, _, _ => .error .propertyName

def readItems : Nat → Nat → List Value → List Char → Except Error (Value × List Char)
  | 0, _, _, _ => .error .value
  | fuel + 1, room, vs, cs => do
    let (v, rest) ← readValue fuel room cs
    match skip rest with
    | ']' :: rest => return (.list (v :: vs).reverse, rest)
    | ',' :: rest => readItems fuel room (v :: vs) (skip rest)
    | _ => throw .comma

end

def read (room : Nat) (cs : List Char) : Except Error Value :=
  if cs.head? = some '\ufeff' then .error .byteOrderMark
  else do
    let (v, rest) ← readValue (2 * cs.length + 2) room (skip cs)
    if skip rest = [] then return v
    throw .extraData

end Values

end FieldGuard.Json
