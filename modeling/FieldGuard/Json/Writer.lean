import FieldGuard.Text.Hex
import FieldGuard.Value.Literal

namespace FieldGuard.Json

open Text

inductive WriteError where
  | keyType (typeName : String)
  | tooDeep
  | text (error : TextError)
  deriving DecidableEq, Repr

def WriteError.message : WriteError → String
  | .keyType name => "keys must be str, int, float, bool or None, not " ++ name
  | .tooDeep => "maximum recursion depth exceeded"
  | .text e => e.message

def escapeUnits (c : Char) : List Char :=
  let n := c.toNat
  if n < 0x10000 then '\\' :: 'u' :: hex 4 n
  else
    let m := n - 0x10000
    '\\' :: 'u' :: hex 4 (0xd800 + m / 0x400) ++ '\\' :: 'u' :: hex 4 (0xdc00 + m % 0x400)

def escapeChar (c : Char) : List Char :=
  if c = '"' then ['\\', '"']
  else if c = '\\' then ['\\', '\\']
  else if c = '\n' then ['\\', 'n']
  else if c = '\r' then ['\\', 'r']
  else if c = '\t' then ['\\', 't']
  else if c = '\x0c' then ['\\', 'f']
  else if c = '\x08' then ['\\', 'b']
  else if 0x20 ≤ c.toNat ∧ c.toNat ≤ 0x7e then [c]
  else escapeUnits c

def writeText (s : String) : List Char := '"' :: s.toList.flatMap escapeChar ++ ['"']

def writeFloat : Binary64 → List Char
  | .nan => "NaN".toList
  | .infinity negative => if negative then "-Infinity".toList else "Infinity".toList
  | x => x.text.toList

def writeInt (n : Int) : Except WriteError (List Char) :=
  match Value.intText n with
  | .ok s => .ok s.toList
  | .error e => .error (.text e)

def writeBool (b : Bool) : List Char := if b then "true".toList else "false".toList

def writeShown (room : Nat) (v : Value) : Except WriteError (List Char) :=
  match v.display room with
  | .ok s => .ok (writeText s)
  | .error e => .error (.text e)

def writeKey (k : Value) : Except WriteError (List Char) :=
  let quote (cs : List Char) := '"' :: cs ++ ['"']
  match k with
  | .text s => .ok (writeText s)
  | .null => .ok (quote "null".toList)
  | .bool b => .ok (quote (writeBool b))
  | .int n => (writeInt n).map quote
  | .float x => .ok (quote (writeFloat x))
  | k => .error (.keyType k.typeName)

def newLine (depth : Nat) : List Char := '\n' :: List.replicate (2 * depth) ' '

def enclose (left right : Char) (depth : Nat) (parts : List (List Char)) : List Char :=
  match parts with
  | [] => [left, right]
  | parts =>
    left :: newLine (depth + 1) ++ (',' :: newLine (depth + 1)).intercalate parts ++
      newLine depth ++ [right]

mutual

def writeAt (depth : Nat) : Nat → Value → Except WriteError (List Char)
  | _, .null => .ok "null".toList
  | _, .bool b => .ok (writeBool b)
  | _, .int n => writeInt n
  | _, .float x => .ok (writeFloat x)
  | _, .text s => .ok (writeText s)
  | 0, .list _ | 0, .tuple _ | 0, .mapping .plain _ | 0, .mapping .ordered _ => .error .tooDeep
  | room + 1, .list items => return enclose '[' ']' depth (← writeItems (depth + 1) room items)
  | room + 1, .tuple items => return enclose '[' ']' depth (← writeItems (depth + 1) room items)
  | room + 1, .mapping .plain es =>
    return enclose '\x7b' '\x7d' depth (← writeEntries (depth + 1) room es)
  | room + 1, .mapping .ordered es =>
    return enclose '\x7b' '\x7d' depth (← writeEntries (depth + 1) room es)
  | room, v => writeShown room v

def writeItems (depth : Nat) (room : Nat) : List Value → Except WriteError (List (List Char))
  | [] => .ok []
  | v :: vs => return (← writeAt depth room v) :: (← writeItems depth room vs)

def writeEntries (depth : Nat) (room : Nat) :
    List (Value × Value) → Except WriteError (List (List Char))
  | [] => .ok []
  | (k, v) :: es => do
    let key ← writeKey k
    let value ← writeAt depth room v
    return (key ++ ':' :: ' ' :: value) :: (← writeEntries depth room es)

end

def write [DepthLimit] (v : Value) : Except WriteError String :=
  (writeAt 0 (DepthLimit.limit .writing) v).map String.ofList

end FieldGuard.Json
