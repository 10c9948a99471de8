import FieldGuard.Text.Hex

namespace FieldGuard.TypeHint.Escape

def simple? : Char → Option (List Char)
  | '\n' => some []
  | '\\' => some ['\\']
  | '\'' => some ['\'']
  | '"' => some ['"']
  | 'a' => some ['\x07']
  | 'b' => some ['\x08']
  | 'f' => some ['\x0c']
  | 'n' => some ['\n']
  | 'r' => some ['\r']
  | 't' => some ['\t']
  | 'v' => some ['\x0b']
  | _ => none

def isOctal (c : Char) : Bool := decide ('0'.toNat ≤ c.toNat ∧ c.toNat ≤ '7'.toNat)

def number (base : Nat) (ds : List Char) : Nat :=
  ds.foldl (fun n c => n * base + (Text.hexValue? c).getD 0) 0

def octal? (cs : List Char) : Option (Nat × List Char) :=
  let ds := (cs.take 3).takeWhile isOctal
  if ds.isEmpty then none else some (number 8 ds, cs.drop ds.length)

def width? : Char → Option Nat
  | 'x' => some 2
  | 'u' => some 4
  | 'U' => some 8
  | _ => none

def hexadecimal? (width : Nat) (cs : List Char) : Option (Nat × List Char) :=
  let ds := cs.take width
  if ds.length = width ∧ ds.all (fun c => (Text.hexValue? c).isSome) then
    some (number 16 ds, cs.drop width)
  else none

def character? (n : Nat) : Option Char :=
  if 0xd800 ≤ n ∧ n ≤ 0xdfff then some '\ufffd'
  else if n ≤ 0x10ffff then some (Char.ofNat n)
  else none

def named? (name : String) : Option Char :=
  let letter (lead : String) : Option Char :=
    match (lead.toList.isPrefixOf? name.toList) with
    | some [c] => some c
    | _ => none
  match letter "LATIN CAPITAL LETTER ", letter "LATIN SMALL LETTER " with
  | some c, _ => if c.isUpper then some c else none
  | none, some c => if c.isUpper then some c.toLower else none
  | none, none =>
    [("SPACE", ' '), ("FULL STOP", '.'), ("COMMA", ','), ("LOW LINE", '_'),
      ("LEFT SQUARE BRACKET", '['), ("RIGHT SQUARE BRACKET", ']'),
      ("LEFT PARENTHESIS", '('), ("RIGHT PARENTHESIS", ')')].lookup name

def name? : List Char → Option (String × List Char)
  | '\x7b' :: cs =>
    match cs.dropWhile (· != '\x7d') with
    | '\x7d' :: rest => some (String.ofList ((cs.takeWhile (· != '\x7d')).map Char.toUpper), rest)
    | _ => none
  | _ => none

def text? : List Char → Option (List Char × List Char)
  | [] => some (['\\'], [])
  | c :: rest =>
    match simple? c with
    | some cs => some (cs, rest)
    | none =>
      if isOctal c then (octal? (c :: rest)).map fun (n, after) => ([Char.ofNat n], after)
      else if c = 'N' then do
        let (name, after) ← name? rest
        some ([← named? name], after)
      else match width? c with
        | some width => do
          let (n, after) ← hexadecimal? width rest
          some ([← character? n], after)
        | none => some (['\\', c], rest)

def bytes? : List Char → Option (List Char × List Char)
  | [] => some (['\\'], [])
  | c :: rest =>
    match simple? c with
    | some cs => some (cs, rest)
    | none =>
      if isOctal c then
        (octal? (c :: rest)).map fun (n, after) => ([Char.ofNat (n % 0x100)], after)
      else if c = 'x' then do
        let (n, after) ← hexadecimal? 2 rest
        some ([Char.ofNat n], after)
      else some (['\\', c], rest)

def expand (escape : List Char → Option (List Char × List Char)) :
    Nat → List Char → Option (List Char)
  | _, [] => some []
  | 0, _ => none
  | fuel + 1, '\\' :: cs => do
    let (piece, rest) ← escape cs
    return piece ++ (← expand escape fuel rest)
  | fuel + 1, c :: cs => (expand escape fuel cs).map (c :: ·)

def textOf? (raw : Bool) (body : List Char) : Option (List Char) :=
  if raw then some body else expand text? body.length body

def bytesOf? (raw : Bool) (body : List Char) : Option (List UInt8) :=
  if body.all fun c => decide (c.toNat < 0x80) then
    (if raw then some body else expand bytes? body.length body).map fun cs =>
      cs.map fun c => UInt8.ofNat c.toNat
  else none

end FieldGuard.TypeHint.Escape
