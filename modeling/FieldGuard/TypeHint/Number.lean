import FieldGuard.Decimal.Binary64
import FieldGuard.Numeral
import FieldGuard.Text.Hex

namespace FieldGuard.TypeHint

inductive Number where
  | integer (n : Nat)
  | float (x : Binary64)
  | imaginary
  deriving DecidableEq, Repr

namespace Number

def grouped (isDigit : Char → Bool) : List Char → Option (List Char × List Char)
  | [] => some ([], [])
  | ['_'] => none
  | '_' :: c :: rest => if isDigit c then grouped isDigit (c :: rest) else none
  | c :: rest =>
    if isDigit c then (grouped isDigit rest).map fun (ds, after) => (c :: ds, after)
    else some ([], c :: rest)

def startsWithDigit (cs : List Char) : Bool := (cs.head?).any Char.isDigit

def words : List String := ["and", "else", "for", "if", "in", "is", "or", "not"]

def endsBefore (cs : List Char) : Bool :=
  words.any (fun w => w.toList.isPrefixOf cs) ||
    !(cs.head?).any fun c => c.isAlphanum || c == '_' || decide (0x80 ≤ c.toNat)

def base? (c : Char) : Option Nat :=
  match c.toLower with
  | 'x' => some 16
  | 'o' => some 8
  | 'b' => some 2
  | _ => none

def inBase (base : Nat) (cs : List Char) : Option (Number × List Char) := do
  let (ds, rest) ← grouped (fun c => (Text.hexValue? c).any (· < base)) cs
  if ds.isEmpty || !endsBefore rest then none
  else some (.integer (ds.foldl (fun n c => n * base + (Text.hexValue? c).getD 0) 0), rest)

def exponent? (cs : List Char) : Option (Int × List Char) :=
  match cs with
  | e :: rest =>
    let (negative, ds) := match rest with
      | '-' :: r => (true, r)
      | '+' :: r => (false, r)
      | r => (false, r)
    if e.toLower = 'e' ∧ startsWithDigit ds then
      (grouped Char.isDigit ds).map fun (ds, after) =>
        (Numeral.signed negative (Nat.ofDigitChars 10 ds 0), after)
    else none
  | [] => none

def isInteger (ds : List Char) : Bool :=
  decide (ds.length ≤ Numeral.digitLimit) && (ds.head? != some '0' || ds.all (· == '0'))

def inTen (cs : List Char) : Option (Number × List Char) := do
  let (whole, rest) ← grouped Char.isDigit cs
  let (point, fraction, rest) ← match rest with
    | '.' :: r =>
      if startsWithDigit r then
        (grouped Char.isDigit r).map fun (ds, after) => (true, ds, after)
      else some (true, [], r)
    | r => some (false, [], r)
  let (scaled, e, rest) := match exponent? rest with
    | some (e, after) => (true, e, after)
    | none => (false, 0, rest)
  let (turned, rest) := match rest with
    | 'j' :: r | 'J' :: r => (true, r)
    | r => (false, r)
  if !endsBefore rest then none
  else if turned then some (.imaginary, rest)
  else if point || scaled then
    let n := Nat.ofDigitChars 10 (whole ++ fraction) 0
    some (.float (Binary64.ofDecimal false n (e - fraction.length)), rest)
  else if isInteger whole then some (.integer (Nat.ofDigitChars 10 whole 0), rest)
  else none

def read? : List Char → Option (Number × List Char)
  | '0' :: c :: rest =>
    match base? c with
    | some base => inBase base rest
    | none => inTen ('0' :: c :: rest)
  | cs => inTen cs

example : read? "0x_1F]".toList = some (.integer 31, [']']) := by decide +kernel
example : read? "1_000if".toList = some (.integer 1000, ['i', 'f']) := by decide +kernel
example : read? "012".toList = none := by decide +kernel

end Number

end FieldGuard.TypeHint
