import FieldGuard.Decimal.Binary64

namespace FieldGuard.Binary64

def splitRun? (cs : List Char) : Option (List Char × List Char) :=
  match cs.takeWhile Char.isDigit with
  | [] => none
  | d :: ds => some (d :: ds, cs.dropWhile Char.isDigit)

def splitFraction (cs : List Char) : List Char × List Char :=
  match cs with
  | '.' :: rest => (splitRun? rest).getD ([], cs)
  | _ => ([], cs)

def splitExponent? (cs : List Char) : Option (Int × List Char) :=
  match cs with
  | e :: rest =>
    if e = 'e' ∨ e = 'E' then
      let (negative, body) := match rest with
        | '-' :: r => (true, r)
        | '+' :: r => (false, r)
        | r => (false, r)
      (splitRun? body).map fun (ds, after) =>
        let n := Nat.ofDigitChars 10 ds 0
        (if negative then -(n : Int) else n, after)
    else none
  | [] => none

def ofParts (negative : Bool) (whole fraction : List Char) (e : Int) : Binary64 :=
  ofDecimal negative (Nat.ofDigitChars 10 (whole ++ fraction) 0) (e - fraction.length)

def parse? (s : String) : Option Binary64 :=
  let (negative, body) := match s.toList with
    | '-' :: r => (true, r)
    | r => (false, r)
  if body = "inf".toList then some (.infinity negative)
  else if s = "nan" then some .nan
  else do
    let (whole, rest) ← splitRun? body
    let (fraction, rest) := splitFraction rest
    let (e, rest) := (splitExponent? rest).getD (0, rest)
    if rest.isEmpty then some (ofParts negative whole fraction e) else none

end FieldGuard.Binary64
