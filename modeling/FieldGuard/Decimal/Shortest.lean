import FieldGuard.Decimal.Binary64

/-!
The shortest decimal that reads back as a given double precision number, and its text: positional
from `0.0001` to below `10 ^ 16`, otherwise with an exponent of at least two digits.
-/

namespace FieldGuard.Binary64

def commonScale (a : Nat) (p : Int) (b : Nat) (t : Int) : Nat × Nat :=
  (a * Nat.pow 2 p.toNat * Nat.pow 10 (-t).toNat, b * Nat.pow 10 t.toNat * Nat.pow 2 (-p).toNat)

def firstPlace (m : Nat) (q : Int) : Int :=
  let guess := (q + m.log2) * 30103 / 100000 + 1
  let below (p : Int) : Bool := let (a, b) := commonScale m q 1 p; decide (a < b)
  if below (guess - 1) then guess - 1
  else if below guess then guess
  else guess + 1

/-- Whether `c * 10 ^ t` rounds to the number with mantissa `m` and exponent `q`. The numbers that
do so form an interval, half as wide below a power of two; it has its ends if the mantissa is
even. -/
def roundsTo (m : Nat) (q : Int) (c : Nat) (t : Int) : Bool :=
  let gap := if m = leastNormal ∧ -1074 < q then 1 else 2
  let (low, x) := commonScale (4 * m - gap) (q - 2) c t
  let (high, _) := commonScale (4 * m + 2) (q - 2) c t
  if m % 2 = 0 then decide (low ≤ x ∧ x ≤ high) else decide (low < x ∧ x < high)

/-- The multiple of `10 ^ t` next to `m * 2 ^ q` that rounds to it, if there is one; of two the
nearer, and of two as near the even one. -/
def onGrid? (m : Nat) (q : Int) (t : Int) : Option Nat :=
  let (a, unit) := commonScale m q 1 t
  let c := a / unit
  let lowFits := roundsTo m q c t
  let highFits := roundsTo m q (c + 1) t
  match lowFits, highFits with
  | true, true =>
    if 2 * (a % unit) < unit ∨ (2 * (a % unit) = unit ∧ c % 2 = 0) then some c else some (c + 1)
  | true, false => some c
  | false, true => some (c + 1)
  | false, false => none

def shortest (m : Nat) (q : Int) : Nat × Int :=
  let p := firstPlace m q
  match (List.range 17).findSome? fun i =>
      let t : Int := p - ((i : Nat) + 1)
      (onGrid? m q t).map fun c => (c, t) with
  | some r => r
  | none => let (a, unit) := commonScale m q 1 (p - 17); (a / unit, p - 17)

def digitsAndPoint (c : Nat) (t : Int) : List Char × Int :=
  let ds := c.repr.toList
  ((ds.reverse.dropWhile (· = '0')).reverse, ds.length + t)

def exponentText (e : Int) : List Char :=
  let ds := e.natAbs.repr.toList
  (if e < 0 then '-' else '+') :: (List.replicate (2 - ds.length) '0' ++ ds)

def place (ds : List Char) (point : Int) : List Char :=
  if -4 < point ∧ point ≤ 16 then
    if point ≤ 0 then '0' :: '.' :: (List.replicate (-point).toNat '0' ++ ds)
    else
      let whole := ds.take point.toNat
      let zeros := List.replicate (point.toNat - whole.length) '0'
      let part := ds.drop point.toNat
      whole ++ zeros ++ '.' :: (if part.isEmpty then ['0'] else part)
  else
    ds.take 1 ++ (if ds.length ≤ 1 then [] else '.' :: ds.drop 1) ++ 'e' :: exponentText (point - 1)

def magnitude (m : Nat) (q : Int) : List Char :=
  if m = 0 then ['0', '.', '0']
  else
    let (c, t) := shortest m q
    let (ds, point) := digitsAndPoint c t
    place ds point

def text : Binary64 → String
  | .nan => "nan"
  | .infinity negative => if negative then "-inf" else "inf"
  | .finite negative m q => String.ofList ((if negative then ['-'] else []) ++ magnitude m q)

example : (ofDecimal false 1 (-1)).text = "0.1" := by decide +kernel
example : (ofDecimal false 5 (-324)).text = "5e-324" := by decide +kernel
example : (ofDecimal true 1 16).text = "-1e+16" := by decide +kernel
example : (ofDecimal false 123456789012345678 0).text = "1.2345678901234568e+17" := by
  decide +kernel
example : (ofDecimal false 1 (-4)).text = "0.0001" := by decide +kernel

end FieldGuard.Binary64
