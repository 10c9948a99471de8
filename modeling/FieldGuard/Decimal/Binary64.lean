namespace FieldGuard

/-- A finite number is `mantissa * 2 ^ exponent`. The mantissa is below `2 ^ 53`, the exponent at
least `-1074`, and the mantissa at least `2 ^ 52` unless the exponent is `-1074`. -/
inductive Binary64 where
  | nan
  | infinity (negative : Bool)
  | finite (negative : Bool) (mantissa : Nat) (exponent : Int)
  deriving DecidableEq, Repr

namespace Binary64

def leastNormal : Nat := 0x10000000000000

def roundQuotient (num den : Nat) : Nat :=
  let q := num / den
  let r := num % den
  if 2 * r < den then q
  else if den < 2 * r then q + 1
  else if q % 2 = 0 then q else q + 1

def scaleDown (base num den : Nat) (e : Int) : Nat × Nat :=
  if 0 ≤ e then (num, den * Nat.pow base e.toNat) else (num * Nat.pow base (-e).toNat, den)

def lastPlace (num den : Nat) : Int :=
  let guess : Int := (num.log2 : Int) - den.log2 - 53
  let (n, d) := scaleDown 2 num den guess
  max (-1074) (if d * (2 * leastNormal) ≤ n then guess + 1 else guess)

def ofQuotient (negative : Bool) (num den : Nat) : Binary64 :=
  if num = 0 then .finite negative 0 (-1074)
  else
    let q := lastPlace num den
    let (n, d) := scaleDown 2 num den q
    let m := roundQuotient n d
    let (m, q) := if m = 2 * leastNormal then (leastNormal, q + 1) else (m, q)
    if 971 < q then .infinity negative else .finite negative m q

/-- The number nearest to `n * 10 ^ e`. Powers beyond every finite number are not computed. -/
def ofDecimal (negative : Bool) (n : Nat) (e : Int) : Binary64 :=
  if n = 0 then .finite negative 0 (-1074)
  else
    let places : Int := n.repr.length + e
    if 310 < places then .infinity negative
    else if places < -330 then .finite negative 0 (-1074)
    else
      let (num, den) := scaleDown 10 n 1 (-e)
      ofQuotient negative num den

def isInt (x : Binary64) (n : Int) : Bool :=
  match x with
  | .finite negative m q =>
    let (num, den) := scaleDown 2 m 1 (-q)
    decide ((if negative then -(num : Int) else num) = n * den)
  | _ => false

def same : Binary64 → Binary64 → Bool
  | .nan, _ => false
  | _, .nan => false
  | .infinity s, .infinity t => s == t
  | .finite s m p, .finite t n q => decide (m = 0 ∧ n = 0 ∨ s = t ∧ m = n ∧ p = q)
  | _, _ => false

def isZero : Binary64 → Bool
  | .finite _ m _ => m == 0
  | _ => false

def sameNumber : Int ⊕ Binary64 → Int ⊕ Binary64 → Bool
  | .inl m, .inl n => m == n
  | .inl m, .inr y => y.isInt m
  | .inr x, .inl n => x.isInt n
  | .inr x, .inr y => x.same y

def quotient? : Int ⊕ Binary64 → Option (Int × Nat)
  | .inl n => some (n, 1)
  | .inr (.finite negative m q) =>
    let (num, den) := scaleDown 2 m 1 (-q)
    some (if negative then -(num : Int) else num, den)
  | .inr _ => none

def less (x y : Int ⊕ Binary64) : Bool :=
  match quotient? x, quotient? y with
  | some (a, b), some (c, d) => decide (a * d < c * b)
  | _, _ =>
    match x, y with
    | .inr .nan, _ | _, .inr .nan => false
    | .inr (.infinity true), .inr (.infinity true) => false
    | .inr (.infinity true), _ => true
    | _, .inr (.infinity false) => !(x matches .inr (.infinity false))
    | _, _ => false

example : ofDecimal false 1 (-1) = .finite false 0x1999999999999a (-56) := by decide +kernel
example : ofDecimal true 5 (-324) = .finite true 1 (-1074) := by decide +kernel
example : ofDecimal false 1 400 = .infinity false := by decide +kernel

end Binary64

end FieldGuard
