import FieldGuard.Numeral

namespace FieldGuard

inductive Family where
  | length
  | membership
  | minimum
  | maximum
  | range
  deriving DecidableEq, Repr

namespace Family

def all : List Family := [.length, .membership, .minimum, .maximum, .range]

def text : Family → String
  | .length => "len"
  | .membership => "in"
  | .minimum => "min"
  | .maximum => "max"
  | .range => "range"

def lead (f : Family) : String := f.text ++ ":"

def ofText? (s : String) : Option Family := all.find? fun f => f.text == s

end Family

/-- Lengths are counted in bytes of UTF-8, both bounds are inclusive, and a membership has at least
one value. -/
inductive Constraint where
  | length (n : Nat)
  | membership (first : String) (others : List String)
  | minimum (lower : Int)
  | maximum (upper : Int)
  | range (lower upper : Int)
  deriving DecidableEq, Repr

namespace Constraint

def family : Constraint → Family
  | .length _ => .length
  | .membership _ _ => .membership
  | .minimum _ => .minimum
  | .maximum _ => .maximum
  | .range _ _ => .range

def values : Constraint → List String
  | .membership first others => first :: others
  | _ => []

def exactLength? : Constraint → Option Int
  | .length n => some n
  | _ => none

def lower? : Constraint → Option Int
  | .minimum a | .range a _ => some a
  | _ => none

def upper? : Constraint → Option Int
  | .maximum b | .range _ b => some b
  | _ => none

structure Row where
  family : Option Family
  values : List String
  exactLength : Option Int
  lower : Option Int
  upper : Option Int
  deriving DecidableEq, Repr

def row (c : Constraint) : Row := ⟨some c.family, c.values, c.exactLength?, c.lower?, c.upper?⟩

inductive RowError where
  | notAFamily
  | noValues
  | strayValues (family : Family)
  | lengthElsewhere
  | negativeLength
  | lowerElsewhere (family : Family)
  | upperElsewhere (family : Family)
  deriving DecidableEq, Repr

def RowError.message : RowError → String
  | .notAFamily => "kind must be a ConstraintKind enum"
  | .noValues => "membership constraint requires at least one value"
  | .strayValues f => f.text ++ " constraint cannot carry membership values"
  | .lengthElsewhere => "exact_length is set only for length constraints"
  | .negativeLength => "exact_length must be non-negative"
  | .lowerElsewhere f => "lower_bound is set only for min and range constraints, not " ++ f.text
  | .upperElsewhere f => "upper_bound is set only for max and range constraints, not " ++ f.text

def needsLower (f : Family) : Bool := f == .minimum || f == .range

def needsUpper (f : Family) : Bool := f == .maximum || f == .range

def Row.error? (r : Row) (f : Family) : Option RowError :=
  if f = .membership ∧ r.values = [] then some .noValues
  else if f ≠ .membership ∧ r.values ≠ [] then some (.strayValues f)
  else if (f == .length) != r.exactLength.isSome then some .lengthElsewhere
  else if r.exactLength.any (· < 0) then some .negativeLength
  else if needsLower f != r.lower.isSome then some (.lowerElsewhere f)
  else if needsUpper f != r.upper.isSome then some (.upperElsewhere f)
  else none

def Row.read (r : Row) : Family → Constraint
  | .length => .length (r.exactLength.getD 0).toNat
  | .membership => .membership (r.values.headD "") r.values.tail
  | .minimum => .minimum (r.lower.getD 0)
  | .maximum => .maximum (r.upper.getD 0)
  | .range => .range (r.lower.getD 0) (r.upper.getD 0)

def ofRow (r : Row) : Except RowError Constraint :=
  match r.family with
  | none => .error .notAFamily
  | some f => match r.error? f with
    | some e => .error e
    | none => .ok (r.read f)

theorem ofRow_row (c : Constraint) : ofRow c.row = .ok c := by
  cases c with
  | length n =>
    have : ¬((n : Int) < 0) := by omega
    simp [ofRow, row, Row.error?, Row.read, family, values, exactLength?, lower?, upper?,
      needsLower, needsUpper, this]
  | _ =>
    simp [ofRow, row, Row.error?, Row.read, family, values, exactLength?, lower?, upper?,
      needsLower, needsUpper]

end Constraint

end FieldGuard
