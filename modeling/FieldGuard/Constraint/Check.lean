import FieldGuard.Constraint.Basic
import FieldGuard.Kind
import FieldGuard.Text.Occurs
import FieldGuard.Text.StandIn
import FieldGuard.Value.Basic
import FieldGuard.Violation.Basic

namespace FieldGuard

inductive Elements where
  | integers (ns : List Int)
  | strings (ss : List String)
  deriving DecidableEq, Repr

namespace Kind

def elements? : Kind → Value → Option Elements
  | .integer, v => v.int?.map fun n => .integers [n]
  | .string, v => v.text?.map fun s => .strings [s]
  | .integerList, v => (v.items?.bind fun vs => vs.mapM Value.int?).map .integers
  | .stringList, v => (v.items?.bind fun vs => vs.mapM Value.text?).map .strings

def matchesValue (k : Kind) (v : Value) : Bool := (k.elements? v).isSome

end Kind

namespace Constraint

/-- What is wrong with an integer, where `allowed` are the values of a membership. A length is no
constraint on integers. -/
def integerFault? (c : Constraint) (allowed : List Int) (n : Int) : Option String :=
  match c with
  | .length _ => none
  | .membership _ _ => if n ∈ allowed then none else some "the number is not in the list"
  | .minimum a => if n < a then some "the number is less than the lower bound" else none
  | .maximum b => if b < n then some "the number is greater than the upper bound" else none
  | .range a b => if n < a ∨ b < n then some "the number is not in range" else none

def stringFault? (c : Constraint) (s : String) : Option String :=
  let size : Int := s.utf8ByteSize
  match c with
  | .length n => if size = n then none else some "incorrect string len"
  | .membership first others =>
    if (first :: others).any fun entry => Text.occursIn s.toList entry.toList then none
    else some "the string is not in the list"
  | .minimum a => if size < a then some "string len is less than the lower bound" else none
  | .maximum b => if b < size then some "string len is greater than the upper bound" else none
  | .range a b => if size < a ∨ b < size then some "string len is not in range" else none

def unmeasured? [StandIns] (c : Constraint) : Elements → Option Text.EncodeFault
  | .strings ss => if c.family = .membership then none else ss.findSome? Text.encodeFault?
  | .integers _ => none

def failsInteger (c : Constraint) (allowed : List Int) (n : Int) : Bool :=
  (c.integerFault? allowed n).isSome

def failsString (c : Constraint) (s : String) : Bool := (c.stringFault? s).isSome

def integers (c : Constraint) : Except Numeral.Error (List Int) := c.values.mapM Numeral.read

def violation? (field : String) (fault : Option String) : List Violation :=
  (fault.map (Violation.failed field)).toList

def checkString (c : Constraint) (field s : String) : List Violation :=
  violation? field (c.stringFault? s)

def check (c : Constraint) (field : String) : Elements → Except Numeral.Error (List Violation)
  | .strings ss => .ok (ss.flatMap (c.checkString field))
  | .integers ns => do
    let allowed ← c.integers
    return ns.flatMap fun n => violation? field (c.integerFault? allowed n)

theorem failsInteger_range (a b n : Int) (allowed : List Int) :
    (range a b).failsInteger allowed n =
      ((minimum a).failsInteger allowed n || (maximum b).failsInteger allowed n) := by
  by_cases h : n < a <;> by_cases k : b < n <;> simp [failsInteger, integerFault?, h, k]

theorem failsString_range (a b : Int) (s : String) :
    (range a b).failsString s = ((minimum a).failsString s || (maximum b).failsString s) := by
  by_cases h : (s.utf8ByteSize : Int) < a <;> by_cases k : b < (s.utf8ByteSize : Int) <;>
    simp [failsString, stringFault?, h, k]

end Constraint

end FieldGuard
