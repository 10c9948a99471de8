import FieldGuard.Constraint.Check
import FieldGuard.Violation.Collection

namespace FieldGuard

abbrev Recorded (ε α : Type) := Except ε α × Violations

def Violations.note (vs : Violations) (field : String) (fault : Option String) :
    Bool × Violations :=
  match fault with
  | none => (true, vs)
  | some detail => (false, vs.append (.failed field detail))

def countFailures {α ε : Type} (test : α → Violations → Recorded ε Bool) :
    List α → Nat → Violations → Recorded ε Nat
  | [], failures, vs => (.ok failures, vs)
  | x :: xs, failures, vs =>
    match test x vs with
    | (.ok passes, vs) => countFailures test xs (if passes then failures else failures + 1) vs
    | (.error e, vs) => (.error e, vs)

namespace Constraint

def recordInteger (c : Constraint) (field : String) (n : Int) (allowed : Option (List Int))
    (vs : Violations) : Recorded Numeral.Error Bool :=
  match allowed.elim c.integers .ok with
  | .ok ns =>
    let (passes, vs) := vs.note field (c.integerFault? ns n)
    (.ok passes, vs)
  | .error e => (.error e, vs)

def recordString (c : Constraint) (field s : String) (vs : Violations) : Bool × Violations :=
  vs.note field (c.stringFault? s)

/-- Checks the elements in turn and counts those that fail. The values of a membership on integers
are read before the first. -/
def record (c : Constraint) (field : String) (elements : Elements) (vs : Violations) :
    Recorded Numeral.Error Nat :=
  match elements with
  | .strings ss =>
    countFailures (fun s vs =>
      let (passes, vs) := c.recordString field s vs
      (.ok passes, vs)) ss 0 vs
  | .integers ns =>
    match c.integers with
    | .ok allowed => countFailures (fun n => c.recordInteger field n (some allowed)) ns 0 vs
    | .error e => (.error e, vs)

end Constraint

end FieldGuard
