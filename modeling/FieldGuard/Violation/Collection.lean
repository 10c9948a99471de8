import FieldGuard.Sequence
import FieldGuard.Violation.Basic

namespace FieldGuard

structure Violations where
  toList : List Violation
  deriving DecidableEq, Repr

namespace Violations

inductive Error where
  | notAViolation
  | position (error : Sequence.Error)
  deriving DecidableEq, Repr

def Error.message : Error → String
  | .notAViolation => "record must be a ViolationRecord"
  | .position error => error.message

def empty : Violations := ⟨[]⟩

def size (vs : Violations) : Nat := vs.toList.length

def isEmpty (vs : Violations) : Bool := vs.toList.isEmpty

def append (vs : Violations) (v : Violation) : Violations := ⟨vs.toList ++ [v]⟩

def appendAll (vs : Violations) (more : List Violation) : Violations := ⟨vs.toList ++ more⟩

def has (vs : Violations) (code : ViolationCode) : Bool := vs.toList.any fun v => v.code == code

def contains (vs : Violations) (v : Violation) : Bool := vs.toList.contains v

def forField (vs : Violations) (field : String) : List Violation :=
  vs.toList.filter fun v => v.field == field

def messages (vs : Violations) : List String := vs.toList.map Violation.message

def text (vs : Violations) : String := "\n".intercalate vs.messages

def get (vs : Violations) (i : Int) : Except Error Violation :=
  (Sequence.get vs.toList i).mapError .position

def slice (vs : Violations) (bounds : Sequence.Bounds) : Except Error (List Violation) :=
  (Sequence.slice vs.toList bounds).mapError .position

def codes (vs : Violations) : List ViolationCode := ViolationCode.all.filter vs.has

theorem appendAll_appendAll (vs : Violations) (xs ys : List Violation) :
    (vs.appendAll xs).appendAll ys = vs.appendAll (xs ++ ys) := by
  simp [appendAll]

theorem has_iff (vs : Violations) (code : ViolationCode) :
    vs.has code = true ↔ ∃ v ∈ vs.toList, v.code = code := by
  simp [has]

theorem contains_iff (vs : Violations) (v : Violation) :
    vs.contains v = true ↔ v ∈ vs.toList := by
  simp [contains]

end Violations

end FieldGuard
