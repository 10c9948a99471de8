import FieldGuard.Violation.Collection

namespace FieldGuard.Violations

inductive Operation where
  | add (v : Violation)
  | append (v : Violation)
  | appendOther
  | has (code : ViolationCode)
  | contains (v : Violation)
  | containsCode (code : ViolationCode)
  | containsOther
  | forField (field : String)
  | messages
  | get (i : Int)
  | slice (bounds : Sequence.Bounds)
  | text
  | items
  | size
  | isNonempty
  deriving DecidableEq, Repr

inductive Answer where
  | done
  | flag (b : Bool)
  | count (n : Nat)
  | text (s : String)
  | texts (ss : List String)
  | violation (v : Violation)
  | violations (vs : List Violation)
  deriving DecidableEq, Repr

def add (vs : Violations) (v : Violation) : Except Error Answer × Violations :=
  (.ok (.violation v), vs.append v)

def appendChecked (vs : Violations) : Option Violation → Except Error Answer × Violations
  | some v => (.ok .done, vs.append v)
  | none => (.error .notAViolation, vs)

def perform (vs : Violations) : Operation → Except Error Answer × Violations
  | .add v => vs.add v
  | .append v => vs.appendChecked (some v)
  | .appendOther => vs.appendChecked none
  | .has code => (.ok (.flag (vs.has code)), vs)
  | .contains v => (.ok (.flag (vs.contains v)), vs)
  | .containsCode code => (.ok (.flag (vs.has code)), vs)
  | .containsOther => (.ok (.flag false), vs)
  | .forField field => (.ok (.violations (vs.forField field)), vs)
  | .messages => (.ok (.texts vs.messages), vs)
  | .get i => ((vs.get i).map .violation, vs)
  | .slice bounds => ((vs.slice bounds).map .violations, vs)
  | .text => (.ok (.text vs.text), vs)
  | .items => (.ok (.violations vs.toList), vs)
  | .size => (.ok (.count vs.size), vs)
  | .isNonempty => (.ok (.flag !vs.isEmpty), vs)

def answer (vs : Violations) (op : Operation) : Except Error Answer := (vs.perform op).1

def after (vs : Violations) (ops : List Operation) : Violations :=
  ops.foldl (fun vs op => (vs.perform op).2) vs

end FieldGuard.Violations
