import FieldGuard.Schema.History
import FieldGuard.Validation

/-!
Sessions: what is asked of one registry and of the validators that hold it, in turn. A validator
sees the registry as it is when its turn comes, and only operations on the registry itself change it.
-/

namespace FieldGuard

namespace Session

inductive Operation where
  | registry (op : Registry.Operation)
  | validate (config : Config) (record : Value) (schema : Option SchemaRef)
  | validateStrict (config : Config) (record : Value) (schema : Option SchemaRef)
  | source (config : Config) (record : Value) (schema : Option SchemaRef)

inductive Outcome where
  | registry (answer : Traced Registry.Refusal Registry.Answer)
  | report (answer : Traced Failure Report)
  | passed (answer : Traced Validator.StrictError Unit)
  | source (answer : Except Failure (Option Source))

variable [Host]

def perform (r : Registry) : Operation → Outcome × Registry
  | .registry op => (.registry (r.perform op).1, (r.perform op).2)
  | .validate c record schema => (.report (Validator.validate ⟨c, some r⟩ record schema), r)
  | .validateStrict c record schema =>
    (.passed (Validator.validateStrict ⟨c, some r⟩ record schema), r)
  | .source c record schema => (.source (Validator.source? ⟨c, some r⟩ record schema), r)

def after (r : Registry) (ops : List Operation) : Registry :=
  ops.foldl (fun r op => (perform r op).2) r

def Operation.onRegistry? : Operation → Option Registry.Operation
  | .registry op => some op
  | _ => none

theorem perform_of_onRegistry?_eq_none {op : Operation} (h : op.onRegistry? = none)
    (r : Registry) : (perform r op).2 = r := by
  cases op with
  | registry op => cases h
  | validate | validateStrict | source => rfl

theorem after_eq (r : Registry) (ops : List Operation) :
    after r ops = r.after (ops.filterMap Operation.onRegistry?) := by
  induction ops generalizing r with
  | nil => rfl
  | cons op ops ih =>
    cases op with
    | registry op => exact ih (r.perform op).2
    | validate | validateStrict | source => exact ih r

end Session

end FieldGuard
