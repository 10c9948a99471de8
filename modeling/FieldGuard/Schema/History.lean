import FieldGuard.Schema.Registry
import FieldGuard.Trace

namespace FieldGuard.Registry

inductive Operation where
  | register (schema : Schema) (replace : Bool)
  | registerDocument (doc : Value) (replace : Bool)
  | unregister (name : String)
  | get (name : String)
  | contains (v : Value)
  | names
  | size

inductive Answer where
  | done
  | flag (b : Bool)
  | count (n : Nat)
  | names (names : List String)
  | schema (s : Schema)
  deriving DecidableEq, Repr

inductive Refusal where
  | registry (error : Error)
  | document (error : Schema.DocumentError)
  deriving DecidableEq, Repr

def add (r : Registry) (s : Schema) (replace : Bool) (answer : Answer) :
    Traced Refusal Answer × Registry :=
  match r.register s replace with
  | .ok next => (⟨[.registered s.name], .ok answer⟩, next)
  | .error f => (.of (.error (.document (.fault f))), r)

theorem add_of_error {r : Registry} {s : Schema} {replace : Bool} {f : SchemaFault}
    (h : r.register s replace = .error f) (answer : Answer) :
    r.add s replace answer = (.of (.error (.document (.fault f))), r) := by
  simp [add, h]

variable [Document.Checker]

def perform (r : Registry) : Operation → Traced Refusal Answer × Registry
  | .register s replace => r.add s replace .done
  | .registerDocument doc replace =>
    match Schema.ofDocument doc with
    | .ok s => r.add s replace (.schema s)
    | .error e => (.of (.error (.document e)), r)
  | .unregister name => (.of (.ok (.flag (r.contains name))), r.unregister name)
  | .get name => (.of (((r.get name).mapError .registry).map .schema), r)
  | .contains v => (.of (((r.containsValue v).mapError .registry).map .flag), r)
  | .names => (.of (.ok (.names r.names)), r)
  | .size => (.of (.ok (.count r.size)), r)

def after (r : Registry) (ops : List Operation) : Registry :=
  ops.foldl (fun r op => (r.perform op).2) r

theorem perform_of_error {r : Registry} {op : Operation} {e : Refusal}
    (h : (r.perform op).1.result = .error e) : (r.perform op).2 = r := by
  cases op with
  | register s replace =>
    cases hr : r.register s replace with
    | ok next => simp [perform, add, hr] at h
    | error f => simp [perform, add, hr]
  | registerDocument doc replace =>
    cases hd : Schema.ofDocument doc with
    | error e => simp [perform, hd]
    | ok s =>
      cases hr : r.register s replace with
      | ok next => simp [perform, add, hd, hr] at h
      | error f => simp [perform, add, hd, hr]
  | unregister name => simp [perform, Traced.of] at h
  | get _ | contains _ | names | size => rfl

end FieldGuard.Registry
