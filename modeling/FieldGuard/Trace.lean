import FieldGuard.Constraint.Tag
import FieldGuard.Violation.Basic

namespace FieldGuard

inductive Level where
  | debug
  | info
  | warning
  deriving DecidableEq, Repr

inductive Origin where
  | tags
  | schemas
  | checks
  deriving DecidableEq, Repr

inductive Event where
  | parsed (tag : String) (kind : Kind) (family : Family)
  | unexported (field : String)
  | invalidTag (field : String) (fault : Tag.Fault)
  | rejected (typeName : String)
  | checked (typeName : String) (fields violations : Nat)
  | violation (code : ViolationCode) (message : String)
  | registered (name : String)
  | loaded (name : String) (fields : Nat) (file : String)
  deriving DecidableEq, Repr

namespace Event

def level : Event → Level
  | .unexported _ | .invalidTag _ _ => .warning
  | .violation _ _ => .info
  | _ => .debug

def origin : Event → Origin
  | .parsed _ _ _ => .tags
  | .registered _ | .loaded _ _ _ => .schemas
  | _ => .checks

def message : Event → String
  | .parsed tag kind family =>
    "Parsed tag " ++ Text.quoted tag ++ " for " ++ kind.text ++ " field: " ++ family.text
  | .unexported field => "Tagged field " ++ Text.quoted field ++ " is not exported; tag not parsed"
  | .invalidTag field fault =>
    "Field " ++ Text.quoted field ++ ": " ++ fault.reason.text ++ " in tag " ++
      Text.quoted fault.tag
  | .rejected typeName => "Rejected " ++ typeName ++ " value: not record-shaped"
  | .checked typeName fields violations =>
    "Validated " ++ typeName ++ ": " ++ fields.repr ++ " tagged fields, " ++ violations.repr ++
      " violations"
  | .violation code message => "Violation [" ++ code.text ++ "] " ++ message
  | .registered name => "Registered schema " ++ Text.quoted name
  | .loaded name fields file =>
    "Loaded schema " ++ Text.quoted name ++ " with " ++ fields.repr ++ " fields from " ++ file

def ofViolation (v : Violation) : Event := .violation v.code v.message

end Event

structure Traced (ε α : Type) where
  events : List Event
  result : Except ε α

namespace Traced

variable {ε α β : Type}

def of (r : Except ε α) : Traced ε α := ⟨[], r⟩

def emit (e : Event) : Traced ε Unit := ⟨[e], .ok ()⟩

def bind (x : Traced ε α) (f : α → Traced ε β) : Traced ε β :=
  match x.result with
  | .ok a => ⟨x.events ++ (f a).events, (f a).result⟩
  | .error e => ⟨x.events, .error e⟩

instance : Monad (Traced ε) where
  pure a := of (.ok a)
  bind := bind

theorem bind_ok {x : Traced ε α} {a : α} (f : α → Traced ε β) (h : x.result = .ok a) :
    x >>= f = ⟨x.events ++ (f a).events, (f a).result⟩ := by
  show bind x f = _
  simp [bind, h]

theorem bind_error {x : Traced ε α} {e : ε} (f : α → Traced ε β) (h : x.result = .error e) :
    x >>= f = ⟨x.events, .error e⟩ := by
  show bind x f = _
  simp [bind, h]

end Traced

end FieldGuard
