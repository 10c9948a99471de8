import FieldGuard.Record.Field
import FieldGuard.Value.Denotation

/-!
Fields of records that have a record type. The kind of a field comes from its hint, the tag
from its notes under a key, and the value from the record or else from its type.
-/

namespace FieldGuard

namespace RecordType

abbrev Modules := String → Entries String TypeHint.Meaning

def Modules.put (ms : Modules) (module : String) (names : Entries String TypeHint.Meaning) :
    Modules :=
  fun name => if name = module then names else ms name

section Hints

variable [DepthLimit] [TypeHint.Evaluator]

def resolveHint (e : String × TypeHint) : TypeHint.Eval (String × TypeHint.Meaning) := do
  return (e.1, ← e.2.resolve)

/-- What the hints of a layer denote. The names that they bind stay in the module. -/
def resolveLayer (l : Layer Value) :
    StateT Modules (Except TypeHint.Fault) (Entries String TypeHint.Meaning) := fun ms => do
  let (found, s) ← l.hints.mapM resolveHint ⟨ms l.module, l.own, none, none⟩
  return (found, ms.put l.module s.module)

def resolution (t : RecordType Value) :
    Except TypeHint.Fault (Entries String TypeHint.Meaning) := do
  let found ← (t.layers.mapM resolveLayer).run' t.modules
  (Entries.ofPairs (· == ·) found.flatten).mapM fun (name, m) => do return (name, ← m.plain)

end Hints

def resolvedKind (meanings : Entries String TypeHint.Meaning) (d : FieldDecl Value) :
    Except TypeHint.Fault (Option Kind) :=
  match meanings.lookup d.name with
  | some meaning => meaning.kind?
  | none => d.hint.kind?

/-- How the kinds of fields are found. Where some hint cannot be resolved, all of them are
taken as they are written. -/
def kindReader [DepthLimit] [TypeHint.Evaluator] (t : RecordType Value) :
    Except TypeHint.Fault (FieldDecl Value → Except TypeHint.Fault (Option Kind)) :=
  match t.resolution with
  | .ok meanings => .ok (resolvedKind meanings)
  | .error .unresolved => .ok fun d => d.hint.kind?
  | .error fault => .error fault

def valueOf? (t : RecordType Value) (held : Entries String Value) (name : String) : Option Value :=
  (held.lookup name).or (t.attribute? name)

def fieldOf (t : RecordType Value) (held : Entries String Value) (tagKey : String)
    (kind : FieldDecl Value → Except TypeHint.Fault (Option Kind)) (d : FieldDecl Value) :
    Except FieldFault Field :=
  match kind d with
  | .ok k => .ok ⟨d.name, k, (d.metadata.lookup tagKey).bind Field.tagOf, t.valueOf? held d.name⟩
  | .error fault => .error (.hint fault)

def fieldsOf [DepthLimit] [TypeHint.Evaluator] (t : RecordType Value)
    (held : Entries String Value) (tagKey : String) : Fields :=
  match t.kindReader with
  | .ok kind => t.fields.map (t.fieldOf held tagKey kind)
  | .error fault => [.error (.hint fault)]

/-- The names of the fields with a note under the key, even a null one. -/
def taggedNames (t : RecordType Value) (tagKey : String) : List String :=
  (t.fields.filter fun d => (d.metadata.lookup tagKey).isSome).map FieldDecl.name

end RecordType

namespace Record

inductive Error where
  | notARecord (typeName : String)
  | notARecordType
  | twoDefaults
  deriving DecidableEq, Repr

def Error.message : Error → String
  | .notARecord name => name ++ " is not a dataclass instance"
  | .notARecordType => "must be called with a dataclass type or instance"
  | .twoDefaults => "cannot specify both default and default_factory"

def isRecord : Value → Bool
  | .record _ _ _ => true
  | _ => false

def fields [DepthLimit] [TypeHint.Evaluator] (v : Value) (tagKey : String) : Except Error Fields :=
  match v with
  | .record t held _ => .ok (t.fieldsOf held tagKey)
  | v => .error (.notARecord v.typeName)

def taggedNames (v : Value) (tagKey : String) : Except Error (List String) :=
  match v with
  | .record t _ _ | .recordType t => .ok (t.taggedNames tagKey)
  | _ => .error .notARecordType

def notes (tag : Value) (key : String) (metadata : List (String × Value))
    (hasDefault hasFactory : Bool) : Except Error (Entries String Value) :=
  if hasDefault && hasFactory then .error .twoDefaults
  else .ok (Entries.put (· == ·) key tag (Entries.ofPairs (· == ·) metadata))

end Record

end FieldGuard
