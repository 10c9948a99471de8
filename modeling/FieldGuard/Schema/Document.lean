import FieldGuard.Schema.Basic
import FieldGuard.Schema.Format

namespace FieldGuard

inductive SchemaFault where
  | offence (path : Document.Path) (message : String)
  | duplicateField (index : Nat) (name : String)
  | unknownKind (index : Nat) (kind : String)
  | alreadyRegistered (name : String)
  | notJson (file reason : String)
  deriving DecidableEq, Repr

namespace SchemaFault

def path : SchemaFault → Option String
  | .offence p _ => Document.Path.text p
  | .duplicateField i _ => some ("fields/" ++ i.repr)
  | .unknownKind i _ => some ("fields/" ++ i.repr ++ "/kind")
  | .alreadyRegistered _ => none
  | .notJson file _ => some file

def detail : SchemaFault → String
  | .offence _ message => "Schema validation failed: " ++ message
  | .duplicateField _ name => "duplicate field " ++ Text.quoted name
  | .unknownKind _ kind => "unknown field kind " ++ Text.quoted kind
  | .alreadyRegistered name => "schema " ++ Text.quoted name ++ " is already registered"
  | .notJson _ reason => "Invalid JSON: " ++ reason

def located (detail : String) (path : Option String) : String :=
  "Validation Error: " ++ match path with
    | some p => p ++ ": " ++ detail
    | none => detail

def message (f : SchemaFault) : String := located f.detail f.path

end SchemaFault

namespace Schema

inductive DocumentError where
  | fault (fault : SchemaFault)
  | text (error : TextError)
  deriving DecidableEq, Repr

def textUnder (es : Entries Value Value) (key : String) : String :=
  ((Value.lookup es key).bind Value.text?).getD ""

def fieldOfDocument (seen : List String) (index : Nat) (entry : Value) :
    Except SchemaFault SchemaField :=
  let es := entry.writableEntries?.getD []
  let name := textUnder es "name"
  let kind := textUnder es "kind"
  if seen.contains name then .error (.duplicateField index name)
  else match Kind.ofName? kind with
    | none => .error (.unknownKind index kind)
    | some k => .ok ⟨name, some k, (Value.lookup es Document.tagKey).bind Value.text?⟩

def fieldsOfDocument (seen : List String) (index : Nat) :
    List Value → Except SchemaFault (List SchemaField)
  | [] => .ok []
  | entry :: rest => do
    let f ← fieldOfDocument seen index entry
    return f :: (← fieldsOfDocument (f.name :: seen) (index + 1) rest)

def ofDocument [Document.Checker] (doc : Value) : Except DocumentError Schema :=
  match Document.Checker.check Document.schemaFormat doc with
  | .error (.broken path message) => .error (.fault (.offence path message))
  | .error (.failed e) => .error (.text e)
  | .ok () =>
    let es := doc.writableEntries?.getD []
    match fieldsOfDocument [] 0 (((Value.lookup es "fields").bind Value.items?).getD []) with
    | .error f => .error (.fault f)
    | .ok fields =>
      .ok ⟨textUnder es "name", fields, (Value.lookup es "description").bind Value.text?⟩

def fieldDocument (f : SchemaField) : Except FieldFault Value :=
  match f.kind with
  | none => .error .noKind
  | some k =>
    .ok <| Value.keyed <| [("name", .text f.name), ("kind", .text k.text)] ++
      (f.tag.map fun t => (Document.tagKey, Value.text t)).toList

def toDocument (s : Schema) : Except FieldFault Value := do
  let fields ← s.fields.mapM fieldDocument
  return Value.keyed <| [("name", .text s.name), ("fields", .list fields)] ++
    (s.description.map fun d => ("description", Value.text d)).toList

end Schema

end FieldGuard
