import FieldGuard.Record.Field

namespace FieldGuard

structure SchemaField where
  name : String
  kind : Option Kind
  tag : Option String
  deriving DecidableEq, Repr

structure Schema where
  name : String
  fields : List SchemaField
  description : Option String
  deriving DecidableEq, Repr

namespace SchemaField

def of (f : SchemaField) (es : Entries Value Value) : Except FieldFault Field :=
  match f.kind with
  | some k => .ok ⟨f.name, some k, f.tag.map .text, Value.lookup es f.name⟩
  | none => .error .noKind

end SchemaField

namespace Schema

def fieldsOf (s : Schema) (es : Entries Value Value) : Fields := s.fields.map fun f => f.of es

def undeclared (s : Schema) (es : Entries Value Value) : List Value :=
  es.keys.filter fun k => !s.fields.any fun f => k.isText f.name

inductive Error where
  | notAMapping (typeName : String)
  deriving DecidableEq, Repr

def Error.message : Error → String
  | .notAMapping name => name ++ " is not a mapping"

def fieldsOfValue (s : Schema) (v : Value) : Except Error Fields :=
  match v.entries? with
  | some es => .ok (s.fieldsOf es)
  | none => .error (.notAMapping v.typeName)

end Schema

end FieldGuard
