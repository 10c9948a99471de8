import FieldGuard.Json.Reader
import FieldGuard.Schema.Registry
import FieldGuard.Text.LineEnd
import FieldGuard.Text.Utf8
import FieldGuard.Trace

namespace FieldGuard.Schema

inductive LoadError where
  | notFound (file : String)
  | encoding (error : Text.Utf8.Error)
  | numeral (error : Numeral.Error)
  | tooDeep (kind : Json.Nest)
  | fault (fault : SchemaFault)
  | text (error : TextError)
  deriving DecidableEq, Repr

def LoadError.message : LoadError → String
  | .notFound file => "File not found: " ++ file
  | .encoding e => e.message
  | .numeral e => e.message
  | .tooDeep kind => (Json.Error.tooDeep kind).message
  | .fault f => f.message
  | .text e => e.message

variable [DepthLimit] [StandIns]

def documentOfBytes (file : String) (bytes : List UInt8) : Except LoadError Value :=
  match Text.Utf8.decode bytes with
  | .error e => .error (.encoding e)
  | .ok cs => match Json.read (DepthLimit.limit .reading) (Text.unifyLineEnds cs) with
    | .ok v => .ok v
    | .error (.numeral e) => .error (.numeral e)
    | .error (.tooDeep kind) => .error (.tooDeep kind)
    | .error e => .error (.fault (.notJson file e.message))

variable [Document.Checker]

def ofBytes (file : String) (bytes : List UInt8) : Except LoadError Schema := do
  let doc ← documentOfBytes file bytes
  match ofDocument doc with
  | .ok s => return s
  | .error (.fault f) => throw (.fault f)
  | .error (.text e) => throw (.text e)

def load (file : String) (bytes : Option (List UInt8)) : Traced LoadError Schema := do
  match bytes with
  | none => .of (.error (.notFound file))
  | some bs =>
    let s ← .of (ofBytes file bs)
    Traced.emit (.loaded s.name s.fields.length file)
    return s

end FieldGuard.Schema
