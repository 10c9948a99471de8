import FieldGuard.Config
import FieldGuard.Constraint.Check
import FieldGuard.Host
import FieldGuard.Record.Basic
import FieldGuard.Report
import FieldGuard.Schema.Registry
import FieldGuard.Trace

/-!
Checking records. Fields are visited in order and untagged ones are skipped. A tagged field that is
private, whose tag breaks the grammar, or whose value is missing or of another kind has one
violation; any other field has one for each element that fails its constraint.
-/

namespace FieldGuard

inductive SchemaRef where
  | schema (schema : Schema)
  | name (name : String)

inductive Failure where
  | registry (error : Registry.Error)
  | noRegistry (name : String)
  | field (fault : FieldFault)
  | numeral (error : Numeral.Error)
  | encoding (fault : Text.EncodeFault)
  | text (error : TextError)
  deriving DecidableEq, Repr

def Failure.message : Failure → String
  | .registry e => e.message
  | .noRegistry name =>
    "schema " ++ Text.quoted name ++ " given by name but no registry is configured"
  | .field f => f.message
  | .numeral e => e.message
  | .encoding f => f.message
  | .text e => e.message

inductive Source where
  | record (fields : Fields)
  | mapping (fields : Fields)

def Source.fields : Source → Fields
  | .record fields => fields
  | .mapping fields => fields

structure Validator where
  config : Config
  registry : Option Registry

namespace Validator

def default : Validator := ⟨.default, none⟩

def resolve (v : Validator) : SchemaRef → Except Failure Schema
  | .schema s => .ok s
  | .name n => match v.registry with
    | none => .error (.noRegistry n)
    | some r => (r.get n).mapError .registry

variable [Host]

def sourceOf? (v : Validator) (record : Value) : Option Schema → Option Source
  | some s => record.entries?.map fun es => .mapping (s.fieldsOf es)
  | none => match record with
    | .record t held _ => some (.record (t.fieldsOf held v.config.tagKey))
    | _ => none

/-- The source of a record's fields. A schema is resolved for mappings only. -/
def source? (v : Validator) (record : Value) (schema : Option SchemaRef) :
    Except Failure (Option Source) :=
  match schema with
  | none => .ok (v.sourceOf? record none)
  | some ref =>
    if record.entries?.isSome then (v.resolve ref).map fun s => v.sourceOf? record (some s)
    else .ok none

def checkValue (c : Constraint) (kind : Kind) (field : String) :
    Option Value → Except Failure (List Violation)
  | none => .ok [.missing field]
  | some value => match kind.elements? value with
    | none => .ok [.mismatch field kind.text]
    | some elements => match c.unmeasured? elements with
      | some fault => .error (.encoding fault)
      | none => (c.check field elements).mapError .numeral

def readTag (tag : Value) (kind : Option Kind) : Traced Tag.Error Constraint :=
  match tag, kind, Tag.read tag kind with
  | .text s, some k, .ok c => ⟨[.parsed s k c.family], .ok c⟩
  | _, _, r => .of r

def checkField (f : Field) (tag : Value) : Traced Failure (List Violation) :=
  if f.isExported then
    let parsed := readTag tag f.kind
    match parsed.result, f.kind with
    | .error (.fault fault), _ =>
      ⟨[.invalidTag f.name fault], .ok [.invalidTag f.name]⟩
    | .error (.numeral e), _ => ⟨[], .error (.numeral e)⟩
    | .error (.text e), _ => ⟨[], .error (.text e)⟩
    | .ok _, none => ⟨[], .ok []⟩
    | .ok c, some kind => ⟨parsed.events, checkValue c kind f.name f.value⟩
  else ⟨[.unexported f.name], .ok [.unexported f.name]⟩

def checkFields : Fields → Traced Failure (List String × List Violation)
  | [] => pure ([], [])
  | .error fault :: _ => .of (.error (.field fault))
  | .ok f :: rest =>
    match f.tag with
    | none => checkFields rest
    | some tag => do
      let found ← checkField f tag
      let (names, more) ← checkFields rest
      return (f.name :: names, found ++ more)

def undeclaredWarnings (s : Schema) (record : Value) : Except TextError (List String) := do
  let keys := s.undeclared (record.entries?.getD [])
  if keys.isEmpty then return []
  let texts ← keys.mapM (Value.display (DepthLimit.limit .keyText))
  return ["undeclared keys ignored: " ++ ", ".intercalate texts]

def report (record : Value) (schema : Option Schema) (names : List String)
    (found : List Violation) (warnings : List String) : Report where
  violations := ⟨found⟩
  warnings := warnings
  context := [(.text "record_type", .text record.typeName)] ++
    (schema.map fun s => (Value.text "schema", Value.text s.name)).toList ++
    [(.text Report.checkedFields, .list (names.map .text))]

def rejection (record : Value) : Report :=
  ⟨⟨[.notRecord]⟩, [], [(.text "record_type", .text record.typeName)]⟩

def violationEvents (v : Validator) (found : List Violation) : List Event :=
  if v.config.logViolations then found.map Event.ofViolation else []

def validateWith (v : Validator) (record : Value) (schema : Option Schema) :
    Traced Failure Report :=
  match v.sourceOf? record schema with
  | none =>
    ⟨.rejected record.typeName :: v.violationEvents [.notRecord], .ok (rejection record)⟩
  | some source => do
    let (names, found) ← checkFields source.fields
    let warnings ← .of <| match schema with
      | none => .ok []
      | some s => (undeclaredWarnings s record).mapError .text
    ⟨.checked record.typeName names.length found.length :: v.violationEvents found,
      .ok (report record schema names found warnings)⟩

def validate (v : Validator) (record : Value) (schema : Option SchemaRef) :
    Traced Failure Report :=
  match schema with
  | none => v.validateWith record none
  | some ref => match v.resolve ref with
    | .error e => .of (.error e)
    | .ok s => v.validateWith record (some s)

inductive StrictError where
  | failure (failure : Failure)
  | violations (violations : Violations)

def StrictError.message : StrictError → String
  | .failure f => f.message
  | .violations vs => vs.text

def validateStrict (v : Validator) (record : Value) (schema : Option SchemaRef) :
    Traced StrictError Unit :=
  let outcome := v.validate record schema
  ⟨outcome.events, match outcome.result with
    | .error e => .error (.failure e)
    | .ok r => r.require.mapError .violations⟩

end Validator

end FieldGuard
