import FieldGuard.Record.Basic

/-!
Record types declared by a chain of bases in one module, each with fields only.
-/

namespace FieldGuard

/-- The fields that each type of the chain declares itself, the root base first and the type itself
last. -/
structure Chain where
  module : String
  name : String
  names : Entries String TypeHint.Meaning
  layers : List (List (FieldDecl Value))

namespace Chain

def declarations (c : Chain) : List (FieldDecl Value) := FieldDecl.merge c.layers.flatten

def fields (c : Chain) : List (FieldDecl Value) :=
  c.declarations.filter fun d => !d.hint.isClassVariable c.names

def ownNames (c : Chain) (layer : List (FieldDecl Value)) : Entries String TypeHint.Meaning :=
  ("__module__", .text c.module) ::
    layer.filterMap fun d => d.default.map fun v => (d.name, v.meaning)

def layer (c : Chain) (decls : List (FieldDecl Value)) : Layer Value where
  module := c.module
  hints := decls.map fun d => (d.name, d.hint)
  attributes := decls.filterMap fun d => d.default.map fun v => (d.name, some v)
  own := c.ownNames decls

def toType (c : Chain) : RecordType Value where
  module := c.module
  name := c.name
  declared := c.fields
  layers := c.layers.map c.layer
  modules := fun module => if module = c.module then c.names else []

def ofRecords (name : String) (layers : List (List (FieldDecl Value))) : Chain :=
  ⟨"records", name, TypeHint.Library.recordNames, layers⟩

end Chain

end FieldGuard
