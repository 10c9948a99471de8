import FieldGuard.Value.Basic

namespace FieldGuard

/-- A null tag counts as none, and a field without a value has none. -/
structure Field where
  name : String
  kind : Option Kind
  tag : Option Value
  value : Option Value

inductive FieldFault where
  | hint (fault : TypeHint.Fault)
  | noKind
  deriving DecidableEq, Repr

def FieldFault.message : FieldFault → String
  | .hint f => f.message
  | .noKind => "'NoneType' object has no attribute 'value'"

namespace Field

def isExportedName (name : String) : Bool := name.toList.head? != some '_'

def isExported (f : Field) : Bool := isExportedName f.name

def isTagged (f : Field) : Bool := f.tag.isSome

def isPresent (f : Field) : Bool := f.value.isSome

def tagOf : Value → Option Value
  | .null => none
  | v => some v

theorem isExportedName_iff (name : String) :
    isExportedName name = false ↔ name.toList.head? = some '_' := by
  simp [isExportedName]

end Field

/-- The fields of a record in order. Checks go through them one by one, so a field that cannot be
looked at stops them only when its turn comes. -/
abbrev Fields := List (Except FieldFault Field)

end FieldGuard
