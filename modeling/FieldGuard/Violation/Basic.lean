namespace FieldGuard

inductive ViolationCode where
  | notRecord
  | invalidTag
  | unexportedField
  | typeMismatch
  | constraintFailed
  deriving DecidableEq, Repr

namespace ViolationCode

def all : List ViolationCode :=
  [.notRecord, .invalidTag, .unexportedField, .typeMismatch, .constraintFailed]

def text : ViolationCode → String
  | .notRecord => "not_record"
  | .invalidTag => "invalid_tag_syntax"
  | .unexportedField => "unexported_field"
  | .typeMismatch => "type_mismatch"
  | .constraintFailed => "constraint_failed"

def ofText? (s : String) : Option ViolationCode := all.find? fun c => c.text == s

theorem ofText?_text (c : ViolationCode) : ofText? c.text = some c := by
  cases c <;> rfl

end ViolationCode

/-- A violation of the record as a whole has the empty field name. -/
structure Violation where
  field : String
  message : String
  code : ViolationCode := .constraintFailed
  deriving DecidableEq, Repr

namespace Violation

def wrongField (field detail : String) : String := "wrong field " ++ field ++ ": " ++ detail

def notRecord : Violation := ⟨"", "wrong argument given, should be a record", .notRecord⟩

def unexported (field : String) : Violation :=
  ⟨field, "validation for unexported field is not allowed", .unexportedField⟩

def invalidTag (field : String) : Violation := ⟨field, "invalid validator syntax", .invalidTag⟩

def missing (field : String) : Violation :=
  ⟨field, wrongField field "value is missing", .typeMismatch⟩

def mismatch (field kind : String) : Violation :=
  ⟨field, wrongField field ("value does not match declared type " ++ kind), .typeMismatch⟩

def failed (field detail : String) : Violation :=
  ⟨field, wrongField field detail, .constraintFailed⟩

end Violation

end FieldGuard
