import FieldGuard.Text.Blank
import FieldGuard.Text.Quoted
import FieldGuard.Value.Literal

namespace FieldGuard

structure Config where
  tagKey : String
  logViolations : Bool
  tagKey_visible : Text.strip tagKey.toList ≠ []
  deriving DecidableEq

namespace Config

inductive Error where
  | tagKey
  | notAConfig
  deriving DecidableEq, Repr

def Error.message : Error → String
  | .tagKey => "tag_key must be a non-empty string"
  | .notAConfig => "config must be a ValidatorConfig"

def defaultTagKey : String := "validate"

def default : Config := ⟨defaultTagKey, false, by decide⟩

def ofValues (tagKey logViolations : Value) : Except Error Config :=
  match tagKey with
  | .text s =>
    if h : Text.strip s.toList ≠ [] then .ok ⟨s, logViolations.truth, h⟩ else .error .tagKey
  | _ => .error .tagKey

def text (c : Config) : String :=
  "ValidatorConfig(tag_key=" ++ Text.quoted c.tagKey ++ ", log_violations=" ++
    Value.boolText c.logViolations ++ ")"

end Config

end FieldGuard
