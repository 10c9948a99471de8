import FieldGuard.Value.Literal

namespace FieldGuard.Document

inductive Step where
  | key (name : String)
  | index (i : Nat)
  deriving DecidableEq, Repr

def Step.text : Step → String
  | .key name => name
  | .index i => i.repr

abbrev Path := List Step

def Path.text (p : Path) : Option String :=
  if p.isEmpty then none else some ("/".intercalate (p.map Step.text))

/-- Texts, which may have to hold a character, lists of items of one format, and objects that have
no other properties than the given ones. -/
inductive Format where
  | text (nonempty : Bool)
  | list (item : Format)
  | object (properties : List (String × Format)) (required : List String)

namespace Format

mutual

def accepts : Format → Value → Bool
  | .text nonempty, .text s => !(nonempty && s.isEmpty)
  | .list item, .list items => items.all (accepts item)
  | .object properties required, v =>
    match v.writableEntries? with
    | some es => acceptsEach properties es &&
        required.all (fun name => (Value.lookup es name).isSome) &&
        es.keys.all fun k => properties.any fun p => k.isText p.1
    | none => false
  | _, _ => false

def acceptsEach : List (String × Format) → Entries Value Value → Bool
  | [], _ => true
  | (name, f) :: properties, es =>
    (match Value.lookup es name with
      | some v => accepts f v
      | none => true) && acceptsEach properties es

end

end Format

def tagKey : String := "validate"

def fieldFormat : Format :=
  .object [("name", .text true), ("kind", .text true), (tagKey, .text false)] ["name", "kind"]

def schemaFormat : Format :=
  .object [("name", .text true), ("description", .text false), ("fields", .list fieldFormat)]
    ["name", "fields"]

inductive Breach where
  | broken (path : Path) (message : String)
  | failed (error : TextError)
  deriving DecidableEq, Repr

/-- The library that checks documents. It is taken to accept what has the format, and left open in
which words and at which place it reports the rest. -/
class Checker where
  check : Format → Value → Except Breach Unit
  check_eq_ok_iff (f : Format) (v : Value) : check f v = .ok () ↔ f.accepts v = true

end FieldGuard.Document
