import FieldGuard.Text.Blank
import FieldGuard.Text.Uppercase

namespace FieldGuard

inductive Kind where
  | integer
  | string
  | integerList
  | stringList
  deriving DecidableEq, Repr

namespace Kind

def all : List Kind := [.integer, .string, .integerList, .stringList]

def text : Kind → String
  | .integer => "int"
  | .string => "string"
  | .integerList => "[]int"
  | .stringList => "[]string"

def constantName : Kind → String
  | .integer => "INTEGER"
  | .string => "STRING"
  | .integerList => "INTEGER_LIST"
  | .stringList => "STRING_LIST"

def isString : Kind → Bool
  | .string | .stringList => true
  | .integer | .integerList => false

def isList : Kind → Bool
  | .integerList | .stringList => true
  | .integer | .string => false

def element : Kind → Kind
  | .integer | .integerList => .integer
  | .string | .stringList => .string

def ofText? (s : String) : Option Kind := all.find? fun k => k.text == s

/-- A kind named by its spelling, or by its constant name in any case with white space around it. -/
def ofName? (s : String) : Option Kind :=
  (ofText? s).or <|
    all.find? fun k => k.constantName.toList == Text.upper (Text.strip s.toList)

theorem ofText?_text (k : Kind) : ofText? k.text = some k := by
  cases k <;> rfl

theorem text_of_ofText? {s : String} {k : Kind} (h : ofText? s = some k) : k.text = s := by
  simpa using List.find?_some h

theorem text_injective {k l : Kind} (h : k.text = l.text) : k = l := by
  have := ofText?_text k
  rw [h, ofText?_text] at this
  exact (Option.some.inj this).symm

theorem isString_element (k : Kind) : k.element.isString = k.isString := by
  cases k <;> rfl

end Kind

end FieldGuard
