import FieldGuard.TypeHint
import FieldGuard.Decimal.Binary64
import FieldGuard.Entries

namespace FieldGuard

structure FieldDecl (α : Type) where
  name : String
  hint : TypeHint
  default : Option α
  metadata : List (String × α)

/-- What a type of the line of bases contributes: its hints, the attributes that its records read
from it, without a value where a slot is kept, and all its names as its hints see them. -/
structure Layer (α : Type) where
  module : String
  hints : List (String × TypeHint)
  attributes : List (String × Option α)
  own : Entries String TypeHint.Meaning

/-- A record type as it is found when a record is looked at: its declared fields, the layers of the
line in which its attributes are looked up, the most basic first, and the names of the modules that
declare them. How the type came by its fields and its line, from one base or several, is left
open. -/
structure RecordType (α : Type) where
  module : String
  name : String
  declared : List (FieldDecl α)
  layers : List (Layer α)
  modules : String → Entries String TypeHint.Meaning

def FieldDecl.merge {α : Type} (ds : List (FieldDecl α)) : List (FieldDecl α) :=
  (Entries.ofPairs (· == ·) (ds.map fun d => (d.name, d))).map Prod.snd

def RecordType.fields {α : Type} (t : RecordType α) : List (FieldDecl α) :=
  FieldDecl.merge t.declared

def RecordType.attribute? {α : Type} (t : RecordType α) (name : String) : Option α :=
  (t.layers.reverse.findSome? fun l => l.attributes.lookup name).join

/-- Why there is no text of a value: it holds an integer with too many digits, it is nested too
deeply, or what makes the text of one of its parts raises an error of its own. -/
inductive TextError where
  | tooLarge
  | tooDeep
  | raised (typeName message : String)
  deriving DecidableEq, Repr

/-- The texts that a type of its own gives a value: where the value stands alone, and inside other
values. -/
structure Shown where
  alone : Except TextError String
  inside : Except TextError String

inductive MappingForm where
  | plain
  | ordered
  | view
  deriving DecidableEq, Repr

inductive Value where
  | null
  | bool (b : Bool)
  | int (n : Int)
  | float (x : Binary64)
  | text (s : String)
  | bytes (bs : List UInt8)
  | list (items : List Value)
  | tuple (items : List Value)
  | set (items : List Value)
  | mapping (form : MappingForm) (entries : List (Value × Value))
  | opaqueOf (typeName : String) (shown : Shown)
  | recordType (type : RecordType Value)
  | record (type : RecordType Value) (held : List (String × Value)) (shown : Shown)

namespace Value

instance : Inhabited Value := ⟨.null⟩

def typeName : Value → String
  | .null => "NoneType"
  | .bool _ => "bool"
  | .int _ => "int"
  | .float _ => "float"
  | .text _ => "str"
  | .bytes _ => "bytes"
  | .list _ => "list"
  | .tuple _ => "tuple"
  | .set _ => "set"
  | .mapping .plain _ => "dict"
  | .mapping .ordered _ => "OrderedDict"
  | .mapping .view _ => "mappingproxy"
  | .opaqueOf name _ => name
  | .recordType _ => "type"
  | .record t _ _ => t.name

def entries? : Value → Option (Entries Value Value)
  | .mapping _ es => some es
  | _ => none

def writableEntries? : Value → Option (Entries Value Value)
  | .mapping .plain es | .mapping .ordered es => some es
  | _ => none

def text? : Value → Option String
  | .text s => some s
  | _ => none

def int? : Value → Option Int
  | .int n => some n
  | _ => none

def items? : Value → Option (List Value)
  | .list items | .tuple items => some items
  | _ => none

def isText (v : Value) (s : String) : Bool :=
  match v with
  | .text t => t == s
  | _ => false

def lookup (es : Entries Value Value) (name : String) : Option Value :=
  (es.find? fun e => e.1.isText name).map Prod.snd

def number? : Value → Option (Int ⊕ Binary64)
  | .bool b => some (.inl (if b then 1 else 0))
  | .int n => some (.inl n)
  | .float x => some (.inr x)
  | _ => none

mutual

/-- Whether two values are one key of a mapping. Opaque values are keys of their own. -/
def sameKey : Value → Value → Bool
  | .null, .null => true
  | .text s, .text t => s == t
  | .bytes s, .bytes t => s == t
  | .tuple xs, .tuple ys => sameKeys xs ys
  | .bool b, w => (w.number?).any (Binary64.sameNumber (.inl (if b then 1 else 0)))
  | .int n, w => (w.number?).any (Binary64.sameNumber (.inl n))
  | .float x, w => (w.number?).any (Binary64.sameNumber (.inr x))
  | _, _ => false

def sameKeys : List Value → List Value → Bool
  | [], [] => true
  | x :: xs, y :: ys => x.sameKey y && sameKeys xs ys
  | _, _ => false

end

def mappingOf (form : MappingForm) (pairs : List (Value × Value)) : Value :=
  .mapping form (Entries.ofPairs sameKey pairs)

def keyed (pairs : List (String × Value)) : Value :=
  .mapping .plain (pairs.map fun p => (.text p.1, p.2))

def setOf (items : List Value) : Value :=
  .set (Entries.ofPairs sameKey (items.map fun v => (v, ()))).keys

mutual

def unhashable? : Value → Option String
  | .list _ => some "list"
  | .set _ => some "set"
  | .mapping .plain _ => some "dict"
  | .mapping .ordered _ => some "OrderedDict"
  | .mapping .view _ => some "mappingproxy"
  | .record t _ _ => some t.name
  | .tuple items => anyUnhashable? items
  | _ => none

def anyUnhashable? : List Value → Option String
  | [] => none
  | v :: vs => v.unhashable?.or (anyUnhashable? vs)

end

def size? : Value → Option Nat
  | .text s => some s.length
  | .bytes bs => some bs.length
  | .list items | .tuple items | .set items => some items.length
  | .mapping _ es => some es.length
  | _ => none

def truth : Value → Bool
  | .null => false
  | .bool b => b
  | .int n => n != 0
  | .float x => !x.isZero
  | v => v.size? != some 0

theorem isText_text (s t : String) : isText (.text s) t = (s == t) := rfl

theorem isText_iff {v : Value} {s : String} : v.isText s = true ↔ v = .text s := by
  cases v <;> simp [isText]

theorem int?_eq_some_iff {v : Value} {n : Int} : v.int? = some n ↔ v = .int n := by
  cases v <;> simp [int?]

theorem text?_eq_some_iff {v : Value} {s : String} : v.text? = some s ↔ v = .text s := by
  cases v <;> simp [text?]

theorem items?_eq_some_iff {v : Value} {vs : List Value} :
    v.items? = some vs ↔ v = .list vs ∨ v = .tuple vs := by
  cases v <;> simp [items?]

theorem lookup_keyed (pairs : List (String × Value)) (name : String) :
    lookup (pairs.map fun p => (.text p.1, p.2)) name = pairs.lookup name := by
  induction pairs with
  | nil => rfl
  | cons p pairs ih =>
    obtain ⟨n, w⟩ := p
    rw [lookup] at ih ⊢
    rw [List.map_cons, List.find?_cons, List.lookup_cons, isText_text, Bool.beq_comm]
    cases name == n with
    | true => rfl
    | false => exact ih

end Value

end FieldGuard
