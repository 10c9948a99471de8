import FieldGuard.Kind
import FieldGuard.TypeHint.Resolution

/-!
Declared types of record fields, as types or as texts, and the kinds they give. A type's kind is
read off its meaning. A text's kind is read off a table of spellings, and its meaning counts
only after resolution.
-/

namespace FieldGuard

inductive TypeHint where
  | type (meaning : TypeHint.Meaning)
  | text (content : String)

namespace TypeHint

namespace Meaning

def classKinds? : Meaning → Option (Kind × Kind)
  | .type name =>
    if name = "int" then Option.some (.integer, .integerList)
    else if name = "str" then Option.some (.string, .stringList)
    else Option.none
  | _ => Option.none

def isList : Head → Bool
  | .generic name => Library.origin name == "list"
  | .native origin _ => origin == "list"
  | _ => false

/-- The kind of a type. The argument of a list type is looked up among keys, so it has to be one
that can be a key. -/
def kind? (m : Meaning) : Except Fault (Option Kind) :=
  match m with
  | .applied head [item] =>
    if isList head then
      match item.unhashable? with
      | Option.some name => .error (.unhashable name)
      | Option.none => .ok (item.classKinds?.map Prod.snd)
    else .ok Option.none
  | m => .ok (m.classKinds?.map Prod.fst)

end Meaning

/-- The type that an expression denotes in a module with the given names; one that denotes none
supports no kind. Spaces in front do not count. -/
def ofTypeText (names : Entries String Meaning) (s : String) : TypeHint :=
  let evaluated := (Expr.ofInnerText? s).map fun e =>
    (Expr.evaluate (s.length + Meaning.callDepth) e).run' ⟨[], names, none, none⟩
  match evaluated with
  | some (.ok (.text s)) => .text s
  | some (.ok m) => .type m
  | _ => .type .ellipsis

def spellings : List (String × Kind) :=
  [("int", .integer), ("str", .string), ("List[int]", .integerList), ("list[int]", .integerList),
    ("typing.List[int]", .integerList), ("List[str]", .stringList), ("list[str]", .stringList),
    ("typing.List[str]", .stringList)]

def withoutSpaces (s : String) : String := String.ofList (s.toList.filter (· != ' '))

def kind? : TypeHint → Except Fault (Option Kind)
  | .text s => .ok (spellings.lookup (withoutSpaces s))
  | .type m => m.kind?

def resolve [DepthLimit] [Evaluator] : TypeHint → Eval Meaning
  | .text s => do Meaning.resolve (← Meaning.forward true s)
  | .type .none => return Meaning.nothing
  | .type m => Meaning.resolve m

def isWordChar (c : Char) : Bool := c == '_' || c.isAlphanum || Text.isName ['_', c]

def leadingWord (cs : List Char) : List Char × List Char :=
  let cs := cs.dropWhile Text.isBlank
  (cs.takeWhile isWordChar, cs.dropWhile isWordChar)

def isClassForm : Meaning → Bool
  | .form name | .applied (.form name) _ => name == "ClassVar"
  | _ => false

def isTypingModule : Meaning → Bool
  | .module name => name == "typing"
  | _ => false

/-- Whether a hint tells that its name belongs to the record type and is no field, where the names
are those of the module that declares the type. Of a text, only the first words count. -/
def isClassVariable (names : Entries String Meaning) : TypeHint → Bool
  | .type m => isClassForm m
  | .text s =>
    let (first, rest) := leadingWord s.toList
    let second := match rest.dropWhile Text.isBlank with
      | '.' :: rest => (leadingWord rest).1
      | _ => []
    let found := names.lookup (String.ofList first)
    if second.isEmpty then found.any isClassForm
    else String.ofList second == "ClassVar" && found.any isTypingModule

namespace Meaning

def ofKind : Kind → Meaning
  | .integer => int
  | .string => str
  | .integerList => .applied (.generic "List") [int]
  | .stringList => .applied (.generic "List") [str]

theorem kind?_ofKind (k : Kind) : (ofKind k).kind? = .ok (Option.some k) := by
  cases k <;> rfl

theorem plain_ofKind (k : Kind) : (ofKind k).plain = .ok (ofKind k) := by
  cases k <;> rfl

end Meaning

def ofKind (k : Kind) : TypeHint := .type (Meaning.ofKind k)

theorem kind?_ofKind (k : Kind) : (ofKind k).kind? = .ok (some k) := Meaning.kind?_ofKind k

theorem resolve_ofKind [DepthLimit] [Evaluator] (k : Kind) (s : Scope) :
    (ofKind k).resolve s = .ok (Meaning.ofKind k, s) := by
  obtain ⟨n, hn⟩ := Nat.exists_eq_add_of_le (DepthLimit.le_limit .hints)
  have hm : Meaning.resolve (Meaning.ofKind k) s = .ok (Meaning.ofKind k, s) := by
    rw [Meaning.resolve, hn, Nat.add_comm]
    cases k <;> rfl
  cases k <;> exact hm

theorem isClassVariable_ofKind (names : Entries String Meaning) (k : Kind) :
    (ofKind k).isClassVariable names = false := by
  cases k <;> rfl

end TypeHint

end FieldGuard
