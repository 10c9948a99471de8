import FieldGuard.Sequence
import FieldGuard.Text.Quoted
import FieldGuard.TypeHint.Expr

/-!
What expressions of type hints denote: constants, collections, types, types applied to arguments,
and functions. Equality is that of the language of the hints: numbers are equal across types, and
unions are equal whatever the order of their members.
-/

namespace FieldGuard.TypeHint

inductive FaultKind where
  | attribute
  | index
  | key
  | value
  | division
  | overflow
  | assertion
  | recursion
  | exhausted
  | runtime
  | missingModule
  | grammar
  | other (typeName : String)
  deriving DecidableEq, Repr

/-- Why a hint denotes nothing. The first cause leaves the hints of a record type as they are
written; each of the others is reported. -/
inductive Fault where
  | unresolved
  | notExpression (text : String)
  | emptyText
  | nullCharacter
  | unhashable (typeName : String)
  | raised (kind : FaultKind) (message : String)
  deriving DecidableEq, Repr

namespace Fault

def message : Fault → String
  | .unresolved => "unresolved hint"
  | .notExpression text => "Forward reference must be an expression -- got " ++ Text.quoted text
  | .emptyText => "string index out of range"
  | .nullCharacter => "source code string cannot contain null bytes"
  | .unhashable typeName => "unhashable type: '" ++ typeName ++ "'"
  | .raised _ message => message

def noAttribute (owner name : String) : Fault :=
  .raised .attribute (owner ++ " has no attribute '" ++ name ++ "'")

end Fault

/-- What arguments in brackets are applied to: a class itself, whose items may be passed one by
one; a name of the library that checks its arguments; a special form; or a class of the library. -/
inductive Head where
  | native (origin : String) (expanded : Bool)
  | generic (name : String)
  | form (name : String)
  | library (name : String)
  deriving DecidableEq, Repr

inductive VariableForm where
  | type
  | parameters
  | types
  deriving DecidableEq, Repr

/-- A quoted text is a name used ahead of its definition; it is `whole` where it may denote special
forms. An iterator holds its items, and the fault that comes after them. Of a thing of another
sort, only its type is known. -/
inductive Meaning where
  | none
  | ellipsis
  | notImplemented
  | bool (b : Bool)
  | integer (n : Int)
  | float (x : Binary64)
  | text (s : String)
  | bytes (bs : List UInt8)
  | list (items : List Meaning)
  | tuple (items : List Meaning)
  | set (frozen : Bool) (items : List Meaning)
  | dict (entries : List (Meaning × Meaning))
  | slice (start stop step : Meaning)
  | range (start stop step : Int)
  | type (name : String)
  | module (name : String)
  | form (name : String)
  | generic (name : String)
  | applied (head : Head) (args : List Meaning)
  | union (native : Bool) (members : List Meaning)
  | annotated (type : Meaning) (notes : List Meaning)
  | quoted (text : String) (whole : Bool)
  | typeVariable (form : VariableForm) (name : String)
  | newType (name : String) (base : Meaning)
  | function (name : String)
  | method (owner : Meaning) (name : String)
  | member (owner name : String)
  | closure (parameters : List (ParameterForm × String × Option Meaning)) (body : Expr)
      (captured : List (String × Meaning))
  | iterator (typeName : String) (items : List Meaning) (fault : Option Fault)
  | other (typeName : String)

namespace Meaning

instance : Inhabited Meaning := ⟨.none⟩

def int : Meaning := .type "int"

def str : Meaning := .type "str"

def nothing : Meaning := .type "NoneType"

def splitName (name : String) : String × String :=
  let cs := name.toList.reverse
  (String.ofList (cs.dropWhile (· != '.')).tail.reverse,
    String.ofList (cs.takeWhile (· != '.')).reverse)

def shortName (name : String) : String := (splitName name).2

def isSpecial (name : String) : Bool :=
  let cs := name.toList
  ['_', '_'].isPrefixOf cs && ['_', '_'].isPrefixOf cs.reverse

def ordinarySpecials : List String :=
  ["__bytes__", "__ceil__", "__class_getitem__", "__complex__", "__dir__", "__floor__",
    "__format__", "__getnewargs__", "__getstate__", "__init_subclass__", "__instancecheck__",
    "__new__", "__reduce__", "__reduce_ex__", "__reversed__", "__round__", "__set_name__",
    "__setstate__", "__sizeof__", "__subclasscheck__", "__subclasses__", "__subclasshook__",
    "__trunc__"]

def isOperator (owner name : String) : Bool :=
  isSpecial name && !ordinarySpecials.contains name &&
    !(name == "__getitem__" && ["dict", "list"].contains owner) &&
    !(name == "__contains__" && ["dict", "frozenset", "set"].contains owner)

def typeName : Meaning → String
  | .none => "NoneType"
  | .ellipsis => "ellipsis"
  | .notImplemented => "NotImplementedType"
  | .bool _ => "bool"
  | .integer _ => "int"
  | .float _ => "float"
  | .text _ => "str"
  | .bytes _ => "bytes"
  | .list _ => "list"
  | .tuple _ => "tuple"
  | .set false _ => "set"
  | .set true _ => "frozenset"
  | .dict _ => "dict"
  | .slice _ _ _ => "slice"
  | .range _ _ _ => "range"
  | .type "typing.Any" => "typing._AnyMeta"
  | .type _ => "type"
  | .module _ => "module"
  | .form "Literal" => "typing._LiteralSpecialForm"
  | .form _ => "typing._SpecialForm"
  | .generic "Callable" => "typing._CallableType"
  | .generic "Tuple" => "typing._TupleType"
  | .generic _ => "typing._SpecialGenericAlias"
  | .applied (.native _ _) _ => "types.GenericAlias"
  | .applied (.generic "Callable") _ => "typing._CallableGenericAlias"
  | .applied (.form "Literal") _ => "typing._LiteralGenericAlias"
  | .applied (.form "Unpack") _ => "typing._UnpackGenericAlias"
  | .applied (.form "Concatenate") _ => "typing._ConcatenateGenericAlias"
  | .applied _ _ => "typing._GenericAlias"
  | .union true _ => "types.UnionType"
  | .union false _ => "typing._UnionGenericAlias"
  | .annotated _ _ => "typing._AnnotatedAlias"
  | .quoted _ _ => "typing.ForwardRef"
  | .typeVariable .type _ => "typing.TypeVar"
  | .typeVariable .parameters _ => "typing.ParamSpec"
  | .typeVariable .types _ => "typing.TypeVarTuple"
  | .newType _ _ => "typing.NewType"
  | .function name => if (splitName name).1 = "" then "builtin_function_or_method" else "function"
  | .method owner name =>
    if isOperator (typeName owner) name then "method-wrapper" else "builtin_function_or_method"
  | .member owner name =>
    if isOperator owner name then "wrapper_descriptor" else "method_descriptor"
  | .closure _ _ _ => "function"
  | .iterator name _ _ => name
  | .other name => name

def number? : Meaning → Option (Int ⊕ Binary64)
  | .bool b => Option.some (.inl (if b then 1 else 0))
  | .integer n => Option.some (.inl n)
  | .float x => Option.some (.inr x)
  | _ => Option.none

def integer? : Meaning → Option Int
  | .bool b => Option.some (if b then 1 else 0)
  | .integer n => Option.some n
  | _ => Option.none

mutual

def same : Meaning → Meaning → Bool
  | .none, .none | .ellipsis, .ellipsis | .notImplemented, .notImplemented => true
  | .bool b, w => (w.number?).any (Binary64.sameNumber (.inl (if b then 1 else 0)))
  | .integer n, w => (w.number?).any (Binary64.sameNumber (.inl n))
  | .float x, w => (w.number?).any (Binary64.sameNumber (.inr x))
  | .text s, .text t => s == t
  | .bytes s, .bytes t => s == t
  | .list xs, .list ys => sameAll xs ys
  | .tuple xs, .tuple ys => sameAll xs ys
  | .set _ xs, .set _ ys => xs.length == ys.length && within xs ys
  | .dict es, .dict fs => es.length == fs.length && entriesWithin es fs
  | .slice a b c, .slice x y z => same a x && same b y && same c z
  | .range a b c, .range x y z => a == x && b == y && c == z
  | .type m, .type n => m == n
  | .module m, .module n => m == n
  | .form m, .form n => m == n
  | .generic m, .generic n => m == n
  | .applied h xs, .applied k ys => h == k && sameAll xs ys
  | .union _ xs, .union _ ys => xs.length == ys.length && within xs ys
  | .annotated t ns, .annotated u ms => same t u && sameAll ns ms
  | .quoted s _, .quoted t _ => s == t
  | .typeVariable f m, .typeVariable g n => f == g && m == n
  | .newType m _, .newType n _ => m == n
  | .function m, .function n => m == n
  | .method a m, .method b n => same a b && m == n
  | .member a m, .member b n => a == b && m == n
  | _, _ => false

def sameAll : List Meaning → List Meaning → Bool
  | [], [] => true
  | x :: xs, y :: ys => same x y && sameAll xs ys
  | _, _ => false

def within : List Meaning → List Meaning → Bool
  | [], _ => true
  | x :: xs, ys => ys.any (fun y => same x y) && within xs ys

def entriesWithin : List (Meaning × Meaning) → List (Meaning × Meaning) → Bool
  | [], _ => true
  | (k, v) :: es, fs => fs.any (fun e => same k e.1 && same v e.2) && entriesWithin es fs

end

mutual

def unhashable? : Meaning → Option String
  | .list _ => Option.some "list"
  | .set false _ => Option.some "set"
  | .dict _ => Option.some "dict"
  | .slice _ _ _ => Option.some "slice"
  | .other "bytearray" => Option.some "bytearray"
  | .tuple items | .applied _ items | .union _ items => anyUnhashable? items
  | .annotated m notes => (unhashable? m).or (anyUnhashable? notes)
  | _ => Option.none

def anyUnhashable? : List Meaning → Option String
  | [] => Option.none
  | m :: ms => (unhashable? m).or (anyUnhashable? ms)

end

def distinct (ms : List Meaning) : List Meaning :=
  ms.foldl (fun found m => if found.any (same m) then found else found ++ [m]) []

def truth : Meaning → Bool
  | .none => false
  | .bool b => b
  | .integer n => n != 0
  | .float x => !x.isZero
  | .text s => !s.isEmpty
  | .bytes bs => !bs.isEmpty
  | .list items | .tuple items | .set _ items => !items.isEmpty
  | .dict es => !es.isEmpty
  | .range start stop step => Sequence.count start stop step != 0
  | _ => true

end Meaning

end FieldGuard.TypeHint
