import FieldGuard.TypeHint.Method

namespace FieldGuard.TypeHint

/-- Parameters in order, those that take no name with an empty one. `rest` takes any number of
arguments in order, `labels` are taken by name only, and `others` takes all names. -/
structure Signature where
  required : Nat
  names : List String
  rest : Bool
  labels : List String
  others : Bool

namespace Signature

def between (least most : Nat) : Signature := ⟨least, List.replicate most "", false, [], false⟩

def exactly (n : Nat) : Signature := between n n

def named (required : Nat) (names : List String) : Signature := ⟨required, names, false, [], false⟩

def atLeast (n : Nat) : Signature := ⟨n, List.replicate n "", true, [], false⟩

def withLabels (s : Signature) (labels : List String) : Signature := { s with labels := labels }

def withOthers (s : Signature) : Signature := { s with others := true }

def variance : List String := ["bound", "covariant", "contravariant"]

def table : List (String × Signature) :=
  [("abs", exactly 1), ("aiter", exactly 1), ("all", exactly 1), ("anext", between 1 2),
    ("any", exactly 1), ("ascii", exactly 1), ("bin", exactly 1), ("bool", between 0 1),
    ("bytearray", named 0 ["source", "encoding", "errors"]),
    ("bytes", named 0 ["source", "encoding", "errors"]), ("callable", exactly 1),
    ("chr", exactly 1), ("classmethod", exactly 1), ("complex", named 0 ["real", "imag"]),
    ("delattr", exactly 2), ("dict", (between 0 1).withOthers), ("dir", between 0 1),
    ("divmod", exactly 2), ("enumerate", named 1 ["iterable", "start"]),
    ("eval", between 1 3), ("filter", exactly 2), ("float", between 0 1),
    ("format", between 1 2), ("frozenset", between 0 1), ("getattr", between 2 3),
    ("globals", exactly 0), ("hasattr", exactly 2), ("hash", exactly 1), ("hex", exactly 1),
    ("id", exactly 1), ("int", named 0 ["", "base"]), ("isinstance", exactly 2),
    ("issubclass", exactly 2), ("iter", between 1 2), ("len", exactly 1), ("list", between 0 1),
    ("locals", exactly 0), ("map", atLeast 2), ("max", (atLeast 1).withLabels ["key", "default"]),
    ("memoryview", named 1 ["object"]), ("min", (atLeast 1).withLabels ["key", "default"]),
    ("next", between 1 2), ("object", exactly 0), ("oct", exactly 1), ("ord", exactly 1),
    ("pow", named 2 ["base", "exp", "mod"]),
    ("print", (atLeast 0).withLabels ["sep", "end", "file", "flush"]),
    ("property", named 0 ["fget", "fset", "fdel", "doc"]), ("range", between 1 3),
    ("repr", exactly 1), ("reversed", exactly 1), ("round", named 1 ["number", "ndigits"]),
    ("set", between 0 1), ("setattr", exactly 3), ("slice", between 1 3),
    ("sorted", (exactly 1).withLabels ["key", "reverse"]), ("staticmethod", exactly 1),
    ("str", named 0 ["object", "encoding", "errors"]), ("sum", named 1 ["", "start"]),
    ("super", between 0 2), ("tuple", between 0 1), ("type", (between 1 3).withOthers),
    ("vars", between 0 1), ("zip", (atLeast 0).withLabels ["strict"]),
    ("ExceptionGroup", exactly 2), ("BaseExceptionGroup", exactly 2),
    ("UnicodeDecodeError", exactly 5), ("UnicodeEncodeError", exactly 5),
    ("UnicodeTranslateError", exactly 4),
    ("AttributeError", (atLeast 0).withLabels ["name", "obj"]),
    ("ImportError", (atLeast 0).withLabels ["name", "path"]),
    ("ModuleNotFoundError", (atLeast 0).withLabels ["name", "path"]),
    ("NameError", (atLeast 0).withLabels ["name"]),
    ("UnboundLocalError", (atLeast 0).withLabels ["name"]),
    ("collections.ChainMap", atLeast 0), ("collections.Counter", (between 0 1).withOthers),
    ("collections.OrderedDict", (between 0 1).withOthers),
    ("collections.defaultdict", (between 0 2).withOthers),
    ("collections.deque", named 0 ["iterable", "maxlen"]),
    ("collections.abc.ItemsView", named 1 ["mapping"]),
    ("collections.abc.KeysView", named 1 ["mapping"]),
    ("collections.abc.MappingView", named 1 ["mapping"]),
    ("collections.abc.ValuesView", named 1 ["mapping"]), ("types.GenericAlias", exactly 2),
    ("typing.BinaryIO", exactly 0), ("typing.Generic", exactly 0), ("typing.IO", exactly 0),
    ("typing.Protocol", exactly 0), ("typing.TextIO", exactly 0),
    ("typing.ForwardRef",
      (named 1 ["arg", "is_argument", "module"]).withLabels ["is_class"]),
    ("typing.NewType", named 2 ["name", "tp"]),
    ("typing.ParamSpec", (named 1 ["name"]).withLabels variance),
    ("typing.ParamSpecArgs", named 1 ["origin"]),
    ("typing.ParamSpecKwargs", named 1 ["origin"]),
    ("typing.TypeVar", ⟨1, ["name"], true, variance, false⟩),
    ("typing.TypeVarTuple", named 1 ["name"]),
    ("typing.NamedTuple", (between 1 2).withOthers),
    ("typing.TypedDict", (between 1 2).withOthers), ("typing.assert_never", exactly 1),
    ("typing.assert_type", exactly 2), ("typing.cast", named 2 ["typ", "val"]),
    ("typing.clear_overloads", exactly 0), ("typing.dataclass_transform", (exactly 0).withOthers),
    ("typing.final", named 1 ["f"]), ("typing.get_args", named 1 ["tp"]),
    ("typing.get_origin", named 1 ["tp"]), ("typing.get_overloads", named 1 ["func"]),
    ("typing.get_type_hints", named 1 ["obj", "globalns", "localns", "include_extras"]),
    ("typing.is_typeddict", named 1 ["tp"]), ("typing.no_type_check", named 1 ["arg"]),
    ("typing.no_type_check_decorator", named 1 ["decorator"]),
    ("typing.overload", named 1 ["func"]), ("typing.reveal_type", exactly 1),
    ("typing.runtime_checkable", named 1 ["cls"]),
    ("typing.abstractmethod", named 1 ["funcobj"]),
    ("collections.namedtuple",
      (named 2 ["typename", "field_names"]).withLabels ["rename", "defaults", "module"])]

def find? (name : String) : Option Signature :=
  (table.lookup name).or
    (if Library.derives name "BaseException" then some (atLeast 0) else none)

def fit? (s : Signature) (args : List Meaning) (given : Meaning.Named) :
    Option (List Meaning × Meaning.Named) :=
  let free := s.names.drop args.length
  let (placed, left) := given.partition fun e => e.1 != "" && free.contains e.1
  let values := free.map fun label => placed.lookup label
  if (values.take (s.required - args.length)).any Option.isNone then none
  else if s.names.length < args.length && !s.rest then none
  else if !s.others && left.any fun e => !s.labels.contains e.1 then none
  else
    let found := (values.takeWhile Option.isSome).filterMap id
    let late := free.drop found.length
    some (args ++ found, left ++ placed.filter fun e => late.contains e.1)

def fit (name : String) (args : List Meaning) (given : Meaning.Named) :
    Except Fault (List Meaning × Meaning.Named) :=
  match find? name with
  | none => .ok (args, given)
  | some s =>
    match s.fit? args given with
    | some fitted => .ok fitted
    | none => .error .unresolved

end Signature

end FieldGuard.TypeHint
