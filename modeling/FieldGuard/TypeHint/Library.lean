import FieldGuard.Entries
import FieldGuard.TypeHint.Class
import FieldGuard.TypeHint.Meaning

namespace FieldGuard.TypeHint.Library

def derivesIn : Nat → String → String → Bool
  | 0, name, base => name == base
  | n + 1, name, base =>
    name == base || base == "object" || ((bases.lookup name).getD []).any (derivesIn n · base)

def depth : Nat := 8

def derives (name base : String) : Bool := derivesIn depth name base

def hasAttribute (name wanted : String) : Bool :=
  commonAttributes.contains wanted ||
    addedAttributes.any fun (owners, added) => added.contains wanted && owners.any (derives name)

def describedBy? (name wanted : String) : Option String :=
  let found := describedAttributes.find? fun (owner, _, names) =>
    names.contains wanted && derives name owner
  found.map fun (_, description, _) => description

def generics : List (String × Option Nat × String) :=
  [("AbstractSet", some 1, "collections.abc.Set"),
    ("AsyncContextManager", some 1, "contextlib.AbstractAsyncContextManager"),
    ("AsyncGenerator", some 2, "collections.abc.AsyncGenerator"),
    ("AsyncIterable", some 1, "collections.abc.AsyncIterable"),
    ("AsyncIterator", some 1, "collections.abc.AsyncIterator"),
    ("Awaitable", some 1, "collections.abc.Awaitable"),
    ("ByteString", some 0, "collections.abc.ByteString"),
    ("Callable", none, "collections.abc.Callable"),
    ("ChainMap", some 2, "collections.ChainMap"),
    ("Collection", some 1, "collections.abc.Collection"),
    ("Container", some 1, "collections.abc.Container"),
    ("ContextManager", some 1, "contextlib.AbstractContextManager"),
    ("Coroutine", some 3, "collections.abc.Coroutine"),
    ("Counter", some 1, "collections.Counter"),
    ("DefaultDict", some 2, "collections.defaultdict"),
    ("Deque", some 1, "collections.deque"), ("Dict", some 2, "dict"),
    ("FrozenSet", some 1, "frozenset"), ("Generator", some 3, "collections.abc.Generator"),
    ("Hashable", some 0, "collections.abc.Hashable"),
    ("ItemsView", some 2, "collections.abc.ItemsView"),
    ("Iterable", some 1, "collections.abc.Iterable"),
    ("Iterator", some 1, "collections.abc.Iterator"),
    ("KeysView", some 1, "collections.abc.KeysView"), ("List", some 1, "list"),
    ("Mapping", some 2, "collections.abc.Mapping"),
    ("MappingView", some 1, "collections.abc.MappingView"), ("Match", some 1, "re.Match"),
    ("MutableMapping", some 2, "collections.abc.MutableMapping"),
    ("MutableSequence", some 1, "collections.abc.MutableSequence"),
    ("MutableSet", some 1, "collections.abc.MutableSet"),
    ("OrderedDict", some 2, "collections.OrderedDict"), ("Pattern", some 1, "re.Pattern"),
    ("Reversible", some 1, "collections.abc.Reversible"),
    ("Sequence", some 1, "collections.abc.Sequence"), ("Set", some 1, "set"),
    ("Sized", some 0, "collections.abc.Sized"), ("Tuple", none, "tuple"),
    ("Type", some 1, "type"), ("ValuesView", some 1, "collections.abc.ValuesView")]

def origin (name : String) : String := ((generics.lookup name).map Prod.snd).getD "object"

def uncallable : List String := ["Dict", "FrozenSet", "List", "Set", "Tuple", "Type"]

def forms : List String :=
  ["ClassVar", "Concatenate", "Final", "Literal", "LiteralString", "Never", "NoReturn",
    "NotRequired", "Optional", "Required", "Self", "TypeAlias", "TypeGuard", "Union", "Unpack"]

def plainForms : List String := ["LiteralString", "Never", "NoReturn", "Self", "TypeAlias"]

def classes : List (String × String) :=
  [("ABCMeta", "abc.ABCMeta"), ("Annotated", "typing.Annotated"), ("Any", "typing.Any"),
    ("BinaryIO", "typing.BinaryIO"), ("ForwardRef", "typing.ForwardRef"),
    ("Generic", "typing.Generic"), ("GenericAlias", "types.GenericAlias"),
    ("IO", "typing.IO"), ("MethodDescriptorType", "method_descriptor"),
    ("MethodWrapperType", "method-wrapper"), ("NamedTupleMeta", "typing.NamedTupleMeta"),
    ("NewType", "typing.NewType"), ("ParamSpec", "typing.ParamSpec"),
    ("ParamSpecArgs", "typing.ParamSpecArgs"), ("ParamSpecKwargs", "typing.ParamSpecKwargs"),
    ("Protocol", "typing.Protocol"), ("SupportsAbs", "typing.SupportsAbs"),
    ("SupportsBytes", "typing.SupportsBytes"), ("SupportsComplex", "typing.SupportsComplex"),
    ("SupportsFloat", "typing.SupportsFloat"), ("SupportsIndex", "typing.SupportsIndex"),
    ("SupportsInt", "typing.SupportsInt"), ("SupportsRound", "typing.SupportsRound"),
    ("Text", "str"), ("TextIO", "typing.TextIO"), ("TypeVar", "typing.TypeVar"),
    ("TypeVarTuple", "typing.TypeVarTuple"), ("WrapperDescriptorType", "wrapper_descriptor"),
    ("defaultdict", "collections.defaultdict"), ("io", "typing.io"), ("re", "typing.re")]

def classVariables : List (String × List String) :=
  [("typing.IO", ["AnyStr"]), ("typing.SupportsAbs", ["T_co"]),
    ("typing.SupportsRound", ["T_co"])]

def typeVariables : List String :=
  ["AnyStr", "CT_co", "KT", "T", "T_co", "T_contra", "VT", "VT_co", "V_co"]

def functions : List String :=
  ["NamedTuple", "TypedDict", "abstractmethod", "assert_never", "assert_type", "cast",
    "clear_overloads", "dataclass_transform", "final", "get_args", "get_origin",
    "get_overloads", "get_type_hints", "is_typeddict", "no_type_check",
    "no_type_check_decorator", "overload", "reveal_type", "runtime_checkable"]

def modules : List String :=
  ["collections", "contextlib", "functools", "operator", "sys", "types", "warnings"]

def name? (name : String) : Option Meaning :=
  if (generics.lookup name).isSome then some (.generic name)
  else if forms.contains name then some (.form name)
  else if typeVariables.contains name then some (.typeVariable .type name)
  else if functions.contains name then some (.function ("typing." ++ name))
  else if modules.contains name then some (.module name)
  else if name = "TYPE_CHECKING" then some (.bool false)
  else if name = "__name__" then some (.text "typing")
  else (classes.lookup name).map .type

def collectionNames : List String :=
  ["ChainMap", "Counter", "OrderedDict", "UserDict", "UserList", "UserString", "defaultdict",
    "deque"]

def typeNames : List (String × String) :=
  [("BuiltinFunctionType", "builtin_function_or_method"), ("EllipsisType", "ellipsis"),
    ("FunctionType", "function"), ("GeneratorType", "generator"),
    ("GenericAlias", "types.GenericAlias"), ("LambdaType", "function"),
    ("MappingProxyType", "mappingproxy"), ("MethodType", "method"), ("ModuleType", "module"),
    ("NoneType", "NoneType"), ("NotImplementedType", "NotImplementedType"),
    ("SimpleNamespace", "types.SimpleNamespace"), ("UnionType", "types.UnionType")]

def moduleName? (module name : String) : Option Meaning :=
  if module = "typing" then name? name
  else if name = "__name__" then some (.text module)
  else if module = "collections" then
    if name = "abc" then some (.module "collections.abc")
    else if name = "namedtuple" then some (.function "collections.namedtuple")
    else if collectionNames.contains name then some (.type ("collections." ++ name))
    else none
  else if module = "collections.abc" then
    let found := "collections.abc." ++ name
    if nativeGenerics.contains found || ["Hashable", "Sized"].contains name then
      some (.type found)
    else none
  else if module = "types" then (typeNames.lookup name).map .type
  else some (.other "object")

def standardFunctions : List String :=
  ["__build_class__", "__import__", "abs", "aiter", "all", "anext", "any", "ascii", "bin",
    "breakpoint", "callable", "chr", "compile", "delattr", "dir", "divmod", "eval", "exec",
    "format", "getattr", "globals", "hasattr", "hash", "hex", "id", "input", "isinstance",
    "issubclass", "iter", "len", "locals", "max", "min", "next", "oct", "open", "ord", "pow",
    "print", "repr", "round", "setattr", "sorted", "sum", "vars"]

def standardOthers : List (String × Meaning) :=
  [("Ellipsis", .ellipsis), ("NotImplemented", .notImplemented),
    ("__builtins__", .other "dict"), ("__debug__", .bool true),
    ("EnvironmentError", .type "OSError"), ("IOError", .type "OSError"),
    ("copyright", .other "_sitebuiltins._Printer"), ("credits", .other "_sitebuiltins._Printer"),
    ("license", .other "_sitebuiltins._Printer"), ("help", .other "_sitebuiltins._Helper"),
    ("exit", .other "_sitebuiltins.Quitter"), ("quit", .other "_sitebuiltins.Quitter")]

def standard? (name : String) : Option Meaning :=
  if standardClasses.contains name then some (.type name)
  else if standardFunctions.contains name then some (.function name)
  else standardOthers.lookup name

def recordNames : Entries String Meaning :=
  [("__name__", .text "records"), ("__doc__", .none), ("__package__", .none),
    ("__loader__", .none), ("__spec__", .none), ("List", .generic "List"),
    ("Dict", .generic "Dict"), ("Optional", .form "Optional"), ("Tuple", .generic "Tuple"),
    ("Union", .form "Union"), ("Any", .type "typing.Any"),
    ("Annotated", .type "typing.Annotated"), ("Sequence", .generic "Sequence"),
    ("Set", .generic "Set"), ("typing", .module "typing")]

example : derives "bool" "int" = true := by decide
example : hasAttribute "int" "real" = true := by decide +kernel
example : hasAttribute "int" "int64" = false := by decide +kernel

end FieldGuard.TypeHint.Library
