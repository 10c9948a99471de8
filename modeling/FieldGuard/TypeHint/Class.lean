namespace FieldGuard.TypeHint.Library

def standardClasses : List String :=
  ["ArithmeticError", "AssertionError", "AttributeError", "BaseException",
    "BaseExceptionGroup", "BlockingIOError", "BrokenPipeError", "BufferError", "BytesWarning",
    "ChildProcessError", "ConnectionAbortedError", "ConnectionError",
    "ConnectionRefusedError", "ConnectionResetError", "DeprecationWarning", "EOFError",
    "EncodingWarning", "Exception", "ExceptionGroup", "FileExistsError", "FileNotFoundError",
    "FloatingPointError", "FutureWarning", "GeneratorExit", "ImportError", "ImportWarning",
    "IndentationError", "IndexError", "InterruptedError", "IsADirectoryError", "KeyError",
    "KeyboardInterrupt", "LookupError", "MemoryError", "ModuleNotFoundError", "NameError",
    "NotADirectoryError", "NotImplementedError", "OSError", "OverflowError",
    "PendingDeprecationWarning", "PermissionError", "ProcessLookupError", "RecursionError",
    "ReferenceError", "ResourceWarning", "RuntimeError", "RuntimeWarning",
    "StopAsyncIteration", "StopIteration", "SyntaxError", "SyntaxWarning", "SystemError",
    "SystemExit", "TabError", "TimeoutError", "TypeError", "UnboundLocalError",
    "UnicodeDecodeError", "UnicodeEncodeError", "UnicodeError", "UnicodeTranslateError",
    "UnicodeWarning", "UserWarning", "ValueError", "Warning", "ZeroDivisionError", "bool",
    "bytearray", "bytes", "classmethod", "complex", "dict", "enumerate", "filter", "float",
    "frozenset", "int", "list", "map", "memoryview", "object", "property", "range",
    "reversed", "set", "slice", "staticmethod", "str", "super", "tuple", "type", "zip"]

def bases : List (String × List String) :=
  [("ArithmeticError", ["Exception"]), ("AssertionError", ["Exception"]),
    ("AttributeError", ["Exception"]), ("BaseExceptionGroup", ["BaseException"]),
    ("BlockingIOError", ["OSError"]), ("BrokenPipeError", ["ConnectionError"]),
    ("BufferError", ["Exception"]), ("BytesWarning", ["Warning"]),
    ("ChildProcessError", ["OSError"]), ("ConnectionAbortedError", ["ConnectionError"]),
    ("ConnectionError", ["OSError"]), ("ConnectionRefusedError", ["ConnectionError"]),
    ("ConnectionResetError", ["ConnectionError"]), ("DeprecationWarning", ["Warning"]),
    ("EOFError", ["Exception"]), ("EncodingWarning", ["Warning"]),
    ("Exception", ["BaseException"]), ("ExceptionGroup", ["BaseExceptionGroup", "Exception"]),
    ("FileExistsError", ["OSError"]), ("FileNotFoundError", ["OSError"]),
    ("FloatingPointError", ["ArithmeticError"]), ("FutureWarning", ["Warning"]),
    ("GeneratorExit", ["BaseException"]), ("ImportError", ["Exception"]),
    ("ImportWarning", ["Warning"]), ("IndentationError", ["SyntaxError"]),
    ("IndexError", ["LookupError"]), ("InterruptedError", ["OSError"]),
    ("IsADirectoryError", ["OSError"]), ("KeyError", ["LookupError"]),
    ("KeyboardInterrupt", ["BaseException"]), ("LookupError", ["Exception"]),
    ("MemoryError", ["Exception"]), ("ModuleNotFoundError", ["ImportError"]),
    ("NameError", ["Exception"]), ("NotADirectoryError", ["OSError"]),
    ("NotImplementedError", ["RuntimeError"]), ("OSError", ["Exception"]),
    ("OverflowError", ["ArithmeticError"]), ("PendingDeprecationWarning", ["Warning"]),
    ("PermissionError", ["OSError"]), ("ProcessLookupError", ["OSError"]),
    ("RecursionError", ["RuntimeError"]), ("ReferenceError", ["Exception"]),
    ("ResourceWarning", ["Warning"]), ("RuntimeError", ["Exception"]),
    ("RuntimeWarning", ["Warning"]), ("StopAsyncIteration", ["Exception"]),
    ("StopIteration", ["Exception"]), ("SyntaxError", ["Exception"]),
    ("SyntaxWarning", ["Warning"]), ("SystemError", ["Exception"]),
    ("SystemExit", ["BaseException"]), ("TabError", ["IndentationError"]),
    ("TimeoutError", ["OSError"]), ("TypeError", ["Exception"]),
    ("UnboundLocalError", ["NameError"]), ("UnicodeDecodeError", ["UnicodeError"]),
    ("UnicodeEncodeError", ["UnicodeError"]), ("UnicodeError", ["ValueError"]),
    ("UnicodeTranslateError", ["UnicodeError"]), ("UnicodeWarning", ["Warning"]),
    ("UserWarning", ["Warning"]), ("ValueError", ["Exception"]), ("Warning", ["Exception"]),
    ("ZeroDivisionError", ["ArithmeticError"]), ("bool", ["int"]),
    ("collections.ChainMap", ["collections.abc.MutableMapping"]),
    ("collections.Counter", ["dict"]), ("collections.OrderedDict", ["dict"]),
    ("collections.UserDict", ["collections.abc.MutableMapping"]),
    ("collections.UserList", ["collections.abc.MutableSequence"]),
    ("collections.UserString", ["collections.abc.Sequence"]),
    ("collections.defaultdict", ["dict"]),
    ("collections.abc.Coroutine", ["collections.abc.Awaitable"]),
    ("collections.abc.AsyncIterator", ["collections.abc.AsyncIterable"]),
    ("collections.abc.AsyncGenerator", ["collections.abc.AsyncIterator"]),
    ("collections.abc.Iterator", ["collections.abc.Iterable"]),
    ("collections.abc.Generator", ["collections.abc.Iterator"]),
    ("collections.abc.Reversible", ["collections.abc.Iterable"]),
    ("collections.abc.Collection", ["collections.abc.Sized",
    "collections.abc.Iterable",
    "collections.abc.Container"]),
    ("collections.abc.Set", ["collections.abc.Collection"]),
    ("collections.abc.MutableSet", ["collections.abc.Set"]),
    ("collections.abc.Mapping", ["collections.abc.Collection"]),
    ("collections.abc.MutableMapping", ["collections.abc.Mapping"]),
    ("collections.abc.MappingView", ["collections.abc.Sized"]),
    ("collections.abc.KeysView", ["collections.abc.MappingView", "collections.abc.Set"]),
    ("collections.abc.ItemsView", ["collections.abc.MappingView", "collections.abc.Set"]),
    ("collections.abc.ValuesView", ["collections.abc.MappingView", "collections.abc.Collection"]),
    ("collections.abc.Sequence", ["collections.abc.Reversible", "collections.abc.Collection"]),
    ("collections.abc.MutableSequence", ["collections.abc.Sequence"]),
    ("collections.abc.ByteString", ["collections.abc.Sequence"]),
    ("typing.Protocol", ["typing.Generic"]), ("typing.IO", ["typing.Generic"]),
    ("typing.TextIO", ["typing.IO"]), ("typing.BinaryIO", ["typing.IO"]),
    ("typing.SupportsAbs", ["typing.Protocol"]),
    ("typing.SupportsBytes", ["typing.Protocol"]),
    ("typing.SupportsComplex", ["typing.Protocol"]),
    ("typing.SupportsFloat", ["typing.Protocol"]),
    ("typing.SupportsIndex", ["typing.Protocol"]),
    ("typing.SupportsInt", ["typing.Protocol"]), ("typing.SupportsRound", ["typing.Protocol"])]

def commonAttributes : List String :=
  ["__class__", "__delattr__", "__dir__", "__doc__", "__eq__", "__format__", "__ge__",
    "__getattribute__", "__getstate__", "__gt__", "__hash__", "__init__", "__init_subclass__",
    "__le__", "__lt__", "__ne__", "__new__", "__reduce__", "__reduce_ex__", "__repr__",
    "__setattr__", "__sizeof__", "__str__", "__subclasshook__"]

def classAttributes : List String :=
  ["__annotations__", "__base__", "__bases__", "__basicsize__", "__call__", "__dict__",
    "__dictoffset__", "__flags__", "__instancecheck__", "__itemsize__", "__module__",
    "__mro__", "__name__", "__or__", "__prepare__", "__qualname__", "__ror__",
    "__subclasscheck__", "__subclasses__", "__text_signature__", "__weakrefoffset__", "mro"]

def addedAttributes : List (List String × List String) :=
  [(["AttributeError"],
     ["name", "obj"]),
    (["BaseException"],
     ["__cause__", "__context__", "__setstate__", "__suppress_context__", "__traceback__",
       "add_note", "args", "with_traceback"]),
    (["BaseExceptionGroup"],
     ["derive", "exceptions", "message", "split", "subgroup"]),
    (["ImportError"],
     ["msg", "name", "path"]),
    (["NameError"],
     ["name"]),
    (["OSError"],
     ["characters_written", "errno", "filename", "filename2", "strerror"]),
    (["StopIteration"],
     ["value"]),
    (["SyntaxError"],
     ["end_lineno", "end_offset", "filename", "lineno", "msg", "offset",
       "print_file_and_line", "text"]),
    (["SystemExit"],
     ["code"]),
    (["UnicodeDecodeError", "UnicodeEncodeError", "UnicodeTranslateError"],
     ["encoding", "end", "object", "reason", "start"]),
    (["bytearray"],
     ["__add__", "__alloc__", "__contains__", "__delitem__", "__getitem__", "__iadd__",
       "__imul__", "__iter__", "__len__", "__mod__", "__mul__", "__rmod__", "__rmul__",
       "__setitem__", "append", "capitalize", "center", "clear", "copy", "count", "decode",
       "endswith", "expandtabs", "extend", "find", "fromhex", "hex", "index", "insert",
       "isalnum", "isalpha", "isascii", "isdigit", "islower", "isspace", "istitle", "isupper",
       "join", "ljust", "lower", "lstrip", "maketrans", "partition", "pop", "remove",
       "removeprefix", "removesuffix", "replace", "reverse", "rfind", "rindex", "rjust",
       "rpartition", "rsplit", "rstrip", "split", "splitlines", "startswith", "strip",
       "swapcase", "title", "translate", "upper", "zfill"]),
    (["bytes"],
     ["__add__", "__bytes__", "__contains__", "__getitem__", "__getnewargs__", "__iter__",
       "__len__", "__mod__", "__mul__", "__rmod__", "__rmul__", "capitalize", "center",
       "count", "decode", "endswith", "expandtabs", "find", "fromhex", "hex", "index",
       "isalnum", "isalpha", "isascii", "isdigit", "islower", "isspace", "istitle", "isupper",
       "join", "ljust", "lower", "lstrip", "maketrans", "partition", "removeprefix",
       "removesuffix", "replace", "rfind", "rindex", "rjust", "rpartition", "rsplit",
       "rstrip", "split", "splitlines", "startswith", "strip", "swapcase", "title",
       "translate", "upper", "zfill"]),
    (["classmethod"],
     ["__func__", "__get__", "__isabstractmethod__", "__wrapped__"]),
    (["complex"],
     ["__abs__", "__add__", "__bool__", "__complex__", "__getnewargs__", "__mul__", "__neg__",
       "__pos__", "__pow__", "__radd__", "__rmul__", "__rpow__", "__rsub__", "__rtruediv__",
       "__sub__", "__truediv__", "conjugate", "imag", "real"]),
    (["dict"],
     ["__contains__", "__delitem__", "__getitem__", "__ior__", "__iter__", "__len__",
       "__or__", "__reversed__", "__ror__", "__setitem__", "clear", "copy", "fromkeys", "get",
       "items", "keys", "pop", "popitem", "setdefault", "update", "values"]),
    (["enumerate", "filter", "map"],
     ["__iter__", "__next__"]),
    (["float"],
     ["__abs__", "__add__", "__bool__", "__ceil__", "__divmod__", "__float__", "__floor__",
       "__floordiv__", "__getformat__", "__getnewargs__", "__int__", "__mod__", "__mul__",
       "__neg__", "__pos__", "__pow__", "__radd__", "__rdivmod__", "__rfloordiv__",
       "__rmod__", "__rmul__", "__round__", "__rpow__", "__rsub__", "__rtruediv__", "__sub__",
       "__truediv__", "__trunc__", "as_integer_ratio", "conjugate", "fromhex", "hex", "imag",
       "is_integer", "real"]),
    (["frozenset"],
     ["__and__", "__contains__", "__iter__", "__len__", "__or__", "__rand__", "__ror__",
       "__rsub__", "__rxor__", "__sub__", "__xor__", "copy", "difference", "intersection",
       "isdisjoint", "issubset", "issuperset", "symmetric_difference", "union"]),
    (["int"],
     ["__abs__", "__add__", "__and__", "__bool__", "__ceil__", "__divmod__", "__float__",
       "__floor__", "__floordiv__", "__getnewargs__", "__index__", "__int__", "__invert__",
       "__lshift__", "__mod__", "__mul__", "__neg__", "__or__", "__pos__", "__pow__",
       "__radd__", "__rand__", "__rdivmod__", "__rfloordiv__", "__rlshift__", "__rmod__",
       "__rmul__", "__ror__", "__round__", "__rpow__", "__rrshift__", "__rshift__",
       "__rsub__", "__rtruediv__", "__rxor__", "__sub__", "__truediv__", "__trunc__",
       "__xor__", "as_integer_ratio", "bit_count", "bit_length", "conjugate", "denominator",
       "from_bytes", "imag", "numerator", "real", "to_bytes"]),
    (["list"],
     ["__add__", "__contains__", "__delitem__", "__getitem__", "__iadd__", "__imul__",
       "__iter__", "__len__", "__mul__", "__reversed__", "__rmul__", "__setitem__", "append",
       "clear", "copy", "count", "extend", "index", "insert", "pop", "remove", "reverse",
       "sort"]),
    (["memoryview"],
     ["__delitem__", "__enter__", "__exit__", "__getitem__", "__iter__", "__len__",
       "__setitem__", "c_contiguous", "cast", "contiguous", "f_contiguous", "format", "hex",
       "itemsize", "nbytes", "ndim", "obj", "readonly", "release", "shape", "strides",
       "suboffsets", "tobytes", "tolist", "toreadonly"]),
    (["property"],
     ["__delete__", "__get__", "__isabstractmethod__", "__set__", "__set_name__", "deleter",
       "fdel", "fget", "fset", "getter", "setter"]),
    (["range"],
     ["__bool__", "__contains__", "__getitem__", "__iter__", "__len__", "__reversed__",
       "count", "index", "start", "step", "stop"]),
    (["reversed"],
     ["__iter__", "__length_hint__", "__next__", "__setstate__"]),
    (["set"],
     ["__and__", "__contains__", "__iand__", "__ior__", "__isub__", "__iter__", "__ixor__",
       "__len__", "__or__", "__rand__", "__ror__", "__rsub__", "__rxor__", "__sub__",
       "__xor__", "add", "clear", "copy", "difference", "difference_update", "discard",
       "intersection", "intersection_update", "isdisjoint", "issubset", "issuperset", "pop",
       "remove", "symmetric_difference", "symmetric_difference_update", "union", "update"]),
    (["slice"],
     ["indices", "start", "step", "stop"]),
    (["staticmethod"],
     ["__call__", "__func__", "__get__", "__isabstractmethod__", "__wrapped__"]),
    (["str"],
     ["__add__", "__contains__", "__getitem__", "__getnewargs__", "__iter__", "__len__",
       "__mod__", "__mul__", "__rmod__", "__rmul__", "capitalize", "casefold", "center",
       "count", "encode", "endswith", "expandtabs", "find", "format", "format_map", "index",
       "isalnum", "isalpha", "isascii", "isdecimal", "isdigit", "isidentifier", "islower",
       "isnumeric", "isprintable", "isspace", "istitle", "isupper", "join", "ljust", "lower",
       "lstrip", "maketrans", "partition", "removeprefix", "removesuffix", "replace", "rfind",
       "rindex", "rjust", "rpartition", "rsplit", "rstrip", "split", "splitlines",
       "startswith", "strip", "swapcase", "title", "translate", "upper", "zfill"]),
    (["super"],
     ["__get__", "__self__", "__self_class__", "__thisclass__"]),
    (["tuple"],
     ["__add__", "__contains__", "__getitem__", "__getnewargs__", "__iter__", "__len__",
       "__mul__", "__rmul__", "count", "index"]),
    (["type"],
     ["__base__", "__bases__", "__basicsize__", "__call__", "__dictoffset__", "__flags__",
       "__instancecheck__", "__itemsize__", "__mro__", "__name__", "__or__", "__prepare__",
       "__qualname__", "__ror__", "__subclasscheck__", "__subclasses__", "__text_signature__",
       "__weakrefoffset__", "mro"]),
    (["zip"],
     ["__iter__", "__next__", "__setstate__"]),
    (["NoneType", "NotImplementedType"],
     ["__bool__"]),
    (["function"],
     ["__builtins__", "__call__", "__closure__", "__code__", "__defaults__", "__get__",
       "__globals__", "__kwdefaults__", "__name__", "__qualname__"]),
    (["builtin_function_or_method"],
     ["__call__", "__name__", "__qualname__", "__self__", "__text_signature__"]),
    (["generator"],
     ["__del__", "__iter__", "__name__", "__next__", "__qualname__", "close", "gi_code",
       "gi_frame", "gi_running", "gi_suspended", "gi_yieldfrom", "send", "throw"]),
    (["types.GenericAlias"],
     ["__args__", "__call__", "__getitem__", "__instancecheck__", "__iter__",
       "__mro_entries__", "__or__", "__origin__", "__ror__", "__subclasscheck__",
       "__typing_unpacked_tuple_args__", "__unpacked__"]),
    (["types.UnionType"],
     ["__args__", "__getitem__", "__or__", "__ror__"]),
    (["method_descriptor", "wrapper_descriptor", "classmethod_descriptor"],
     ["__call__", "__get__", "__name__", "__objclass__", "__qualname__", "__text_signature__"]),
    (["getset_descriptor", "member_descriptor"],
     ["__delete__", "__get__", "__name__", "__objclass__", "__qualname__", "__set__"]),
    (["method-wrapper"],
     ["__call__", "__name__", "__objclass__", "__qualname__", "__self__", "__text_signature__"]),
    (["method"],
     ["__call__", "__func__", "__self__"]),
    (["mappingproxy"],
     ["__contains__", "__getitem__", "__ior__", "__iter__", "__len__", "__or__",
       "__reversed__", "__ror__", "copy", "get", "items", "keys", "values"]),
    (["collections.ChainMap"],
     ["__bool__", "__copy__", "__ior__", "__missing__", "__or__", "__ror__", "copy",
       "fromkeys", "new_child", "parents"]),
    (["collections.Counter"],
     ["__add__", "__and__", "__iadd__", "__iand__", "__isub__", "__missing__", "__neg__",
       "__pos__", "__sub__", "elements", "most_common", "subtract", "total"]),
    (["collections.OrderedDict"],
     ["move_to_end"]),
    (["collections.UserDict"],
     ["__copy__", "__ior__", "__or__", "__ror__", "copy", "fromkeys"]),
    (["collections.UserList"],
     ["__add__", "__copy__", "__imul__", "__mul__", "__radd__", "__rmul__", "copy", "sort"]),
    (["collections.UserString"],
     ["__add__", "__complex__", "__float__", "__getnewargs__", "__int__", "__mod__",
       "__mul__", "__radd__", "__rmod__", "__rmul__", "capitalize", "casefold", "center",
       "encode", "endswith", "expandtabs", "find", "format", "format_map", "isalnum",
       "isalpha", "isascii", "isdecimal", "isdigit", "isidentifier", "islower", "isnumeric",
       "isprintable", "isspace", "istitle", "isupper", "join", "ljust", "lower", "lstrip",
       "maketrans", "partition", "removeprefix", "removesuffix", "replace", "rfind", "rindex",
       "rjust", "rpartition", "rsplit", "rstrip", "split", "splitlines", "startswith",
       "strip", "swapcase", "title", "translate", "upper", "zfill"]),
    (["collections.defaultdict"],
     ["__copy__", "__missing__", "default_factory"]),
    (["collections.deque"],
     ["__add__", "__contains__", "__copy__", "__delitem__", "__getitem__", "__iadd__",
       "__imul__", "__iter__", "__len__", "__mul__", "__reversed__", "__rmul__",
       "__setitem__", "append", "appendleft", "clear", "copy", "count", "extend",
       "extendleft", "index", "insert", "maxlen", "pop", "popleft", "remove", "reverse",
       "rotate"]),
    (["collections.abc.Awaitable"],
     ["__await__"]),
    (["collections.abc.Coroutine", "collections.abc.Generator"],
     ["close", "send", "throw"]),
    (["collections.abc.AsyncIterable"],
     ["__aiter__"]),
    (["collections.abc.AsyncIterator"],
     ["__anext__"]),
    (["collections.abc.AsyncGenerator"],
     ["aclose", "asend", "athrow"]),
    (["collections.abc.Iterable"],
     ["__iter__"]),
    (["collections.abc.Iterator"],
     ["__next__"]),
    (["collections.abc.Reversible"],
     ["__reversed__"]),
    (["collections.abc.Sized"],
     ["__len__"]),
    (["collections.abc.Container"],
     ["__contains__"]),
    (["collections.abc.Callable"],
     ["__call__"]),
    (["collections.abc.Set"],
     ["__and__", "__or__", "__rand__", "__ror__", "__rsub__", "__rxor__", "__sub__",
       "__xor__", "isdisjoint"]),
    (["collections.abc.MutableSet"],
     ["__iand__", "__ior__", "__isub__", "__ixor__", "add", "clear", "discard", "pop",
       "remove"]),
    (["collections.abc.Mapping"],
     ["__getitem__", "__reversed__", "get", "items", "keys", "values"]),
    (["collections.abc.MutableMapping"],
     ["__delitem__", "__setitem__", "clear", "pop", "popitem", "setdefault", "update"]),
    (["collections.abc.Sequence"],
     ["__getitem__", "count", "index"]),
    (["collections.abc.MutableSequence"],
     ["__delitem__", "__iadd__", "__setitem__", "append", "clear", "extend", "insert", "pop",
       "remove", "reverse"]),
    (["contextlib.AbstractContextManager"],
     ["__enter__", "__exit__"]),
    (["contextlib.AbstractAsyncContextManager"],
     ["__aenter__", "__aexit__"]),
    (["re.Pattern"],
     ["__copy__", "__deepcopy__", "findall", "finditer", "flags", "fullmatch", "groupindex",
       "groups", "match", "pattern", "scanner", "search", "split", "sub", "subn"]),
    (["re.Match"],
     ["__copy__", "__deepcopy__", "__getitem__", "end", "endpos", "expand", "group",
       "groupdict", "groups", "lastgroup", "lastindex", "pos", "re", "regs", "span", "start",
       "string"]),
    (["typing.Annotated"],
     ["_class_getitem_inner"]),
    (["typing.TypeVar"],
     ["__typing_subst__"]),
    (["typing.ParamSpec"],
     ["__typing_prepare_subst__", "__typing_subst__", "args", "kwargs"]),
    (["typing.TypeVarTuple"],
     ["__iter__", "__typing_prepare_subst__", "__typing_subst__"]),
    (["typing.ForwardRef"],
     ["__forward_arg__", "__forward_code__", "__forward_evaluated__",
       "__forward_is_argument__", "__forward_is_class__", "__forward_module__",
       "__forward_value__", "__or__", "__ror__", "_evaluate"]),
    (["typing.NewType"],
     ["__call__", "__mro_entries__", "__or__", "__ror__"]),
    (["typing.IO"],
     ["__enter__", "__exit__", "close", "closed", "fileno", "flush", "isatty", "mode", "name",
       "read", "readable", "readline", "readlines", "seek", "seekable", "tell", "truncate",
       "writable", "write", "writelines"]),
    (["typing.TextIO"],
     ["__enter__", "buffer", "encoding", "errors", "line_buffering", "newlines"]),
    (["typing.BinaryIO"],
     ["__enter__", "write"]),
    (["typing.SupportsAbs"],
     ["__abs__"]),
    (["typing.SupportsBytes"],
     ["__bytes__"]),
    (["typing.SupportsComplex"],
     ["__complex__"]),
    (["typing.SupportsFloat"],
     ["__float__"]),
    (["typing.SupportsIndex"],
     ["__index__"]),
    (["typing.SupportsInt"],
     ["__int__"]),
    (["typing.SupportsRound"],
     ["__round__"])]

def nativeGenerics : List String :=
  ["type", "BaseExceptionGroup", "ExceptionGroup", "dict", "enumerate", "frozenset", "list",
    "set", "tuple", "mappingproxy", "collections.ChainMap", "collections.Counter",
    "collections.OrderedDict", "collections.UserDict", "collections.UserList",
    "collections.UserString", "collections.defaultdict", "collections.deque",
    "collections.abc.Awaitable", "collections.abc.Coroutine", "collections.abc.AsyncIterable",
    "collections.abc.AsyncIterator", "collections.abc.AsyncGenerator",
    "collections.abc.Iterable", "collections.abc.Iterator", "collections.abc.Generator",
    "collections.abc.Reversible", "collections.abc.Container", "collections.abc.Callable",
    "collections.abc.Collection", "collections.abc.Set", "collections.abc.MutableSet",
    "collections.abc.Mapping", "collections.abc.MutableMapping",
    "collections.abc.MappingView", "collections.abc.KeysView", "collections.abc.ItemsView",
    "collections.abc.ValuesView", "collections.abc.Sequence",
    "collections.abc.MutableSequence", "collections.abc.ByteString",
    "contextlib.AbstractContextManager", "contextlib.AbstractAsyncContextManager",
    "re.Pattern", "re.Match"]

def describedAttributes : List (String × String × List String) :=
  [("AttributeError", "member_descriptor", ["name", "obj"]),
    ("BaseException", "getset_descriptor", ["args"]),
    ("BaseExceptionGroup", "member_descriptor", ["exceptions", "message"]),
    ("ImportError", "member_descriptor", ["msg", "name", "path"]),
    ("NameError", "member_descriptor", ["name"]),
    ("OSError", "getset_descriptor", ["characters_written"]),
    ("OSError", "member_descriptor", ["errno", "filename", "filename2", "strerror"]),
    ("StopIteration", "member_descriptor", ["value"]),
    ("SyntaxError", "member_descriptor", ["end_lineno", "end_offset", "filename", "lineno",
      "msg", "offset", "print_file_and_line", "text"]),
    ("SystemExit", "member_descriptor", ["code"]),
    ("UnicodeDecodeError", "member_descriptor", ["encoding", "end", "object", "reason",
      "start"]),
    ("UnicodeEncodeError", "member_descriptor", ["encoding", "end", "object", "reason",
      "start"]),
    ("UnicodeTranslateError", "member_descriptor", ["encoding", "end", "object", "reason",
      "start"]),
    ("complex", "member_descriptor", ["imag", "real"]),
    ("float", "getset_descriptor", ["imag", "real"]),
    ("int", "getset_descriptor", ["denominator", "imag", "numerator", "real"]),
    ("memoryview", "getset_descriptor", ["c_contiguous", "contiguous", "f_contiguous",
      "format", "itemsize", "nbytes", "ndim", "obj", "readonly", "shape", "strides",
      "suboffsets"]),
    ("property", "member_descriptor", ["fdel", "fget", "fset"]),
    ("range", "member_descriptor", ["start", "step", "stop"]),
    ("slice", "member_descriptor", ["start", "step", "stop"]),
    ("generator", "member_descriptor", ["gi_code"]),
    ("generator", "getset_descriptor", ["gi_frame", "gi_running", "gi_suspended",
      "gi_yieldfrom"]),
    ("collections.ChainMap", "property", ["parents"]),
    ("collections.defaultdict", "member_descriptor", ["default_factory"]),
    ("collections.deque", "getset_descriptor", ["maxlen"]),
    ("re.Pattern", "member_descriptor", ["flags", "groups", "pattern"]),
    ("re.Pattern", "getset_descriptor", ["groupindex"]),
    ("re.Match", "member_descriptor", ["endpos", "pos", "re", "string"]),
    ("re.Match", "getset_descriptor", ["lastgroup", "lastindex", "regs"]),
    ("typing.ParamSpec", "property", ["args", "kwargs"]),
    ("typing.IO", "property", ["closed", "mode", "name"]),
    ("typing.TextIO", "property", ["buffer", "encoding", "errors", "line_buffering",
      "newlines"])]

end FieldGuard.TypeHint.Library
