import FieldGuard.TypeHint.Construction

namespace FieldGuard.TypeHint.Meaning

def derivesFrom : Meaning → String → Except Fault Bool
  | .type "typing.Any", _ => .error .unresolved
  | .type base, name => .ok (Library.derives name base)
  | .generic base, name => .ok (Library.derives name (Library.origin base))
  | .none, name => .ok (name == "NoneType")
  | _, _ => .error .unresolved

def isDerived (test : Meaning) (name : String) : Except Fault Bool :=
  match test with
  | .tuple ms | .union _ ms => do return (← ms.mapM fun m => derivesFrom m name).any id
  | m => derivesFrom m name

def extreme (greatest : Bool) (ms : List Meaning) : Result := do
  match ms with
  | [] => throw .unresolved
  | m :: ms =>
    ms.foldlM (fun found m => do
      return if ← (if greatest then less found m else less m found) then m else found) m

def extremeOf (greatest : Bool) (args : List Meaning) (named : Named) : Result := do
  let name := if greatest then "max" else "min"
  match args with
  | [] => throw .unresolved
  | [m] =>
    let ms ← itemsOf m
    if ms.isEmpty then
      match named.lookup "default" with
      | Option.some d => return d
      | Option.none => throw (.raised .value (name ++ "() arg is an empty sequence"))
    extreme greatest ms
  | ms => extreme greatest ms

def insertSorted (m : Meaning) : List Meaning → Except Fault (List Meaning)
  | [] => .ok [m]
  | x :: xs => do if ← less m x then return m :: x :: xs else return x :: (← insertSorted m xs)

def sortedOf (m : Meaning) (reverse : Bool) : Result := do
  let ms ← (← itemsOf m).foldlM (fun found m => insertSorted m found) []
  return .list (if reverse then ms.reverse else ms)

def sizeOf (m : Meaning) : Result :=
  match m with
  | .text s => .ok (.integer s.length)
  | .iterator name ms _ =>
    if ["dict_keys", "dict_values", "dict_items"].contains name then .ok (.integer ms.length)
    else .error .unresolved
  | .range start stop step => .ok (.integer (Sequence.count start stop step))
  | .other name =>
    if Library.hasAttribute name "__len__" || name = "object" then .ok (.other "int")
    else .error .unresolved
  | m =>
    match items? m with
    | Option.some ms => .ok (.integer ms.length)
    | Option.none => .error .unresolved

def digitsIn (base : Nat) (lead : String) (m : Meaning) : Result :=
  match m.integer? with
  | Option.some n =>
    .ok (.text ((if n < 0 then "-" else "") ++ lead ++
      String.ofList (Nat.toDigits base n.natAbs)))
  | Option.none => .error .unresolved

def characterOf (m : Meaning) : Result :=
  match m.integer? with
  | Option.some n =>
    if n < 0 then valueFault "chr() arg not in range(0x110000)"
    else match Escape.character? n.toNat with
      | Option.some c => .ok (.text (String.ofList [c]))
      | Option.none => valueFault "chr() arg not in range(0x110000)"
  | Option.none => .error .unresolved

def firstOf (m : Meaning) (default : Option Meaning) : Result :=
  match m with
  | .iterator name ms fault =>
    if ["dict_keys", "dict_values", "dict_items"].contains name then .error .unresolved
    else match ms, fault, default with
      | m :: _, _, _ => .ok m
      | [], Option.some f, _ => .error f
      | [], Option.none, Option.some d => .ok d
      | [], Option.none, Option.none => .error (.raised .exhausted "")
  | .other _ => .ok (.other "object")
  | _ => .error .unresolved

def featureOr (m : Meaning) (name : String) (default : Option Meaning) : Result :=
  match feature name m, default with
  | .error (.raised .attribute _), Option.some d => .ok d
  | r, _ => r

def originOf (m : Meaning) : Meaning :=
  match m with
  | .annotated _ _ => .type "typing.Annotated"
  | .applied head _ => headMeaning head
  | .generic name => .type (Library.origin name)
  | .union true _ => .type "types.UnionType"
  | .union false _ => .form "Union"
  | .type "typing.Generic" => m
  | _ => .none

def argumentsOf (m : Meaning) : List Meaning :=
  match m with
  | .annotated t notes => t :: notes
  | .applied (.native "collections.abc.Callable" _) args
  | .applied (.generic "Callable") args =>
    if args.length = 2 ∧ (args.head?).any areParameters then args
    else [.list args.dropLast] ++ args.drop (args.length - 1)
  | .applied _ args => args
  | .union _ ms => ms
  | _ => []

def remainderOfPower (l r m : Meaning) : Result :=
  match l.integer?, r.integer?, m.integer? with
  | Option.some a, Option.some b, Option.some k =>
    if k = 0 then valueFault "pow() 3rd argument cannot be 0"
    else do
      match ← integerPower a b with
      | .integer n => return .integer (Int.fmod n k)
      | _ => return .other "int"
  | _, _, _ => .error .unresolved

def resultTypes : List (String × String) :=
  [("compile", "code"), ("dir", "list"), ("globals", "dict"), ("input", "str"),
    ("locals", "dict"), ("open", "object"), ("vars", "dict")]

def callStandard (name : String) (args : List Meaning) (named : Named) : Result :=
  match name, args with
  | "len", [m] => sizeOf m
  | "abs", [m] =>
    match m.integer? with
    | Option.some n => .ok (.integer n.natAbs)
    | Option.none => if (numberRank? m).isSome then .ok (.other "float") else .error .unresolved
  | "all", [m] => do return .bool ((← itemsOf m).all truth)
  | "any", [m] => do return .bool ((← itemsOf m).any truth)
  | "ascii", [m] | "repr", [m] => .ok (.text m.written)
  | "bin", [m] => digitsIn 2 "0b" m
  | "oct", [m] => digitsIn 8 "0o" m
  | "hex", [m] => digitsIn 16 "0x" m
  | "callable", [m] => .ok (.bool (isCallable m))
  | "chr", [m] => characterOf m
  | "ord", [.text s] =>
    match s.toList with
    | [c] => .ok (.integer c.toNat)
    | _ => .error .unresolved
  | "ord", [.bytes [b]] => .ok (.integer b.toNat)
  | "divmod", [l, r] =>
    match l.integer?, r.integer? with
    | Option.some a, Option.some b =>
      if b = 0 then divisionFault "integer division or modulo by zero"
      else .ok (.tuple [.integer (Int.fdiv a b), .integer (Int.fmod a b)])
    | _, _ =>
      if (numberRank? l).isSome && (numberRank? r).isSome then
        if isZero r then divisionFault "float divmod()" else .ok (.other "tuple")
      else .error .unresolved
  | "format", [m] => m.shownWithin.map .text
  | "format", [m, .text s] => (laidOut m s).map .text
  | "getattr", [m, .text n] => feature n m
  | "getattr", [m, .text n, d] => featureOr m n (Option.some d)
  | "hasattr", [m, .text n] => .ok (.bool (feature n m).isOk)
  | "hash", [m] => do
    checkKey m
    return .other "int"
  | "id", [_] => .ok (.other "int")
  | "isinstance", [m, test] => (isDerived test (typeName m)).map .bool
  | "issubclass", [.type cls, test] => (isDerived test cls).map .bool
  | "iter", [m] => do
    let (ms, fault) ← iterate m
    return .iterator (typeName m ++ "_iterator") ms fault
  | "iter", [m, _] => if isCallable m then .ok (.other "callable_iterator") else .error .unresolved
  | "next", [m] => firstOf m Option.none
  | "next", [m, d] => firstOf m (Option.some d)
  | "max", args => extremeOf true args named
  | "min", args => extremeOf false args named
  | "pow", [l, r] | "pow", [l, r, .none] => binary .power l r
  | "pow", [l, r, m] => remainderOfPower l r m
  | "print", _ | "exec", _ | "setattr", _ => .ok .none
  | "round", [m] | "round", [m, _] =>
    match m.integer? with
    | Option.some n => .ok (.integer n)
    | Option.none => if (numberRank? m).isSome then .ok (.other "int") else .error .unresolved
  | "sorted", [m] => sortedOf m ((named.lookup "reverse").any truth)
  | "sum", [m] => do (← itemsOf m).foldlM (binary .add) (.integer 0)
  | "sum", [m, start] => do
    if start matches .text _ then throw .unresolved
    (← itemsOf m).foldlM (binary .add) start
  | "__import__", .text s :: _ =>
    if s.isEmpty then valueFault "Empty module name"
    else if ["typing", "builtins", "collections", "types", "sys", "os", "re", "math", "json",
      "functools", "operator", "contextlib", "warnings", "abc", "enum", "decimal", "datetime",
      "dataclasses", "itertools"].contains s then
      .ok (.module s)
    else .error (.raised .missingModule ("No module named " ++ Text.quoted s))
  | name, _ =>
    match resultTypes.lookup name with
    | Option.some result => .ok (.other result)
    | Option.none => .error .unresolved

def isMarkable : Meaning → Bool
  | .type _ | .generic _ | .union false _ | .annotated _ _ => true
  | .typeVariable _ _ | .newType _ _ | .closure _ _ _ | .module _ => true
  | .applied (.native _ _) _ => false
  | .applied _ _ => true
  | .function name => (splitName name).1 != ""
  | .other _ => true
  | _ => false

def mayHaveHints : Meaning → Bool
  | .type _ | .module _ | .function _ | .method _ _ | .member _ _ | .closure _ _ _ => true
  | _ => false

def checkFieldName (s : String) : Except Fault Unit := do
  if !Text.isName s.toList then
    throw (.raised .value
      ("Type names and field names must be valid identifiers: " ++ Text.quoted s))
  if Token.keywords.contains s then
    throw (.raised .value
      ("Type names and field names cannot be a keyword: " ++ Text.quoted s))

def checkFieldNames : List String → List String → Except Fault Unit
  | _, [] => .ok ()
  | seen, s :: names => do
    if s.startsWith "_" then
      throw (.raised .value ("Field names cannot start with an underscore: " ++ Text.quoted s))
    if seen.contains s then
      throw (.raised .value ("Encountered duplicate field name: " ++ Text.quoted s))
    checkFieldNames (s :: seen) names

def namedFields (label : Meaning) (fields : List Meaning) : Result := do
  let names := label.shown :: fields.map shown
  names.forM checkFieldName
  checkFieldNames [] names.tail
  return .type ("records." ++ label.shown)

def fieldPair (m : Meaning) : Except Fault (Meaning × Meaning) := do
  match ← itemsOf m with
  | [name, t] => return (name, ← checkType false t)
  | ms =>
    throw (.raised .value
      (if ms.length < 2 then
        "not enough values to unpack (expected 2, got " ++ ms.length.repr ++ ")"
      else "too many values to unpack (expected 2)"))

def namesIn (m : Meaning) : Except Fault (List Meaning) :=
  match m with
  | .text s =>
    .ok ((words (s.toList.map fun c => if c == ',' then ' ' else c)).map fun w =>
      .text (String.ofList w))
  | m => itemsOf m

def entriesType (label : Meaning) (fields : List (Meaning × Meaning)) : Result := do
  let _ ← fields.mapM fun e => checkType false e.2
  match label with
  | .text name => return .type ("records." ++ name)
  | _ => throw .unresolved

def callLibrary (name : String) (args : List Meaning) (named : Named) : Result :=
  match name, args with
  | "cast", [_, m] | "assert_type", [m, _] => .ok m
  | "get_args", [m] => .ok (.tuple (argumentsOf m))
  | "get_origin", [m] => .ok (originOf m)
  | "is_typeddict", [_] => .ok (.bool false)
  | "final", [m] | "reveal_type", [m] | "abstractmethod", [m] => .ok m
  | "no_type_check", [m] =>
    if isMarkable m then .ok m else .error (.noAttribute (ownerText m) "__no_type_check__")
  | "runtime_checkable", [m] =>
    match m with
    | .type cls => if Library.derives cls "typing.Protocol" then .ok m else .error .unresolved
    | _ => .error .unresolved
  | "get_overloads", [m] =>
    if hasModule m then .ok (.list []) else .error (.noAttribute (ownerText m) "__module__")
  | "overload", [_] | "no_type_check_decorator", [_] | "dataclass_transform", _ =>
    .ok (.other "function")
  | "clear_overloads", [] => .ok .none
  | "get_type_hints", m :: _ => if mayHaveHints m then .ok (.dict []) else .error .unresolved
  | "assert_never", [m] =>
    .error (.raised .assertion ("Expected code to be unreachable, but got: " ++ m.written))
  | "NamedTuple", [label] | "NamedTuple", [label, .none] => do
    let _ ← named.mapM fun e => checkType false e.2
    namedFields label (named.map fun e => .text e.1)
  | "NamedTuple", [label, m] => do
    if !named.isEmpty then throw .unresolved
    let fields ← (← itemsOf m).mapM fieldPair
    namedFields label (fields.map Prod.fst)
  | "TypedDict", [label] | "TypedDict", [label, .none] =>
    entriesType label ((named.filter fun e => e.1 != "total").map fun e => (.text e.1, e.2))
  | "TypedDict", [label, m] => do
    if named.any fun e => e.1 != "total" then throw .unresolved
    entriesType label (← pairsOf m)
  | "namedtuple", label :: m :: _ => do namedFields label (← namesIn m)
  | _, _ => .error .unresolved

def callFunction (name : String) (args : List Meaning) (named : Named) : Result := do
  let (args, named) ← Signature.fit name args named
  if classFunctions.contains name then return .other "object"
  if (splitName name).1 = "" then callStandard name args named
  else callLibrary (shortName name) args named

def callMeaning (args : List Meaning) (named : Named) : Meaning → Result
  | .type name => callClass name args named
  | .generic name =>
    if Library.uncallable.contains name then .error .unresolved
    else callClass (Library.origin name) args named
  | .applied (.native origin _) _ => callClass origin args named
  | .applied (.generic name) _ =>
    if Library.uncallable.contains name then .error .unresolved
    else callClass (Library.origin name) args named
  | .applied (.library name) _ => callClass name args named
  | .annotated m _ => callMeaning args named m
  | .newType _ _ =>
    match args with
    | [m] => .ok m
    | _ => .error .unresolved
  | .function name => callFunction name args named
  | .method owner name => callMethod owner name args named
  | .member owner name =>
    match args with
    | m :: rest =>
      if Library.derives (typeName m) owner then callMethod m name rest named
      else .error .unresolved
    | [] => .error .unresolved
  | .other name =>
    if Library.hasAttribute name "__call__" || ["object", "method"].contains name then
      .ok (.other "object")
    else .error .unresolved
  | _ => .error .unresolved

end FieldGuard.TypeHint.Meaning
