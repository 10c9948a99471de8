import FieldGuard.Decimal.Reader
import FieldGuard.TypeHint.Signature

namespace FieldGuard.TypeHint.Meaning

def asciiText (bs : List UInt8) : String := String.ofList (bs.map fun b => Char.ofNat b.toNat)

def digitValue (c : Char) : Option Nat :=
  if c.isDigit then Option.some (c.toNat - '0'.toNat)
  else if c.isLower then Option.some (c.toNat - 'a'.toNat + 10)
  else if c.isUpper then Option.some (c.toNat - 'A'.toNat + 10)
  else Option.none

def isDigitIn (base : Nat) (c : Char) : Bool := (digitValue c).any (· < base)

def baseMarks : List (Char × Nat) := [('x', 16), ('o', 8), ('b', 2)]

def unmarked (base : Nat) : List Char → Nat × List Char
  | '0' :: c :: cs =>
    match baseMarks.lookup c.toLower with
    | Option.some b => if base = 0 ∨ base = b then (b, cs) else (base, '0' :: c :: cs)
    | Option.none => (if base = 0 then 10 else base, '0' :: c :: cs)
  | cs => (if base = 0 then 10 else base, cs)

def readIn (base : Nat) (s : String) : Option Int :=
  let (negative, cs) := match Text.strip s.toList with
    | '-' :: cs => (true, cs)
    | '+' :: cs => (false, cs)
    | cs => (false, cs)
  let (base, cs) := unmarked base cs
  match Number.grouped (isDigitIn base) cs with
  | Option.some (d :: ds, []) =>
    let n : Nat := (d :: ds).foldl (fun n c => n * base + (digitValue c).getD 0) 0
    Option.some (if negative then -n else n)
  | _ => Option.none

def integerIn (s : String) (base : Int) : Result :=
  if base ≠ 0 ∧ (base < 2 ∨ 36 < base) then
    valueFault "int() base must be >= 2 and <= 36, or 0"
  else match readIn base.toNat s with
    | Option.some n => .ok (.integer n)
    | Option.none =>
      valueFault ("invalid literal for int() with base " ++ integerText base ++ ": " ++
        Text.quoted s)

def integerOf (args : List Meaning) : Result :=
  match args with
  | [] => .ok (.integer 0)
  | [.float .nan] => valueFault "cannot convert float NaN to integer"
  | [.float (.infinity _)] =>
    .error (.raised .overflow "cannot convert float infinity to integer")
  | [.float x] =>
    match Binary64.quotient? (.inr x) with
    | Option.some (n, d) => .ok (.integer (Int.tdiv n d))
    | Option.none => .ok (.other "int")
  | [.text s] =>
    match Numeral.read s with
    | .ok n => .ok (.integer n)
    | .error e => valueFault e.message
  | [.bytes bs] =>
    match Numeral.read (asciiText bs) with
    | .ok n => .ok (.integer n)
    | .error _ =>
      valueFault ("invalid literal for int() with base 10: " ++ Text.quotedBytes bs)
  | [m] =>
    match m.integer? with
    | Option.some n => .ok (.integer n)
    | Option.none => if (m matches .other _) then .ok (.other "int") else .error .unresolved
  | [.text s, m] =>
    match m.integer? with
    | Option.some base => integerIn s base
    | Option.none => .error .unresolved
  | [.bytes _, _] => .ok (.other "int")
  | _ => .error .unresolved

def floatOf (args : List Meaning) : Result :=
  match args with
  | [] => .ok (.float (.finite false 0 (-1074)))
  | [.text s] =>
    match Binary64.parse? (String.ofList (Text.strip s.toList)) with
    | Option.some x => .ok (.float x)
    | Option.none => valueFault ("could not convert string to float: " ++ Text.quoted s)
  | [.bytes bs] =>
    match Binary64.parse? (String.ofList (Text.strip (asciiText bs).toList)) with
    | Option.some x => .ok (.float x)
    | Option.none =>
      valueFault ("could not convert string to float: " ++ Text.quotedBytes bs)
  | [.float x] => .ok (.float x)
  | [m] =>
    match m.integer? with
    | Option.some n => .ok (.float (Binary64.ofQuotient (n < 0) n.natAbs 1))
    | Option.none => if (m matches .other _) then .ok (.other "float") else .error .unresolved
  | _ => .error .unresolved

def bytesOf (args : List Meaning) : Result :=
  match args with
  | [] => .ok (.bytes [])
  | [.bytes bs] => .ok (.bytes bs)
  | [.text _] => .error .unresolved
  | [m] =>
    match m.integer? with
    | Option.some n =>
      if n < 0 then valueFault "negative count"
      else if n ≤ sizeLimit then .ok (.bytes (List.replicate n.toNat 0)) else .ok (.other "bytes")
    | Option.none => do
      let numbers ← (← itemsOf m).mapM fun m =>
        match m.integer? with
        | Option.some n => (.ok n : Except Fault Int)
        | Option.none => .error .unresolved
      if numbers.all fun n => 0 ≤ n && n < 256 then
        return .bytes (numbers.map fun n => UInt8.ofNat n.toNat)
      valueFault "bytes must be in range(0, 256)"
  | _ => .ok (.other "bytes")

def rangeOf (args : List Meaning) : Result :=
  match args.mapM integer? with
  | Option.some [n] => .ok (.range 0 n 1)
  | Option.some [m, n] => .ok (.range m n 1)
  | Option.some [m, n, k] =>
    if k = 0 then valueFault "range() arg 3 must not be zero" else .ok (.range m n k)
  | _ => .error .unresolved

def byteText (args : List Meaning) : Result :=
  match args with
  | .text _ :: .text _ :: _ => .ok (.other "bytes")
  | _ :: _ :: _ => .error .unresolved
  | args => bytesOf args

def textOf (args : List Meaning) : Result :=
  match args with
  | [] => .ok (.text "")
  | [m] => m.shownWithin.map .text
  | .bytes _ :: .text _ :: _ => .ok (.other "str")
  | _ => .error .unresolved

def isComplexText (s : String) : Bool :=
  let s := String.ofList (Text.strip s.toList)
  (Binary64.parse? s).isSome || s.toList.getLast? == some 'j'

def complexOf (args : List Meaning) : Result :=
  match args with
  | [.text s] =>
    if isComplexText s then .ok (.other "complex")
    else valueFault "complex() arg is a malformed string"
  | args =>
    if args.all fun m => (numberRank? m).isSome then .ok (.other "complex")
    else .error .unresolved

def dictFrom (args : List Meaning) (named : Named) : Result := do
  let given := named.map fun e => (Meaning.text e.1, e.2)
  match args with
  | [] => dictOf given
  | [m] => dictOf ((← pairsOf m) ++ given)
  | _ => throw .unresolved

def isCallable (m : Meaning) : Bool :=
  match m with
  | .type _ | .generic _ | .form _ | .applied _ _ | .annotated _ _ | .union false _ => true
  | .function _ | .method _ _ | .member _ _ | .closure _ _ _ | .newType _ _ => true
  | .quoted _ _ | .module _ => false
  | m => Library.hasAttribute (typeName m) "__call__"

def queueOf (args : List Meaning) : Except Fault Unit := do
  match args with
  | [] | [_] => let _ ← args.mapM itemsOf
  | m :: limit :: _ =>
    match limit, limit.integer? with
    | .none, _ => let _ ← itemsOf m
    | _, Option.some n =>
      if n < 0 then throw (.raised .value "maxlen must be non-negative")
      let _ ← itemsOf m
    | _, _ => throw .unresolved

def counterOf (args : List Meaning) : Except Fault Unit := do
  match args with
  | [.none] | [.dict _] | [] => return ()
  | m :: _ => checkKeys (← itemsOf m)

def checkCollection (name : String) (args : List Meaning) (named : Named) : Except Fault Unit := do
  match name, args with
  | "collections.deque", args => queueOf args
  | "collections.Counter", args => counterOf args
  | "collections.OrderedDict", args => let _ ← dictFrom args named
  | "collections.defaultdict", m :: rest =>
    if !(m matches .none) && !isCallable m then throw .unresolved
    let _ ← dictFrom rest named
  | _, _ => return ()

def zipped : Nat → List (List Meaning) → List Meaning
  | 0, _ => []
  | n + 1, lists =>
    match lists.mapM List.head? with
    | Option.some heads => .tuple heads :: zipped n (lists.map List.tail)
    | Option.none => []

def zipOf (args : List Meaning) : Result := do
  let lists ← args.mapM itemsOf
  let longest := (lists.map List.length).foldl max 0
  return .iterator "zip" (if lists.isEmpty then [] else zipped longest lists) Option.none

def enumerateOf (args : List Meaning) : Result := do
  let counted (m : Meaning) (start : Int) : Result := do
    let (ms, fault) ← iterate m
    return .iterator "enumerate"
      (ms.zipIdx.map fun e => .tuple [.integer (start + e.2), e.1]) fault
  match args with
  | [m] => counted m 0
  | [m, n] =>
    match n.integer? with
    | Option.some n => counted m n
    | Option.none => throw .unresolved
  | _ => throw .unresolved

def reversedOf (args : List Meaning) : Result :=
  match args with
  | [.list ms] | [.tuple ms] => .ok (.iterator "list_reverseiterator" ms.reverse Option.none)
  | [.bytes bs] => .ok (.iterator "reversed" (octets bs).reverse Option.none)
  | [.text s] => .ok (.iterator "reversed" (characters s).reverse Option.none)
  | [.dict es] =>
    .ok (.iterator "dict_reversekeyiterator" (es.map Prod.fst).reverse Option.none)
  | [.range start stop step] =>
    .ok (.iterator "range_iterator" (numbers start stop step).reverse Option.none)
  | _ => .error .unresolved

def variableOf (args : List Meaning) (named : Named) : Result := do
  match args with
  | label :: constraints =>
    let bound := (named.lookup "bound").getD .none
    let varies (label : String) := (named.lookup label).any truth
    if varies "covariant" && varies "contravariant" then
      throw (.raised .value "Bivariant types are not supported.")
    if bound.truth then let _ ← checkType false bound
    if !constraints.isEmpty && !(bound matches .none) || constraints.length == 1 then
      throw .unresolved
    let _ ← checkTypes constraints
    return .typeVariable .type label.shown
  | _ => throw .unresolved

def classNamed (args : List Meaning) : Result :=
  match args with
  | [.text name, .tuple _, .dict _] => .ok (.type ("records." ++ name))
  | _ => .error .unresolved

def newTypeOf (label base : Meaning) : Result :=
  match label with
  | .text name => .ok (.newType (shortName name) base)
  | label =>
    if (items? label).isSome && !(label matches .bytes _) then .ok (.newType label.written base)
    else .error .unresolved

def isAbstract (name : String) : Bool :=
  ["typing.Any", "typing.Annotated", "re.Match", "re.Pattern"].contains name ||
    Library.derives name "typing.Protocol" && name != "typing.Protocol" ||
    (splitName name).1 == "contextlib" ||
    (splitName name).1 == "collections.abc" && (Signature.find? name).isNone

def groupOf (name : String) (args : List Meaning) : Result := do
  match args with
  | [.text _, m] =>
    let ms ← match m with
      | .text s => pure (characters s)
      | .list ms | .tuple ms => pure ms
      | _ => throw .unresolved
    if ms.isEmpty then
      valueFault "second argument (exceptions) must be a non-empty sequence"
    else match ms.findIdx? fun m => !Library.derives (typeName m) "BaseException" with
      | Option.some i =>
        valueFault ("Item " ++ i.repr ++ " of second argument (exceptions) is not an exception")
      | Option.none => return .other name
  | _ => throw .unresolved

def instanceOf (name : String) (args : List Meaning) (named : Named) : Result :=
  match name, args with
  | "int", args => integerOf args
  | "float", args => floatOf args
  | "complex", args => complexOf args
  | "bool", [] => .ok (.bool false)
  | "bool", [m] => .ok (.bool m.truth)
  | "str", args => textOf args
  | "list", [] => .ok (.list [])
  | "list", [m] => (itemsOf m).map .list
  | "tuple", [] => .ok (.tuple [])
  | "tuple", [m] => (itemsOf m).map .tuple
  | "set", [] => .ok (.set false [])
  | "set", [m] => do setOf false (← itemsOf m)
  | "frozenset", [] => .ok (.set true [])
  | "frozenset", [m] => do setOf true (← itemsOf m)
  | "dict", args => dictFrom args named
  | "bytes", args => byteText args
  | "bytearray", args => (byteText args).map fun _ => .other name
  | "range", args => rangeOf args
  | "slice", [stop] => .ok (.slice .none stop .none)
  | "slice", [start, stop] => .ok (.slice start stop .none)
  | "slice", [start, stop, step] => .ok (.slice start stop step)
  | "type", [m] => if named.isEmpty then .ok (.type (typeName m)) else .error .unresolved
  | "type", args => classNamed args
  | "NoneType", [] => .ok .none
  | "ellipsis", [] => .ok .ellipsis
  | "zip", args => zipOf args
  | "enumerate", args => enumerateOf args
  | "reversed", args => reversedOf args
  | "super", [] => .error (.raised .runtime "super(): no arguments")
  | "super", [.type _] => .ok (.other name)
  | "typing.TypeVar", args => variableOf args named
  | "typing.ParamSpec", [m] => .ok (.typeVariable .parameters m.shown)
  | "typing.TypeVarTuple", [m] => .ok (.typeVariable .types m.shown)
  | "typing.NewType", [label, m] => newTypeOf label m
  | "typing.ForwardRef", .text s :: _ => quote false s
  | "types.GenericAlias", [.type origin, m] =>
    .ok (.applied (.native origin false) (arguments m))
  | "ExceptionGroup", args | "BaseExceptionGroup", args => groupOf name args
  | name, args =>
    if isAbstract name then .error .unresolved
    else if args.length = 2 && Library.derives name "SyntaxError" then .error .unresolved
    else if ["super", "NoneType", "ellipsis", "typing.ForwardRef"].contains name then
      .error .unresolved
    else do
      checkCollection name args named
      return .other name

def callClass (name : String) (args : List Meaning) (named : Named) : Result := do
  let (args, named) ← Signature.fit name args named
  instanceOf name args named

end FieldGuard.TypeHint.Meaning
