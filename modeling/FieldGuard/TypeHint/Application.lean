import FieldGuard.TypeHint.Library
import FieldGuard.TypeHint.Scoping
import FieldGuard.TypeHint.Written

namespace FieldGuard.TypeHint.Meaning

abbrev Result := Except Fault Meaning

/-- The expression that a quoted text writes. An asterisk in front takes the first item of what
follows it. -/
def exprOf? (s : String) : Option Expr :=
  match s.toList with
  | '*' :: _ => Expr.ofText? ("(" ++ s ++ ",)[0]")
  | _ => Expr.ofText? s

def readText (s : String) : Except Fault Expr :=
  if s.isEmpty then .error .emptyText
  else if s.toList.contains '\x00' then .error .nullCharacter
  else match exprOf? s with
    | Option.some e => .ok e
    | Option.none => .error (.notExpression s)

def quote (whole : Bool) (s : String) : Result := do
  let _ ← readText s
  return .quoted s whole

def convert (whole : Bool) : Meaning → Result
  | .none => .ok nothing
  | .text s => quote whole s
  | m => .ok m

def isForm (names : List String) : Meaning → Bool
  | .form name => names.contains name
  | _ => false

def wholeForms : List String := ["ClassVar", "Final"]

def protocols : List String := ["typing.Generic", "typing.Protocol"]

def checkType (whole : Bool) (m : Meaning) : Result := do
  let m ← convert whole m
  let accepted := match m with
    | .applied (.library name) _ => !protocols.contains name
    | .applied (.form name) _ => whole || !wholeForms.contains name
    | .annotated t _ => whole || !isForm wholeForms t
    | .form name => Library.plainForms.contains name || (whole && wholeForms.contains name)
    | .type name => !protocols.contains name
    | .tuple _ => false
    | _ => true
  if accepted then .ok m else .error .unresolved

def checkTypes (ms : List Meaning) : Except Fault (List Meaning) := ms.mapM (checkType false)

def members : Meaning → List Meaning
  | .union _ ms => ms
  | m => [m]

def ofMembers (native : Bool) : List Meaning → Meaning
  | [m] => m
  | ms => .union native ms

def unite (ms : List Meaning) : Result := do
  let ms := (← checkTypes ms).flatMap members
  if (anyUnhashable? ms).isSome then .error .unresolved else .ok (ofMembers false (distinct ms))

def nativeMembers : Meaning → List Meaning
  | .none => [nothing]
  | .union true ms => ms
  | m => [m]

def uniteNatively (ms : List Meaning) : Meaning :=
  ofMembers true (distinct (ms.flatMap nativeMembers))

def isPlain : Meaning → Bool
  | .none | .type _ | .union true _ => true
  | .applied (.native _ _) _ => true
  | _ => false

def makesUnion : Meaning → Bool
  | .applied (.native _ _) _ | .union true _ => false
  | .applied _ _ | .union _ _ | .generic _ | .form _ | .annotated _ _ => true
  | .quoted _ _ | .newType _ _ => true
  | .typeVariable f _ => f != .types
  | _ => false

def alternative? (l r : Meaning) : Option Result :=
  if isPlain l && isPlain r && !(l.same .none && r.same .none) then
    Option.some (.ok (uniteNatively [l, r]))
  else if makesUnion l || makesUnion r then Option.some (unite [l, r])
  else Option.none

def arguments : Meaning → List Meaning
  | .tuple ms => ms
  | m => [m]

def hasModule : Meaning → Bool
  | .type _ | .form _ | .generic _ | .applied _ _ | .union _ _ | .annotated _ _ => true
  | .quoted _ _ | .typeVariable _ _ | .newType _ _ => true
  | .function _ | .closure _ _ _ | .method _ _ => true
  | .other name => (splitName name).1 != ""
  | _ => false

def wholeNames : List String :=
  ["collections.OrderedDict", "collections.defaultdict", "collections.deque", "re.Match",
    "re.Pattern", "types.GenericAlias", "types.UnionType", "typing.io", "typing.re"]

def calledName (name : String) : String :=
  if wholeNames.contains name then name else shortName name

def ownerText : Meaning → String
  | .type name => "type object '" ++ calledName name ++ "'"
  | .module name => "module '" ++ name ++ "'"
  | m => "'" ++ calledName (typeName m) ++ "' object"

def withNotes (m : Meaning) (notes : List Meaning) : Result :=
  match m with
  | .annotated t found => .ok (.annotated t (found ++ notes))
  | t =>
    if hasModule t then .ok (.annotated t notes)
    else .error (.noAttribute (ownerText t) "__module__")

def annotate (m : Meaning) (notes : List Meaning) : Result := do
  withNotes (← checkType true m) notes

def isVariable : Meaning → Bool
  | .typeVariable f _ => f != .types
  | .applied (.form "Unpack") [.typeVariable .types _] => true
  | _ => false

def applyCallable (args : List Meaning) : Result := do
  match args with
  | [parameters, result] =>
    let result ← checkType false result
    match parameters with
    | .ellipsis => return .applied (.generic "Callable") [.ellipsis, result]
    | .list ms | .tuple ms =>
      return .applied (.generic "Callable") ((← ms.mapM (convert false)) ++ [result])
    | m => return .applied (.generic "Callable") [← convert false m, result]
  | _ => throw .unresolved

def applyTuple (args : List Meaning) : Result := do
  if args.length ≥ 2 && (args.getLast?).any (same .ellipsis) then
    return .applied (.generic "Tuple") ((← checkTypes args.dropLast) ++ [.ellipsis])
  return .applied (.generic "Tuple") (← checkTypes args)

def literalValues (args : List Meaning) : List Meaning :=
  args.flatMap fun
    | .applied (.form "Literal") ms => ms
    | m => [m]

def distinctLiterals (ms : List Meaning) : List Meaning :=
  ms.foldl (fun found m =>
    if found.any fun f => same m f && typeName m == typeName f then found else found ++ [m]) []

def applyForm (name : String) (index : Meaning) : Result := do
  match name with
  | "Union" =>
    if (arguments index).isEmpty then throw .unresolved
    unite (arguments index)
  | "Optional" => unite [← checkType false index, nothing]
  | "Literal" =>
    let values := literalValues (arguments index)
    let values := if (anyUnhashable? values).isSome then values else distinctLiterals values
    return .applied (.form "Literal") values
  | "Concatenate" =>
    let last := ((arguments index).getLast?).any fun
      | .ellipsis | .typeVariable .parameters _ => true
      | _ => false
    if !last then throw .unresolved
    return .applied (.form "Concatenate")
      ((← checkTypes (arguments index).dropLast) ++ (arguments index).drop
        ((arguments index).length - 1))
  | name =>
    if Library.plainForms.contains name then throw .unresolved
    return .applied (.form name) [← checkType false index]

def applyClass (name : String) (index : Meaning) : Result := do
  let args := arguments index
  if name = "typing.Annotated" then
    match args with
    | m :: note :: notes => annotate m (note :: notes)
    | _ => throw .unresolved
  else if protocols.contains name then
    let args ← args.mapM (convert false)
    if args.isEmpty || !args.all isVariable || (distinct args).length != args.length then
      throw .unresolved
    return .applied (.library name) args
  else if name = "collections.abc.Callable" then
    match args with
    | [.list ms, result] | [.tuple ms, result] =>
      return .applied (.native name false) (ms ++ [result])
    | [parameters, result] =>
      if areParameters parameters then return .applied (.native name false) [parameters, result]
      throw .unresolved
    | _ => throw .unresolved
  else if Library.nativeGenerics.contains name then return .applied (.native name false) args
  else match Library.classVariables.lookup name with
    | Option.some names =>
      let args ← args.mapM (convert false)
      if args.length = names.length then return .applied (.library name) args
      throw .unresolved
    | Option.none => throw .unresolved

def applyGeneric (name : String) (index : Meaning) : Result := do
  if name = "Callable" then
    match index with
    | .tuple args => applyCallable args
    | _ => throw .unresolved
  else if name = "Tuple" then applyTuple (arguments index)
  else
    let args ← checkTypes (arguments index)
    match Library.generics.lookup name with
    | Option.some (Option.some arity, _) =>
      if args.length = arity && arity ≠ 0 then return .applied (.generic name) args
      throw .unresolved
    | _ => throw .unresolved

mutual

def typeVariables : Meaning → List Meaning
  | .typeVariable f name => [.typeVariable f name]
  | .applied _ ms | .union _ ms | .tuple ms => typeVariablesOfAll ms
  | .annotated m _ => typeVariables m
  | _ => []

def typeVariablesOfAll : List Meaning → List Meaning
  | [] => []
  | m :: ms => typeVariables m ++ typeVariablesOfAll ms

end

mutual

def substitute (given : List (Meaning × Meaning)) : Meaning → Result
  | .typeVariable f name =>
    match given.find? fun g => same (.typeVariable f name) g.1 with
    | Option.some g => .ok g.2
    | Option.none => .ok (.typeVariable f name)
  | .applied head ms => return .applied head (← substituteAll given ms)
  | .union native ms => do
    let ms ← substituteAll given ms
    if native then return uniteNatively ms else unite ms
  | .annotated m notes => do withNotes (← substitute given m) notes
  | m => .ok m

def substituteAll (given : List (Meaning × Meaning)) : List Meaning → Except Fault (List Meaning)
  | [] => .ok []
  | m :: ms => return (← substitute given m) :: (← substituteAll given ms)

end

def instantiate (m index : Meaning) : Result := do
  let found := distinct (typeVariables m)
  if found.isEmpty then throw .unresolved
  if found.any fun v => (v matches .typeVariable .type _) == false then return m
  let args ← checkTypes (arguments index)
  if args.length ≠ found.length then throw .unresolved
  substitute (found.zip args) m

def itemFault (what : String) : Sequence.Error → Fault
  | .outOfRange => .raised .index (what ++ "index out of range")
  | .unfit => .raised .index Sequence.Error.unfit.message
  | .zeroStep => .raised .value Sequence.Error.zeroStep.message

def unboundedFault (what : String) : Sequence.Error → Fault
  | .unfit => itemFault what .outOfRange
  | e => itemFault what e

def bound? : Meaning → Except Fault (Option Int)
  | .none => .ok Option.none
  | m => match m.integer? with
    | Option.some n => .ok (Option.some n)
    | Option.none => .error .unresolved

def itemOf (fault : Sequence.Error → Fault) (xs : List Meaning) (make : List Meaning → Meaning)
    (index : Meaning) : Result := do
  match index with
  | .slice start stop step =>
    let bounds := ⟨← bound? start, ← bound? stop, ← bound? step⟩
    return make (← (Sequence.slice xs bounds).mapError fault)
  | index =>
    match index.integer? with
    | Option.some i => (Sequence.get xs i).mapError fault
    | Option.none => throw .unresolved

def characters (s : String) : List Meaning := s.toList.map fun c => .text (String.ofList [c])

def joinText (ms : List Meaning) : Meaning :=
  .text (String.join (ms.map shown))

def octets (bs : List UInt8) : List Meaning := bs.map fun b => .integer b.toNat

def joinBytes (ms : List Meaning) : Meaning :=
  .bytes (ms.filterMap fun m => m.integer?.map fun n => UInt8.ofNat n.toNat)

def entryOf (entries : List (Meaning × Meaning)) (key : Meaning) : Result :=
  if key.unhashable?.isSome then .error .unresolved
  else match entries.find? fun e => same key e.1 with
    | Option.some e => .ok e.2
    | Option.none => .error (.raised .key (written key))

def subscript (m index : Meaning) : Result :=
  match m with
  | .type name => applyClass name index
  | .generic name => applyGeneric name index
  | .form name => applyForm name index
  | .applied (.form "Literal") _ => .error .unresolved
  | .applied _ _ | .union _ _ | .annotated _ _ => instantiate m index
  | .list xs => itemOf (itemFault "list ") xs .list index
  | .tuple xs => itemOf (itemFault "tuple ") xs .tuple index
  | .text s => itemOf (itemFault "string ") (characters s) joinText index
  | .bytes bs => itemOf (itemFault "") (octets bs) joinBytes index
  | .range start stop step =>
    itemOf (unboundedFault "range object ") ((Sequence.positions start stop step).map .integer)
      .list index
  | .dict entries => entryOf entries index
  | .other name =>
    if Library.hasAttribute name "__getitem__" then .ok (.other "object") else .error .unresolved
  | _ => .error .unresolved

example : applyGeneric "List" int = .ok (.applied (.generic "List") [int]) := rfl

end FieldGuard.TypeHint.Meaning
