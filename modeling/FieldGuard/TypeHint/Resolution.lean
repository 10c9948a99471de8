import FieldGuard.Depth
import FieldGuard.TypeHint.Evaluation

/-!
Resolution of types: quoted texts inside are evaluated, and afterwards notes are dropped. A text
that is met again while it is being evaluated stands for itself.
-/

namespace FieldGuard.TypeHint

/-- The host's evaluation of texts: whether a text is an expression, and what it denotes in a scope
where a type, or a whole hint, is wanted. -/
class Evaluator where
  compile : String → Except Fault Unit
  evaluate (whole : Bool) (s : String) : Eval Meaning

namespace Meaning

def callDepth : Nat := 3000

def ofText (whole : Bool) (s : String) : Eval Meaning := do
  let e ← readText s
  let m ← Expr.evaluate (s.length + callDepth) e
  checkType whole m

end Meaning

/-- Evaluation of the part of the language of expressions that is written out here. -/
abbrev Evaluator.interpreter : Evaluator where
  compile s := (Meaning.readText s).map fun _ => ()
  evaluate := Meaning.ofText

namespace Meaning

def reunite (native : Bool) (ms : List Meaning) : Result :=
  match native, ms with
  | true, m :: ms => ms.foldlM (binary .alternative) m
  | _, ms => unite ms

variable [Evaluator]

def forward (whole : Bool) (s : String) : Result := do
  Evaluator.compile s
  return .quoted s whole

def reapply (origin : String) (args : List Meaning) : Result := do
  let args ← args.mapM fun
    | .text s => forward false s
    | m => return m
  let packed := origin == "collections.abc.Callable" &&
    !(args.length == 2 && (args.head?).any areParameters)
  applyClass origin <| .tuple <|
    if packed then .tuple args.dropLast :: args.drop (args.length - 1) else args

def resolveStep (self : List String → Meaning → Eval Meaning) (opened : List String) :
    Meaning → Eval Meaning
  | .quoted s whole => do
    if opened.contains s then return .quoted s whole
    self (s :: opened) (← Evaluator.evaluate whole s)
  | .applied (.native origin expanded) args => do
    match ← reapply origin args with
    | .applied head args =>
      if expanded then return .applied (.form "Unpack") [← self opened (.applied head args)]
      return .applied head (← args.mapM (self opened))
    | m => return m
  | .applied head args => return .applied head (← args.mapM (self opened))
  | .union native ms => do
    let found ← ms.mapM (self opened)
    if sameAll found ms then return .union native ms else reunite native found
  | .annotated m notes => do withNotes (← self opened m) notes
  | m => return m

def resolveWithin : Nat → List String → Meaning → Eval Meaning
  | 0, _, _ => Eval.fail Eval.depthFault
  | n + 1, opened, m => resolveStep (resolveWithin n) opened m

def resolve [DepthLimit] (m : Meaning) : Eval Meaning :=
  resolveWithin (DepthLimit.limit .hints) [] m

def isPresence (head : Head) : Bool := head == .form "Required" || head == .form "NotRequired"

mutual

def plain : Meaning → Result
  | .annotated m _ => plain m
  | .applied head args => do
    let found ← plainAll args
    if isPresence head then return found.headD .none else return .applied head found
  | .union native ms => do
    let found ← plainAll ms
    if sameAll found ms then return .union native ms else reunite native found
  | m => .ok m

def plainAll : List Meaning → Except Fault (List Meaning)
  | [] => .ok []
  | m :: ms => return (← plain m) :: (← plainAll ms)

end

end Meaning

end FieldGuard.TypeHint
