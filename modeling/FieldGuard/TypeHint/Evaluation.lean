import FieldGuard.TypeHint.Call

/-!
Evaluation of expressions. One step evaluates an expression given how the parts of it are evaluated;
the number of steps that are nested is limited, as that of nested calls is. Functions that an
expression writes are called here, since their bodies are expressions.
-/

namespace FieldGuard.TypeHint

/-- The names that an expression can use. Those of the function and of the comprehension around it,
if there are any, hide those of the module. -/
structure Scope where
  module : Entries String Meaning
  shared : Entries String Meaning
  function : Option (Entries String Meaning)
  comprehension : Option (Entries String Meaning)

namespace Scope

def inner (s : Scope) : Entries String Meaning := s.comprehension.getD [] ++ s.function.getD []

def isInner (s : Scope) : Bool := s.function.isSome || s.comprehension.isSome

def find? (s : Scope) (name : String) : Option Meaning :=
  (((s.inner.lookup name).or (if s.isInner then none else s.module.lookup name)).or
    (s.shared.lookup name)).or (Library.standard? name)

/-- A name bound in an expression. One bound in a comprehension outlives it. -/
def bind (s : Scope) (name : String) (m : Meaning) : Scope :=
  match s.function with
  | some names => { s with function := some (Entries.put (· == ·) name m names) }
  | none =>
    if s.comprehension.isSome then { s with shared := Entries.put (· == ·) name m s.shared }
    else { s with module := Entries.put (· == ·) name m s.module }

def bindClause (s : Scope) (name : String) (m : Meaning) : Scope :=
  { s with comprehension := some (Entries.put (· == ·) name m (s.comprehension.getD [])) }

def ofFunction (s : Scope) (names : Entries String Meaning) : Scope :=
  { s with function := some names, comprehension := none }

def within (s outer : Scope) : Scope :=
  { s with function := outer.function, comprehension := outer.comprehension }

end Scope

abbrev Eval := StateT Scope (Except Fault)

abbrev Parameters := List (ParameterForm × String × Option Meaning)

namespace Eval

def fail {α : Type} (f : Fault) : Eval α := fun _ => .error f

def attempt {α : Type} (x : Eval α) : Eval (Except Fault α) := fun s =>
  match x s with
  | .ok (a, s') => .ok (.ok a, s')
  | .error f => .ok (.error f, s)

def inside {α : Type} (enter : Scope → Scope) (x : Eval α) : Eval α := fun s =>
  match x (enter s) with
  | .ok (a, s') => .ok (a, s'.within s)
  | .error f => .error f

def insideClauses {α : Type} (x : Eval α) : Eval α := fun s =>
  match x { s with comprehension := some (s.comprehension.getD []) } with
  | .ok (a, s') => .ok (a, { s' with comprehension := s.comprehension })
  | .error f => .error f

def depthFault : Fault := .raised .recursion "maximum recursion depth exceeded"

end Eval

namespace Expr

open Eval

def produces : Nat → Expr → Bool
  | 0, _ => false
  | _ + 1, .produce _ => true
  | n + 1, .function parameters _ => (defaults parameters).any (produces n)
  | n + 1, .comprehension _ _ _ clauses => (firstSource clauses).any (produces n)
  | n + 1, e => e.children.any (produces n)

def parameterNames? (parameters : Parameters) (args : List Meaning) (named : Meaning.Named) :
    Option (Entries String Meaning) := do
  let ordered := parameters.filter fun p => p.1 == .positional || p.1 == .ordinary
  let given := (ordered.zip args).map fun (p, m) => (p.2.1, m)
  let extra := args.drop ordered.length
  let accepts (label : String) := parameters.any fun p =>
    (p.1 == .ordinary || p.1 == .named) && p.2.1 == label
  let (labelled, others) := named.partition fun e => accepts e.1
  let has (form : ParameterForm) := parameters.any fun p => p.1 == form
  if labelled.any fun e => (given.lookup e.1).isSome then Option.none
  else if !extra.isEmpty && !has .rest || !others.isEmpty && !has .others then Option.none
  else parameters.mapM fun (form, label, default) =>
    match form with
    | .rest => Option.some (label, .tuple extra)
    | .others => Option.some (label, .dict (others.map fun e => (.text e.1, e.2)))
    | _ =>
      (((given.lookup label).or (labelled.lookup label)).or default).map fun m => (label, m)

def share (targets : List Expr) (ms : List Meaning) : Except Fault (List (Expr × Meaning)) :=
  let front := targets.takeWhile (!isExpanded ·)
  match targets.dropWhile (!isExpanded ·) with
  | .expanded target :: back =>
    if ms.length < front.length + back.length then
      .error (.raised .value ("not enough values to unpack (expected at least " ++
        (front.length + back.length).repr ++ ", got " ++ ms.length.repr ++ ")"))
    else
      let rest := ms.drop front.length
      let middle := rest.take (rest.length - back.length)
      .ok (front.zip ms ++ (target, .list middle) :: back.zip (rest.drop middle.length))
  | _ =>
    if ms.length < targets.length then
      .error (.raised .value ("not enough values to unpack (expected " ++
        targets.length.repr ++ ", got " ++ ms.length.repr ++ ")"))
    else if targets.length < ms.length then
      .error (.raised .value ("too many values to unpack (expected " ++
        targets.length.repr ++ ")"))
    else .ok (targets.zip ms)

def assign (self : Expr → Eval Meaning) : Nat → Expr → Meaning → Eval Unit
  | _, .name label, m => modify (·.bindClause label m)
  | n + 1, .tuple targets, m | n + 1, .list targets, m => do
    let shares ← share targets (← Meaning.itemsOf m)
    shares.forM fun (target, m) => assign self n target m
  | _, .subscript head argument, _ => do
    match ← self head with
    | .list _ | .dict _ => let _ ← self argument
    | _ => fail .unresolved
  | _, .attribute owner _, _ => do
    let _ ← self owner
    fail .unresolved
  | _, _, _ => fail .unresolved

abbrev Items := List (Meaning × Meaning) × Option Fault

def through (item : Meaning → Eval Items) : List Meaning → Option Fault → Eval Items
  | [], fault => return ([], fault)
  | m :: ms, fault => do
    match ← attempt (item m) with
    | .error f => return ([], Option.some f)
    | .ok (found, Option.some f) => return (found, Option.some f)
    | .ok (found, Option.none) =>
      let (others, fault) ← through item ms fault
      return (found ++ others, fault)

def holds (self : Expr → Eval Meaning) : List Expr → Eval Bool
  | [] => return true
  | e :: es => do if (← self e).truth then holds self es else return false

def clauseItems (n : Nat) (self : Expr → Eval Meaning) (element : Eval (Meaning × Meaning)) :
    List (Bool × Expr × Expr × List Expr) → List Meaning × Option Fault → Eval Items
  | [], _ => return ([← element], Option.none)
  | (_, target, _, conditions) :: clauses, (ms, fault) =>
    through (fun m => do
      assign self n target m
      if ← holds self conditions then
        match clauses with
        | [] => return ([← element], Option.none)
        | (concurrent, t, source, cs) :: rest =>
          let given ← Meaning.iterate (← self source)
          if concurrent then fail .unresolved
          clauseItems n self element ((concurrent, t, source, cs) :: rest) given
      else return ([], Option.none)) ms fault

def comprehend (n : Nat) (self : Expr → Eval Meaning) (form : ComprehensionForm)
    (element value : Expr) (clauses : List (Bool × Expr × Expr × List Expr)) : Eval Meaning := do
  match clauses with
  | [] => fail .unresolved
  | (concurrent, _, source, _) :: _ =>
    let given ← Meaning.iterate (← self source)
    if concurrent then fail .unresolved
    if form == .generator && (clauses.any Prod.fst ||
        (element :: value :: clauseParts clauses).any (waits n)) then
      return .other "async_generator"
    let pair : Eval (Meaning × Meaning) := do
      let k ← self element
      if form == .dict then return (k, ← self value) else return (k, .none)
    let (found, fault) ← insideClauses (clauseItems n self pair clauses given)
    let ms := found.map Prod.fst
    match form, fault with
    | .generator, fault => return .iterator "generator" ms fault
    | _, Option.some f => fail f
    | .list, _ => return .list ms
    | .set, _ => Meaning.setOf false ms
    | .dict, _ => Meaning.dictOf found

def argumentsOf (self : Expr → Eval Meaning) :
    List (ArgumentForm × Expr) → Eval (List Meaning × Meaning.Named)
  | [] => return ([], [])
  | (form, e) :: rest => do
    let m ← self e
    let (args, named) ← match form with
      | .positional => pure ([m], [])
      | .expanded => do pure (← Meaning.itemsOf m, [])
      | .named label => pure ([], [(label, m)])
      | .expandedEntries =>
        match m with
        | .dict es => do
          pure ([], ← es.mapM fun
            | (.text label, m) => pure (label, m)
            | _ => fail .unresolved)
        | _ => fail .unresolved
    let (others, labelled) ← argumentsOf self rest
    if labelled.any fun e => (named.lookup e.1).isSome then fail .unresolved
    return (args ++ others, named ++ labelled)

def apply (n : Nat) (self : Expr → Eval Meaning) (head : Meaning) (args : List Meaning)
    (named : Meaning.Named) : Eval Meaning :=
  match head with
  | .closure parameters body captured =>
    match parameterNames? parameters args named with
    | Option.none => fail .unresolved
    | Option.some names =>
      if produces n body then return .other "generator"
      else inside (·.ofFunction (names ++ captured)) (self body)
  | head => liftM (head.callMeaning args named)

def results (f : Meaning → Eval Meaning) (ms : List Meaning) (fault : Option Fault) :
    Eval Items :=
  through (fun m => do return ([(← f m, m)], Option.none)) ms fault

def keyOf (n : Nat) (self : Expr → Eval Meaning) (named : Meaning.Named) (m : Meaning) :
    Eval Meaning :=
  match named.lookup "key" with
  | Option.none | Option.some .none => return m
  | Option.some f => apply n self f [m] []

def insertByKey (e : Meaning × Meaning) :
    List (Meaning × Meaning) → Except Fault (List (Meaning × Meaning))
  | [] => .ok [e]
  | x :: xs => do
    if ← Meaning.less e.1 x.1 then return e :: x :: xs else return x :: (← insertByKey e xs)

def keyed (n : Nat) (self : Expr → Eval Meaning) (named : Meaning.Named) (ms : List Meaning) :
    Eval (List (Meaning × Meaning)) := ms.mapM fun m => do return (← keyOf n self named m, m)

def extremeByKey (greatest : Bool) : List (Meaning × Meaning) → Except Fault Meaning
  | [] => .error .unresolved
  | e :: es => do
    let found ← es.foldlM (fun (found : Meaning × Meaning) e => do
      return if ← (if greatest then Meaning.less found.1 e.1 else Meaning.less e.1 found.1) then e
        else found) e
    return found.2

def ofInnerText? (s : String) : Option Expr :=
  ofText? (String.ofList (s.toList.dropWhile fun c => c == ' ' || c == '\t'))

def callWith (n : Nat) (self : Expr → Eval Meaning) (head : Meaning) (args : List Meaning)
    (named : Meaning.Named) : Eval Meaning := do
  match head, args with
  | .function "eval", .text s :: _ =>
    match ofInnerText? s with
    | Option.some e => self e
    | Option.none => fail (.raised .grammar "invalid syntax (<string>, line 1)")
  | .type "map", [f, m] =>
    let (ms, fault) ← Meaning.iterate m
    let (found, fault) ← results (fun m => apply n self f [m] []) ms fault
    return .iterator "map" (found.map Prod.fst) fault
  | .type "map", f :: m :: ms =>
    let lists ← (m :: ms).mapM fun m => liftM (Meaning.itemsOf m)
    let tuples := Meaning.zipped ((lists.map List.length).foldl max 0) lists
    let (found, fault) ← results (fun m => do
      apply n self f (← Meaning.itemsOf m) []) tuples Option.none
    return .iterator "map" (found.map Prod.fst) fault
  | .type "filter", [f, m] =>
    let (ms, fault) ← Meaning.iterate m
    let test (m : Meaning) : Eval Meaning :=
      if f matches .none then return m else apply n self f [m] []
    let (found, fault) ← results test ms fault
    return .iterator "filter" ((found.filter fun e => e.1.truth).map Prod.snd) fault
  | .function "sorted", [m] =>
    if (named.lookup "key").isNone then apply n self head args named
    else
      let es ← keyed n self named (← Meaning.itemsOf m)
      let sorted ← es.foldlM (fun found e => insertByKey e found) []
      let ms := sorted.map Prod.snd
      return .list (if (named.lookup "reverse").any Meaning.truth then ms.reverse else ms)
  | .function "max", args | .function "min", args =>
    if (named.lookup "key").isNone then apply n self head args named
    else
      let ms ← match args with
        | [m] => Meaning.itemsOf m
        | ms => pure ms
      if ms.isEmpty then apply n self head args named
      else extremeByKey (head matches .function "max") (← keyed n self named ms)
  | head, args => apply n self head args named

def displayed (self : Expr → Eval Meaning) : List Expr → Eval (List Meaning)
  | [] => return []
  | .expanded e :: es => do
    let ms ← Meaning.itemsOf (← self e)
    return ms ++ (← displayed self es)
  | e :: es => do return (← self e) :: (← displayed self es)

def entriesOf (self : Expr → Eval Meaning) :
    List (Option Expr × Expr) → Eval (List (Meaning × Meaning))
  | [] => return []
  | (Option.some k, e) :: es => do
    let k ← self k
    let m ← self e
    return (k, m) :: (← entriesOf self es)
  | (Option.none, e) :: es => do
    match ← self e with
    | .dict found => return found ++ (← entriesOf self es)
    | _ => fail .unresolved

def option (self : Expr → Eval Meaning) : Option Expr → Eval Meaning
  | Option.none => return .none
  | Option.some e => self e

def joined (self : Expr → Eval Meaning) : List Expr → Eval String
  | [] => return ""
  | .text s :: es => do return s ++ (← joined self es)
  | .part e conversion format :: es => do
    let m ← self e
    let m := Meaning.converted conversion.toList m
    let format ← match ← self (.formatted format) with
      | .text s => pure s
      | _ => pure ""
    let s ← m.laidOut format
    return s ++ (← joined self es)
  | _ :: es => joined self es

def decided (self : Expr → Eval Meaning) (decides : Bool) : List Expr → Eval Meaning
  | [] => return .bool (!decides)
  | [e] => self e
  | e :: es => do
    let m ← self e
    if m.truth == decides then return m else decided self decides es

def compared (self : Expr → Eval Meaning) (left : Meaning) :
    List (Comparison × Expr) → Eval Meaning
  | [] => return .bool true
  | (c, e) :: es => do
    let right ← self e
    if ← Meaning.compare c left right then
      if es.isEmpty then return .bool true else compared self right es
    else return .bool false

def numberMeaning : Number → Meaning
  | .integer n => .integer n
  | .float x => .float x
  | .imaginary => .other "complex"

def step (n : Nat) (self : Expr → Eval Meaning) : Expr → Eval Meaning
  | .name label => do
    match (← get).find? label with
    | Option.some m => return m
    | Option.none => fail .unresolved
  | .none => return .none
  | .bool b => return .bool b
  | .ellipsis => return .ellipsis
  | .number k => return numberMeaning k
  | .text s => return .text s
  | .bytes bs => return .bytes bs
  | .formatted parts => do return .text (← joined self parts)
  | .part e conversion format => do
    return .text (← joined self [.part e conversion format])
  | .attribute owner label => do Meaning.feature label (← self owner)
  | .subscript head argument => do
    let m ← self head
    Meaning.subscript m (← self argument)
  | .slice start stop width => do
    return .slice (← option self start) (← option self stop) (← option self width)
  | .call head arguments => do
    let m ← self head
    let (args, named) ← argumentsOf self arguments
    callWith n self m args named
  | .unary o e => do Meaning.unary o (← self e)
  | .binary o l r => do
    let m ← self l
    Meaning.binary o m (← self r)
  | .every es => decided self false es
  | .some es => decided self true es
  | .compare first others => do compared self (← self first) others
  | .conditional test yes no => do if (← self test).truth then self yes else self no
  | .function parameters body => do
    let parameters ← parameters.mapM fun (form, label, default) =>
      match default with
      | Option.none => pure (form, label, Option.none)
      | Option.some e => do pure (form, label, Option.some (← self e))
    return .closure parameters body (← get).inner
  | .bind label e => do
    let m ← self e
    modify (·.bind label m)
    return m
  | .tuple es => do return .tuple (← displayed self es)
  | .list es => do return .list (← displayed self es)
  | .set es => do Meaning.setOf false (← displayed self es)
  | .dict es => do Meaning.dictOf (← entriesOf self es)
  | .expanded _ => fail .unresolved
  | .comprehension form element value clauses => comprehend n self form element value clauses
  | .wait _ => fail .unresolved
  | .produce _ => fail .unresolved

def evaluate : Nat → Expr → Eval Meaning
  | 0, _ => fail depthFault
  | n + 1, e => step (n + 1) (evaluate n) e

end Expr

end FieldGuard.TypeHint
