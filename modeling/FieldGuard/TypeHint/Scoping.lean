import FieldGuard.TypeHint.Grammar

namespace FieldGuard.TypeHint

namespace Expr

def children : Expr → List Expr
  | .formatted parts => parts
  | .part value _ format => value :: format
  | .attribute owner _ => [owner]
  | .subscript head argument => [head, argument]
  | .slice start stop step => [start, stop, step].filterMap id
  | .call head arguments => head :: arguments.map Prod.snd
  | .unary _ operand => [operand]
  | .binary _ left right => [left, right]
  | .every operands | .some operands => operands
  | .compare first others => first :: others.map Prod.snd
  | .conditional test yes no => [test, yes, no]
  | .bind _ value => [value]
  | .tuple items | .list items | .set items => items
  | .dict entries => entries.flatMap fun e => e.1.toList ++ [e.2]
  | .expanded operand | .wait operand => [operand]
  | .produce operand => operand.toList
  | _ => []

def clauseParts : List (Bool × Expr × Expr × List Expr) → List Expr
  | [] => []
  | (_, target, _, conditions) :: clauses =>
    target :: conditions ++ clauses.flatMap fun (_, t, s, cs) => t :: s :: cs

def firstSource (clauses : List (Bool × Expr × Expr × List Expr)) : List Expr :=
  (clauses.head?.map fun c => c.2.2.1).toList

def defaults (parameters : List (ParameterForm × String × Option Expr)) : List Expr :=
  parameters.filterMap fun p => p.2.2

def waits : Nat → Expr → Bool
  | 0, _ => false
  | _ + 1, .wait _ => true
  | n + 1, .function parameters _ => (defaults parameters).any (waits n)
  | n + 1, .comprehension form element value clauses =>
    (firstSource clauses).any (waits n) ||
      form != .generator &&
        (clauses.any Prod.fst || (element :: value :: clauseParts clauses).any (waits n))
  | n + 1, e => e.children.any (waits n)

def targetNames : Nat → Expr → List String
  | _, .name n => [n]
  | n + 1, e => e.children.flatMap (targetNames n)
  | 0, _ => []

def fixedName : String := "__debug__"

def isBindable : Nat → Expr → Bool
  | _, .name n | _, .attribute _ n => n != fixedName
  | n + 1, .tuple items | n + 1, .list items =>
    items.countP isExpanded ≤ 1 && items.all fun
      | .expanded e => isBindable n e
      | e => isBindable n e
  | _, .subscript _ _ => true
  | _, _ => false

inductive ScopeForm where
  | outside
  | function
  | comprehension
  deriving DecidableEq, Repr

/-- What is around an expression: its scope, whether it belongs to a source of a comprehension, and
the targets of the comprehensions between it and the next function. -/
structure Surroundings where
  scope : ScopeForm
  inSource : Bool
  targets : List String

def distinct : List String → Bool
  | [] => true
  | n :: ns => !ns.contains n && distinct ns

def areNames (names : List String) : Bool := distinct names && !names.contains fixedName

def isWellScoped : Nat → Surroundings → Expr → Bool
  | 0, _, _ => false
  | n + 1, s, .function parameters body =>
    areNames (parameters.map fun p => p.2.1) &&
      (defaults parameters).all (isWellScoped n s) &&
      isWellScoped n ⟨.function, s.inSource, []⟩ body
  | n + 1, s, .comprehension form element value clauses =>
    let targets := clauses.flatMap fun c => targetNames n c.2.1
    let inner : Surroundings := ⟨.comprehension, s.inSource, targets ++ s.targets⟩
    let concurrent := clauses.any Prod.fst ||
      (element :: value :: clauseParts clauses).any (waits n)
    (!concurrent || form == .generator || s.scope == .comprehension) &&
      clauses.all (fun c => isBindable n c.2.1) &&
      (firstSource clauses).all (isWellScoped n { s with inSource := true }) &&
      (clauses.drop 1).all (fun c => isWellScoped n { inner with inSource := true } c.2.2.1) &&
      clauses.all (fun c => (c.2.1 :: c.2.2.2).all (isWellScoped n inner)) &&
      [element, value].all (isWellScoped n inner)
  | n + 1, s, .bind label value =>
    label != fixedName && !s.inSource && !s.targets.contains label && isWellScoped n s value
  | n + 1, s, .wait operand => s.scope == .comprehension && isWellScoped n s operand
  | n + 1, s, .produce operand =>
    s.scope == .function && operand.toList.all (isWellScoped n s)
  | n + 1, s, .call head arguments =>
    areNames (arguments.filterMap fun a =>
        match a.1 with
        | .named label => Option.some label
        | _ => Option.none) &&
      (head :: arguments.map Prod.snd).all (isWellScoped n s)
  | n + 1, s, e => e.children.all (isWellScoped n s)

def ofText? (s : String) : Option Expr := do
  let e ← ofChars? s.toList
  if isWellScoped (s.length + 2) ⟨.outside, false, []⟩ e then Option.some e else Option.none

end Expr

end FieldGuard.TypeHint
