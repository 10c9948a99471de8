import FieldGuard.TypeHint.Expr
import FieldGuard.TypeHint.Formatted

/-!
The expression that a text writes. Rules that lead back to the start of the grammar take what reads
there as a parameter, so that only `Grammar.read` recurses.
-/

namespace FieldGuard.TypeHint

namespace Grammar

abbrev Reader (α : Type) := StateT (List Token) Option α

inductive Start where
  | expression
  | disjunction
  | inversion
  | operand
  | factor
  | primary
  deriving DecidableEq, Repr

def next? : Reader (Option Token) := return (← get).head?

def accept (t : Token) : Reader Bool := do
  match ← get with
  | u :: rest => if u = t then set rest; return true else return false
  | [] => return false

def expect (t : Token) : Reader Unit := do
  if !(← accept t) then failure

def isNext (ts : List Token) : Reader Bool := return (← next?).any ts.contains

def name : Reader String := do
  match ← get with
  | .name n :: rest => set rest; return n
  | _ => failure

def acceptSymbol (s : String) : Reader Bool := accept (.symbol s)

def acceptWord (w : String) : Reader Bool := accept (.keyword w)

def expectSymbol (s : String) : Reader Unit := expect (.symbol s)

def repeatN {α : Type} (step : α → Reader (Option α)) : Nat → α → Reader α
  | 0, a => return a
  | n + 1, a => do
    match ← step a with
    | some b => repeatN step n b
    | none => return a

def repeated {α : Type} (step : α → Reader (Option α)) (a : α) : Reader α := do
  repeatN step (← get).length a

def sequenceN {α : Type} (item : Reader α) (close : Token) : Nat → Reader (List α × Bool)
  | 0 => failure
  | n + 1 => do
    if ← accept close then return ([], false)
    let a ← item
    if ← acceptSymbol "," then
      let (items, _) ← sequenceN item close n
      return (a :: items, true)
    expect close
    return ([a], false)

def sequence {α : Type} (item : Reader α) (close : String) : Reader (List α × Bool) := do
  sequenceN item (.symbol close) ((← get).length + 1)

def startsBinding : Reader Bool := do
  match ← get with
  | .name _ :: .symbol ":=" :: _ => return true
  | _ => return false

section

variable (again : Start → Reader Expr)

def named : Reader Expr := do
  match ← get with
  | .name n :: .symbol ":=" :: rest => set rest; return .bind n (← again .expression)
  | _ => again .expression

def expressionOf (source : List Char) : Option Expr := do
  let ts ← Token.ofChars? ('(' :: source ++ [')'])
  match ← again .factor ts with
  | (e, []) => some e
  | _ => none

def formattedN : Nat → List Piece → Option (List Expr)
  | _, [] => some []
  | 0, _ => none
  | n + 1, .text s :: ps => return .text s :: (← formattedN n ps)
  | n + 1, .field source conversion format :: ps => do
    let value ← expressionOf again source
    return .part value conversion (← formattedN n format) :: (← formattedN n ps)

def textParts (quoting : Quoting) (body : List Char) : Option (List Expr) := do
  if quoting.formatted then
    formattedN again (body.length + 1) (← Piece.ofBody? quoting.raw body)
  else return [.text (String.ofList (← Escape.textOf? quoting.raw body))]

def texts : Reader (List (Quoting × List Char)) :=
  repeated (fun found => do
    match ← get with
    | .text quoting body :: rest => set rest; return some (found ++ [(quoting, body)])
    | _ => return none) []

def plainText : List Expr → Option String
  | [] => some ""
  | .text s :: ps => (plainText ps).map (s ++ ·)
  | _ => none

def text : Reader Expr := do
  let found ← texts
  if found.all fun t => t.1.bytes then
    let bodies ← found.mapM fun t => (Escape.bytesOf? t.1.raw t.2 : Option (List UInt8))
    return .bytes bodies.flatten
  if found.any fun t => t.1.bytes then failure
  let parts ← found.mapM fun t => textParts again t.1 t.2
  match plainText parts.flatten with
  | some s => return .text s
  | none => return .formatted parts.flatten

def isTarget : Nat → Expr → Bool
  | _, .name _ | _, .attribute _ _ | _, .subscript _ _ => true
  | n + 1, .tuple items | n + 1, .list items =>
    items.all fun
      | .expanded e => isTarget n e
      | e => isTarget n e
  | _, _ => false

def target : Reader Expr := do
  let spread ← acceptSymbol "*"
  let e ← again .primary
  if !isTarget Token.depthLimit e then failure
  return if spread then .expanded e else e

def targets : Reader Expr := do
  match ← sequenceN (target again) (.keyword "in") ((← get).length + 1) with
  | ([e], false) => return e
  | ([], _) => failure
  | (items, _) => return .tuple items

def conditions : Reader (List Expr) :=
  repeated (fun found => do
    if ← acceptWord "if" then return some (found ++ [← again .disjunction]) else return none) []

def startsClause : Reader Bool := isNext [.keyword "for", .keyword "async"]

def clauses : Reader (List (Bool × Expr × Expr × List Expr)) :=
  repeated (fun found => do
    if !(← startsClause) then return none
    let concurrent ← acceptWord "async"
    expect (.keyword "for")
    let aim ← targets again
    let source ← again .disjunction
    return some (found ++ [(concurrent, aim, source, ← conditions again)])) []

def item : Reader Expr := do
  if ← acceptSymbol "*" then return .expanded (← again .operand) else named again

def producedItem : Reader Expr := do
  if ← acceptSymbol "*" then return .expanded (← again .operand) else again .expression

def produced : Reader Expr := do
  if ← acceptWord "from" then
    let e ← again .expression
    expectSymbol ")"
    return .produce (some e)
  match ← sequence (producedItem again) ")" with
  | ([], _) => return .produce none
  | ([e], false) => if e.isExpanded then failure else return .produce (some e)
  | (items, _) => return .produce (some (.tuple items))

def displayed (form : ComprehensionForm)
    (close : String) (first : Expr) : Reader (Expr ⊕ (List Expr × Bool)) := do
  if ← startsClause then
    if first.isExpanded then failure
    let cs ← clauses again
    expectSymbol close
    return .inl (.comprehension form first .none cs)
  if ← acceptSymbol "," then
    let (items, _) ← sequence (item again) close
    return .inr (first :: items, true)
  expectSymbol close
  return .inr ([first], false)

def parenthesized : Reader Expr := do
  if ← acceptSymbol ")" then return .tuple []
  if ← acceptWord "yield" then return ← produced again
  let first ← item again
  match ← displayed again .generator ")" first with
  | .inl e => return e
  | .inr (_, false) => if first.isExpanded then failure else return first
  | .inr (items, true) => return .tuple items

def bracketed : Reader Expr := do
  if ← acceptSymbol "]" then return .list []
  let first ← item again
  match ← displayed again .list "]" first with
  | .inl e => return e
  | .inr (items, _) => return .list items

def entry : Reader (Option Expr × Expr) := do
  if ← acceptSymbol "**" then return (none, ← again .operand)
  let key ← again .expression
  expectSymbol ":"
  return (some key, ← again .expression)

def entries (first : Option Expr × Expr) : Reader Expr := do
  if ← acceptSymbol "\x7d" then return .dict [first]
  expectSymbol ","
  return .dict (first :: (← sequence (entry again) "\x7d").1)

def braced : Reader Expr := do
  if ← acceptSymbol "\x7d" then return .dict []
  if ← isNext [.symbol "**"] then return ← entries again (← entry again)
  let isKey := !(← isNext [.symbol "*"]) && !(← startsBinding)
  let first ← item again
  if ← acceptSymbol ":" then
    if !isKey then failure
    let value ← again .expression
    if ← startsClause then
      let cs ← clauses again
      expectSymbol "\x7d"
      return .comprehension .dict first value cs
    return ← entries again (some first, value)
  match ← displayed again .set "\x7d" first with
  | .inl e => return e
  | .inr (items, _) => return .set items

def argument (found : List ArgumentForm) : Reader (ArgumentForm × Expr) := do
  match ← get with
  | .symbol "*" :: rest =>
    if found.contains .expandedEntries then failure
    set rest
    return (.expanded, ← again .expression)
  | .symbol "**" :: rest => set rest; return (.expandedEntries, ← again .expression)
  | .name n :: .symbol "=" :: rest => set rest; return (.named n, ← again .expression)
  | _ =>
    if found.all fun f => f == .positional || f == .expanded then
      return (.positional, ← named again)
    failure

def argumentsN :
    Nat → List (ArgumentForm × Expr) → Reader (List (ArgumentForm × Expr))
  | 0, _ => failure
  | n + 1, found => do
    if ← acceptSymbol ")" then return found
    let (form, e) ← argument again (found.map Prod.fst)
    if form == .positional && found.isEmpty && (← startsClause) then
      let cs ← clauses again
      expectSymbol ")"
      return [(.positional, .comprehension .generator e .none cs)]
    if ← acceptSymbol "," then argumentsN n (found ++ [(form, e)])
    else
      expectSymbol ")"
      return found ++ [(form, e)]

def bound : Reader (Option Expr) := do
  if ← isNext [.symbol ":", .symbol ",", .symbol "]"] then return none
  return some (← again .expression)

def sliceFrom (start : Option Expr) : Reader Expr := do
  let stop ← bound again
  if ← acceptSymbol ":" then return .slice start stop (← bound again)
  return .slice start stop none

def index : Reader Expr := do
  if ← acceptSymbol "*" then return .expanded (← again .expression)
  if ← acceptSymbol ":" then return ← sliceFrom again none
  if ← startsBinding then return ← named again
  let e ← again .expression
  if ← acceptSymbol ":" then sliceFrom again (some e) else return e

def subscripted (head : Expr) : Reader Expr := do
  match ← sequence (index again) "]" with
  | ([], _) => failure
  | ([.expanded e], false) => return .subscript head (.tuple [.expanded e])
  | ([e], false) => return .subscript head e
  | (items, _) => return .subscript head (.tuple items)

def atom : Reader Expr := do
  match ← get with
  | .name n :: rest => set rest; return .name n
  | .number n :: rest => set rest; return .number n
  | .text _ _ :: _ => text again
  | .keyword "None" :: rest => set rest; return .none
  | .keyword "True" :: rest => set rest; return .bool true
  | .keyword "False" :: rest => set rest; return .bool false
  | .symbol "..." :: rest => set rest; return .ellipsis
  | .symbol "(" :: rest => set rest; parenthesized again
  | .symbol "[" :: rest => set rest; bracketed again
  | .symbol "\x7b" :: rest => set rest; braced again
  | _ => failure

def trailer (head : Expr) : Reader (Option Expr) := do
  match ← get with
  | .symbol "." :: rest => set rest; return some (.attribute head (← name))
  | .symbol "[" :: rest => set rest; return some (← subscripted again head)
  | .symbol "(" :: rest =>
    set rest
    return some (.call head (← argumentsN again (rest.length + 1) []))
  | _ => return none

def primary : Reader Expr := do repeated (trailer again) (← atom again)

def power : Reader Expr := do
  let wait ← acceptWord "await"
  let base ← primary again
  let base := if wait then .wait base else base
  if ← acceptSymbol "**" then return .binary .power base (← again .factor) else return base

def factor : Reader Expr := do
  match ← get with
  | .symbol "+" :: rest => set rest; return .unary .plus (← again .factor)
  | .symbol "-" :: rest => set rest; return .unary .minus (← again .factor)
  | .symbol "~" :: rest => set rest; return .unary .invert (← again .factor)
  | _ => power again

def levels : List (List (String × Binary)) :=
  [[("|", .alternative)], [("^", .exclusive)], [("&", .both)],
    [("<<", .shiftLeft), (">>", .shiftRight)], [("+", .add), ("-", .subtract)],
    [("*", .multiply), ("@", .matrix), ("/", .divide), ("//", .floorDivide), ("%", .remainder)]]

def chained (operators : List (String × Binary)) (part : Reader Expr) : Reader Expr := do
  repeated (fun left => do
    match ← get with
    | .symbol s :: rest =>
      match operators.lookup s with
      | some o => set rest; return some (.binary o left (← part))
      | none => return none
    | _ => return none) (← part)

def operand : Reader Expr := levels.foldr chained (factor again)

def comparison? : Reader (Option Comparison) := do
  match ← get with
  | .symbol "==" :: rest => set rest; return some .equal
  | .symbol "!=" :: rest => set rest; return some .unequal
  | .symbol "<" :: rest => set rest; return some .less
  | .symbol "<=" :: rest => set rest; return some .atMost
  | .symbol ">" :: rest => set rest; return some .greater
  | .symbol ">=" :: rest => set rest; return some .atLeast
  | .keyword "is" :: .keyword "not" :: rest => set rest; return some .distinct
  | .keyword "is" :: rest => set rest; return some .identical
  | .keyword "in" :: rest => set rest; return some .within
  | .keyword "not" :: .keyword "in" :: rest => set rest; return some .outside
  | _ => return none

def compared : Reader Expr := do
  let first ← operand again
  let others ← repeated (fun found => do
    match ← comparison? with
    | some c => return some (found ++ [(c, ← operand again)])
    | none => return none) []
  return if others.isEmpty then first else .compare first others

def inversion : Reader Expr := do
  if ← acceptWord "not" then return .unary .negation (← again .inversion) else compared again

def joined (word : String) (join : List Expr → Expr) (part : Reader Expr) : Reader Expr := do
  let first ← part
  let others ← repeated (fun found => do
    if ← acceptWord word then return some (found ++ [← part]) else return none) []
  return if others.isEmpty then first else join (first :: others)

def disjunction : Reader Expr := joined "or" .some (joined "and" .every (inversion again))

structure Parameters where
  found : List (ParameterForm × String × Option Expr)
  slash : Bool
  star : Bool
  last : Bool

def default? : Reader (Option Expr) := do
  if ← acceptSymbol "=" then return some (← again .expression) else return none

def parameter (ps : Parameters) : Reader Parameters := do
  if ps.last then failure
  match ← get with
  | .symbol "/" :: rest =>
    if ps.slash || ps.star || ps.found.isEmpty then failure
    set rest
    return { ps with found := ps.found.map fun p => (.positional, p.2), slash := true }
  | .symbol "**" :: .name n :: rest =>
    set rest
    return { ps with found := ps.found ++ [(.others, n, none)], last := true }
  | .symbol "*" :: .name n :: rest =>
    if ps.star then failure
    set rest
    return { ps with found := ps.found ++ [(.rest, n, none)], star := true }
  | .symbol "*" :: .symbol "," :: .name n :: rest =>
    if ps.star then failure
    set rest
    return { ps with found := ps.found ++ [(.named, n, ← default? again)], star := true }
  | .name n :: rest =>
    set rest
    let value ← default? again
    if ps.star then return { ps with found := ps.found ++ [(.named, n, value)] }
    if value.isNone && ps.found.any (fun p => p.2.2.isSome) then failure
    return { ps with found := ps.found ++ [(.ordinary, n, value)] }
  | _ => failure

def parametersN : Nat → Parameters → Reader Parameters
  | 0, _ => failure
  | n + 1, ps => do
    if ← acceptSymbol ":" then return ps
    let ps ← parameter again ps
    if ← acceptSymbol "," then parametersN n ps
    else
      expectSymbol ":"
      return ps

def function : Reader Expr := do
  let ps ← parametersN again ((← get).length + 1) ⟨[], false, false, false⟩
  return .function ps.found (← again .expression)

def expression : Reader Expr := do
  if ← acceptWord "lambda" then return ← function again
  let e ← disjunction again
  if !(← acceptWord "if") then return e
  let test ← disjunction again
  expect (.keyword "else")
  return .conditional test e (← again .expression)

end

def read : Nat → Start → Reader Expr
  | 0, _ => failure
  | n + 1, .expression => expression (read n)
  | n + 1, .disjunction => disjunction (read n)
  | n + 1, .inversion => inversion (read n)
  | n + 1, .operand => operand (read n)
  | n + 1, .factor => factor (read n)
  | n + 1, .primary => primary (read n)

end Grammar

def Expr.ofChars? (cs : List Char) : Option Expr := do
  let fuel := cs.length + 2
  let ts ← Token.ofChars? cs
  let items ← Grammar.sequenceN (Grammar.read fuel .expression) (.symbol ";") fuel
    (ts ++ [.symbol ";"])
  match items with
  | (([e], false), []) => return e
  | ((e :: es, _), []) => return .tuple (e :: es)
  | _ => failure

end FieldGuard.TypeHint
