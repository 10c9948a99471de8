import FieldGuard.TypeHint.Escape

namespace FieldGuard.TypeHint

inductive Piece where
  | text (content : String)
  | field (source : List Char) (conversion : Option Char) (format : List Piece)

namespace Piece

inductive Place where
  | plain
  | escaped
  | naming
  deriving DecidableEq, Repr

def isBrace (c : Char) : Bool := c == '\x7b' || c == '\x7d'

def textBody (raw doubled : Bool) : Place → List Char → List Char × List Char
  | _, [] => ([], [])
  | .naming, c :: cs =>
    let r := textBody raw doubled (if c = '\x7d' then .plain else .naming) cs
    (c :: r.1, r.2)
  | place, c :: cs =>
    if isBrace c then
      match cs with
      | d :: rest =>
        if doubled ∧ c = d then
          let r := textBody raw doubled .plain rest
          (c :: r.1, r.2)
        else ([], c :: cs)
      | [] => ([], c :: cs)
    else
      let next : Place :=
        if place = .escaped then
          if c = 'N' ∧ cs.head? = some '\x7b' then .naming else .plain
        else if c = '\\' ∧ !raw then .escaped else .plain
      let r := textBody raw doubled next cs
      (c :: r.1, r.2)

structure Open where
  quotes : List Char
  brackets : List Char

inductive Move where
  | fail
  | stop
  | take (count : Nat) (now : Open)

def closing? : Char → Option Char
  | '(' => some ')'
  | '[' => some ']'
  | '\x7b' => some '\x7d'
  | _ => none

def isClosing (c : Char) : Bool := [')', ']', '\x7d'].contains c

def move (now : Open) : List Char → Move
  | [] => .fail
  | '\\' :: _ => .fail
  | c :: cs =>
    if now.quotes ≠ [] then
      if now.quotes.isPrefixOf (c :: cs) then .take now.quotes.length { now with quotes := [] }
      else .take 1 now
    else if c = '\'' ∨ c = '"' then
      let quotes := if cs.take 2 = [c, c] then [c, c, c] else [c]
      .take quotes.length { now with quotes }
    else match closing? c with
      | some close => .take 1 { now with brackets := close :: now.brackets }
      | none =>
        if c = '#' then .fail
        else if isClosing c ∧ now.brackets ≠ [] then
          if now.brackets.head? = some c then
            .take 1 { now with brackets := now.brackets.drop 1 }
          else .fail
        else if now.brackets ≠ [] then .take 1 now
        else if ['!', '=', '<', '>'].contains c ∧ cs.head? = some '=' then .take 2 now
        else if ['!', ':', '\x7d', '='].contains c then .stop
        else if isClosing c then .fail
        else .take 1 now

def source? : Nat → Open → List Char → Option (List Char × List Char)
  | 0, _, _ => none
  | fuel + 1, now, cs =>
    match move now cs with
    | .fail => none
    | .stop => some ([], cs)
    | .take n next => (source? fuel next (cs.drop n)).map fun r => (cs.take n ++ r.1, r.2)

def isSpace (c : Char) : Bool := [' ', '\t', '\n', '\x0b', '\x0c', '\r'].contains c

def conversion? : List Char → Option (Option Char × List Char)
  | '!' :: c :: cs => if ['s', 'r', 'a'].contains c then some (some c, cs) else none
  | '!' :: [] => none
  | cs => some (none, cs)

def depthLimit : Nat := 2

def textPiece (content : List Char) : List Piece :=
  if content.isEmpty then [] else [.text (String.ofList content)]

def read? (raw : Bool) : Nat → Nat → List Char → Option (List Piece × List Char)
  | 0, _, _ => none
  | fuel + 1, depth, cs => do
    let (body, rest) := textBody raw (depth == 0) .plain cs
    let lead := textPiece (← Escape.textOf? raw body)
    match rest with
    | '\x7b' :: rest =>
      if depth ≥ depthLimit then none
      let (source, rest) ← source? (rest.length + 1) ⟨[], []⟩ rest
      if source.all fun c => isSpace c && c != '\x0b' then none
      let (shown, rest) := match rest with
        | '=' :: r => (source ++ '=' :: r.takeWhile isSpace, r.dropWhile isSpace)
        | r => ([], r)
      let (conversion, rest) ← conversion? rest
      let (format?, rest) ← match rest with
        | ':' :: r => (read? raw fuel (depth + 1) r).map fun (ps, after) => (some ps, after)
        | r => some (none, r)
      let conversion :=
        if !shown.isEmpty && format?.isNone then conversion.or (some 'r') else conversion
      match rest with
      | '\x7d' :: rest =>
        let (more, rest) ← read? raw fuel depth rest
        return (lead ++ textPiece shown ++ .field source conversion (format?.getD []) :: more,
          rest)
      | _ => none
    | rest => return (lead, rest)

def ofBody? (raw : Bool) (body : List Char) : Option (List Piece) :=
  match read? raw (body.length + 1) 0 body with
  | some (pieces, []) => some pieces
  | _ => none

end Piece

end FieldGuard.TypeHint
