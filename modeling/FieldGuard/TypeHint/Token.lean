import FieldGuard.Text.LineEnd
import FieldGuard.Text.Name
import FieldGuard.TypeHint.Number

/-!
Tokens of type expressions. Line ends count only outside brackets, where they may be followed by
nothing but empty lines; a comment runs to the end of its line. Names are compared in their
compatibility form, words that are reserved in their own.
-/

namespace FieldGuard.TypeHint

structure Quoting where
  raw : Bool
  bytes : Bool
  formatted : Bool
  deriving DecidableEq, Repr

inductive Token where
  | name (text : String)
  | keyword (text : String)
  | number (n : Number)
  | text (quoting : Quoting) (body : List Char)
  | symbol (text : String)
  deriving DecidableEq, Repr

namespace Token

def keywords : List String :=
  ["False", "None", "True", "and", "as", "assert", "async", "await", "break", "class", "continue",
    "def", "del", "elif", "else", "except", "finally", "for", "from", "global", "if", "import",
    "in", "is", "lambda", "nonlocal", "not", "or", "pass", "raise", "return", "try", "while",
    "with", "yield"]

def symbols : List String :=
  ["**=", "//=", "<<=", ">>=", "...", "!=", "%=", "&=", "**", "*=", "+=", "-=", "->", "//", "/=",
    ":=", "<<", "<=", "<>", "==", ">=", ">>", "@=", "^=", "|=", "%", "&", "(", ")", "*", "+", ",",
    "-", ".", "/", ":", ";", "<", "=", ">", "@", "[", "]", "^", "\x7b", "|", "\x7d", "~"]

def symbol? (cs : List Char) : Option (String × List Char) :=
  symbols.findSome? fun s => (s.toList.isPrefixOf? cs).map fun rest => (s, rest)

def quoting? (letters : List Char) : Option Quoting :=
  match letters.map Char.toLower with
  | [] | ['u'] => some ⟨false, false, false⟩
  | ['r'] => some ⟨true, false, false⟩
  | ['b'] => some ⟨false, true, false⟩
  | ['f'] => some ⟨false, false, true⟩
  | ['b', 'r'] | ['r', 'b'] => some ⟨true, true, false⟩
  | ['f', 'r'] | ['r', 'f'] => some ⟨true, false, true⟩
  | _ => none

def isQuote (c : Char) : Bool := c == '\'' || c == '"'

def shortBody (quote : Char) : List Char → Option (List Char × List Char)
  | [] => none
  | '\\' :: c :: rest =>
    (shortBody quote rest).map fun (body, after) => ('\\' :: c :: body, after)
  | c :: rest =>
    if c = quote then some ([], rest)
    else if c = '\n' then none
    else (shortBody quote rest).map fun (body, after) => (c :: body, after)

def longBody (quote : Char) : List Char → Option (List Char × List Char)
  | [] => none
  | '\\' :: c :: rest =>
    (longBody quote rest).map fun (body, after) => ('\\' :: c :: body, after)
  | c :: rest =>
    if c = quote ∧ rest.take 2 = [quote, quote] then some ([], rest.drop 2)
    else (longBody quote rest).map fun (body, after) => (c :: body, after)

def body? (quote : Char) (cs : List Char) : Option (List Char × List Char) :=
  if cs.take 2 = [quote, quote] then longBody quote (cs.drop 2) else shortBody quote cs

def isNamePart (c : Char) : Bool :=
  c.isAlphanum || c == '_' || decide (0x80 ≤ c.toNat)

def word? (cs : List Char) : Option (Token × List Char) :=
  let letters := cs.takeWhile isNamePart
  let rest := cs.dropWhile isNamePart
  let plain : Option (Token × List Char) :=
    if keywords.contains (String.ofList letters) then
      some (.keyword (String.ofList letters), rest)
    else if Text.isName letters then
      some (.name (String.ofList (letters.flatMap Text.compatible)), rest)
    else none
  match rest with
  | q :: more =>
    match isQuote q, quoting? letters with
    | true, some quoting => (body? q more).map fun (body, after) => (.text quoting body, after)
    | _, _ => plain
  | [] => plain

def next? : List Char → Option (Token × List Char)
  | [] => none
  | c :: rest =>
    if isQuote c then
      (body? c rest).map fun (body, after) => (.text ⟨false, false, false⟩ body, after)
    else if c.isDigit || (c == '.' && Number.startsWithDigit rest) then
      (Number.read? (c :: rest)).map fun (n, after) => (.number n, after)
    else if isNamePart c then word? (c :: rest)
    else (symbol? (c :: rest)).map fun (s, after) => (.symbol s, after)

/-- Where the reader stands: `depth` brackets are open, `fresh` is the start of a line, `indented`
says that space stands there, and `closed` that a line with tokens has ended. -/
structure State where
  depth : Nat
  fresh : Bool
  indented : Bool
  closed : Bool

def depthLimit : Nat := 200

def depthAfter (depth : Nat) : Token → Nat
  | .symbol "(" | .symbol "[" | .symbol "\x7b" => depth + 1
  | .symbol ")" | .symbol "]" | .symbol "\x7d" => depth - 1
  | _ => depth

def scan : Nat → State → List Char → Option (List Token)
  | _, st, [] => if st.indented && st.depth == 0 then none else some []
  | 0, _, _ :: _ => none
  | fuel + 1, st, c :: rest =>
    if c = '\n' then
      if st.depth = 0 then scan fuel ⟨0, true, false, st.closed || !st.fresh⟩ rest
      else scan fuel st rest
    else if c = '#' then scan fuel { st with indented := false } (rest.dropWhile (· != '\n'))
    else if c = '\x0c' then scan fuel { st with indented := false } rest
    else if c = ' ' ∨ c = '\t' then scan fuel { st with indented := st.fresh } rest
    else if c = '\\' then
      match rest with
      | '\n' :: d :: after => scan fuel st (d :: after)
      | _ => none
    else if st.closed || (st.fresh && st.indented && st.depth == 0) then none
    else do
      let (token, after) ← next? (c :: rest)
      let depth := depthAfter st.depth token
      if depth > depthLimit then none
      else (scan fuel ⟨depth, false, false, false⟩ after).map (token :: ·)

def ofChars? (cs : List Char) : Option (List Token) :=
  let cs := Text.unifyLineEnds cs
  scan cs.length ⟨0, true, false, false⟩ cs

end Token

end FieldGuard.TypeHint
