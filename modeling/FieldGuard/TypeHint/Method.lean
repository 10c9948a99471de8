import FieldGuard.Text.Blank
import FieldGuard.TypeHint.Feature
import FieldGuard.TypeHint.Iteration
import FieldGuard.TypeHint.Layout

namespace FieldGuard.TypeHint.Meaning

abbrev Named := List (String × Meaning)

def textResult (cs : List Char) : Result := .ok (.text (String.ofList cs))

def valueFault (message : String) : Result := .error (.raised .value message)

def splitFirst? (needle : List Char) : List Char → Option (List Char × List Char)
  | [] => if needle.isEmpty then Option.some ([], []) else Option.none
  | c :: cs =>
    match needle.isPrefixOf? (c :: cs) with
    | Option.some rest => Option.some ([], rest)
    | Option.none => (splitFirst? needle cs).map fun r => (c :: r.1, r.2)

def splitText (needle : List Char) : Nat → List Char → List (List Char)
  | 0, cs => [cs]
  | n + 1, cs =>
    match splitFirst? needle cs with
    | Option.some (before, after) => before :: splitText needle n after
    | Option.none => [cs]

def words (cs : List Char) : List (List Char) :=
  (cs.splitBy fun c d => Text.isBlank c == Text.isBlank d).filter fun w => !w.all Text.isBlank

def upperFirst : List Char → List Char
  | [] => []
  | c :: cs => c.toUpper :: cs.map Char.toLower

def titled : Bool → List Char → List Char
  | _, [] => []
  | inside, c :: cs =>
    (if inside then c.toLower else c.toUpper) :: titled c.isAlpha cs

def trim (left right : Bool) (among : Char → Bool) (cs : List Char) : List Char :=
  let cs := if left then cs.dropWhile among else cs
  if right then (cs.reverse.dropWhile among).reverse else cs

def positionOf (needle cs : List Char) : Int :=
  match splitFirst? needle cs with
  | Option.some (before, _) => before.length
  | Option.none => -1

def candidates : Meaning → Option (List (List Char))
  | .text s => Option.some [s.toList]
  | .tuple ms => ms.mapM fun
    | .text s => Option.some s.toList
    | _ => Option.none
  | _ => Option.none

def textOrFault : Meaning → Except Fault String
  | .text s => .ok s
  | _ => .error .unresolved

def isAlphabetic (cs : List Char) : Bool := !cs.isEmpty && cs.all Char.isAlpha

def textTests : List (String × (List Char → Bool)) :=
  [("isalpha", isAlphabetic), ("isalnum", fun cs => !cs.isEmpty && cs.all Char.isAlphanum),
    ("isdigit", fun cs => !cs.isEmpty && cs.all Char.isDigit),
    ("isdecimal", fun cs => !cs.isEmpty && cs.all Char.isDigit),
    ("isnumeric", fun cs => !cs.isEmpty && cs.all Char.isDigit),
    ("isspace", fun cs => !cs.isEmpty && cs.all Text.isBlank),
    ("islower", fun cs => cs.any Char.isLower && !cs.any Char.isUpper),
    ("isupper", fun cs => cs.any Char.isUpper && !cs.any Char.isLower),
    ("isidentifier", Text.isName), ("isascii", fun cs => cs.all fun c => c.toNat < 0x80),
    ("isprintable", fun cs => cs.all Text.isPrintable)]

def textMaps : List (String × (List Char → List Char)) :=
  [("lower", List.map Char.toLower), ("casefold", List.map Char.toLower),
    ("upper", List.map Char.toUpper), ("capitalize", upperFirst), ("title", titled false),
    ("swapcase", List.map fun c => if c.isUpper then c.toLower else c.toUpper),
    ("strip", trim true true Text.isBlank), ("lstrip", trim true false Text.isBlank),
    ("rstrip", trim false true Text.isBlank)]

def alignments : List (String × Alignment) :=
  [("ljust", .left), ("rjust", .right), ("center", .center)]

def fieldValue (args : List Meaning) (named : Named) (position : Nat) (label : List Char) :
    Result :=
  if label.isEmpty ∨ label.all Char.isDigit then
    let i := if label.isEmpty then position else Nat.ofDigitChars 10 label 0
    match args[i]? with
    | Option.some m => .ok m
    | Option.none => .error (.raised .index ("Replacement index " ++ i.repr ++
        " out of range for positional args tuple"))
  else match named.lookup (String.ofList label) with
    | Option.some m => .ok m
    | Option.none => .error (.raised .key (Text.quoted (String.ofList label)))

def converted (conversion : List Char) (m : Meaning) : Meaning :=
  if conversion = ['r'] ∨ conversion = ['a'] then .text m.written
  else if conversion = ['s'] then .text m.shown
  else m

def formatText (args : List Meaning) (named : Named) :
    Nat → Nat → List Char → Except Fault (List Char)
  | 0, _, _ => .ok []
  | _ + 1, _, [] => .ok []
  | n + 1, position, '\x7b' :: '\x7b' :: cs =>
    return '\x7b' :: (← formatText args named n position cs)
  | n + 1, position, '\x7d' :: '\x7d' :: cs =>
    return '\x7d' :: (← formatText args named n position cs)
  | _ + 1, _, '\x7d' :: _ =>
    .error (.raised .value "Single '\x7d' encountered in format string")
  | n + 1, position, '\x7b' :: cs => do
    let field := cs.takeWhile (· != '\x7d')
    match cs.dropWhile (· != '\x7d') with
    | [] =>
      throw (.raised .value (if cs.isEmpty then "Single '\x7b' encountered in format string"
        else "expected '\x7d' before end of string"))
    | _ :: rest =>
      let lead := field.takeWhile (· != ':')
      let label := lead.takeWhile (· != '!')
      let m ← fieldValue args named position label
      let shown ← laidOut (converted ((lead.dropWhile (· != '!')).drop 1) m)
        (String.ofList ((field.dropWhile (· != ':')).drop 1))
      let position := if label.isEmpty then position + 1 else position
      return shown.toList ++ (← formatText args named n position rest)
  | n + 1, position, c :: cs => return c :: (← formatText args named n position cs)

def splitResult (parts : List (List Char)) : Result :=
  .ok (.list (parts.map fun cs => .text (String.ofList cs)))

def textMethod (cs : List Char) (name : String) (args : List Meaning) (named : Named) : Result :=
  match textMaps.lookup name, textTests.lookup name, args with
  | Option.some f, _, [] | Option.some f, _, [.none] => textResult (f cs)
  | _, Option.some test, [] => .ok (.bool (test cs))
  | _, _, args =>
    match name, args with
    | "strip", [.text s] => textResult (trim true true s.toList.contains cs)
    | "lstrip", [.text s] => textResult (trim true false s.toList.contains cs)
    | "rstrip", [.text s] => textResult (trim false true s.toList.contains cs)
    | "removeprefix", [.text s] => textResult ((s.toList.isPrefixOf? cs).getD cs)
    | "removesuffix", [.text s] =>
      textResult (((s.toList.reverse.isPrefixOf? cs.reverse).map List.reverse).getD cs)
    | "startswith", [m] =>
      match candidates m with
      | Option.some found => .ok (.bool (found.any fun s => s.isPrefixOf cs))
      | Option.none => .error .unresolved
    | "endswith", [m] =>
      match candidates m with
      | Option.some found => .ok (.bool (found.any fun s => s.isSuffixOf cs))
      | Option.none => .error .unresolved
    | "replace", [.text s, .text t] =>
      if s.isEmpty then
        textResult (t.toList ++ cs.flatMap fun c => c :: t.toList)
      else textResult (t.toList.intercalate (splitText s.toList cs.length cs))
    | "replace", [.text s, .text t, n] =>
      match n.integer? with
      | Option.some n =>
        textResult (t.toList.intercalate
          (splitText s.toList (if n < 0 then cs.length else n.toNat) cs))
      | Option.none => .error .unresolved
    | "split", [] | "split", [.none] => splitResult (words cs)
    | "split", [.text s] =>
      if s.isEmpty then valueFault "empty separator"
      else splitResult (splitText s.toList cs.length cs)
    | "split", [.text s, n] =>
      match n.integer? with
      | Option.some n =>
        if s.isEmpty then valueFault "empty separator"
        else splitResult (splitText s.toList (if n < 0 then cs.length else n.toNat) cs)
      | Option.none => .error .unresolved
    | "splitlines", [] => splitResult (splitText ['\n'] cs.length cs)
    | "partition", [.text s] =>
      if s.isEmpty then valueFault "empty separator"
      else match splitFirst? s.toList cs with
        | Option.some (before, after) =>
          .ok (.tuple [.text (String.ofList before), .text s, .text (String.ofList after)])
        | Option.none => .ok (.tuple [.text (String.ofList cs), .text "", .text ""])
    | "join", [m] => do
      let parts ← (← itemsOf m).mapM textOrFault
      textResult (cs.intercalate (parts.map String.toList))
    | "find", [.text s] => .ok (.integer (positionOf s.toList cs))
    | "index", [.text s] =>
      if positionOf s.toList cs < 0 then valueFault "substring not found"
      else .ok (.integer (positionOf s.toList cs))
    | "count", [.text s] =>
      if s.isEmpty then .ok (.integer (cs.length + 1))
      else .ok (.integer ((splitText s.toList cs.length cs).length - 1))
    | "zfill", [n] =>
      match n.integer? with
      | Option.some n =>
        let (sign, body) := match cs with
          | '-' :: r => (['-'], r)
          | '+' :: r => (['+'], r)
          | r => ([], r)
        textResult (Layout.set '0' .afterSign n.toNat sign body)
      | Option.none => .error .unresolved
    | "format", args =>
      (formatText args named (cs.length + 1) 0 cs).map fun cs => .text (String.ofList cs)
    | "encode", _ =>
      if cs.all fun c => c.toNat < 0x80 then
        .ok (.bytes (cs.map fun c => UInt8.ofNat c.toNat))
      else .ok (.other "bytes")
    | name, n :: fill =>
      match alignments.lookup name, n.integer?, fill with
      | Option.some a, Option.some n, [] => textResult (Layout.set ' ' a n.toNat [] cs)
      | Option.some a, Option.some n, [.text f] =>
        textResult (Layout.set (f.toList.headD ' ') a n.toNat [] cs)
      | _, _, _ => .error .unresolved
    | _, _ => .error .unresolved

def changes : List String :=
  ["append", "clear", "extend", "insert", "reverse", "sort", "update", "add", "discard",
    "difference_update", "intersection_update", "symmetric_difference_update"]

def indexOf (ms : List Meaning) (m : Meaning) (missing : String) : Result :=
  match ms.findIdx? (same m) with
  | Option.some i => .ok (.integer i)
  | Option.none => valueFault missing

def listMethod (ms : List Meaning) (name : String) (args : List Meaning) : Result :=
  match name, args with
  | "index", [m] => indexOf ms m (written m ++ " is not in list")
  | "count", [m] => .ok (.integer (ms.countP (same m)))
  | "copy", [] => .ok (.list ms)
  | "pop", [] =>
    match ms.getLast? with
    | Option.some m => .ok m
    | Option.none => .error (.raised .index "pop from empty list")
  | "pop", [m] => itemOf (unboundedFault "pop ") ms .list m
  | "remove", [m] =>
    if ms.any (same m) then .ok .none else valueFault "list.remove(x): x not in list"
  | _, _ => if changes.contains name then .ok .none else .error .unresolved

def tupleMethod (ms : List Meaning) (name : String) (args : List Meaning) : Result :=
  match name, args with
  | "index", [m] => indexOf ms m "tuple.index(x): x not in tuple"
  | "count", [m] => .ok (.integer (ms.countP (same m)))
  | _, _ => .error .unresolved

def dictMethod (es : List (Meaning × Meaning)) (name : String) (args : List Meaning) : Result :=
  let find (k : Meaning) : Except Fault (Option Meaning) := do
    checkKey k
    return (es.find? fun e => same k e.1).map Prod.snd
  match name, args with
  | "get", [k] => return (← find k).getD .none
  | "get", [k, m] | "setdefault", [k, m] | "pop", [k, m] => return (← find k).getD m
  | "setdefault", [k] => return (← find k).getD .none
  | "pop", [k] => entryOf es k
  | "popitem", [] =>
    match es.getLast? with
    | Option.some (k, m) => .ok (.tuple [k, m])
    | Option.none => .error (.raised .key (Text.quoted "popitem(): dictionary is empty"))
  | "keys", [] => .ok (.iterator "dict_keys" (es.map Prod.fst) Option.none)
  | "values", [] => .ok (.iterator "dict_values" (es.map Prod.snd) Option.none)
  | "items", [] =>
    .ok (.iterator "dict_items" (es.map fun e => .tuple [e.1, e.2]) Option.none)
  | "copy", [] => .ok (.dict es)
  | _, _ => if changes.contains name then .ok .none else .error .unresolved

def setMethods : List (String × Binary) :=
  [("union", .alternative), ("intersection", .both), ("difference", .subtract),
    ("symmetric_difference", .exclusive)]

def setMethod (frozen : Bool) (ms : List Meaning) (name : String) (args : List Meaning) :
    Result := do
  match setMethods.lookup name, args with
  | Option.some o, args =>
    args.foldlM (fun found m => do
      let items ← itemsOf m
      checkKeys items
      match found with
      | .set frozen xs => return .set frozen ((setOperation? o xs (distinct items)).getD xs)
      | m => return m) (.set frozen ms)
  | Option.none, [] =>
    if name = "copy" then return .set frozen ms
    else if name = "pop" then
      match ms with
      | m :: _ => return m
      | [] => throw (.raised .key (Text.quoted "pop from an empty set"))
    else if changes.contains name then return .none
    else throw .unresolved
  | Option.none, [m] =>
    if changes.contains name then return .none
    else if name = "remove" then
      checkKey m
      if ms.any (same m) then return .none else throw (.raised .key (written m))
    else
      let items ← itemsOf m
      if name = "issubset" then return .bool (ms.all fun x => items.any (same x))
      else if name = "issuperset" then return .bool (items.all fun x => ms.any (same x))
      else if name = "isdisjoint" then return .bool (!items.any fun x => ms.any (same x))
      else throw .unresolved
  | _, _ => throw .unresolved

def bitLength (n : Int) : Nat := if n = 0 then 0 else n.natAbs.log2 + 1

def callMethod (owner : Meaning) (name : String) (args : List Meaning) (named : Named) : Result :=
  match owner with
  | .text s => if isSpecial name then .ok (.other "object") else textMethod s.toList name args named
  | .bytes bs =>
    if name = "decode" ∧ bs.all (fun b => b.toNat < 0x80) then
      .ok (.text (String.ofList (bs.map fun b => Char.ofNat b.toNat)))
    else .ok (.other "object")
  | owner =>
    if isSpecial name then
      match name, args with
      | "__getitem__", [m] => subscript owner m
      | "__or__", [m] => binary .alternative owner m
      | "__ror__", [m] => binary .alternative m owner
      | _, _ => .ok (.other "object")
    else match owner with
      | .list ms => listMethod ms name args
      | .tuple ms => tupleMethod ms name args
      | .dict es => dictMethod es name args
      | .set frozen ms => setMethod frozen ms name args
      | .integer n => .ok (if name = "bit_length" then .integer (bitLength n) else .other "object")
      | _ => .ok (.other "object")

end FieldGuard.TypeHint.Meaning
