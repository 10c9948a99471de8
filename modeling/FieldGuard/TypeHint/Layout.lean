import FieldGuard.TypeHint.Written

namespace FieldGuard.TypeHint

inductive Alignment where
  | left
  | right
  | center
  | afterSign
  deriving DecidableEq, Repr

structure Layout where
  fill : Char
  alignment : Option Alignment
  width : Nat
  precision : Option Nat
  form : List Char
  deriving DecidableEq, Repr

namespace Layout

def alignment? : Char → Option Alignment
  | '<' => some .left
  | '>' => some .right
  | '^' => some .center
  | '=' => some .afterSign
  | _ => none

def lead : List Char → Char × Option Alignment × List Char
  | c :: d :: cs =>
    match alignment? d with
    | some a => (c, some a, cs)
    | none => match alignment? c with
      | some a => (' ', some a, d :: cs)
      | none => (' ', none, c :: d :: cs)
  | [c] => match alignment? c with
    | some a => (' ', some a, [])
    | none => (' ', none, [c])
  | [] => (' ', none, [])

def digits (cs : List Char) : Nat := Nat.ofDigitChars 10 (cs.takeWhile Char.isDigit) 0

def ofChars (cs : List Char) : Layout :=
  let (fill, alignment, cs) := lead cs
  let (fill, alignment, cs) := match cs with
    | '0' :: rest => (if alignment.isSome then fill else '0', alignment.or (some .afterSign), rest)
    | cs => (fill, alignment, cs)
  let width := digits cs
  match cs.dropWhile Char.isDigit with
  | '.' :: rest =>
    if Number.startsWithDigit rest then
      ⟨fill, alignment, width, some (digits rest), rest.dropWhile Char.isDigit⟩
    else ⟨fill, alignment, width, none, '.' :: rest⟩
  | rest => ⟨fill, alignment, width, none, rest⟩

def set (fill : Char) (alignment : Alignment) (width : Nat) (sign body : List Char) : List Char :=
  let missing := width - (sign.length + body.length)
  let pad (n : Nat) := List.replicate n fill
  match alignment with
  | .left => sign ++ body ++ pad missing
  | .right => pad missing ++ sign ++ body
  | .center => pad (missing / 2) ++ sign ++ body ++ pad (missing - missing / 2)
  | .afterSign => sign ++ pad missing ++ body

def base? : List Char → Option Nat
  | [] | ['d'] | ['n'] => some 10
  | ['x'] => some 16
  | ['o'] => some 8
  | ['b'] => some 2
  | _ => none

def letterText (c : Char) : String :=
  if 0x20 < c.toNat ∧ c.toNat < 0x80 then String.ofList ['\'', c, '\'']
  else "'\\x" ++ String.ofList (Text.hex 2 c.toNat) ++ "'"

def unknown (form : List Char) (format typeName : String) : Fault :=
  match form with
  | [c] => .raised .value
      ("Unknown format code " ++ letterText c ++ " for object of type '" ++ typeName ++ "'")
  | _ => .raised .value
      ("Invalid format specifier '" ++ format ++ "' for object of type '" ++ typeName ++ "'")

def textLayout (format : String) (s : String) : Except Fault String := do
  let l := ofChars format.toList
  if l.form ≠ [] ∧ l.form ≠ ['s'] then throw (unknown l.form format "str")
  let zeros := l.alignment == some .afterSign
  if zeros && l.fill != '0' then
    throw (.raised .value "'=' alignment not allowed in string format specifier")
  let alignment := if zeros then .left else l.alignment.getD .left
  let body := match l.precision with
    | some n => s.toList.take n
    | none => s.toList
  return String.ofList (set l.fill alignment l.width [] body)

def integerLayout (format : String) (n : Int) : Except Fault String := do
  let l := ofChars format.toList
  match base? l.form with
  | some base =>
    if l.precision.isSome then
      throw (.raised .value "Precision not allowed in integer format specifier")
    return String.ofList (set l.fill (l.alignment.getD .right) l.width
      (if n < 0 then ['-'] else []) (Nat.toDigits base n.natAbs))
  | none => throw (unknown l.form format "int")

end Layout

namespace Meaning

def shownWithin (m : Meaning) : Except Fault String :=
  match m with
  | .integer n =>
    if n.natAbs < Numeral.limit then .ok (integerText n)
    else .error (.raised .value Numeral.Error.tooLargeToWrite.message)
  | m => .ok m.shown

def laidOut (m : Meaning) (format : String) : Except Fault String :=
  if format.isEmpty then m.shownWithin
  else match m with
    | .text s => Layout.textLayout format s
    | m => match m.integer? with
      | Option.some n => Layout.integerLayout format n
      | Option.none => if typeName m = "float" then m.shownWithin else .error .unresolved

example : (laidOut (.text "int") ">5").toOption = Option.some "  int" := by decide +kernel
example : (laidOut (.integer (-5)) "04d").toOption = Option.some "-005" := by decide +kernel

end Meaning

end FieldGuard.TypeHint
