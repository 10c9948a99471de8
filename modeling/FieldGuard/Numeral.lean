import FieldGuard.Text.Blank
import FieldGuard.Text.DecimalDigit
import FieldGuard.Text.Quoted

/-!
Integers as decimal text. Neither direction handles more than `digitLimit` digits. There are two
readers: `readToken` takes an optional sign and ASCII digits and nothing else; `read` takes white
space around the number, single underscores between digits, and decimal digits of every script.
-/

namespace FieldGuard

namespace Numeral

open Text

def digitLimit : Nat := 4300

def limit : Nat := Nat.pow 10 digitLimit

inductive Error where
  | tooManyDigits (count : Nat)
  | tooLargeToWrite
  | malformed (text : String)
  deriving DecidableEq, Repr

def shownLimit : Nat := 200

def Error.message : Error → String
  | .tooManyDigits count =>
    "Exceeds the limit (4300 digits) for integer string conversion: value has " ++ count.repr ++
      " digits; use sys.set_int_max_str_digits() to increase the limit"
  | .tooLargeToWrite =>
    "Exceeds the limit (4300 digits) for integer string conversion; " ++
      "use sys.set_int_max_str_digits() to increase the limit"
  | .malformed text =>
    "invalid literal for int() with base 10: " ++
      String.ofList ((quoteChars text.toList).take shownLimit)

def digits (n : Nat) : List Char := n.repr.toList

def decimal (n : Int) : List Char :=
  if n < 0 then '-' :: digits n.natAbs else digits n.natAbs

def write (n : Int) : Except Error String :=
  if n.natAbs < limit then .ok (String.ofList (decimal n)) else .error .tooLargeToWrite

theorem digits_ne_nil (n : Nat) : digits n ≠ [] := by
  simp [digits, Nat.toList_repr]

theorem digits_isDigit {n : Nat} {c : Char} (h : c ∈ digits n) : c.isDigit = true := by
  rw [digits, Nat.toList_repr] at h
  exact Nat.isDigit_of_mem_toDigits (by decide) (by decide) h

theorem length_digits_le_iff {n k : Nat} (h : 0 < k) :
    (digits n).length ≤ k ↔ n < Nat.pow 10 k := by
  rw [digits, Nat.toList_repr]
  exact Nat.length_toDigits_le_iff (by decide) h

def splitSign : List Char → Bool × List Char
  | '-' :: cs => (true, cs)
  | '+' :: cs => (false, cs)
  | cs => (false, cs)

def signed (negative : Bool) (n : Nat) : Int := if negative then -n else n

def ofDigits (ds : List Char) : Except Error Nat :=
  if ds.length ≤ digitLimit then .ok (Nat.ofDigitChars 10 ds 0)
  else .error (.tooManyDigits ds.length)

def isToken (cs : List Char) : Bool :=
  !(splitSign cs).2.isEmpty && (splitSign cs).2.all Char.isDigit

def readToken (cs : List Char) : Except Error (Option Int) :=
  if isToken cs then
    (ofDigits (splitSign cs).2).map fun n => some (signed (splitSign cs).1 n)
  else .ok none

/-- White space that may surround a number: of the control characters only tab to return. -/
def isPadding (c : Char) : Bool := isBlank c && !(RangeTable.holds [(0x1c, 0x1f)] c)

def splitDigits : List Char → List Char × List Char
  | [] => ([], [])
  | c :: cs =>
    match if c = '_' then some '_' else asciiDigit? c with
    | some d => (d :: (splitDigits cs).1, (splitDigits cs).2)
    | none => ([], c :: cs)

def read (text : String) : Except Error Int := do
  let (negative, body) := splitSign (text.toList.dropWhile isPadding)
  let (run, rest) := splitDigits body
  let groups := run.splitOn '_'
  if groups.any List.isEmpty then throw (.malformed text)
  let n ← ofDigits groups.flatten
  if rest.all isPadding then return signed negative n
  throw (.malformed text)

theorem ofDigits_digits {n : Nat} (h : n < limit) : ofDigits (digits n) = .ok n := by
  have hl : (digits n).length ≤ digitLimit := by
    unfold limit at h
    exact (length_digits_le_iff (by decide)).mpr h
  simp only [ofDigits, hl, ↓reduceIte]
  simp [digits, Nat.toList_repr]

theorem splitSign_of_isDigit {c : Char} (h : c.isDigit = true) (cs : List Char) :
    splitSign (c :: cs) = (false, c :: cs) := by
  have hm : c ≠ '-' := by
    rintro rfl
    exact absurd h (by decide)
  have hp : c ≠ '+' := by
    rintro rfl
    exact absurd h (by decide)
  simp [splitSign, hm, hp]

theorem splitSign_digits (n : Nat) : splitSign (digits n) = (false, digits n) := by
  cases h : digits n with
  | nil => exact absurd h (digits_ne_nil n)
  | cons c cs => exact splitSign_of_isDigit (digits_isDigit (n := n) (by simp [h])) cs

theorem signed_natAbs (n : Int) : signed (decide (n < 0)) n.natAbs = n := by
  by_cases h : n < 0
  · rw [signed, if_pos (decide_eq_true h)]
    omega
  · rw [signed, if_neg (by simpa using h)]
    omega

theorem splitSign_decimal (n : Int) :
    splitSign (decimal n) = (decide (n < 0), digits n.natAbs) := by
  by_cases h : n < 0
  · simp [decimal, h, splitSign]
  · simp [decimal, h, splitSign_digits]

theorem isToken_decimal (n : Int) : isToken (decimal n) = true := by
  simp only [isToken, splitSign_decimal, Bool.and_eq_true, Bool.not_eq_true', List.all_eq_true]
  refine ⟨?_, fun c hc => digits_isDigit hc⟩
  cases h : digits n.natAbs with
  | nil => exact absurd h (digits_ne_nil _)
  | cons => rfl

end Numeral

end FieldGuard
