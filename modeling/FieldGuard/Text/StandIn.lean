/-!
Surrogates. The texts of the host may hold halves of pairs of code units, which are no characters.
Private characters stand in for them here, whichever the host's texts leave free. What measures a
text in UTF-8 refuses stand-ins; whatever else handles texts takes them for the characters they are.
-/

namespace FieldGuard

/-- The surrogate that a character stands in for, by its place among the surrogates. -/
class StandIns where
  unit? : Char → Option (Fin 0x800)
  char? : Fin 0x800 → Option Char
  char?_eq_some_iff (u : Fin 0x800) (c : Char) : char? u = some c ↔ unit? c = some u
  isPrivate {c : Char} (h : (unit? c).isSome = true) : 0xf0000 ≤ c.toNat

namespace Text

variable [StandIns]

def isStandIn (c : Char) : Bool := (StandIns.unit? c).isSome

structure EncodeFault where
  start : Nat
  length : Nat
  first : Nat
  deriving DecidableEq, Repr

def EncodeFault.message (f : EncodeFault) : String :=
  "'utf-8' codec can't encode " ++
    (if f.length = 1 then
      "character '\\u" ++ String.ofList (Nat.toDigits 16 f.first) ++ "' in position " ++
        f.start.repr
    else "characters in position " ++ f.start.repr ++ "-" ++ (f.start + f.length - 1).repr) ++
    ": surrogates not allowed"

def encodeFault? (s : String) : Option EncodeFault :=
  match s.toList.dropWhile (!isStandIn ·) with
  | [] => none
  | c :: cs => some
    { start := (s.toList.takeWhile (!isStandIn ·)).length
      length := ((c :: cs).takeWhile isStandIn).length
      first := 0xd800 + ((StandIns.unit? c).map Fin.val).getD 0 }

end Text

end FieldGuard
