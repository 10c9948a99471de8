import FieldGuard.Text.Hex

/-!
Strict reading of UTF-8: no overlong forms, no surrogates, nothing beyond U+10FFFF. The error names
the bytes that were read in vain.
-/

namespace FieldGuard.Text.Utf8

inductive Reason where
  | invalidStart
  | invalidContinuation
  | unexpectedEnd
  deriving DecidableEq, Repr

def Reason.text : Reason → String
  | .invalidStart => "invalid start byte"
  | .invalidContinuation => "invalid continuation byte"
  | .unexpectedEnd => "unexpected end of data"

structure Error where
  byte : UInt8
  position : Nat
  count : Nat
  reason : Reason
  deriving DecidableEq, Repr

def Error.message (e : Error) : String :=
  "'utf-8' codec can't decode " ++
    (if e.count = 1 then
      "byte 0x" ++ String.ofList (hex 2 e.byte.toNat) ++ " in position " ++ e.position.repr
    else
      "bytes in position " ++ e.position.repr ++ "-" ++ (e.position + e.count - 1).repr) ++
    ": " ++ e.reason.text

/-- What the first byte of a character asks for: how many bytes follow it, and between which bounds
the first of them lies. -/
structure Form where
  following : Nat
  low : Nat
  high : Nat

def form? (b : Nat) : Option Form :=
  if 0xc2 ≤ b ∧ b ≤ 0xdf then some ⟨1, 0x80, 0xbf⟩
  else if b = 0xe0 then some ⟨2, 0xa0, 0xbf⟩
  else if b = 0xed then some ⟨2, 0x80, 0x9f⟩
  else if 0xe1 ≤ b ∧ b ≤ 0xef then some ⟨2, 0x80, 0xbf⟩
  else if b = 0xf0 then some ⟨3, 0x90, 0xbf⟩
  else if 0xf1 ≤ b ∧ b ≤ 0xf3 then some ⟨3, 0x80, 0xbf⟩
  else if b = 0xf4 then some ⟨3, 0x80, 0x8f⟩
  else none

def leadBits (b following : Nat) : Nat := b % Nat.pow 2 (6 - following)

def continue? (read count : Nat) : Nat → Nat → Nat → List UInt8 →
    Except (Nat × Reason) (Nat × List UInt8)
  | 0, _, _, bs => .ok (read, bs)
  | _ + 1, _, _, [] => .error (count, .unexpectedEnd)
  | following + 1, low, high, b :: bs =>
    if low ≤ b.toNat ∧ b.toNat ≤ high then
      continue? (read * 64 + b.toNat % 64) (count + 1) following 0x80 0xbf bs
    else .error (count, .invalidContinuation)

theorem length_of_continue? {read count following low high : Nat} {bs rest : List UInt8} {n : Nat}
    (h : continue? read count following low high bs = .ok (n, rest)) :
    rest.length ≤ bs.length := by
  induction following generalizing read count low high bs with
  | zero =>
    simp only [continue?, Except.ok.injEq, Prod.mk.injEq] at h
    simp [h.2]
  | succ k ih =>
    cases bs with
    | nil => simp [continue?] at h
    | cons b bs =>
      simp only [continue?] at h
      split at h
      · have := ih h
        simp only [List.length_cons]
        omega
      · simp at h

def decodeFrom (position : Nat) (bs : List UInt8) : Except Error (List Char) :=
  match bs with
  | [] => .ok []
  | b :: rest =>
    if b.toNat < 0x80 then
      (decodeFrom (position + 1) rest).map (Char.ofNat b.toNat :: ·)
    else
      match form? b.toNat with
      | none => .error ⟨b, position, 1, .invalidStart⟩
      | some form =>
        match h : continue? (leadBits b.toNat form.following) 1 form.following form.low form.high
            rest with
        | .error (count, reason) => .error ⟨b, position, count, reason⟩
        | .ok (n, after) =>
          (decodeFrom (position + form.following + 1) after).map (Char.ofNat n :: ·)
termination_by bs.length
decreasing_by
  · simp
  · have := length_of_continue? h
    simp only [List.length_cons]
    omega

def decode (bs : List UInt8) : Except Error (List Char) := decodeFrom 0 bs

end FieldGuard.Text.Utf8
