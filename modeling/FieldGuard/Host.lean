import FieldGuard.Schema.Offence
import FieldGuard.Text.StandIn
import FieldGuard.TypeHint.Resolution

/-!
The host: everything outside of the library that decides what its functions give. Statements are
about every host; runs take the standard one.
-/

namespace FieldGuard

class Host extends DepthLimit, StandIns, TypeHint.Evaluator, Document.Checker

namespace Host

def standardLimit : Nat := 960

def firstStandIn : Nat := 0xf0000

def standInUnit? (c : Char) : Option (Fin 0x800) :=
  if h : firstStandIn ≤ c.toNat ∧ c.toNat - firstStandIn < 0x800 then
    some ⟨c.toNat - firstStandIn, h.2⟩
  else none

def standInChar (u : Fin 0x800) : Char := Char.ofNat (firstStandIn + u)

theorem toNat_standInChar (u : Fin 0x800) : (standInChar u).toNat = firstStandIn + u := by
  have hu : (firstStandIn + u.val).isValidChar := by
    simp only [Nat.isValidChar, firstStandIn]
    omega
  rw [standInChar, Char.ofNat, dif_pos hu]
  rfl

theorem standInChar_eq_iff (u : Fin 0x800) (c : Char) :
    some (standInChar u) = some c ↔ standInUnit? c = some u := by
  rw [Option.some_inj, standInUnit?]
  constructor
  · rintro rfl
    simp [toNat_standInChar]
  · intro h
    split at h
    · next hc =>
      rw [← Option.some.inj h]
      have hn := toNat_standInChar ⟨c.toNat - firstStandIn, hc.2⟩
      rw [Nat.add_sub_of_le hc.1] at hn
      exact Char.ext (UInt32.toNat_inj.mp hn)
    · cases h

theorem le_of_standInUnit? {c : Char} (h : (standInUnit? c).isSome = true) :
    firstStandIn ≤ c.toNat := by
  rw [standInUnit?] at h
  split at h
  · next hc => exact hc.1
  · cases h

instance standard : Host where
  limit _ := standardLimit
  le_limit _ := by decide
  unit? := standInUnit?
  char? u := some (standInChar u)
  char?_eq_some_iff := standInChar_eq_iff
  isPrivate := le_of_standInUnit?
  toEvaluator := .interpreter
  toChecker := .gathering standardLimit

end Host

end FieldGuard
