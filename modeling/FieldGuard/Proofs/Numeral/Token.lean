import FieldGuard.Numeral
import Mathlib.Data.Nat.Digits.Defs

namespace FieldGuard.Numeral

def AreDigits (ds : List Char) : Prop := ds ≠ [] ∧ ∀ c ∈ ds, c.isDigit = true

def placeValue (ds : List Char) : Nat :=
  Nat.ofDigits 10 (ds.reverse.map fun c => c.toNat - '0'.toNat)

inductive Denotes : List Char → Int → Prop
  | unsigned {ds : List Char} (h : AreDigits ds) : Denotes ds (placeValue ds)
  | plus {ds : List Char} (h : AreDigits ds) : Denotes ('+' :: ds) (placeValue ds)
  | minus {ds : List Char} (h : AreDigits ds) : Denotes ('-' :: ds) (-(placeValue ds : Int))

def IsInteger (cs : List Char) : Prop := ∃ n, Denotes cs n

theorem placeValue_lt {ds : List Char} (h : ∀ c ∈ ds, c.isDigit = true) :
    placeValue ds < Nat.pow 10 ds.length := by
  have hd : ∀ n ∈ ds.reverse.map fun c => c.toNat - '0'.toNat, n < 10 := by
    intro n hn
    obtain ⟨c, hc, rfl⟩ := List.mem_map.mp hn
    have := Char.isDigit_iff_toNat.mp (h c (List.mem_reverse.mp hc))
    simp only [Char.reduceToNat] at this ⊢
    omega
  have hlt := Nat.ofDigits_lt_base_pow_length (by decide) hd
  rwa [List.length_map, List.length_reverse] at hlt

theorem pow_le_limit {k : Nat} (h : k ≤ digitLimit) : Nat.pow 10 k ≤ limit := by
  unfold limit
  generalize digitLimit = l at h
  exact Nat.pow_le_pow_right (by decide) h

theorem natAbs_signed (negative : Bool) (n : Nat) : (signed negative n).natAbs = n := by
  cases negative <;> simp [signed]

def digitCount (cs : List Char) : Nat := cs.countP Char.isDigit

theorem ofDigitChars_eq (ds : List Char) : Nat.ofDigitChars 10 ds 0 = placeValue ds := by
  induction ds with
  | nil => rfl
  | cons d ds ih =>
    have hl : Nat.ofDigits 10 [d.toNat - '0'.toNat] = d.toNat - '0'.toNat := by simp
    rw [Nat.ofDigitChars_cons, Nat.ofDigitChars_eq_ofDigitChars_zero, ih, Nat.mul_zero,
      Nat.zero_add, placeValue, placeValue, List.reverse_cons, List.map_append,
      Nat.ofDigits_append, List.map_singleton, hl, List.length_map, List.length_reverse,
      Nat.add_comm]

theorem splitSign_of_areDigits {ds : List Char} (h : AreDigits ds) :
    splitSign ds = (false, ds) := by
  cases ds with
  | nil => exact absurd rfl h.1
  | cons d ds => exact splitSign_of_isDigit (h.2 d (by simp)) ds

theorem areDigits_iff (ds : List Char) :
    AreDigits ds ↔ (!ds.isEmpty && ds.all Char.isDigit) = true := by
  simp [AreDigits]

theorem denotes_iff (cs : List Char) (n : Int) :
    Denotes cs n ↔
      isToken cs = true ∧ n = signed (splitSign cs).1 (placeValue (splitSign cs).2) := by
  rw [isToken, ← areDigits_iff]
  constructor
  · intro h
    cases h with
    | unsigned h =>
      rw [splitSign_of_areDigits h]
      exact ⟨h, rfl⟩
    | plus h => exact ⟨h, rfl⟩
    | minus h => exact ⟨h, rfl⟩
  · rintro ⟨h, rfl⟩
    cases cs with
    | nil => exact absurd rfl h.1
    | cons c cs =>
      by_cases hm : c = '-'
      · subst hm
        exact .minus h
      by_cases hp : c = '+'
      · subst hp
        exact .plus h
      have hs : splitSign (c :: cs) = (false, c :: cs) := by simp [splitSign, hm, hp]
      rw [hs] at h ⊢
      exact .unsigned h

theorem isInteger_iff (cs : List Char) : IsInteger cs ↔ isToken cs = true := by
  simp [IsInteger, denotes_iff]

instance (cs : List Char) : Decidable (IsInteger cs) :=
  decidable_of_iff (isToken cs = true) (isInteger_iff cs).symm

instance (cs : List Char) (n : Int) : Decidable (Denotes cs n) :=
  decidable_of_iff _ (denotes_iff cs n).symm

theorem denotes_unique {cs : List Char} {m n : Int} (hm : Denotes cs m) (hn : Denotes cs n) :
    m = n :=
  ((denotes_iff cs m).mp hm).2.trans ((denotes_iff cs n).mp hn).2.symm

theorem countP_of_areDigits {ds : List Char} (h : AreDigits ds) : digitCount ds = ds.length := by
  rw [digitCount, List.countP_eq_length]
  exact h.2

theorem digitCount_eq {cs : List Char} (h : IsInteger cs) :
    digitCount cs = (splitSign cs).2.length := by
  obtain ⟨n, h⟩ := h
  cases h with
  | unsigned h => rw [splitSign_of_areDigits h, countP_of_areDigits h]
  | plus h => exact countP_of_areDigits h
  | minus h => exact countP_of_areDigits h

theorem readToken_of_denotes {cs : List Char} {n : Int} (h : Denotes cs n) :
    readToken cs = if digitCount cs ≤ digitLimit then .ok (some n)
      else .error (.tooManyDigits (digitCount cs)) := by
  obtain ⟨ht, rfl⟩ := (denotes_iff cs n).mp h
  rw [readToken, if_pos ht, ofDigits, digitCount_eq ⟨_, h⟩]
  split
  · rw [ofDigitChars_eq]
    rfl
  · rfl

theorem readToken_eq_some_iff {cs : List Char} {n : Int} :
    readToken cs = .ok (some n) ↔ Denotes cs n ∧ digitCount cs ≤ digitLimit := by
  constructor
  · intro h
    by_cases hi : IsInteger cs
    · obtain ⟨m, hm⟩ := hi
      rw [readToken_of_denotes hm] at h
      split_ifs at h with hl
      cases h
      exact ⟨hm, hl⟩
    · rw [readToken, if_neg (mt (isInteger_iff cs).mpr hi)] at h
      cases h
  · rintro ⟨hd, hl⟩
    rw [readToken_of_denotes hd, if_pos hl]

theorem readToken_of_not_isInteger {cs : List Char} (h : ¬IsInteger cs) :
    readToken cs = .ok none := by
  rw [readToken, if_neg]
  rwa [isInteger_iff] at h

end FieldGuard.Numeral
