import FieldGuard.Proofs.Tag.Reading

namespace FieldGuard

namespace Numeral

variable {t : List Char} {n : Int}

theorem ne_nil_of_denotes (h : Denotes t n) : t ≠ [] := by
  cases h with
  | unsigned hd => exact hd.1
  | plus | minus => exact List.cons_ne_nil _ _

theorem comma_not_mem_of_denotes (h : Denotes t n) : ',' ∉ t := by
  have hdigits {ds : List Char} (hd : AreDigits ds) : ',' ∉ ds := by
    intro hm
    exact absurd (hd.2 _ hm) (by decide)
  cases h with
  | unsigned hd => exact hdigits hd
  | plus hd | minus hd => simp [hdigits hd]

theorem denotes_decimal (n : Int) : Denotes (decimal n) n := by
  have hd : AreDigits (digits n.natAbs) := ⟨digits_ne_nil _, fun c hc => digits_isDigit hc⟩
  have hv : placeValue (digits n.natAbs) = n.natAbs := by
    rw [← ofDigitChars_eq, digits, Nat.toList_repr]
    simp
  rw [denotes_iff, isToken_decimal, splitSign_decimal, hv, signed_natAbs]
  exact ⟨rfl, rfl⟩

theorem digitCount_decimal_le_iff (n : Int) :
    digitCount (decimal n) ≤ digitLimit ↔ n.natAbs < limit := by
  have hcount : digitCount (decimal n) = (digits n.natAbs).length := by
    rw [digitCount_eq ⟨n, denotes_decimal n⟩, splitSign_decimal]
  have hlimit : (digits n.natAbs).length ≤ digitLimit ↔ n.natAbs < limit := by
    unfold limit
    exact length_digits_le_iff (by decide)
  simp only [hcount, hlimit]

structure Writes (t : List Char) (n : Int) : Prop where
  denotes : Denotes t n
  short : digitCount t ≤ digitLimit

theorem writes_decimal (h : n.natAbs < limit) : Writes (decimal n) n :=
  ⟨denotes_decimal n, (digitCount_decimal_le_iff n).mpr h⟩

theorem Writes.natAbs_lt (h : Writes t n) : n.natAbs < limit := by
  obtain ⟨ht, hv⟩ := (denotes_iff t n).mp h.denotes
  have hd : AreDigits (splitSign t).2 := (areDigits_iff _).mpr ht
  have hl := h.short
  rw [digitCount_eq ⟨n, h.denotes⟩] at hl
  rw [hv, natAbs_signed]
  exact (placeValue_lt hd.2).trans_le (pow_le_limit hl)

end Numeral

namespace Tag

open Numeral (IsInteger Writes digitCount digitLimit)

variable {kind : Kind} {tag : String} {f : Family} {tokens : List (List Char)} {c : Constraint}
  {r : Constraint.Row}

def ofParts (f : Family) (tokens : List (List Char)) : String :=
  String.ofList (f.lead.toList ++ [','].intercalate tokens)

theorem write_eq (c : Constraint) : write c = ofParts c.family (arguments c) := rfl

theorem hasParts_ofParts (hc : ∀ t ∈ tokens, ',' ∉ t) (hf : tokens.headD [] ≠ []) :
    HasParts (ofParts f tokens) f tokens :=
  ⟨String.toList_ofList, hc, hf⟩

section Integers

variable {t u : List Char} {a b n : Int}

theorem hasParts_denotes {ts : List (List Char)} (ht : Numeral.Denotes t n)
    (hs : ∀ u ∈ ts, IsInteger u) : HasParts (ofParts f (t :: ts)) f (t :: ts) := by
  apply hasParts_ofParts
  · intro u hu
    rcases List.mem_cons.mp hu with rfl | hu
    · exact Numeral.comma_not_mem_of_denotes ht
    · obtain ⟨m, hm⟩ := hs u hu
      exact Numeral.comma_not_mem_of_denotes hm
  · exact Numeral.ne_nil_of_denotes ht

theorem parse_minimum (h : Writes t a) : parse (ofParts .minimum [t]) kind = .ok (.minimum a) := by
  have hp : HasParts (ofParts .minimum [t]) .minimum [t] := hasParts_denotes h.denotes (by simp)
  apply parse_of_means hp (.minimum [] h.denotes)
  simpa [integerTokens] using h.short

theorem parse_maximum (h : Writes t b) : parse (ofParts .maximum [t]) kind = .ok (.maximum b) := by
  have hp : HasParts (ofParts .maximum [t]) .maximum [t] := hasParts_denotes h.denotes (by simp)
  apply parse_of_means hp (.maximum [] h.denotes)
  simpa [integerTokens] using h.short

theorem parse_range (ha : Writes t a) (hb : Writes u b) :
    parse (ofParts .range [t, u]) kind = .ok (.range a b) := by
  have hu : ∀ v ∈ [u], IsInteger v := by simpa using ⟨b, hb.denotes⟩
  have hp : HasParts (ofParts .range [t, u]) .range [t, u] := hasParts_denotes ha.denotes hu
  apply parse_of_means hp (.range [] ha.denotes hb.denotes)
  simpa [integerTokens] using ⟨ha.short, hb.short⟩

theorem parse_length (hk : kind.isString = true) (h : Writes t n) (hn : 0 ≤ n) :
    parse (ofParts .length [t]) kind = .ok (.length n.toNat) := by
  have hp : HasParts (ofParts .length [t]) .length [t] := hasParts_denotes h.denotes (by simp)
  have hm : Means kind .length [t] (Constraint.length n.toNat).row := by
    have hm := Means.length [] hk h.denotes hn
    rwa [← Int.toNat_of_nonneg hn] at hm
  apply parse_of_means hp hm
  simpa [integerTokens, hk] using h.short

end Integers

theorem parse_values {first : String} {others : List String}
    (hc : ∀ w ∈ first :: others, ',' ∉ w.toList) (hf : first ≠ "")
    (hi : kind.isString = false →
      ∀ w ∈ first :: others, IsInteger w.toList ∧ digitCount w.toList ≤ digitLimit) :
    parse (write (.membership first others)) kind = .ok (.membership first others) := by
  have hp : HasParts (write (.membership first others)) .membership
      ((first :: others).map String.toList) := by
    apply hasParts_ofParts
    · intro t ht
      obtain ⟨w, hw, rfl⟩ := List.mem_map.mp ht
      exact hc w hw
    · exact mt String.toList_eq_nil_iff.mp hf
  have hm : Means kind .membership ((first :: others).map String.toList)
      (Constraint.membership first others).row := by
    have hv : ((first :: others).map String.toList).map String.ofList = first :: others := by
      simp [Function.comp_def]
    have hs : kind.isString = true ∨
        ∀ t ∈ (first :: others).map String.toList, IsInteger t := by
      cases hk : kind.isString with
      | true => exact .inl rfl
      | false =>
        refine .inr fun t ht => ?_
        obtain ⟨w, hw, rfl⟩ := List.mem_map.mp ht
        exact (hi hk w hw).1
    have hm := Means.membership hs
    rwa [hv] at hm
  apply parse_of_means hp hm
  intro t ht
  rw [integerTokens] at ht
  split_ifs at ht with hk
  · cases ht
  · obtain ⟨w, hw, rfl⟩ := List.mem_map.mp ht
    exact (hi (by simpa using hk) w hw).2

theorem parse_value {t : List Char} {n : Int} (h : Writes t n) (kind : Kind) :
    parse (ofParts .membership [t]) kind = .ok (.membership (String.ofList t) []) := by
  have hw : ofParts .membership [t] = write (.membership (String.ofList t) []) := by
    rw [write_eq, arguments, List.map_singleton, String.toList_ofList]
    rfl
  rw [hw]
  apply parse_values
  · simpa using Numeral.comma_not_mem_of_denotes h.denotes
  · rw [Ne, ← String.toList_eq_nil_iff, String.toList_ofList]
    exact Numeral.ne_nil_of_denotes h.denotes
  · intro _
    simpa using ⟨⟨n, h.denotes⟩, h.short⟩

end Tag

end FieldGuard
