import FieldGuard.Json.Reader
import FieldGuard.Json.Writer

namespace FieldGuard

namespace Text

open Nat (digitChar)

theorem hex_succ (w n : Nat) :
    hex (w + 2) n = hex (w + 1) (n / 16) ++ [digitChar (n % 16)] := by
  unfold hex
  by_cases hn : n < 16
  · have hq : n / 16 = 0 := Nat.div_eq_of_lt hn
    have hz : Nat.toDigits 16 0 = ['0'] := rfl
    rw [Nat.toDigits_of_lt_base hn, Nat.mod_eq_of_lt hn, hq, hz]
    simp only [List.length_singleton, Nat.add_sub_cancel]
    rw [show w + 2 - 1 = w + 1 from rfl, List.replicate_succ']
  · have hd : Nat.toDigits 16 n = Nat.toDigits 16 (n / 16) ++ [digitChar (n % 16)] := by
      rw [Nat.toDigits_eq_if (by decide), if_neg hn]
    have hl : w + 2 - ((Nat.toDigits 16 (n / 16)).length + 1) =
        w + 1 - (Nat.toDigits 16 (n / 16)).length := by omega
    rw [hd]
    simp only [List.length_append, List.length_singleton, hl, List.append_assoc]

theorem hex_one {n : Nat} (h : n < 16) : hex 1 n = [digitChar n] := by
  unfold hex
  rw [Nat.toDigits_of_lt_base h]
  rfl

theorem hex_four {n : Nat} (h : n < 0x10000) : hex 4 n =
    [digitChar (n / 0x1000), digitChar (n / 0x100 % 16), digitChar (n / 0x10 % 16),
      digitChar (n % 16)] := by
  have h1 : n / 16 / 16 / 16 = n / 0x1000 := by omega
  have h2 : n / 16 / 16 = n / 0x100 := by omega
  rw [hex_succ, hex_succ, hex_succ, h1, h2, hex_one (by omega)]
  rfl

end Text

namespace Json

open Text

theorem toNat_lt (c : Char) : c.toNat < 0x110000 := by
  have h : c.toNat.isValidChar := c.valid
  unfold Nat.isValidChar at h
  omega

theorem escapeUnits_of_lt {c : Char} (h : c.toNat < 0x10000) :
    escapeUnits c = '\\' :: 'u' :: hex 4 c.toNat := if_pos h

theorem escapeUnits_of_le {c : Char} (h : 0x10000 ≤ c.toNat) : ∃ high low,
    0xd800 ≤ high ∧ high ≤ 0xdbff ∧ 0xdc00 ≤ low ∧ low ≤ 0xdfff ∧
      0x10000 + (high - 0xd800) * 0x400 + (low - 0xdc00) = c.toNat ∧
      escapeUnits c = '\\' :: 'u' :: hex 4 high ++ '\\' :: 'u' :: hex 4 low := by
  have hc := toNat_lt c
  refine ⟨0xd800 + (c.toNat - 0x10000) / 0x400, 0xdc00 + (c.toNat - 0x10000) % 0x400,
    ?_, ?_, ?_, ?_, ?_, if_neg (by omega)⟩ <;> omega

def IsWritten (c : Char) : Prop := c = '\n' ∨ ' ' ≤ c ∧ c ≤ '~'

instance (c : Char) : Decidable (IsWritten c) := inferInstanceAs (Decidable (_ ∨ _))

theorem isWritten_digitChar {d : Nat} (h : d < 16) : IsWritten d.digitChar := by
  have : ∀ d : Fin 16, IsWritten d.val.digitChar := by decide
  exact this ⟨d, h⟩

theorem isWritten_unit {n : Nat} (h : n < 0x10000) :
    ∀ x ∈ '\\' :: 'u' :: hex 4 n, IsWritten x := by
  rw [hex_four h]
  simp only [List.forall_mem_cons]
  exact ⟨by decide, by decide, isWritten_digitChar (by omega), isWritten_digitChar (by omega),
    isWritten_digitChar (by omega), isWritten_digitChar (by omega), nofun⟩

theorem isWritten_escapeUnits (c : Char) : ∀ x ∈ escapeUnits c, IsWritten x := by
  by_cases h : c.toNat < 0x10000
  · rw [escapeUnits_of_lt h]
    exact isWritten_unit h
  · obtain ⟨high, low, -, hh, -, hl, -, he⟩ := escapeUnits_of_le (Nat.not_lt.mp h)
    rw [he]
    intro x hx
    rcases List.mem_append.mp hx with hx | hx
    · exact isWritten_unit (by omega) x hx
    · exact isWritten_unit (by omega) x hx

theorem isWritten_escapeChar (c : Char) : ∀ x ∈ escapeChar c, IsWritten x := by
  have hpair (d : Char) (hd : IsWritten d) : ∀ x ∈ ['\\', d], IsWritten x := by
    simp only [List.forall_mem_cons]
    exact ⟨by decide, hd, nofun⟩
  unfold escapeChar
  iterate 7
    split
    · exact hpair _ (by decide)
  split
  · rename_i h
    intro x hx
    rw [List.mem_singleton.mp hx]
    exact .inr h
  · exact isWritten_escapeUnits c

theorem isWritten_writeText (s : String) : ∀ x ∈ writeText s, IsWritten x := by
  intro x hx
  rw [writeText, List.mem_append, List.mem_cons, List.mem_flatMap, List.mem_singleton] at hx
  rcases hx with (rfl | ⟨c, -, hx⟩) | rfl
  · decide
  · exact isWritten_escapeChar c x hx
  · decide

theorem hex4?_digits {n : Nat} (h : n < 0x10000) : hex4? (n / 0x1000).digitChar
    (n / 0x100 % 16).digitChar (n / 0x10 % 16).digitChar (n % 16).digitChar = some n := by
  have ha : n / 0x1000 < 16 := by omega
  have hb : n / 0x100 % 16 < 16 := by omega
  have hc : n / 0x10 % 16 < 16 := by omega
  have hd : n % 16 < 16 := by omega
  have hn : n / 0x1000 * 0x1000 + n / 0x100 % 16 * 0x100 + n / 0x10 % 16 * 0x10 + n % 16 = n := by
    omega
  simp only [hex4?, hexValue?_digitChar, ha, hb, hc, hd]
  exact congrArg some hn

variable [StandIns]

theorem readText_quote (rest : List Char) : readText ('"' :: rest) = .ok ([], rest) := by
  rw [readText]

theorem readText_plain {c : Char} (hq : c ≠ '"') (hb : c ≠ '\\') (hc : 0x20 ≤ c.toNat)
    (rest : List Char) : readText (c :: rest) = addChar c (readText rest) := by
  rw [readText, if_neg (by omega)]
  all_goals simp [hq, hb]

theorem readText_named {c d : Char} (h : unescape? c = some d) (rest : List Char) :
    readText ('\\' :: c :: rest) = addChar d (readText rest) := by
  have hu : c ≠ 'u' := by
    rintro rfl
    cases h
  rw [readText, if_neg hu, h]
  all_goals simp [hu]

theorem readText_unit {n : Nat} (hn : n < 0x10000) (hh : isHigh n = false) {rest : List Char}
    (hr : rest ≠ []) :
    readText ('\\' :: 'u' :: hex 4 n ++ rest) = addChar (unitChar n) (readText rest) := by
  obtain ⟨e, more, rfl⟩ := List.exists_cons_of_ne_nil hr
  have hx := hex4?_digits hn
  rw [hex_four hn]
  simp only [List.cons_append, List.nil_append]
  rw [readText.eq_def]
  simp [hx, hh]

theorem readText_pair {high low : Nat} (hh : 0xd800 ≤ high ∧ high ≤ 0xdbff)
    (hl : 0xdc00 ≤ low ∧ low ≤ 0xdfff) {rest : List Char} (hr : rest ≠ []) :
    readText ('\\' :: 'u' :: hex 4 high ++ '\\' :: 'u' :: hex 4 low ++ rest) =
      addChar (pairChar high low) (readText rest) := by
  obtain ⟨e, more, rfl⟩ := List.exists_cons_of_ne_nil hr
  have hx := hex4?_digits (n := high) (by omega)
  have hy := hex4?_digits (n := low) (by omega)
  have hhigh : isHigh high = true := decide_eq_true hh
  have hlow : isLow low = true := decide_eq_true hl
  rw [hex_four (n := high) (by omega), hex_four (n := low) (by omega)]
  simp only [List.cons_append, List.nil_append]
  rw [readText.eq_def]
  simp [hx, hy, hhigh, hlow]

theorem readText_escapeUnits (c : Char) {rest : List Char} (hr : rest ≠ []) :
    readText (escapeUnits c ++ rest) = addChar c (readText rest) := by
  by_cases h : c.toNat < 0x10000
  · have hv : c.toNat.isValidChar := c.valid
    have hh : isHigh c.toNat = false := by
      unfold Nat.isValidChar at hv
      unfold isHigh
      rw [decide_eq_false_iff_not]
      omega
    have hl : isLow c.toNat = false := by
      unfold Nat.isValidChar at hv
      unfold isLow
      rw [decide_eq_false_iff_not]
      omega
    have hu : unitChar c.toNat = c := by
      rw [unitChar, hh, hl]
      exact Char.ofNat_toNat c
    rw [escapeUnits_of_lt h, readText_unit h hh hr, hu]
  · obtain ⟨high, low, hh, hh', hl, hl', hn, he⟩ := escapeUnits_of_le (Nat.not_lt.mp h)
    have hp : pairChar high low = c := by
      rw [pairChar, hn]
      exact Char.ofNat_toNat c
    rw [he, readText_pair ⟨hh, hh'⟩ ⟨hl, hl'⟩ hr, hp]

theorem readText_escapeChar (c : Char) {rest : List Char} (hr : rest ≠ []) :
    readText (escapeChar c ++ rest) = addChar c (readText rest) := by
  unfold escapeChar
  iterate 7
    split
    · subst c
      exact readText_named rfl rest
  split
  · rename_i hq hb _ _ _ _ _ hc
    exact readText_plain hq hb hc.1 rest
  · exact readText_escapeUnits c hr

theorem readText_escaped (cs rest : List Char) :
    readText (cs.flatMap escapeChar ++ '"' :: rest) = .ok (cs, rest) := by
  induction cs with
  | nil => exact readText_quote rest
  | cons c cs ih =>
    rw [List.flatMap_cons, List.append_assoc, readText_escapeChar c (by simp), ih]
    rfl

end Json

end FieldGuard
