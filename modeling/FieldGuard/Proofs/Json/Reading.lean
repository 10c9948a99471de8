import FieldGuard.Json.Reader
import FieldGuard.Proofs.Numeral.Token
import Mathlib.Data.List.Forall2
import Mathlib.Data.List.TakeWhile

namespace FieldGuard.Json

def HoldsRun (cs : List Char) (n : Nat) : Prop :=
  ∃ ds, ds <:+: cs ∧ (∀ d ∈ ds, d.isDigit = true) ∧ ds.length = n

theorem HoldsRun.mono {cs cs' : List Char} {n : Nat} (h : HoldsRun cs n) (hs : cs <:+: cs') :
    HoldsRun cs' n := by
  obtain ⟨ds, hd, h⟩ := h
  exact ⟨ds, hd.trans hs, h⟩

def opens (cs : List Char) : Nat := cs.countP fun c => c == '[' || c == '\x7b'

theorem opens_le_of_suffix {cs cs' : List Char} (h : cs <:+ cs') : opens cs ≤ opens cs' :=
  h.sublist.countP_le

/-- What a reader makes of a text, with so many arrays and objects open at most: something and the
rest of the text, or else an error, which is about a number only if one has too many digits, and
about nesting only if more arrays and objects open. -/
inductive Reads {α : Type} (room : Nat) (cs : List Char) : Except Error (α × List Char) → Prop
  | ok {a : α} {rest : List Char} (hs : rest <:+ cs) : Reads room cs (.ok (a, rest))
  | tooLong {n : Nat} (h : HoldsRun cs n) (hn : Numeral.digitLimit < n) :
      Reads room cs (.error (.numeral (.tooManyDigits n)))
  | tooDeep {kind : Nest} (h : room < opens cs) : Reads room cs (.error (.tooDeep kind))
  | malformed {e : Error} (hn : ∀ e', e ≠ .numeral e') (hd : ∀ kind, e ≠ .tooDeep kind) :
      Reads room cs (.error e)

section Reads

variable {α β : Type} {room : Nat} {cs cs' : List Char} {r : Except Error (α × List Char)}

theorem Reads.mono (h : Reads room cs r) (hs : cs <:+ cs') : Reads room cs' r := by
  cases h with
  | ok hr => exact .ok (hr.trans hs)
  | tooLong h hn => exact .tooLong (h.mono hs.isInfix) hn
  | tooDeep h => exact .tooDeep (Nat.lt_of_lt_of_le h (opens_le_of_suffix hs))
  | malformed hn hd => exact .malformed hn hd

theorem Reads.bind {f : α × List Char → Except Error (β × List Char)} (h : Reads room cs r)
    (hf : ∀ a rest, Reads room rest (f (a, rest))) : Reads room cs (r >>= f) := by
  cases h with
  | ok hr => exact (hf _ _).mono hr
  | tooLong h hn => exact .tooLong h hn
  | tooDeep h => exact .tooDeep h
  | malformed hn hd => exact .malformed hn hd

theorem Reads.map {f : α → β} (h : Reads room cs r) :
    Reads room cs (r.map fun (a, rest) => (f a, rest)) := by
  cases h with
  | ok hr => exact .ok hr
  | tooLong h hn => exact .tooLong h hn
  | tooDeep h => exact .tooDeep h
  | malformed hn hd => exact .malformed hn hd

theorem Reads.of_skip (h : Reads room (skip cs) r) : Reads room cs r :=
  h.mono (List.dropWhile_suffix _)

theorem Reads.of_tail {c : Char} (h : Reads room cs r) : Reads room (c :: cs) r :=
  h.mono (List.suffix_cons c cs)

theorem Reads.of_open {c : Char} (hc : c = '[' ∨ c = '\x7b') (h : Reads room cs r) :
    Reads (room + 1) (c :: cs) r := by
  cases h with
  | ok hr => exact .ok (hr.trans (List.suffix_cons c cs))
  | tooLong h hn => exact .tooLong (h.mono (List.suffix_cons c cs).isInfix) hn
  | tooDeep h =>
    have ho : opens (c :: cs) = opens cs + 1 := by
      rcases hc with rfl | rfl <;> rw [opens, List.countP_cons_of_pos (by decide), opens]
    exact .tooDeep (by omega)
  | malformed hn hd => exact .malformed hn hd

end Reads

theorem Reads.addChar {room : Nat} {cs rest : List Char} {r : Reading (List Char)} (c : Char)
    (h : Reads room rest r) (hs : rest <:+ cs) : Reads room cs (addChar c r) :=
  h.map.mono hs

theorem reads_readText [StandIns] (room : Nat) (cs : List Char) :
    Reads room cs (readText cs) := by
  fun_induction readText cs with
  | case1 | case3 | case4 | case5 | case6 | case11 | case13 | case14 =>
    exact .malformed nofun nofun
  | case2 rest => exact .ok (List.suffix_cons _ rest)
  | case7 a b c d high _ _ a' b' c' d' e more low _ _ _ ih =>
    exact ih.addChar _ (List.suffix_append ['\\', 'u', a, b, c, d, '\\', 'u', a', b', c', d'] _)
  | case8 a b c d high _ _ a' b' c' d' e more low _ _ _ ih
  | case9 a b c d high _ _ more _ _ ih
  | case10 a b c d more high _ _ _ ih =>
    exact ih.addChar _ (List.suffix_append ['\\', 'u', a, b, c, d] _)
  | case12 c rest _ _ _ _ ih => exact ih.addChar _ (List.suffix_append ['\\', c] _)
  | case15 c rest _ _ _ _ _ ih => exact ih.addChar _ (List.suffix_cons c rest)

theorem splitRun?_eq_some {cs ds rest : List Char} (h : Binary64.splitRun? cs = some (ds, rest)) :
    ds ++ rest = cs ∧ ∀ d ∈ ds, d.isDigit = true := by
  rw [Binary64.splitRun?] at h
  split at h
  · cases h
  · rename_i d ds hd
    cases h
    rw [← hd]
    exact ⟨List.takeWhile_append_dropWhile, List.all_eq_true.mp List.all_takeWhile⟩

theorem splitWhole?_eq_some {cs ds rest : List Char} (h : splitWhole? cs = some (ds, rest)) :
    ds ++ rest = cs ∧ ∀ d ∈ ds, d.isDigit = true := by
  unfold splitWhole? at h
  split at h
  · cases h
    exact ⟨rfl, by simp⟩
  · exact splitRun?_eq_some h

theorem splitFraction_suffix (cs : List Char) : (Binary64.splitFraction cs).2 <:+ cs := by
  unfold Binary64.splitFraction
  split
  · rename_i rest
    cases hs : Binary64.splitRun? rest with
    | none => exact List.suffix_rfl
    | some p =>
      obtain ⟨rfl, -⟩ := splitRun?_eq_some hs
      exact List.suffix_append ('.' :: p.1) p.2
  · exact List.suffix_rfl

theorem splitExponent?_suffix {cs rest : List Char} {n : Int}
    (h : Binary64.splitExponent? cs = some (n, rest)) : rest <:+ cs := by
  unfold Binary64.splitExponent? at h
  split at h
  · split at h
    · rename_i e body _
      obtain ⟨⟨ds, after⟩, hs, ha⟩ := Option.map_eq_some_iff.mp h
      cases ha
      obtain ⟨hd, -⟩ := splitRun?_eq_some hs
      have hb : rest <:+ body := by
        revert hd
        split
        · rintro rfl
          exact List.suffix_append ('-' :: ds) rest
        · rintro rfl
          exact List.suffix_append ('+' :: ds) rest
        · rintro rfl
          exact List.suffix_append ds rest
      exact hb.trans (List.suffix_cons e body)
    · cases h
  · cases h

theorem ofDigits_cases (ds : List Char) :
    (∃ n, Numeral.ofDigits ds = .ok n) ∨
      Numeral.digitLimit < ds.length ∧
        Numeral.ofDigits ds = .error (.tooManyDigits ds.length) := by
  unfold Numeral.ofDigits
  split
  · exact .inl ⟨_, rfl⟩
  · rename_i hl
    exact .inr ⟨Nat.not_le.mp hl, rfl⟩

theorem reads_readNumber (room : Nat) (cs : List Char) : Reads room cs (readNumber cs) := by
  unfold readNumber
  split
  rename_i negative body hb
  have hb : body <:+ cs := by
    split at hb <;> cases hb
    · exact List.suffix_cons _ _
    · exact List.suffix_rfl
  split
  · exact .malformed nofun nofun
  · rename_i whole rest hw
    obtain ⟨rfl, hd⟩ := splitWhole?_eq_some hw
    have hrest : rest <:+ cs := (List.suffix_append whole rest).trans hb
    have hafter := (splitFraction_suffix rest).trans hrest
    split
    rename_i fraction after hf
    rw [hf] at hafter
    split
    · rename_i he
      exact .ok ((splitExponent?_suffix he).trans hafter)
    · split
      · obtain ⟨n, hn⟩ | ⟨hl, hn⟩ := ofDigits_cases whole <;> rw [hn]
        · exact .ok hafter
        · have hwhole := (List.prefix_append whole rest).isInfix.trans hb.isInfix
          exact .tooLong ⟨whole, hwhole, hd, rfl⟩ hl
      · exact .ok hafter

theorem readWord?_eq_some {cs rest : List Char} {v : Value} (h : readWord? cs = some (v, rest)) :
    rest <:+ cs := by
  obtain ⟨⟨w, v⟩, -, h⟩ := List.exists_of_findSome?_eq_some h
  obtain ⟨after, hp, h⟩ := Option.map_eq_some_iff.mp h
  cases h
  exact ⟨w.toList, List.isPrefixOf?_eq_some_iff_append_eq.mp hp⟩

section Values

variable [StandIns]

section Step

variable {fuel : Nat} (value : ∀ room cs, Reads room cs (readValue fuel room cs))
  (entries : ∀ room es cs, Reads room cs (readEntries fuel room es cs))
  (items : ∀ room vs cs, Reads room cs (readItems fuel room vs cs))

include entries items in
theorem reads_readValue_succ (room : Nat) (cs : List Char) :
    Reads room cs (readValue (fuel + 1) room cs) := by
  unfold readValue
  split
  · contradiction
  · rename_i rest _
    exact Reads.of_tail ((reads_readText _ rest).map (f := fun s => Value.text (String.ofList s)))
  · exact .tooDeep (by simp [opens])
  · rename_i rest hf
    cases hf
    refine Reads.of_open (.inr rfl) (Reads.of_skip ?_)
    split
    · rename_i hs
      rw [hs]
      exact .of_tail (.ok List.suffix_rfl)
    · exact entries _ [] _
  · exact .tooDeep (by simp [opens])
  · rename_i rest hf
    cases hf
    refine Reads.of_open (.inl rfl) (Reads.of_skip ?_)
    split
    · rename_i hs
      rw [hs]
      exact .of_tail (.ok List.suffix_rfl)
    · exact items _ [] _
  · split
    · rename_i hw
      exact .ok (readWord?_eq_some hw)
    · exact reads_readNumber _ _

include value entries in
theorem reads_readEntries_succ (room : Nat) (es : Entries Value Value) (cs : List Char) :
    Reads room cs (readEntries (fuel + 1) room es cs) := by
  unfold readEntries
  split
  · contradiction
  · rename_i rest hf
    cases hf
    refine Reads.of_tail ((reads_readText _ rest).bind fun key after => Reads.of_skip ?_)
    dsimp only
    split
    · rename_i hs
      rw [hs]
      refine Reads.of_tail (Reads.of_skip ((value _ _).bind fun v after => Reads.of_skip ?_))
      dsimp only
      split
      · rename_i hs
        rw [hs]
        exact .of_tail (.ok List.suffix_rfl)
      · rename_i hs
        rw [hs]
        exact .of_tail (.of_skip (entries _ _ _))
      · exact .malformed nofun nofun
    · exact .malformed nofun nofun
  · exact .malformed nofun nofun

include value items in
theorem reads_readItems_succ (room : Nat) (vs : List Value) (cs : List Char) :
    Reads room cs (readItems (fuel + 1) room vs cs) := by
  rw [readItems]
  refine (value _ cs).bind fun v after => Reads.of_skip ?_
  dsimp only
  split
  · rename_i hs
    rw [hs]
    exact .of_tail (.ok List.suffix_rfl)
  · rename_i hs
    rw [hs]
    exact .of_tail (.of_skip (items _ _ _))
  · exact .malformed nofun nofun

end Step

theorem reads_fuel (fuel : Nat) :
    (∀ room cs, Reads room cs (readValue fuel room cs)) ∧
    (∀ room es cs, Reads room cs (readEntries fuel room es cs)) ∧
    (∀ room vs cs, Reads room cs (readItems fuel room vs cs)) := by
  -- The three readers call each other with less fuel, so one induction serves them all.
  induction fuel with
  | zero =>
    refine ⟨fun room cs => ?_, fun room es cs => ?_, fun room vs cs => ?_⟩
    · rw [readValue]
      exact .malformed nofun nofun
    · rw [readEntries]
      exact .malformed nofun nofun
    · rw [readItems]
      exact .malformed nofun nofun
  | succ fuel ih =>
    obtain ⟨value, entries, items⟩ := ih
    exact ⟨reads_readValue_succ entries items, reads_readEntries_succ value entries,
      reads_readItems_succ value items⟩

theorem read_cases (room : Nat) (cs : List Char) :
    (∃ v, read room cs = .ok v) ∨
      (∃ n, read room cs = .error (.numeral (.tooManyDigits n)) ∧
        HoldsRun cs n ∧ Numeral.digitLimit < n) ∨
      (∃ kind, read room cs = .error (.tooDeep kind) ∧ room < opens cs) ∨
      ∃ e, read room cs = .error e ∧ (∀ e', e ≠ .numeral e') ∧ ∀ kind, e ≠ .tooDeep kind := by
  rw [read]
  split
  · exact .inr (.inr (.inr ⟨_, rfl, nofun, nofun⟩))
  · have hr := Reads.of_skip ((reads_fuel (2 * cs.length + 2)).1 room (skip cs))
    generalize readValue (2 * cs.length + 2) room (skip cs) = r at hr
    cases hr with
    | @ok v rest hs =>
      by_cases h : skip rest = []
      · exact .inl ⟨v, if_pos h⟩
      · exact .inr (.inr (.inr ⟨.extraData, if_neg h, nofun, nofun⟩))
    | @tooLong n h hn => exact .inr (.inl ⟨n, rfl, h, hn⟩)
    | @tooDeep kind h => exact .inr (.inr (.inl ⟨kind, rfl, h⟩))
    | @malformed e hn hd => exact .inr (.inr (.inr ⟨e, rfl, hn, hd⟩))

theorem readValue_brackets {fuel room n : Nat} (hf : 2 * n ≤ fuel) (hn : room < n) :
    readValue fuel room (List.replicate n '[') = .error (.tooDeep .array) := by
  induction n generalizing fuel room with
  | zero => exact absurd hn (Nat.not_lt_zero room)
  | succ n ih =>
    obtain ⟨fuel, rfl⟩ := Nat.exists_eq_add_of_le' (show 2 ≤ fuel by omega)
    cases room with
    | zero => rw [List.replicate_succ, readValue]
    | succ room =>
      have hs : skip (List.replicate n '[') = List.replicate n '[' := by
        cases n with
        | zero => rfl
        | succ n => exact List.dropWhile_cons_of_neg (by decide)
      have hr := @ih fuel room (by omega) (by omega)
      rw [List.replicate_succ, readValue, hs]
      cases n with
      | zero => omega
      | succ n =>
        rw [List.replicate_succ] at hr ⊢
        show readItems (fuel + 1) room [] ('[' :: List.replicate n '[') = _
        rw [readItems, hr]
        rfl

theorem read_brackets {room n : Nat} (hn : room < n) :
    read room (List.replicate n '[') = .error (.tooDeep .array) := by
  obtain ⟨n, rfl⟩ := Nat.exists_eq_add_of_le' (Nat.lt_of_le_of_lt (Nat.zero_le room) hn)
  have hs : skip (List.replicate (n + 1) '[') = List.replicate (n + 1) '[' :=
    List.dropWhile_cons_of_neg (by decide)
  have hb : (List.replicate (n + 1) '[').head? ≠ some '\ufeff' := by
    rw [List.replicate_succ]
    exact nofun
  rw [read, if_neg hb, hs, readValue_brackets (by rw [List.length_replicate]; omega) hn]
  rfl

end Values

section Digits

variable {ds : List Char} (h : Numeral.AreDigits ds)
include h

theorem ne_cons_of_areDigits {c : Char} (hc : c.isDigit = false) (cs : List Char) :
    ds ≠ c :: cs := by
  rintro rfl
  rw [h.2 c List.mem_cons_self] at hc
  cases hc

theorem skip_of_areDigits : skip ds = ds := by
  rw [skip, List.dropWhile_eq_self_iff]
  intro hl hs
  have hd := h.2 _ (List.getElem_mem hl)
  simp only [isSpace, Bool.or_eq_true, beq_iff_eq] at hs
  rcases hs with ((hs | hs) | hs) | hs <;>
  · rw [hs] at hd
    revert hd
    decide

theorem readWord?_of_areDigits : readWord? ds = none := by
  have hw : ∀ p ∈ words, ∃ c ∈ p.1.toList, c.isDigit = false := by simp [words]
  rw [readWord?, List.findSome?_eq_none_iff]
  intro p hm
  obtain ⟨c, hc, hd⟩ := hw p hm
  rw [Option.map_eq_none_iff, Option.eq_none_iff_forall_ne_some]
  intro rest hp
  rw [List.isPrefixOf?_eq_some_iff_append_eq] at hp
  have := h.2 c (hp ▸ List.mem_append_left _ hc)
  rw [hd] at this
  cases this

variable (hz : ds.head? ≠ some '0')
include hz

theorem splitWhole?_of_areDigits : splitWhole? ds = some (ds, []) := by
  unfold splitWhole?
  split
  · exact absurd rfl hz
  · have ht : ds.takeWhile Char.isDigit = ds := List.takeWhile_eq_self_iff.mpr h.2
    have hr : ds.dropWhile Char.isDigit = [] := List.dropWhile_eq_nil_iff.mpr h.2
    rw [Binary64.splitRun?, ht, hr]
    cases ds with
    | nil => exact absurd rfl h.1
    | cons d ds => rfl

variable (hl : Numeral.digitLimit < ds.length)
include hl

theorem readNumber_of_areDigits :
    readNumber ds = .error (.numeral (.tooManyDigits ds.length)) := by
  unfold readNumber
  split
  rename_i negative body hb
  split at hb
  · exact absurd rfl (ne_cons_of_areDigits h (by decide) _)
  · cases hb
    rw [splitWhole?_of_areDigits h hz]
    simp only [Binary64.splitFraction, Binary64.splitExponent?, List.isEmpty_nil, ↓reduceIte,
      Numeral.ofDigits, Nat.not_le.mpr hl]

theorem read_of_areDigits [StandIns] (room : Nat) :
    read room ds = .error (.numeral (.tooManyDigits ds.length)) := by
  have hv (fuel : Nat) :
      readValue (fuel + 1) room ds = .error (.numeral (.tooManyDigits ds.length)) := by
    unfold readValue
    split
    · contradiction
    · exact absurd rfl (ne_cons_of_areDigits h (by decide) _)
    · exact absurd rfl (ne_cons_of_areDigits h (by decide) _)
    · exact absurd rfl (ne_cons_of_areDigits h (by decide) _)
    · exact absurd rfl (ne_cons_of_areDigits h (by decide) _)
    · exact absurd rfl (ne_cons_of_areDigits h (by decide) _)
    · rw [readWord?_of_areDigits h]
      exact readNumber_of_areDigits h hz hl
  have hb : ds.head? ≠ some '\ufeff' := by
    intro hb
    obtain ⟨cs, hcs⟩ := List.head?_eq_some_iff.mp hb
    exact ne_cons_of_areDigits h (by decide) cs hcs
  rw [read, if_neg hb, skip_of_areDigits h, hv]
  rfl

end Digits

end FieldGuard.Json
