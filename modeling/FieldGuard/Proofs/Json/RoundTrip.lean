import FieldGuard.Proofs.Entries
import FieldGuard.Proofs.Json.Escape
import FieldGuard.Proofs.Numeral.Token
import FieldGuard.Proofs.Traversal

namespace FieldGuard

namespace Json

/-- Values that JSON has itself, with so many lists and mappings open at most. Numbers that are not
whole are left out. -/
inductive IsJson : Nat → Value → Prop
  | null (room : Nat) : IsJson room .null
  | bool (room : Nat) (b : Bool) : IsJson room (.bool b)
  | int {n : Int} (room : Nat) (h : n.natAbs < Numeral.limit) : IsJson room (.int n)
  | text (room : Nat) (s : String) : IsJson room (.text s)
  | list {room : Nat} {items : List Value} (h : ∀ v ∈ items, IsJson room v) :
      IsJson (room + 1) (.list items)
  | keyed {room : Nat} {pairs : List (String × Value)} (hn : (pairs.map Prod.fst).Nodup)
      (h : ∀ p ∈ pairs, IsJson room p.2) : IsJson (room + 1) (.keyed pairs)

def Stops (rest : List Char) : Prop := ∀ c ∈ rest.head?, c = ',' ∨ c = '\n'

structure ReadsAs [StandIns] (room : Nat) (cs : List Char) (v : Value) : Prop where
  front : ∃ c more, cs = c :: more ∧ isSpace c = false ∧ c ≠ ']'
  reads : ∀ fuel rest, 2 * cs.length ≤ fuel → Stops rest →
    readValue fuel room (cs ++ rest) = .ok (v, rest)
  written : ∀ c ∈ cs, IsWritten c

theorem readsAs_of_succ [StandIns] {room : Nat} {cs : List Char} {v : Value}
    (hf : ∃ c more, cs = c :: more ∧ isSpace c = false ∧ c ≠ ']')
    (hr : ∀ fuel rest, 2 * cs.length ≤ fuel + 1 → Stops rest →
      readValue (fuel + 1) room (cs ++ rest) = .ok (v, rest))
    (hw : ∀ c ∈ cs, IsWritten c) : ReadsAs room cs v where
  front := hf
  reads fuel rest hl hs := by
    obtain ⟨c, more, rfl, -⟩ := hf
    cases fuel with
    | zero => simp at hl
    | succ fuel => exact hr fuel rest hl hs
  written := hw

theorem readWord?_word {w : String} {v : Value} (h : (w, v) ∈ words) (rest : List Char) :
    readWord? (w.toList ++ rest) = some (v, rest) := by
  simp only [words, List.mem_cons, Prod.mk.injEq, List.not_mem_nil, or_false] at h
  rcases h with ⟨rfl, rfl⟩ | ⟨rfl, rfl⟩ | ⟨rfl, rfl⟩ | ⟨rfl, rfl⟩ | ⟨rfl, rfl⟩ | ⟨rfl, rfl⟩ <;>
    simp [readWord?, words, List.isPrefixOf?]

theorem readValue_of_ne [StandIns] {c : Char} (hq : c ≠ '"') (ho : c ≠ '\x7b') (hl : c ≠ '[')
    (fuel room : Nat) (cs : List Char) : readValue (fuel + 1) room (c :: cs) =
      match readWord? (c :: cs) with
      | some r => .ok r
      | none => readNumber (c :: cs) := by
  unfold readValue
  split
  · contradiction
  · rename_i h
    exact absurd (List.cons.inj h).1 hq
  · rename_i h
    exact absurd (List.cons.inj h).1 ho
  · rename_i h
    exact absurd (List.cons.inj h).1 ho
  · rename_i h
    exact absurd (List.cons.inj h).1 hl
  · rename_i h
    exact absurd (List.cons.inj h).1 hl
  · rename_i hf _ _ _ _ _
    cases hf
    rfl

theorem readsAs_word [StandIns] (room : Nat) {w : String} {v : Value} (h : (w, v) ∈ words) :
    ReadsAs room w.toList v := by
  have hc : ∀ p ∈ words, ∃ c more, p.1.toList = c :: more ∧ isSpace c = false ∧ c ≠ ']' ∧
      c ≠ '"' ∧ c ≠ '\x7b' ∧ c ≠ '[' := by simp [words, isSpace]
  have hw : (words.all fun p => p.1.toList.all fun c => decide (IsWritten c)) = true := by decide
  obtain ⟨c, more, he, hs, hl, hn⟩ := hc _ h
  apply readsAs_of_succ
  · exact ⟨c, more, he, hs, hl⟩
  · intro fuel rest _ _
    have hr := readWord?_word h rest
    dsimp only at he
    rw [he] at hr ⊢
    rw [List.cons_append, readValue_of_ne hn.1 hn.2.1 hn.2.2, ← List.cons_append, hr]
  · intro x hx
    have ha := List.all_eq_true.mp hw _ h
    exact of_decide_eq_true (List.all_eq_true.mp ha x hx)

theorem writeBool_mem_words (b : Bool) : ∃ w, (w, .bool b) ∈ words ∧ writeBool b = w.toList := by
  cases b
  · exact ⟨"false", by simp [words], rfl⟩
  · exact ⟨"true", by simp [words], rfl⟩

theorem readsAs_text [StandIns] (room : Nat) (s : String) :
    ReadsAs room (writeText s) (.text s) := by
  apply readsAs_of_succ
  · exact ⟨'"', _, rfl, by decide, by decide⟩
  · intro fuel rest _ _
    have hw : writeText s ++ rest = '"' :: (s.toList.flatMap escapeChar ++ '"' :: rest) := by
      simp [writeText]
    rw [hw, readValue, readText_escaped]
    simp [Except.map]
  · exact isWritten_writeText s

theorem eq_nil_of_digits {n : Nat} {ds : List Char} (h : Numeral.digits n = '0' :: ds) :
    ds = [] := by
  have hn : Numeral.placeValue ('0' :: ds) = n := by
    rw [← h, ← Numeral.ofDigitChars_eq, Numeral.digits, Nat.toList_repr]
    exact Nat.ofDigitChars_ten_toDigits
  have hz : Numeral.placeValue ('0' :: ds) = Numeral.placeValue ds := by
    rw [← Numeral.ofDigitChars_eq, ← Numeral.ofDigitChars_eq, Nat.ofDigitChars_cons]
    rfl
  have hd : ∀ c ∈ ds, c.isDigit = true := fun c hc =>
    Numeral.digits_isDigit (n := n) (h ▸ List.mem_cons_of_mem _ hc)
  have hlt := Numeral.placeValue_lt hd
  by_contra hne
  have hl := (Numeral.length_digits_le_iff (List.length_pos_of_ne_nil hne)).mpr
    (show n < _ by omega)
  rw [h, List.length_cons] at hl
  omega

variable {rest : List Char} (hr : Stops rest)
include hr

theorem Stops.cases : rest = [] ∨ ∃ more, rest = ',' :: more ∨ rest = '\n' :: more := by
  cases rest with
  | nil => exact .inl rfl
  | cons c more =>
    rcases hr c rfl with rfl | rfl
    · exact .inr ⟨more, .inl rfl⟩
    · exact .inr ⟨more, .inr rfl⟩

theorem splitRun?_append {d : Char} {ds : List Char} (h : ∀ c ∈ d :: ds, c.isDigit = true) :
    Binary64.splitRun? (d :: ds ++ rest) = some (d :: ds, rest) := by
  have ht : rest.takeWhile Char.isDigit = [] ∧ rest.dropWhile Char.isDigit = rest := by
    rcases hr.cases with rfl | ⟨more, rfl | rfl⟩ <;> simp
  rw [Binary64.splitRun?, List.takeWhile_append_of_pos h, List.dropWhile_append_of_pos h, ht.1,
    ht.2, List.append_nil]

theorem splitWhole?_digits (n : Nat) :
    splitWhole? (Numeral.digits n ++ rest) = some (Numeral.digits n, rest) := by
  cases hd : Numeral.digits n with
  | nil => exact absurd hd (Numeral.digits_ne_nil n)
  | cons d ds =>
    by_cases hz : d = '0'
    · subst d
      rw [eq_nil_of_digits hd]
      rfl
    · have h : ∀ c ∈ d :: ds, c.isDigit = true := fun c hc =>
        Numeral.digits_isDigit (n := n) (hd ▸ hc)
      rw [← splitRun?_append hr h]
      unfold splitWhole?
      split
      · rename_i he
        cases he
        exact absurd rfl hz
      · rfl

theorem splitFraction_of_stops : Binary64.splitFraction rest = ([], rest) := by
  rcases hr.cases with rfl | ⟨more, rfl | rfl⟩ <;> rfl

theorem splitExponent?_of_stops : Binary64.splitExponent? rest = none := by
  rcases hr.cases with rfl | ⟨more, rfl | rfl⟩ <;> rfl

omit hr in
theorem digits_append_ne_minus (n : Nat) (cs : List Char) :
    Numeral.digits n ++ rest ≠ '-' :: cs := by
  cases hd : Numeral.digits n with
  | nil => exact absurd hd (Numeral.digits_ne_nil n)
  | cons d ds =>
    intro h
    have hm : d = '-' := (List.cons.inj h).1
    have := Numeral.digits_isDigit (n := n) (c := d) (by simp [hd])
    rw [hm] at this
    cases this

theorem readNumber_decimal {n : Int} (h : n.natAbs < Numeral.limit) :
    readNumber (Numeral.decimal n ++ rest) = .ok (.int n, rest) := by
  have hw := splitWhole?_digits hr n.natAbs
  have hf := splitFraction_of_stops hr
  have he := splitExponent?_of_stops hr
  have hd := Numeral.ofDigits_digits h
  have hs := Numeral.signed_natAbs n
  clear h
  unfold readNumber Numeral.decimal
  split
  rename_i negative body hb
  have hp : negative = decide (n < 0) ∧ body = Numeral.digits n.natAbs ++ rest := by
    by_cases hn : n < 0
    · rw [if_pos hn] at hb
      cases hb
      exact ⟨(decide_eq_true hn).symm, rfl⟩
    · rw [if_neg hn] at hb
      split at hb
      · rename_i he
        exact absurd he (digits_append_ne_minus _ _)
      · cases hb
        exact ⟨(decide_eq_false hn).symm, rfl⟩
  obtain ⟨rfl, rfl⟩ := hp
  simp only [hw, hf, he, hd]
  simp [hs]

omit hr in
variable (rest) in
theorem readWord?_decimal (n : Int) : readWord? (Numeral.decimal n ++ rest) = none := by
  have hw : ∀ p ∈ words, ∃ c cs, p.1.toList = c :: cs ∧ c.isDigit = false ∧
      (c = '-' → ∃ d ds, cs = d :: ds ∧ d.isDigit = false) := by simp [words]
  have hd : ∃ d ds, Numeral.digits n.natAbs = d :: ds ∧ d.isDigit = true := by
    cases hd : Numeral.digits n.natAbs with
    | nil => exact absurd hd (Numeral.digits_ne_nil _)
    | cons d ds => exact ⟨d, ds, rfl, Numeral.digits_isDigit (n := n.natAbs) (by simp [hd])⟩
  obtain ⟨d, ds, hd, hdigit⟩ := hd
  rw [readWord?, List.findSome?_eq_none_iff]
  rintro ⟨w, v⟩ hm
  obtain ⟨c, cs, he, hc, hminus⟩ := hw _ hm
  dsimp only at he ⊢
  rw [he, Option.map_eq_none_iff, Option.eq_none_iff_forall_ne_some, Numeral.decimal, hd]
  intro after hp
  rw [List.isPrefixOf?_eq_some_iff_append_eq] at hp
  split at hp
  · obtain ⟨rfl, ht⟩ := List.cons.inj hp
    obtain ⟨d', ds', rfl, hd'⟩ := hminus rfl
    obtain ⟨rfl, -⟩ := List.cons.inj ht
    rw [hdigit] at hd'
    cases hd'
  · obtain ⟨rfl, -⟩ := List.cons.inj hp
    rw [hdigit] at hc
    cases hc

omit hr

theorem front_of_decimal {c : Char} (h : c = '-' ∨ c.isDigit = true) :
    isSpace c = false ∧ c ≠ ']' ∧ c ≠ '"' ∧ c ≠ '\x7b' ∧ c ≠ '[' ∧ IsWritten c := by
  rcases h with rfl | h
  · decide
  · have hne : ∀ x : Char, x.isDigit = false → c ≠ x := by
      rintro x hx rfl
      rw [h] at hx
      cases hx
    have hs : isSpace c = false := by
      simp [isSpace, hne ' ' rfl, hne '\t' rfl, hne '\n' rfl, hne '\r' rfl]
    have hc := Char.isDigit_iff_toNat.mp h
    have hw : 0x20 ≤ c.toNat ∧ c.toNat ≤ 0x7e := by
      simp only [Char.reduceToNat] at hc
      omega
    exact ⟨hs, hne _ rfl, hne _ rfl, hne _ rfl, hne _ rfl, .inr hw⟩

theorem readsAs_decimal [StandIns] (room : Nat) {n : Int} (h : n.natAbs < Numeral.limit) :
    ReadsAs room (Numeral.decimal n) (.int n) := by
  have hc : ∀ c ∈ Numeral.decimal n, c = '-' ∨ c.isDigit = true := by
    unfold Numeral.decimal
    intro c hc
    split at hc
    · exact (List.mem_cons.mp hc).imp_right fun hc => Numeral.digits_isDigit hc
    · exact .inr (Numeral.digits_isDigit hc)
  have hne : Numeral.decimal n ≠ [] := by
    unfold Numeral.decimal
    split
    · simp
    · exact Numeral.digits_ne_nil _
  obtain ⟨c, more, he⟩ := List.exists_cons_of_ne_nil hne
  obtain ⟨hs, hl, hq, ho, hb, -⟩ := front_of_decimal (hc c (by simp [he]))
  apply readsAs_of_succ
  · exact ⟨c, more, he, hs, hl⟩
  · intro fuel rest _ hr
    have hw := readWord?_decimal rest n
    have hn := readNumber_decimal hr h
    rw [he, List.cons_append] at hw hn ⊢
    rw [readValue_of_ne hq ho hb, hw]
    exact hn
  · exact fun c hm => (front_of_decimal (hc c hm)).2.2.2.2.2

theorem newLine_cases {depth : Nat} {c : Char} (h : c ∈ newLine depth) : c = '\n' ∨ c = ' ' := by
  rw [newLine, List.mem_cons, List.mem_replicate] at h
  exact h.imp_right And.right

theorem skip_newLine (depth : Nat) (cs : List Char) : skip (newLine depth ++ cs) = skip cs := by
  have h : ∀ c ∈ newLine depth, isSpace c = true := by
    intro c hc
    rcases newLine_cases hc with rfl | rfl <;> decide
  rw [skip, List.dropWhile_append_of_pos h]
  rfl

theorem isWritten_newLine (depth : Nat) : ∀ c ∈ newLine depth, IsWritten c := by
  intro c hc
  rcases newLine_cases hc with rfl | rfl <;> decide

theorem skip_cons {c : Char} (h : isSpace c = false) (cs : List Char) : skip (c :: cs) = c :: cs :=
  List.dropWhile_cons_of_neg (by simp [h])

theorem stops_newLine (depth : Nat) (cs : List Char) : Stops (newLine depth ++ cs) := by
  intro c hc
  cases hc
  exact .inr rfl

theorem stops_comma (cs : List Char) : Stops (',' :: cs) := by
  intro c hc
  cases hc
  exact .inl rfl

def joined (depth : Nat) (parts : List (List Char)) : List Char :=
  (',' :: newLine (depth + 1)).intercalate parts ++ newLine depth

theorem joined_singleton (depth : Nat) (part : List Char) :
    joined depth [part] = part ++ newLine depth := by
  rw [joined, List.intercalate_singleton]

theorem joined_cons (depth : Nat) (part next : List Char) (parts : List (List Char)) :
    joined depth (part :: next :: parts) =
      part ++ ',' :: (newLine (depth + 1) ++ joined depth (next :: parts)) := by
  simp [joined, List.intercalate]

theorem enclose_cons (left right : Char) (depth : Nat) (part : List Char)
    (parts : List (List Char)) : enclose left right depth (part :: parts) =
      left :: (newLine (depth + 1) ++ joined depth (part :: parts) ++ [right]) := by
  simp [enclose, joined]

theorem joined_front (depth : Nat) (part : List Char) (parts : List (List Char)) :
    ∃ more, joined depth (part :: parts) = part ++ more := by
  cases parts with
  | nil => exact ⟨_, joined_singleton depth part⟩
  | cons next parts => exact ⟨_, joined_cons depth part next parts⟩

theorem isWritten_joined {depth : Nat} {parts : List (List Char)}
    (h : ∀ part ∈ parts, ∀ c ∈ part, IsWritten c) : ∀ c ∈ joined depth parts, IsWritten c := by
  induction parts with
  | nil => exact isWritten_newLine depth
  | cons part parts ih =>
    have hp := h part List.mem_cons_self
    have hs := ih fun part hm => h part (List.mem_cons_of_mem _ hm)
    cases parts with
    | nil =>
      rw [joined_singleton]
      exact List.forall_mem_append.mpr ⟨hp, isWritten_newLine depth⟩
    | cons next parts =>
      rw [joined_cons, List.forall_mem_append, List.forall_mem_cons, List.forall_mem_append]
      exact ⟨hp, by decide, isWritten_newLine _, hs⟩

theorem isWritten_enclose {left right : Char} (hl : IsWritten left) (hr : IsWritten right)
    (depth : Nat) {parts : List (List Char)} (h : ∀ part ∈ parts, ∀ c ∈ part, IsWritten c) :
    ∀ c ∈ enclose left right depth parts, IsWritten c := by
  cases parts with
  | nil => simp [enclose, hl, hr]
  | cons part parts =>
    rw [enclose_cons, List.forall_mem_cons, List.forall_mem_append, List.forall_mem_append]
    exact ⟨hl, ⟨isWritten_newLine _, isWritten_joined h⟩, by simpa using hr⟩

def named (p : String × Value) : Value × Value := (.text p.1, p.2)

theorem put_named {pairs : List (String × Value)} {p : String × Value}
    (h : p.1 ∉ pairs.map Prod.fst) :
    Entries.put Value.sameKey (.text p.1) p.2 (pairs.map named) = (pairs ++ [p]).map named := by
  have ha : (Entries.keys (pairs.map named)).any (Value.sameKey · (.text p.1)) = false := by
    rw [List.any_eq_false, Entries.keys, List.map_map]
    intro k hk
    obtain ⟨q, hq, rfl⟩ := List.mem_map.mp hk
    have hne : q.1 ≠ p.1 := fun he => h (List.mem_map.mpr ⟨q, hq, he⟩)
    simpa [named, Value.sameKey] using hne
  rw [Entries.put_of_not_any ha, List.map_append]
  rfl

theorem writeInt_of_lt {n : Int} (h : n.natAbs < Numeral.limit) :
    writeInt n = .ok (Numeral.decimal n) := by
  unfold writeInt Value.intText Numeral.write
  generalize Numeral.limit = l at h
  simp only [if_pos h, String.toList_ofList]

variable [StandIns] {room : Nat}

theorem ReadsAs.skip_eq {cs : List Char} {v : Value} (h : ReadsAs room cs v) (rest : List Char) :
    skip (cs ++ rest) = cs ++ rest := by
  obtain ⟨c, more, rfl, hs, -⟩ := h.front
  exact skip_cons hs (more ++ rest)

theorem skip_joined {part : List Char} {v : Value} (h : ReadsAs room part v) (depth : Nat)
    (parts : List (List Char)) (rest : List Char) :
    skip (joined depth (part :: parts) ++ rest) = joined depth (part :: parts) ++ rest := by
  obtain ⟨more, hj⟩ := joined_front depth part parts
  rw [hj, List.append_assoc, h.skip_eq]

theorem readItems_joined {part : List Char} {v : Value} {parts : List (List Char)}
    {vs : List Value} (hp : ReadsAs room part v) (hs : List.Forall₂ (ReadsAs room) parts vs)
    (depth fuel : Nat)
    (hf : 2 * (joined depth (part :: parts)).length ≤ fuel) (acc : List Value)
    (rest : List Char) :
    readItems fuel room acc (joined depth (part :: parts) ++ ']' :: rest) =
      .ok (.list (acc.reverse ++ v :: vs), rest) := by
  induction hs generalizing part v fuel acc with
  | nil =>
    rw [joined_singleton, List.length_append, newLine, List.length_cons] at hf
    obtain ⟨fuel, rfl⟩ := Nat.exists_eq_add_one_of_ne_zero (n := fuel) (by omega)
    have hr := hp.reads fuel _ (by omega) (stops_newLine depth (']' :: rest))
    have hk : skip (newLine depth ++ ']' :: rest) = ']' :: rest := by
      rw [skip_newLine, skip_cons (by decide)]
    rw [joined_singleton, List.append_assoc, readItems, hr]
    simp [bind, Except.bind, hk, pure, Except.pure]
  | @cons next w parts vs hn hs ih =>
    rw [joined_cons, List.length_append, List.length_cons, List.length_append] at hf
    obtain ⟨fuel, rfl⟩ := Nat.exists_eq_add_one_of_ne_zero (n := fuel) (by omega)
    have hr := hp.reads fuel _ (by omega)
      (stops_comma (newLine (depth + 1) ++ (joined depth (next :: parts) ++ ']' :: rest)))
    have hc := skip_cons (c := ',') (by decide)
      (newLine (depth + 1) ++ (joined depth (next :: parts) ++ ']' :: rest))
    have hk : skip (newLine (depth + 1) ++ (joined depth (next :: parts) ++ ']' :: rest)) =
        joined depth (next :: parts) ++ ']' :: rest := by
      rw [skip_newLine, skip_joined hn]
    have hi := ih hn fuel (by omega) (v :: acc)
    rw [joined_cons]
    simp only [List.append_assoc, List.cons_append]
    rw [readItems, hr]
    simp [bind, Except.bind, hc, hk, hi]

theorem readsAs_list {parts : List (List Char)} {items : List Value}
    (h : List.Forall₂ (ReadsAs room) parts items) (depth : Nat) :
    ReadsAs (room + 1) (enclose '[' ']' depth parts) (.list items) := by
  have hw : ∀ part ∈ parts, ∀ c ∈ part, IsWritten c := by
    intro part hm
    obtain ⟨v, -, hv⟩ := Traversal.exists_mem_right h part hm
    exact hv.written
  apply readsAs_of_succ
  · cases parts with
    | nil => exact ⟨'[', [']'], rfl, by decide, by decide⟩
    | cons part parts => exact ⟨'[', _, enclose_cons _ _ _ _ _, by decide, by decide⟩
  · intro fuel rest hf _
    cases h with
    | nil =>
      simp [enclose, readValue, skip_cons (show isSpace ']' = false by decide)]
    | @cons part v parts vs hp hs =>
      rw [enclose_cons, List.length_cons, List.length_append, List.length_append] at hf
      have hi := readItems_joined hp hs depth fuel (by omega) [] rest
      have hk : skip (newLine (depth + 1) ++ (joined depth (part :: parts) ++ ']' :: rest)) =
          joined depth (part :: parts) ++ ']' :: rest := by
        rw [skip_newLine, skip_joined hp]
      rw [enclose_cons]
      simp only [List.cons_append, List.append_assoc, List.nil_append]
      rw [readValue, hk]
      split
      · rename_i more hb
        obtain ⟨after, hj⟩ := joined_front depth part parts
        obtain ⟨c, cs, rfl, -, hc⟩ := hp.front
        rw [hj] at hb
        exact absurd (List.cons.inj hb).1 hc
      · exact hi
  · exact isWritten_enclose (by decide) (by decide) depth hw

def WritesEntry (room : Nat) (part : List Char) (p : String × Value) : Prop :=
  ∃ cs, part = writeText p.1 ++ ':' :: ' ' :: cs ∧ ReadsAs room cs p.2

theorem skip_joined_entry {part : List Char} {p : String × Value} (h : WritesEntry room part p)
    (depth : Nat) (parts : List (List Char)) (rest : List Char) :
    skip (joined depth (part :: parts) ++ rest) = joined depth (part :: parts) ++ rest := by
  obtain ⟨more, hj⟩ := joined_front depth part parts
  obtain ⟨cs, rfl, -⟩ := h
  rw [hj]
  exact skip_cons (by decide) _

theorem readEntries_entry {part : List Char} {p : String × Value} (h : WritesEntry room part p)
    {fuel : Nat} (hf : 2 * part.length ≤ fuel) {pairs : List (String × Value)}
    (hn : p.1 ∉ pairs.map Prod.fst) {rest : List Char} (hr : Stops rest) :
    readEntries (fuel + 1) room (pairs.map named) (part ++ rest) =
      match skip rest with
      | '\x7d' :: rest => .ok (.mapping .plain ((pairs ++ [p]).map named), rest)
      | ',' :: rest => readEntries fuel room ((pairs ++ [p]).map named) (skip rest)
      | _ => .error .comma := by
  obtain ⟨cs, rfl, hv⟩ := h
  rw [List.length_append, List.length_cons, List.length_cons] at hf
  have hk := readText_escaped p.1.toList (':' :: ' ' :: (cs ++ rest))
  have hc := skip_cons (c := ':') (by decide) (' ' :: (cs ++ rest))
  have hs : skip (' ' :: (cs ++ rest)) = cs ++ rest := hv.skip_eq rest
  have hval := hv.reads fuel rest (by omega) hr
  have hput := put_named hn
  have hw : writeText p.1 ++ ':' :: ' ' :: cs ++ rest =
      '"' :: (p.1.toList.flatMap escapeChar ++ '"' :: ':' :: ' ' :: (cs ++ rest)) := by
    simp [writeText]
  rw [hw, readEntries, hk]
  simp only [bind, Except.bind, hc, hs, hval, String.ofList_toList, hput]
  rfl

theorem readEntries_joined {part : List Char} {p : String × Value} {parts : List (List Char)}
    {pairs : List (String × Value)} (hp : WritesEntry room part p)
    (hs : List.Forall₂ (WritesEntry room) parts pairs) (depth fuel : Nat)
    (hf : 2 * (joined depth (part :: parts)).length ≤ fuel) (acc : List (String × Value))
    (hn : ((acc ++ p :: pairs).map Prod.fst).Nodup) (rest : List Char) :
    readEntries fuel room (acc.map named) (joined depth (part :: parts) ++ '\x7d' :: rest) =
      .ok (.mapping .plain ((acc ++ p :: pairs).map named), rest) := by
  induction hs generalizing part p fuel acc with
  | nil =>
    rw [joined_singleton, List.length_append, newLine, List.length_cons] at hf
    obtain ⟨fuel, rfl⟩ := Nat.exists_eq_add_one_of_ne_zero (n := fuel) (by omega)
    have hk : skip (newLine depth ++ '\x7d' :: rest) = '\x7d' :: rest := by
      rw [skip_newLine, skip_cons (by decide)]
    rw [joined_singleton, List.append_assoc,
      readEntries_entry hp (by omega) (Entries.not_mem_keys_of_nodup hn) (stops_newLine _ _), hk]
    rfl
  | @cons next q parts pairs hq hs ih =>
    rw [joined_cons, List.length_append, List.length_cons, List.length_append] at hf
    obtain ⟨fuel, rfl⟩ := Nat.exists_eq_add_one_of_ne_zero (n := fuel) (by omega)
    have hc := skip_cons (c := ',') (by decide)
      (newLine (depth + 1) ++ (joined depth (next :: parts) ++ '\x7d' :: rest))
    have hk : skip (newLine (depth + 1) ++ (joined depth (next :: parts) ++ '\x7d' :: rest)) =
        joined depth (next :: parts) ++ '\x7d' :: rest := by
      rw [skip_newLine, skip_joined_entry hq]
    have ha : acc ++ p :: q :: pairs = acc ++ [p] ++ q :: pairs := by simp
    have hi := ih hq fuel (by omega) (acc ++ [p]) (ha ▸ hn)
    rw [joined_cons]
    simp only [List.append_assoc, List.cons_append]
    rw [readEntries_entry hp (by omega) (Entries.not_mem_keys_of_nodup hn) (stops_comma _), hc]
    simp only [hk, hi, List.append_assoc, List.cons_append, List.nil_append]

theorem readsAs_keyed {parts : List (List Char)} {pairs : List (String × Value)}
    (h : List.Forall₂ (WritesEntry room) parts pairs) (hn : (pairs.map Prod.fst).Nodup)
    (depth : Nat) :
    ReadsAs (room + 1) (enclose '\x7b' '\x7d' depth parts) (.keyed pairs) := by
  have hw : ∀ part ∈ parts, ∀ c ∈ part, IsWritten c := by
    intro part hm
    obtain ⟨p, -, cs, rfl, hv⟩ := Traversal.exists_mem_right h part hm
    rw [List.forall_mem_append, List.forall_mem_cons, List.forall_mem_cons]
    exact ⟨isWritten_writeText p.1, by decide, by decide, hv.written⟩
  apply readsAs_of_succ
  · cases parts with
    | nil => exact ⟨'\x7b', ['\x7d'], rfl, by decide, by decide⟩
    | cons part parts => exact ⟨'\x7b', _, enclose_cons _ _ _ _ _, by decide, by decide⟩
  · intro fuel rest hf _
    cases h with
    | nil =>
      simp [enclose, readValue, skip_cons (show isSpace '\x7d' = false by decide), Value.keyed]
    | @cons part p parts pairs hp hs =>
      rw [enclose_cons, List.length_cons, List.length_append, List.length_append] at hf
      have hi := readEntries_joined hp hs depth fuel (by omega) [] hn rest
      have hk : skip (newLine (depth + 1) ++ (joined depth (part :: parts) ++ '\x7d' :: rest)) =
          joined depth (part :: parts) ++ '\x7d' :: rest := by
        rw [skip_newLine, skip_joined_entry hp]
      rw [enclose_cons]
      simp only [List.cons_append, List.append_assoc, List.nil_append]
      rw [readValue, hk]
      split
      · rename_i more hb
        obtain ⟨after, hj⟩ := joined_front depth part parts
        obtain ⟨cs, rfl, -⟩ := hp
        rw [hj] at hb
        exact absurd (List.cons.inj hb).1 (by decide)
      · exact hi
  · exact isWritten_enclose (by decide) (by decide) depth hw

def WrittenAs (depth room : Nat) (cs : List Char) (v : Value) : Prop :=
  ∀ more, room ≤ more → writeAt depth more v = .ok cs ∧ ReadsAs more cs v

theorem exists_writeItems {depth : Nat} {items : List Value}
    (h : ∀ v ∈ items, ∃ cs, WrittenAs depth room cs v) :
    ∃ parts, ∀ more, room ≤ more →
      writeItems depth more items = .ok parts ∧ List.Forall₂ (ReadsAs more) parts items := by
  induction items with
  | nil => exact ⟨[], fun _ _ => ⟨rfl, .nil⟩⟩
  | cons v items ih =>
    obtain ⟨cs, hv⟩ := h v List.mem_cons_self
    obtain ⟨parts, hs⟩ := ih fun v hm => h v (List.mem_cons_of_mem _ hm)
    refine ⟨cs :: parts, fun more hl => ?_⟩
    obtain ⟨hw, hr⟩ := hv more hl
    obtain ⟨hws, hrs⟩ := hs more hl
    refine ⟨?_, .cons hr hrs⟩
    rw [writeItems, hw, hws]
    rfl

theorem exists_writeEntries {depth : Nat} {pairs : List (String × Value)}
    (h : ∀ p ∈ pairs, ∃ cs, WrittenAs depth room cs p.2) :
    ∃ parts, ∀ more, room ≤ more →
      writeEntries depth more (pairs.map named) = .ok parts ∧
        List.Forall₂ (WritesEntry more) parts pairs := by
  induction pairs with
  | nil => exact ⟨[], fun _ _ => ⟨rfl, .nil⟩⟩
  | cons p pairs ih =>
    obtain ⟨cs, hv⟩ := h p List.mem_cons_self
    obtain ⟨parts, hs⟩ := ih fun p hm => h p (List.mem_cons_of_mem _ hm)
    refine ⟨(writeText p.1 ++ ':' :: ' ' :: cs) :: parts, fun more hl => ?_⟩
    obtain ⟨hw, hr⟩ := hv more hl
    obtain ⟨hws, hrs⟩ := hs more hl
    refine ⟨?_, .cons ⟨cs, rfl, hr⟩ hrs⟩
    rw [List.map_cons, named, writeEntries, writeKey, hw, hws]
    rfl

theorem IsJson.exists_writtenAs {v : Value} (h : IsJson room v) (depth : Nat) :
    ∃ cs, WrittenAs depth room cs v := by
  induction h generalizing depth with
  | null => exact ⟨_, fun more _ => ⟨by rw [writeAt], readsAs_word more (by simp [words])⟩⟩
  | bool _ b =>
    obtain ⟨w, hm, he⟩ := writeBool_mem_words b
    exact ⟨writeBool b, fun more _ => ⟨by rw [writeAt], he ▸ readsAs_word more hm⟩⟩
  | @int n _ h =>
    refine ⟨Numeral.decimal n, fun more _ => ⟨?_, readsAs_decimal more h⟩⟩
    rw [writeAt, writeInt_of_lt h]
  | text _ s => exact ⟨_, fun more _ => ⟨by rw [writeAt], readsAs_text more s⟩⟩
  | @list room items h ih =>
    obtain ⟨parts, hp⟩ := exists_writeItems fun v hm => ih v hm (depth + 1)
    refine ⟨enclose '[' ']' depth parts, fun more hl => ?_⟩
    obtain ⟨more, rfl⟩ := Nat.exists_eq_add_of_le' (Nat.le_trans (Nat.le_add_left 1 room) hl)
    obtain ⟨hw, hr⟩ := hp more (Nat.le_of_succ_le_succ hl)
    refine ⟨?_, readsAs_list hr depth⟩
    rw [writeAt, hw]
    rfl
  | @keyed room pairs hn h ih =>
    obtain ⟨parts, hp⟩ := exists_writeEntries fun p hm => ih p hm (depth + 1)
    refine ⟨enclose '\x7b' '\x7d' depth parts, fun more hl => ?_⟩
    obtain ⟨more, rfl⟩ := Nat.exists_eq_add_of_le' (Nat.le_trans (Nat.le_add_left 1 room) hl)
    obtain ⟨hw, hr⟩ := hp more (Nat.le_of_succ_le_succ hl)
    refine ⟨?_, readsAs_keyed hr hn depth⟩
    show writeAt depth (more + 1) (.mapping .plain (pairs.map named)) = _
    rw [writeAt, hw]
    rfl

theorem ReadsAs.read_eq {cs : List Char} {v : Value} (h : ReadsAs room cs v) :
    read room cs = .ok v := by
  have hk := h.skip_eq []
  have hr := h.reads (2 * cs.length + 2) [] (by omega) nofun
  rw [List.append_nil] at hk hr
  have hb : cs.head? ≠ some '\ufeff' := by
    obtain ⟨c, more, he, -⟩ := h.front
    rintro hb
    have hw := h.written '\ufeff' (List.mem_of_mem_head? hb)
    revert hw
    decide
  rw [read, if_neg hb, hk, hr]
  rfl

theorem exists_write [DepthLimit] {v : Value} (h : IsJson 8 v) : ∃ text, write v = .ok text ∧
    read (DepthLimit.limit .reading) text.toList = .ok v ∧ ∀ c ∈ text.toList, IsWritten c := by
  obtain ⟨cs, hv⟩ := h.exists_writtenAs 0
  have hw := (hv _ (DepthLimit.le_limit .writing)).1
  have hr := (hv _ (DepthLimit.le_limit .reading)).2
  refine ⟨String.ofList cs, ?_, ?_, ?_⟩
  · rw [write, hw]
    rfl
  · rw [String.toList_ofList, hr.read_eq]
  · rw [String.toList_ofList]
    exact hr.written

end Json

end FieldGuard
