import FieldGuard.Proofs.Numeral.Token
import FieldGuard.Proofs.Text.Separated
import FieldGuard.Proofs.Traversal
import Mathlib.Data.List.TakeWhile

/-!
The lenient reader by its grammar. Every text that it reads spells a token, and it reads the text as
the strict reader reads that token. So the strict reader is the lenient one on texts of signs and
ASCII digits.
-/

namespace FieldGuard.Numeral

open Text (asciiDigit? digitValue?)

def IsSign (cs : List Char) : Prop := cs = [] ∨ cs = ['+'] ∨ cs = ['-']

def plain? (c : Char) : Option Char := if c = '_' then some '_' else asciiDigit? c

/-- White space around an optional sign and groups of digits of any script, with an underscore
between neighbours, spells the token of that sign and those digits. -/
inductive Spells : List Char → List Char → Prop
  | number {before sign body after : List Char} {groups : List (List Char)}
      (hb : ∀ c ∈ before, isPadding c = true) (hs : IsSign sign)
      (hp : List.Forall₂ (fun c d => plain? c = some d) body (['_'].intercalate groups))
      (hn : groups ≠ []) (hg : ∀ g ∈ groups, AreDigits g)
      (ha : ∀ c ∈ after, isPadding c = true) :
      Spells (before ++ (sign ++ (body ++ after))) (sign ++ groups.flatten)

variable {cs ds sign body after token : List Char} {groups : List (List Char)} {c d : Char}
  {text : String} {n : Int}

theorem plain?_of_isPadding (h : isPadding c = true) : plain? c = none := by
  have hapart : ∀ r ∈ Text.blankTable, ∀ z ∈ Text.zeroDigits, r.2 < z ∨ z + 10 ≤ r.1 := by decide
  have hblank : Text.isBlank c = true := by
    rw [isPadding, Bool.and_eq_true] at h
    exact h.1
  obtain ⟨r, hr, hlow, hhigh⟩ := (Text.RangeTable.holds_eq_true_iff _ c).mp hblank
  have hnone : (Text.zeroDigits.find? fun z => decide (z ≤ c.toNat ∧ c.toNat < z + 10)) = none := by
    rw [List.find?_eq_none]
    intro z hz
    have := hapart r hr z hz
    simp only [decide_eq_true_eq]
    omega
  have hu : c ≠ '_' := by
    rintro rfl
    exact absurd h (by decide)
  rw [plain?, if_neg hu, asciiDigit?, digitValue?, hnone]
  rfl

theorem not_isPadding_of_plain? (h : plain? c = some d) : isPadding c = false := by
  cases hp : isPadding c with
  | false => rfl
  | true =>
    rw [plain?_of_isPadding hp] at h
    cases h

theorem plain?_of_isDigit (h : c.isDigit = true) : plain? c = some c := by
  have hc := Char.isDigit_iff_toNat.mp h
  simp only [Char.reduceToNat] at hc
  have hu : c ≠ '_' := by
    rintro rfl
    exact absurd h (by decide)
  have hz : (Text.zeroDigits.find? fun z => decide (z ≤ c.toNat ∧ c.toNat < z + 10)) = some 48 := by
    rw [Text.zeroDigits, List.find?_cons_of_pos]
    simp only [decide_eq_true_eq]
    omega
  have hk : ∀ k < 10, (Nat.digitChar k).toNat = k + 48 := by decide
  have hd : Nat.digitChar (c.toNat - 48) = c := by
    rw [← Char.toNat_inj, hk _ (by omega)]
    omega
  rw [plain?, if_neg hu, asciiDigit?, digitValue?, hz, Option.map_some, Option.map_some, hd]

theorem ne_sign_of_plain? (h : plain? c = some d) : c ≠ '-' ∧ c ≠ '+' := by
  have hm : plain? '-' = none := by decide
  have hp : plain? '+' = none := by decide
  constructor
  · rintro rfl
    rw [hm] at h
    cases h
  · rintro rfl
    rw [hp] at h
    cases h

theorem eq_or_isDigit_of_plain? (h : plain? c = some d) : d = '_' ∨ d.isDigit = true := by
  rw [plain?] at h
  split at h
  · cases h
    exact .inl rfl
  · exact .inr (Text.asciiDigit?_isDigit h)

theorem splitSign_sign (hs : IsSign sign) (hm : c ≠ '-') (hp : c ≠ '+') (cs : List Char) :
    splitSign (sign ++ c :: cs) = (decide (sign = ['-']), c :: cs) := by
  rcases hs with rfl | rfl | rfl <;> simp [splitSign, hm, hp]

theorem exists_sign (cs : List Char) :
    ∃ sign, IsSign sign ∧ cs = sign ++ (splitSign cs).2 ∧
      (splitSign cs).1 = decide (sign = ['-']) := by
  unfold splitSign
  split
  · exact ⟨['-'], .inr (.inr rfl), rfl, rfl⟩
  · exact ⟨['+'], .inr (.inl rfl), rfl, rfl⟩
  · exact ⟨[], .inl rfl, rfl, rfl⟩

theorem denotes_sign (hs : IsSign sign) (hd : AreDigits ds) :
    Denotes (sign ++ ds) (signed (decide (sign = ['-'])) (placeValue ds)) := by
  rcases hs with rfl | rfl | rfl
  · exact .unsigned hd
  · exact .plus hd
  · exact .minus hd

theorem readToken_sign (hs : IsSign sign) (hd : AreDigits ds) :
    readToken (sign ++ ds) =
      (ofDigits ds).map fun m => some (signed (decide (sign = ['-'])) m) := by
  have hsplit : splitSign (sign ++ ds) = (decide (sign = ['-']), ds) := by
    obtain ⟨d, ds, rfl⟩ := List.exists_cons_of_ne_nil hd.1
    have hc : d.isDigit = true := hd.2 d (by simp)
    apply splitSign_sign hs
    · rintro rfl
      exact absurd hc (by decide)
    · rintro rfl
      exact absurd hc (by decide)
  have ht : isToken (sign ++ ds) = true := (isInteger_iff _).mp ⟨_, denotes_sign hs hd⟩
  rw [readToken, if_pos ht, hsplit]

theorem exists_plain (cs : List Char) :
    ∃ body, cs = body ++ (splitDigits cs).2 ∧
      List.Forall₂ (fun c d => plain? c = some d) body (splitDigits cs).1 := by
  induction cs with
  | nil => exact ⟨[], rfl, .nil⟩
  | cons c cs ih =>
    obtain ⟨body, hb, hp⟩ := ih
    cases hc : plain? c with
    | none =>
      have hs : splitDigits (c :: cs) = ([], c :: cs) := by
        rw [plain?] at hc
        rw [splitDigits, hc]
      rw [hs]
      exact ⟨[], rfl, .nil⟩
    | some d =>
      have hs : splitDigits (c :: cs) = (d :: (splitDigits cs).1, (splitDigits cs).2) := by
        rw [plain?] at hc
        rw [splitDigits, hc]
      rw [hs]
      refine ⟨c :: body, ?_, .cons hc hp⟩
      rw [List.cons_append, ← hb]

theorem splitDigits_append (hp : List.Forall₂ (fun c d => plain? c = some d) body ds)
    (ha : ∀ c ∈ after, isPadding c = true) : splitDigits (body ++ after) = (ds, after) := by
  induction hp with
  | nil =>
    cases after with
    | nil => rfl
    | cons c after =>
      have hc := plain?_of_isPadding (ha c (by simp))
      rw [plain?] at hc
      rw [List.nil_append, splitDigits, hc]
  | cons hc _ ih =>
    rw [plain?] at hc
    rw [List.cons_append, splitDigits, hc, ih]

theorem areDigits_flatten (hn : groups ≠ []) (hg : ∀ g ∈ groups, AreDigits g) :
    AreDigits groups.flatten := by
  constructor
  · obtain ⟨g, gs, rfl⟩ := List.exists_cons_of_ne_nil hn
    have := (hg g (by simp)).1
    simp [this]
  · intro c hc
    obtain ⟨g, hm, hc⟩ := List.mem_flatten.mp hc
    exact (hg g hm).2 c hc

theorem underscore_not_mem (h : AreDigits ds) : '_' ∉ ds := fun hm => absurd (h.2 _ hm) (by decide)

theorem intercalate_ne_nil (hn : groups ≠ []) (hg : ∀ g ∈ groups, AreDigits g) :
    ['_'].intercalate groups ≠ [] := by
  obtain ⟨g, gs, rfl⟩ := List.exists_cons_of_ne_nil hn
  have := (hg g (by simp)).1
  cases gs <;> simp [this]

theorem read_eq (text : String) :
    read text =
      let s := splitSign (text.toList.dropWhile isPadding)
      let r := splitDigits s.2
      let groups := r.1.splitOn '_'
      if groups.any List.isEmpty then .error (.malformed text)
      else ofDigits groups.flatten >>= fun m =>
        if r.2.all isPadding then .ok (signed s.1 m) else .error (.malformed text) := by
  simp only [read]
  split <;> rfl

theorem readToken_of_spells (h : Spells text.toList token) :
    readToken token = (read text).map some := by
  generalize hcs : text.toList = cs at h
  cases h with
  | @number before sign body after groups hb hs hp hn hg ha =>
    have hr : ['_'].intercalate groups ≠ [] := intercalate_ne_nil hn hg
    obtain ⟨c, body, rfl⟩ : ∃ c cs, body = c :: cs := by
      apply List.exists_cons_of_ne_nil
      rintro rfl
      exact hr (List.forall₂_nil_left_iff.mp hp)
    obtain ⟨d, hc⟩ : ∃ d, plain? c = some d := by
      cases hp' : ['_'].intercalate groups with
      | nil => exact absurd hp' hr
      | cons d ds =>
        rw [hp'] at hp
        cases hp with
        | cons hc _ => exact ⟨d, hc⟩
    obtain ⟨hm, hpl⟩ := ne_sign_of_plain? hc
    have hdrop : (before ++ (sign ++ (c :: body ++ after))).dropWhile isPadding =
        sign ++ (c :: body ++ after) := by
      rw [List.dropWhile_append_of_pos hb]
      rcases hs with rfl | rfl | rfl
      · exact List.dropWhile_cons_of_neg (by simp [not_isPadding_of_plain? hc])
      · exact List.dropWhile_cons_of_neg (by decide)
      · exact List.dropWhile_cons_of_neg (by decide)
    have hsplit : splitSign (sign ++ (c :: body ++ after)) =
        (decide (sign = ['-']), c :: body ++ after) := splitSign_sign hs hm hpl _
    have hgroups : (['_'].intercalate groups).splitOn '_' = groups :=
      List.splitOn_intercalate '_' (fun g hm => underscore_not_mem (hg g hm)) hn
    have hany : groups.any List.isEmpty = false := by
      rw [List.any_eq_false]
      intro g hm
      simpa using (hg g hm).1
    have hall : after.all isPadding = true := List.all_eq_true.mpr ha
    rw [readToken_sign hs (areDigits_flatten hn hg), read_eq, hcs, hdrop, hsplit]
    simp only [splitDigits_append hp ha, hgroups, hany, hall, Bool.false_eq_true, ↓reduceIte]
    cases ofDigits groups.flatten <;> rfl

theorem exists_spells_of_read (h : read text = .ok n) : ∃ token, Spells text.toList token := by
  obtain ⟨sign, hs, hsign, -⟩ := exists_sign (text.toList.dropWhile isPadding)
  obtain ⟨body, hbody, hp⟩ := exists_plain (splitSign (text.toList.dropWhile isPadding)).2
  have hbefore : ∀ c ∈ text.toList.takeWhile isPadding, isPadding c = true :=
    fun c hc => List.mem_takeWhile_imp hc
  rw [read_eq] at h
  dsimp only at h
  generalize splitSign (text.toList.dropWhile isPadding) = s at h hsign hbody hp
  generalize splitDigits s.2 = r at h hbody hp
  by_cases hany : (r.1.splitOn '_').any List.isEmpty = true
  · rw [if_pos hany] at h
    cases h
  rw [if_neg hany] at h
  obtain ⟨m, -, hm⟩ := Traversal.bind_eq_ok_iff.mp h
  split_ifs at hm with hafter
  have htext : text.toList = text.toList.takeWhile isPadding ++ (sign ++ (body ++ r.2)) := by
    rw [← hbody, ← hsign, List.takeWhile_append_dropWhile]
  have hg : ∀ g ∈ r.1.splitOn '_', AreDigits g := by
    intro g hg
    obtain ⟨hu, hi⟩ := Text.infix_splitOn_iff.mp ⟨g, hg, List.infix_rfl⟩
    refine ⟨fun hn => hany (List.any_eq_true.mpr ⟨g, hg, by simp [hn]⟩), fun d hd => ?_⟩
    obtain ⟨c, -, hc⟩ := Traversal.exists_mem_left hp d (hi.subset hd)
    refine (eq_or_isDigit_of_plain? hc).resolve_left ?_
    rintro rfl
    exact hu hd
  rw [htext]
  refine ⟨_, .number hbefore hs ?_ (List.splitOn_ne_nil '_' r.1) hg (List.all_eq_true.mp hafter)⟩
  rwa [List.intercalate_splitOn]

theorem read_eq_ok_iff :
    read text = .ok n ↔
      ∃ token, Spells text.toList token ∧ Denotes token n ∧ digitCount token ≤ digitLimit := by
  constructor
  · intro h
    obtain ⟨token, hs⟩ := exists_spells_of_read h
    have ht := readToken_of_spells hs
    rw [h] at ht
    exact ⟨token, hs, readToken_eq_some_iff.mp ht⟩
  · rintro ⟨token, hs, hd⟩
    have ht := readToken_of_spells hs
    rw [readToken_eq_some_iff.mpr hd] at ht
    obtain ⟨m, hm, hn⟩ := Traversal.map_eq_ok_iff.mp ht.symm
    cases hn
    exact hm

theorem spells_self (h : IsInteger cs) : Spells cs cs := by
  have digits {sign ds : List Char} (hs : IsSign sign) (hd : AreDigits ds) :
      Spells (sign ++ ds) (sign ++ ds) := by
    have hp : List.Forall₂ (fun c d => plain? c = some d) ds (['_'].intercalate [ds]) := by
      rw [List.intercalate_singleton, List.forall₂_same]
      exact fun c hc => plain?_of_isDigit (hd.2 c hc)
    have hg : ∀ g ∈ [ds], AreDigits g := by simpa using hd
    have hn : ∀ c ∈ ([] : List Char), isPadding c = true := by simp
    have h : Spells ([] ++ (sign ++ (ds ++ []))) (sign ++ [ds].flatten) :=
      .number hn hs hp (List.cons_ne_nil ds []) hg hn
    simpa using h
  obtain ⟨n, h⟩ := h
  cases h with
  | unsigned hd => exact digits (.inl rfl) hd
  | plus hd => exact digits (.inr (.inl rfl)) hd
  | minus hd => exact digits (.inr (.inr rfl)) hd

theorem readToken_of_isInteger (h : IsInteger text.toList) :
    readToken text.toList = (read text).map some :=
  readToken_of_spells (spells_self h)

theorem read_of_denotes (h : Denotes cs n) (hl : digitCount cs ≤ digitLimit) :
    read (String.ofList cs) = .ok n := by
  rw [read_eq_ok_iff, String.toList_ofList]
  exact ⟨cs, spells_self ⟨n, h⟩, h, hl⟩

def IsTokenChar (c : Char) : Prop := c.isDigit = true ∨ c = '+' ∨ c = '-'

theorem isTokenChar_of_denotes (h : Denotes cs n) : ∀ c ∈ cs, IsTokenChar c := by
  cases h with
  | unsigned hd => exact fun c hc => .inl (hd.2 c hc)
  | plus hd =>
    intro c hc
    rcases List.mem_cons.mp hc with rfl | hc
    · exact .inr (.inl rfl)
    · exact .inl (hd.2 c hc)
  | minus hd =>
    intro c hc
    rcases List.mem_cons.mp hc with rfl | hc
    · exact .inr (.inr rfl)
    · exact .inl (hd.2 c hc)

theorem eq_nil_of_isPadding (hp : ∀ c ∈ cs, isPadding c = true) (ht : ∀ c ∈ cs, IsTokenChar c) :
    cs = [] := by
  rw [List.eq_nil_iff_forall_not_mem]
  intro c hc
  have hpad := hp c hc
  rcases ht c hc with hd | rfl | rfl
  · rw [not_isPadding_of_plain? (plain?_of_isDigit hd)] at hpad
    cases hpad
  · exact absurd hpad (by decide)
  · exact absurd hpad (by decide)

theorem eq_of_plain? (hp : List.Forall₂ (fun c d => plain? c = some d) body ds)
    (ht : ∀ c ∈ body, IsTokenChar c) : body = ds := by
  induction hp with
  | nil => rfl
  | @cons c d body ds hc _ ih =>
    obtain ⟨hm, hpl⟩ := ne_sign_of_plain? hc
    have hd : c.isDigit = true := by
      rcases ht c (by simp) with hd | hs | hs
      · exact hd
      · exact absurd hs hpl
      · exact absurd hs hm
    rw [plain?_of_isDigit hd] at hc
    cases hc
    rw [ih fun c hc => ht c (by simp [hc])]

theorem flatten_eq_of_not_mem (h : '_' ∉ ['_'].intercalate groups) (hn : groups ≠ []) :
    ['_'].intercalate groups = groups.flatten := by
  obtain ⟨g, gs, rfl⟩ := List.exists_cons_of_ne_nil hn
  cases gs with
  | nil => simp
  | cons g' gs => simp [List.intercalate_cons_cons] at h

theorem eq_of_spells (h : Spells cs token) (ht : ∀ c ∈ cs, IsTokenChar c) : token = cs := by
  cases h with
  | @number before sign body after groups hb hs hp hn hg ha =>
    simp only [List.mem_append] at ht
    have hbefore : before = [] := eq_nil_of_isPadding hb fun c hc => ht c (by simp [hc])
    have hafter : after = [] := eq_nil_of_isPadding ha fun c hc => ht c (by simp [hc])
    have hbody : body = ['_'].intercalate groups := eq_of_plain? hp fun c hc => ht c (by simp [hc])
    have hu : '_' ∉ body := by
      intro hm
      rcases ht '_' (by simp [hm]) with hd | hd | hd
      · exact absurd hd (by decide)
      · cases hd
      · cases hd
    rw [hbody] at hu
    rw [hbefore, hafter, hbody, flatten_eq_of_not_mem hu hn, List.append_nil, List.nil_append]

theorem readToken_eq_some_iff_read :
    readToken text.toList = .ok (some n) ↔
      read text = .ok n ∧ ∀ c ∈ text.toList, IsTokenChar c := by
  rw [readToken_eq_some_iff, read_eq_ok_iff]
  constructor
  · rintro ⟨hd, hl⟩
    exact ⟨⟨_, spells_self ⟨n, hd⟩, hd, hl⟩, isTokenChar_of_denotes hd⟩
  · rintro ⟨⟨token, hs, hd⟩, hc⟩
    rwa [eq_of_spells hs hc] at hd

def zeros (k : Nat) : List Char := List.replicate k '0'

theorem areDigits_zeros (hd : AreDigits ds) (k : Nat) : AreDigits (zeros k ++ ds) := by
  refine ⟨by simp [hd.1], fun c hc => ?_⟩
  rcases List.mem_append.mp hc with hz | hc
  · rw [List.eq_of_mem_replicate hz]
    rfl
  · exact hd.2 c hc

theorem placeValue_zeros (k : Nat) (ds : List Char) :
    placeValue (zeros k ++ ds) = placeValue ds := by
  have hz : (zeros k).reverse.map (fun c => c.toNat - '0'.toNat) = List.replicate k 0 := by
    simp [zeros]
  rw [placeValue, placeValue, List.reverse_append, List.map_append, hz,
    Nat.ofDigits_append_replicate_zero]

theorem readToken_zeros (hs : IsSign sign) (hd : AreDigits ds) {k : Nat}
    (hl : k + ds.length ≤ digitLimit) :
    readToken (sign ++ (zeros k ++ ds)) =
      .ok (some (signed (decide (sign = ['-'])) (placeValue ds))) := by
  have hlength : (zeros k ++ ds).length ≤ digitLimit := by
    simp only [List.length_append, zeros, List.length_replicate]
    exact hl
  rw [readToken_sign hs (areDigits_zeros hd k), ofDigits, if_pos hlength, ofDigitChars_eq,
    placeValue_zeros]
  rfl

end FieldGuard.Numeral
