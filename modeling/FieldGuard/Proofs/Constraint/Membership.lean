import FieldGuard.Proofs.Constraint.Recording

namespace FieldGuard.Constraint

open Numeral (AreDigits IsInteger IsTokenChar Spells digitLimit read readToken zeros)

variable {c : Constraint} {k : Kind} {args field first s tag : String} {others : List String}
  {vs : Violations}

theorem recordString_fst_iff : (c.recordString field s vs).1 = true ↔ c.stringFault? s = none := by
  rw [recordString, note_eq]
  cases c.stringFault? s <;> simp [violation?]

theorem stringFault?_membership_iff :
    (membership first others).stringFault? s = none ↔
      ∃ entry ∈ first :: others, s.toList <:+: entry.toList := by
  simp only [stringFault?, ite_eq_left_iff, reduceCtorEq, imp_false, not_not, List.any_eq_true,
    Text.occursIn_iff]

def ofArguments (args : String) : Constraint :=
  membership (String.ofList ((args.toList.splitOn ',').headD []))
    ((args.toList.splitOn ',').tail.map String.ofList)

theorem parse_arguments (hk : k.isString = true) (args : String) :
    Tag.parse ("in:" ++ args) k =
      if args = "" ∨ args.toList.head? = some ','
      then .error (.fault ⟨"in:" ++ args, .missingArgument⟩) else .ok (ofArguments args) := by
  have hlead : ("in:" ++ args).toList = Family.membership.lead.toList ++ args.toList :=
    String.toList_append
  rw [Tag.parse, hlead, Tag.splitLead?_lead]
  simp only [↓reduceIte, reduceCtorEq, false_and, Text.headD_splitOn_eq_nil_iff,
    String.toList_eq_nil_iff, Tag.constraintOf, Tag.membership, hk]
  rfl

theorem stringFault?_ofArguments_iff :
    (ofArguments args).stringFault? s = none ↔ ',' ∉ s.toList ∧ s.toList <:+: args.toList := by
  obtain ⟨part, parts, hs⟩ := List.exists_cons_of_ne_nil (List.splitOn_ne_nil ',' args.toList)
  rw [ofArguments, stringFault?_membership_iff, ← Text.infix_splitOn_iff, hs]
  simp

theorem membership_iff_occurs (hk : k.isString = true) (args : String) :
    ((∃ c, Tag.parse ("in:" ++ args) k = .ok c) ↔
      args ≠ "" ∧ args.toList.head? ≠ some ',') ∧
    ∀ c, Tag.parse ("in:" ++ args) k = .ok c → ∀ field vs,
      (∀ s, (c.recordString field s vs).1 = true ↔
        ',' ∉ s.toList ∧ s.toList <:+: args.toList) ∧
      (c.recordString field "" vs).1 = true ∧
      (∀ s t, (c.recordString field s vs).1 = true → t.toList <:+: s.toList →
        (c.recordString field t vs).1 = true) ∧
      ∀ s, ',' ∈ s.toList → (c.recordString field s vs).1 = false := by
  have hp := parse_arguments hk args
  constructor
  · rw [hp, ← not_or]
    split_ifs with h <;> simp [h]
  · intro c hc field vs
    rw [hp] at hc
    split_ifs at hc
    cases hc
    have hiff (s : String) : ((ofArguments args).recordString field s vs).1 = true ↔
        ',' ∉ s.toList ∧ s.toList <:+: args.toList := by
      rw [recordString_fst_iff, stringFault?_ofArguments_iff]
    refine ⟨hiff, ?empty, ?part, ?comma⟩
    case empty =>
      rw [hiff]
      exact ⟨by simp, by simp⟩
    case part =>
      intro s t hs ht
      rw [hiff] at hs ⊢
      exact ⟨fun hm => hs.1 (ht.subset hm), ht.trans hs.2⟩
    case comma =>
      intro s hm
      rw [← Bool.not_eq_true, hiff]
      exact fun hs => hs.1 hm

theorem membership_iff_occurs_words :
    Kind.stringList.isString = true ∧
      Tag.parse "in:hello,wörld," .stringList = .ok (membership "hello" ["wörld", ""]) ∧
      ((membership "hello" ["wörld", ""]).recordString "x" "ör" ⟨[]⟩).1 = true ∧
      ((membership "hello" ["wörld", ""]).recordString "x" "o,w" ⟨[]⟩).1 = false := by
  have hk : Kind.stringList.isString = true := rfl
  have hp : Tag.parse ("in:" ++ "hello,wörld,") .stringList =
      .ok (membership "hello" ["wörld", ""]) := rfl
  obtain ⟨hiff, -, -, hcomma⟩ := (membership_iff_occurs hk "hello,wörld,").2 _ hp "x" ⟨[]⟩
  have ho : ("ör".toList) <:+: "hello,wörld,".toList := ⟨"hello,w".toList, "ld,".toList, rfl⟩
  exact ⟨hk, hp, (hiff "ör").mpr ⟨by decide, ho⟩, hcomma "o,w" (by decide)⟩

theorem forall₂_readToken (hk : k.isString = false) (h : Tag.parse tag k = .ok c) :
    ∃ ns, c.integers = .ok ns ∧
      List.Forall₂ (fun w n => readToken w.toList = .ok (some n)) c.values ns := by
  obtain ⟨hd, hl⟩ := Tag.parse_eq_ok_iff.mp h
  obtain ⟨ns, hn, hr⟩ := reads_of_denotes hd hl hk
  refine ⟨ns, hn, ?_⟩
  have hread : List.Forall₂ (fun w n => read w = .ok n) c.values ns :=
    Traversal.mapM_eq_ok_iff.mp hn
  refine (Traversal.forall₂_and_mem hread).imp fun w n hw => ?_
  obtain ⟨m, -, hm⟩ := Traversal.exists_mem_right hr w hw.2.1
  rw [Numeral.readToken_of_isInteger ⟨m, hm⟩, hw.1]
  rfl

/-- The strict reader is the lenient one on signs and ASCII digits. The lenient one reads every text
as the strict one reads the token that it spells. Zeros and a plus in front do not count, and a
minus negates. A tag on integers has values that both read, and as the same integers. -/
theorem readers_agree :
    (∀ text n, readToken text.toList = .ok (some n) ↔
      read text = .ok n ∧ ∀ c ∈ text.toList, IsTokenChar c) ∧
    (∀ text, IsInteger text.toList → readToken text.toList = (read text).map some) ∧
    (∀ text n, read text = .ok n ↔
      ∃ token, Spells text.toList token ∧ readToken token = .ok (some n)) ∧
    (∀ digits k, AreDigits digits → k + digits.length ≤ digitLimit → ∃ m : Nat,
      readToken digits = .ok (some m) ∧
      readToken (zeros k ++ digits) = .ok (some m) ∧
      readToken ('+' :: (zeros k ++ digits)) = .ok (some m) ∧
      readToken ('-' :: (zeros k ++ digits)) = .ok (some (-m))) ∧
    ∀ (k : Kind) (tag : String) (c : Constraint), k.isString = false → Tag.parse tag k = .ok c →
      ∃ ns, c.integers = .ok ns ∧ ns.length = c.values.length ∧
        List.Forall₂ (fun w n => readToken w.toList = .ok (some n)) c.values ns := by
  refine ⟨fun _ _ => Numeral.readToken_eq_some_iff_read, fun _ => Numeral.readToken_of_isInteger,
    fun text n => ?spelled, fun digits k hd hl => ?signed, fun k tag c hk h => ?tag⟩
  case spelled =>
    simp only [Numeral.read_eq_ok_iff, Numeral.readToken_eq_some_iff]
  case signed =>
    have hplain : 0 + digits.length ≤ digitLimit := by omega
    have hnone : Numeral.IsSign [] := .inl rfl
    refine ⟨Numeral.placeValue digits, ?_, ?_, ?_, ?_⟩
    · exact Numeral.readToken_zeros hnone hd hplain
    · exact Numeral.readToken_zeros hnone hd hl
    · exact Numeral.readToken_zeros (.inr (.inl rfl)) hd hl
    · exact Numeral.readToken_zeros (.inr (.inr rfl)) hd hl
  case tag =>
    obtain ⟨ns, hn, hr⟩ := forall₂_readToken hk h
    exact ⟨ns, hn, hr.length_eq.symm, hr⟩

theorem readers_agree_signed :
    (readToken "-013".toList = .ok (some (-13)) ∧ read "-013" = .ok (-13)) ∧
      (Spells "\t-1_٣ ".toList "-13".toList ∧ read "\t-1_٣ " = .ok (-13)) ∧
      (AreDigits ['1', '3'] ∧ 1 + ['1', '3'].length ≤ digitLimit ∧
        readToken "-013".toList = .ok (some (-13))) ∧
      Kind.integerList.isString = false ∧
      Tag.parse "in:+7,-007" .integerList = .ok (membership "+7" ["-007"]) ∧
      ∃ ns, (membership "+7" ["-007"]).integers = .ok ns ∧ ns.length = 2 ∧
        List.Forall₂ (fun w n => readToken w.toList = .ok (some n)) ["+7", "-007"] ns := by
  obtain ⟨hstrict, -, hspelled, hsigned, htag⟩ := readers_agree
  have hr : readToken "-013".toList = .ok (some (-13)) := by decide
  have hl : 1 + ['1', '3'].length ≤ digitLimit := by decide
  have hs : Spells "\t-1_٣ ".toList "-13".toList := by
    have htab : Numeral.isPadding '\t' = true := by decide
    have hblank : Numeral.isPadding ' ' = true := by decide
    have hone : Numeral.plain? '1' = some '1' := by decide
    have hunder : Numeral.plain? '_' = some '_' := by decide
    have hthree : Numeral.plain? '٣' = some '3' := by decide
    have hp : List.Forall₂ (fun c d => Numeral.plain? c = some d) ['1', '_', '٣']
        (['_'].intercalate [['1'], ['3']]) := .cons hone (.cons hunder (.cons hthree .nil))
    exact @Spells.number ['\t'] ['-'] ['1', '_', '٣'] [' '] [['1'], ['3']]
      (by simpa using htab) (.inr (.inr rfl)) hp (by simp) (by simp [AreDigits])
      (by simpa using hblank)
  have hread : read "\t-1_٣ " = .ok (-13) := by
    have ht : readToken "-13".toList = .ok (some (-13)) := by decide
    exact (hspelled _ _).mpr ⟨_, hs, ht⟩
  have hd : AreDigits ['1', '3'] := by simp [AreDigits]
  have hk : Kind.integerList.isString = false := rfl
  have hp : Tag.parse "in:+7,-007" .integerList = .ok (membership "+7" ["-007"]) := rfl
  obtain ⟨m, hm, -, -, hminus⟩ := hsigned ['1', '3'] 1 hd hl
  have h13 : readToken ['1', '3'] = .ok (some 13) := by decide
  rw [h13] at hm
  cases hm
  exact ⟨⟨hr, ((hstrict "-013" _).mp hr).1⟩, ⟨hs, hread⟩,
    ⟨hd, hl, hminus⟩, hk, hp, htag _ _ _ hk hp⟩

end FieldGuard.Constraint
