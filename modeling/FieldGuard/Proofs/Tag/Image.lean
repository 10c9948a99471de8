import FieldGuard.Proofs.Tag.Writing

namespace FieldGuard

namespace Constraint

structure Row.Sets (r : Row) (f : Family) : Prop where
  values_ne_nil : f = .membership → r.values ≠ []
  values_eq_nil : f ≠ .membership → r.values = []
  isSome_length : r.exactLength.isSome = true ↔ f = .length
  length_nonneg : ∀ n, r.exactLength = some n → 0 ≤ n
  isSome_lower : r.lower.isSome = true ↔ needsLower f = true
  isSome_upper : r.upper.isSome = true ↔ needsUpper f = true

variable {r : Row} {f : Family} {c : Constraint}

theorem not_bne_iff {a b : Bool} : ¬(a != b) = true ↔ (b = true ↔ a = true) := by
  cases a <;> cases b <;> simp

theorem Row.error?_eq_none_iff : r.error? f = none ↔ r.Sets f := by
  have hneg : ¬r.exactLength.any (· < 0) = true ↔ ∀ n, r.exactLength = some n → 0 ≤ n := by
    cases r.exactLength <;> simp
  have hlen : (f == .length) = true ↔ f = .length := beq_iff_eq
  rw [Row.error?]
  constructor
  · intro h
    split_ifs at h with hm hv hx hn ha hb
    rw [not_bne_iff] at hx ha hb
    exact ⟨fun hf hnil => hm ⟨hf, hnil⟩, fun hf => by_contra fun hne => hv ⟨hf, hne⟩, hx.trans hlen,
      hneg.mp hn, ha, hb⟩
  · rintro ⟨hm, hv, hx, hn, ha, hb⟩
    rw [if_neg fun h => hm h.1 h.2, if_neg fun h => h.2 (hv h.1),
      if_neg (not_bne_iff.mpr (hx.trans hlen.symm)), if_neg (hneg.mpr hn),
      if_neg (not_bne_iff.mpr ha), if_neg (not_bne_iff.mpr hb)]

theorem Row.Sets.row_read (h : r.Sets f) (hf : r.family = some f) : (r.read f).row = r := by
  obtain ⟨family, values, exactLength, lower, upper⟩ := r
  obtain ⟨hm, hv, hx, hn, ha, hb⟩ := h
  dsimp only at hf hm hv hx hn ha hb
  subst hf
  have hnone {o : Option Int} {p : Prop} (h : o.isSome = true ↔ p) (hp : ¬p) : o = none :=
    Option.isNone_iff_eq_none.mp (by simpa using mt h.mp hp)
  cases f with
  | length =>
    obtain ⟨n, rfl⟩ := Option.isSome_iff_exists.mp (hx.mpr rfl)
    obtain rfl := hv (by decide)
    obtain rfl := hnone ha (by decide)
    obtain rfl := hnone hb (by decide)
    have h0 : ((n.toNat : Nat) : Int) = n := Int.toNat_of_nonneg (hn n rfl)
    simp only [Row.read, row, exactLength?, Option.getD_some, h0]
    rfl
  | membership =>
    obtain ⟨first, others, rfl⟩ := List.exists_cons_of_ne_nil (hm rfl)
    obtain rfl := hnone hx (by decide)
    obtain rfl := hnone ha (by decide)
    obtain rfl := hnone hb (by decide)
    rfl
  | minimum =>
    obtain ⟨a, rfl⟩ := Option.isSome_iff_exists.mp (ha.mpr rfl)
    obtain rfl := hv (by decide)
    obtain rfl := hnone hx (by decide)
    obtain rfl := hnone hb (by decide)
    rfl
  | maximum =>
    obtain ⟨b, rfl⟩ := Option.isSome_iff_exists.mp (hb.mpr rfl)
    obtain rfl := hv (by decide)
    obtain rfl := hnone hx (by decide)
    obtain rfl := hnone ha (by decide)
    rfl
  | range =>
    obtain ⟨a, rfl⟩ := Option.isSome_iff_exists.mp (ha.mpr rfl)
    obtain ⟨b, rfl⟩ := Option.isSome_iff_exists.mp (hb.mpr rfl)
    obtain rfl := hv (by decide)
    obtain rfl := hnone hx (by decide)
    rfl

theorem row_of_ofRow (h : ofRow r = .ok c) : c.row = r := by
  rw [ofRow] at h
  cases hf : r.family with
  | none => simp [hf] at h
  | some f =>
    simp only [hf] at h
    cases he : r.error? f with
    | some e => simp [he] at h
    | none =>
      simp only [he, Except.ok.injEq] at h
      rw [← h]
      exact (Row.error?_eq_none_iff.mp he).row_read hf

end Constraint

namespace Tag

open Numeral (IsInteger Writes digitCount digitLimit)

variable {kind : Kind} {tag : String} {f : Family} {tokens : List (List Char)} {c : Constraint}
  {r : Constraint.Row}

structure Expressible (kind : Kind) (r : Constraint.Row) : Prop where
  short : ∀ n, r.exactLength = some n ∨ r.lower = some n ∨ r.upper = some n →
    n.natAbs < Numeral.limit
  strings : kind.isString = true → r.family = some .membership →
    r.values.headD "" ≠ "" ∧ ∀ w ∈ r.values, ',' ∉ w.toList
  integers : kind.isString = false → r.family ≠ some .length ∧
    ∀ w ∈ r.values, IsInteger w.toList ∧ digitCount w.toList ≤ digitLimit

theorem expressible_of_means (hp : HasParts tag f tokens) (hm : Means kind f tokens r)
    (hl : ∀ t ∈ integerTokens kind f tokens, digitCount t ≤ digitLimit) : Expressible kind r := by
  cases hm with
  | @length first n others hk h hn =>
    have hw : Writes first n := ⟨h, hl first (by simp [integerTokens, hk])⟩
    exact ⟨by simpa using hw.natAbs_lt, by simp, by simp [hk]⟩
  | membership h =>
    refine ⟨by simp, fun hk _ => ⟨?first, ?parts⟩, fun hk => ⟨by simp, ?integers⟩⟩
    case first =>
      obtain ⟨first, others, rfl⟩ := List.exists_cons_of_ne_nil hp.ne_nil
      simpa using hp.first_ne
    case parts =>
      intro w hw
      obtain ⟨t, ht, rfl⟩ := List.mem_map.mp hw
      rw [String.toList_ofList]
      exact hp.no_comma t ht
    case integers =>
      intro w hw
      obtain ⟨t, ht, rfl⟩ := List.mem_map.mp hw
      have hi : ∀ u ∈ tokens, IsInteger u := h.resolve_left (by simp [hk])
      rw [String.toList_ofList]
      exact ⟨hi t ht, hl t (by simp [integerTokens, hk, ht])⟩
  | @minimum first a others h =>
    have hw : Writes first a := ⟨h, hl first (by simp [integerTokens])⟩
    exact ⟨by simpa using hw.natAbs_lt, by simp, by simp⟩
  | @maximum first b others h =>
    have hw : Writes first b := ⟨h, hl first (by simp [integerTokens])⟩
    exact ⟨by simpa using hw.natAbs_lt, by simp, by simp⟩
  | @range first second a b others ha hb =>
    have hw : Writes first a := ⟨ha, hl first (by simp [integerTokens])⟩
    have hv : Writes second b := ⟨hb, hl second (by simp [integerTokens])⟩
    refine ⟨?_, by simp, by simp⟩
    rintro n (hn | hn | hn) <;> cases hn
    · exact hw.natAbs_lt
    · exact hv.natAbs_lt

theorem parse_write (h : Expressible kind c.row) : parse (write c) kind = .ok c := by
  cases c with
  | length n =>
    have hk : kind.isString = true := by
      by_contra hk
      exact (h.integers (by simpa using hk)).1 rfl
    exact parse_length hk (Numeral.writes_decimal (h.short n (.inl rfl))) (by omega)
  | membership first others =>
    have hint (hk : kind.isString = false) := (h.integers hk).2
    apply parse_values _ _ hint
    · intro w hw
      cases hk : kind.isString with
      | true => exact (h.strings hk rfl).2 w hw
      | false =>
        obtain ⟨⟨n, hn⟩, -⟩ := hint hk w hw
        exact Numeral.comma_not_mem_of_denotes hn
    · cases hk : kind.isString with
      | true => exact (h.strings hk rfl).1
      | false =>
        rintro rfl
        obtain ⟨⟨n, hn⟩, -⟩ := hint hk "" (List.mem_cons_self)
        exact Numeral.ne_nil_of_denotes hn rfl
  | minimum a => exact parse_minimum (Numeral.writes_decimal (h.short a (.inr (.inl rfl))))
  | maximum b => exact parse_maximum (Numeral.writes_decimal (h.short b (.inr (.inr rfl))))
  | range a b =>
    have ha := Numeral.writes_decimal (h.short a (.inr (.inl rfl)))
    have hb := Numeral.writes_decimal (h.short b (.inr (.inr rfl)))
    exact parse_range ha hb

def assembleTokens (tag : String) (kind : Kind) (f : Family) (tokens : List (List Char)) :
    Except Error Constraint.Row :=
  let first := tokens.headD []
  match f with
  | .membership => do
    if kind.isString = false then
      let _ ← tokens.mapM (integer tag)
    return ⟨some .membership, tokens.map String.ofList, none, none, none⟩
  | .length => do
    let n ← integer tag first
    if n < 0 then throw (.fault ⟨tag, .negativeLength⟩)
    return ⟨some .length, [], some n, none, none⟩
  | .minimum => do return ⟨some .minimum, [], none, some (← integer tag first), none⟩
  | .maximum => do return ⟨some .maximum, [], none, none, some (← integer tag first)⟩
  | .range =>
    match tokens.tail with
    | [] => .error (.fault ⟨tag, .missingBound⟩)
    | second :: _ => do
      return ⟨some .range, [], none, some (← integer tag first), some (← integer tag second)⟩

def assemble (tag : String) (kind : Kind) : Except Error Constraint.Row :=
  match splitLead? tag.toList with
  | none => .error (.fault ⟨tag, .unknownFamily⟩)
  | some (f, arguments) =>
    let tokens := arguments.splitOn ','
    if f = .length ∧ kind.isString = false then .error (.fault ⟨tag, .lengthOnIntegers⟩)
    else if tokens.headD [] = [] then .error (.fault ⟨tag, .missingArgument⟩)
    else assembleTokens tag kind f tokens

theorem assembleTokens_eq (ht : tokens ≠ []) (tag : String) (kind : Kind) (f : Family) :
    assembleTokens tag kind f tokens = (constraintOf tag kind f tokens).map Constraint.row := by
  obtain ⟨first, others, rfl⟩ := List.exists_cons_of_ne_nil ht
  cases f with
  | membership =>
    cases hk : kind.isString with
    | true =>
      simp only [assembleTokens, constraintOf, membership, hk]
      rfl
    | false =>
      simp only [assembleTokens, constraintOf, membership, hk]
      cases (first :: others).mapM (integer tag) <;> rfl
  | length =>
    simp only [assembleTokens, constraintOf, List.headD_cons]
    cases integer tag first with
    | error e => rfl
    | ok n =>
      by_cases hn : n < 0
      · simp only [bind, Except.bind, hn, ↓reduceIte]
        rfl
      · have hr : (Constraint.length n.toNat).row = ⟨some .length, [], some n, none, none⟩ := by
          have hc : ((n.toNat : Nat) : Int) = n := by omega
          simp only [Constraint.row, Constraint.exactLength?, hc]
          rfl
        simp only [bind, Except.bind, hn, ↓reduceIte]
        exact congrArg Except.ok hr.symm
  | minimum | maximum =>
    simp only [assembleTokens, constraintOf, List.headD_cons]
    cases integer tag first <;> rfl
  | range =>
    cases others with
    | nil => rfl
    | cons second others =>
      simp only [assembleTokens, constraintOf, List.headD_cons, List.tail_cons]
      cases integer tag first with
      | error e => rfl
      | ok a => cases integer tag second <;> rfl

theorem assemble_eq (tag : String) (kind : Kind) :
    assemble tag kind = (parse tag kind).map Constraint.row := by
  rw [assemble, parse]
  cases splitLead? tag.toList with
  | none => rfl
  | some parts =>
    obtain ⟨f, arguments⟩ := parts
    dsimp only
    rw [assembleTokens_eq (List.splitOn_ne_nil ',' arguments)]
    split_ifs <;> rfl

/-- The rows that tags of a kind state are those that make a constraint and can be written. What is
written for such a row reads back. The row that reading assembles always makes a constraint. -/
theorem parse_image (kind : Kind) :
    (∀ r : Constraint.Row, (∃ tag c, parse tag kind = .ok c ∧ c.row = r) ↔
      (∃ c, Constraint.ofRow r = .ok c) ∧ Expressible kind r) ∧
    (∀ r c, Constraint.ofRow r = .ok c → Expressible kind r → parse (write c) kind = .ok c) ∧
    ∀ tag, (∀ r, assemble tag kind = .ok r → ∃ c, Constraint.ofRow r = .ok c ∧
        parse tag kind = .ok c) ∧
      ∀ e, assemble tag kind = .error e → parse tag kind = .error e := by
  have hwrite (r : Constraint.Row) (c : Constraint) (hc : Constraint.ofRow r = .ok c)
      (he : Expressible kind r) : parse (write c) kind = .ok c := by
    rw [← Constraint.row_of_ofRow hc] at he
    exact parse_write he
  refine ⟨fun r => ⟨?stated, ?written⟩, hwrite, fun tag => ⟨fun r h => ?_, fun e h => ?_⟩⟩
  case stated =>
    rintro ⟨tag, c, hc, rfl⟩
    obtain ⟨f, tokens, hp, hm, hl⟩ := means_of_parse hc
    exact ⟨⟨c, Constraint.ofRow_row c⟩, expressible_of_means hp hm hl⟩
  case written =>
    rintro ⟨⟨c, hc⟩, he⟩
    exact ⟨write c, c, hwrite r c hc he, Constraint.row_of_ofRow hc⟩
  · rw [assemble_eq, Traversal.map_eq_ok_iff] at h
    obtain ⟨c, hc, rfl⟩ := h
    exact ⟨c, Constraint.ofRow_row c, hc⟩
  · rwa [assemble_eq, Traversal.map_eq_error_iff] at h

theorem parse_image_range :
    Constraint.ofRow ⟨some .range, [], none, some (-5), some 12⟩ = .ok (.range (-5) 12) ∧
      Expressible .integerList ⟨some .range, [], none, some (-5), some 12⟩ ∧
      write (.range (-5) 12) = "range:-5,12" ∧
      parse "range:-5,12" .integerList = .ok (.range (-5) 12) := by
  have hr : Constraint.ofRow ⟨some .range, [], none, some (-5), some 12⟩ =
      .ok (.range (-5) 12) := by
    decide
  have hw : write (.range (-5) 12) = "range:-5,12" := by decide
  have he : Expressible .integerList ⟨some .range, [], none, some (-5), some 12⟩ := by
    have hlimit : Nat.pow 10 2 ≤ Numeral.limit := Numeral.pow_le_limit (by decide)
    refine ⟨?_, by simp, by simp⟩
    rintro n (hn | hn | hn) <;> cases hn
    · exact Nat.lt_of_lt_of_le (by decide) hlimit
    · exact Nat.lt_of_lt_of_le (by decide) hlimit
  exact ⟨hr, he, hw, hw ▸ (parse_image .integerList).2.1 _ _ hr he⟩

end Tag

end FieldGuard
