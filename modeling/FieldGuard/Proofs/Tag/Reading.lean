import FieldGuard.Proofs.Tag.Grammar
import FieldGuard.Proofs.Traversal
import Mathlib.Data.List.TakeWhile

namespace FieldGuard.Tag

open Numeral (IsInteger digitCount digitLimit)

variable {kind : Kind} {tag : String} {f : Family} {tokens : List (List Char)}
  {row : Constraint.Row} {ns : List Int} {t : List Char}

theorem parse_of_hasParts (h : HasParts tag f tokens) (kind : Kind) :
    parse tag kind =
      if f = .length ∧ kind.isString = false then .error (.fault ⟨tag, .lengthOnIntegers⟩)
      else constraintOf tag kind f tokens := by
  simp only [parse, h.toList_eq, splitLead?_lead, h.splitOn_eq, h.first_ne, ↓reduceIte]

theorem parse_of_not_hasParts (h : ∀ f tokens, ¬HasParts tag f tokens)
    (kind : Kind) : ∃ reason, parse tag kind = .error (.fault ⟨tag, reason⟩) := by
  rw [parse]
  cases hs : splitLead? tag.toList with
  | none => exact ⟨_, rfl⟩
  | some r =>
    obtain ⟨f, rest⟩ := r
    by_cases hl : f = .length ∧ kind.isString = false
    · exact ⟨_, if_pos hl⟩
    have hf : (rest.splitOn ',').headD [] = [] := by
      by_contra hf
      refine h f (rest.splitOn ',') ⟨?_, ?_, hf⟩
      · rw [List.intercalate_splitOn]
        exact splitLead?_eq_some_iff.mp hs
      · exact fun t ht => Text.not_mem_of_mem_splitOn ht
    exact ⟨.missingArgument, by simp only [hl, hf, ↓reduceIte]⟩

theorem integer_of_denotes {n : Int} (h : Numeral.Denotes t n) (tag : String) :
    integer tag t = if digitCount t ≤ digitLimit then .ok n
      else .error (.numeral (.tooManyDigits (digitCount t))) := by
  rw [integer, Numeral.readToken_of_denotes h]
  split_ifs <;> rfl

theorem integer_of_not_isInteger (h : ¬IsInteger t) (tag : String) :
    integer tag t = .error (.fault ⟨tag, .notInteger (String.ofList t)⟩) := by
  rw [integer, Numeral.readToken_of_not_isInteger h]

inductive ReadsIntegers (tag : String) (ts : List (List Char)) : Except Error (List Int) → Prop
  | done {ns : List Int} (h : List.Forall₂ Numeral.Denotes ts ns)
      (hl : ∀ t ∈ ts, digitCount t ≤ digitLimit) : ReadsIntegers tag ts (.ok ns)
  | tooLong {t : List Char} (h : t ∈ ts.takeWhile fun t => decide (IsInteger t))
      (hl : digitLimit < digitCount t) :
      ReadsIntegers tag ts (.error (.numeral (.tooManyDigits (digitCount t))))
  | refused {t : List Char} (h : t ∈ ts) (hn : ¬IsInteger t)
      (hl : ∀ t ∈ ts.takeWhile fun t => decide (IsInteger t), digitCount t ≤ digitLimit) :
      ReadsIntegers tag ts (.error (.fault ⟨tag, .notInteger (String.ofList t)⟩))

theorem readsIntegers (tag : String) (ts : List (List Char)) :
    ReadsIntegers tag ts (ts.mapM (integer tag)) := by
  induction ts with
  | nil => exact .done .nil (by simp)
  | cons t ts ih =>
    by_cases ht : IsInteger t
    · have hw : (t :: ts).takeWhile (fun t => decide (IsInteger t)) =
          t :: ts.takeWhile fun t => decide (IsInteger t) := List.takeWhile_cons_of_pos (by simpa)
      obtain ⟨n, hn⟩ := ht
      have hi := integer_of_denotes hn tag
      by_cases hl : digitCount t ≤ digitLimit
      · rw [if_pos hl] at hi
        rw [Traversal.mapM_cons_of_ok hi]
        cases hs : ts.mapM (integer tag) <;> rw [hs] at ih
        case ok ns =>
          cases ih with
          | done h hls => exact .done (.cons hn h) (by simpa [hl] using hls)
        case error e =>
          cases ih with
          | tooLong h hlt => exact .tooLong (by simp [hw, h]) hlt
          | refused h hu hls => exact .refused (by simp [h]) hu (by simpa [hw, hl] using hls)
      · rw [if_neg hl] at hi
        rw [Traversal.mapM_cons_of_error hi]
        exact .tooLong (by simp [hw]) (by omega)
    · rw [Traversal.mapM_cons_of_error (integer_of_not_isInteger ht tag)]
      have hw : (t :: ts).takeWhile (fun t => decide (IsInteger t)) = [] :=
        List.takeWhile_cons_of_neg (by simpa)
      exact .refused (by simp) ht (by simp [hw])

def build (tag : String) : Family → List (List Char) → List Int → Except Error Constraint
  | .membership, tokens, _ =>
    .ok (.membership (String.ofList (tokens.headD [])) (tokens.tail.map String.ofList))
  | .length, _, n :: _ =>
    if n < 0 then .error (.fault ⟨tag, .negativeLength⟩) else .ok (.length n.toNat)
  | .minimum, _, a :: _ => .ok (.minimum a)
  | .maximum, _, b :: _ => .ok (.maximum b)
  | .range, _, a :: b :: _ => .ok (.range a b)
  | _, _, _ => .error (.fault ⟨tag, .missingBound⟩)

theorem constraintOf_eq (hk : ¬(f = .length ∧ kind.isString = false)) (tag : String)
    (ht : tokens ≠ []) :
    constraintOf tag kind f tokens =
      (integerTokens kind f tokens).mapM (integer tag) >>= build tag f tokens := by
  obtain ⟨first, others, rfl⟩ := List.exists_cons_of_ne_nil ht
  cases f with
  | length =>
    have hs : kind.isString = true := by simpa using hk
    simp only [constraintOf, integerTokens, hs, List.headD_cons, ↓reduceIte, List.take_succ_cons,
      List.take_zero, Traversal.mapM_singleton]
    cases integer tag first with
    | error e => rfl
    | ok n =>
      by_cases hn : n < 0
      · simp only [bind, Except.bind, Except.map, build, hn, ↓reduceIte]
        rfl
      · simp only [bind, Except.bind, Except.map, build, hn, ↓reduceIte]
        rfl
  | membership =>
    cases hs : kind.isString with
    | true => simp only [constraintOf, membership, integerTokens, hs, ↓reduceIte]; rfl
    | false =>
      simp only [constraintOf, membership, integerTokens, hs, Bool.false_eq_true, ↓reduceIte]
      cases (first :: others).mapM (integer tag) <;> rfl
  | minimum =>
    simp only [constraintOf, integerTokens, List.headD_cons, List.take_succ_cons, List.take_zero,
      Traversal.mapM_singleton]
    cases integer tag first <;> rfl
  | maximum =>
    simp only [constraintOf, integerTokens, List.headD_cons, List.take_succ_cons, List.take_zero,
      Traversal.mapM_singleton]
    cases integer tag first <;> rfl
  | range =>
    cases others with
    | nil => rfl
    | cons second others =>
      have hl : ¬(first :: second :: others).length < 2 := by simp
      simp only [constraintOf, integerTokens, hl, List.tail_cons, List.headD_cons, ↓reduceIte,
        List.take_succ_cons, List.take_zero]
      cases h : integer tag first with
      | error e => rw [Traversal.mapM_cons_of_error h]; rfl
      | ok a =>
        rw [Traversal.mapM_cons_of_ok h, Traversal.mapM_singleton]
        cases integer tag second <;> rfl

theorem isInteger_of_forall₂ (h : List.Forall₂ Numeral.Denotes tokens ns) :
    ∀ t ∈ tokens, IsInteger t := by
  induction h with
  | nil => simp
  | cons hd _ ih =>
    intro t ht
    rcases List.mem_cons.mp ht with rfl | ht
    · exact ⟨_, hd⟩
    · exact ih t ht

theorem means_of_build (hk : ¬(f = .length ∧ kind.isString = false)) (ht : tokens ≠ [])
    (hn : List.Forall₂ Numeral.Denotes (integerTokens kind f tokens) ns) {c : Constraint}
    (h : build tag f tokens ns = .ok c) : Means kind f tokens c.row := by
  obtain ⟨first, others, rfl⟩ := List.exists_cons_of_ne_nil ht
  cases f with
  | length =>
    have hs : kind.isString = true := by simpa using hk
    simp only [integerTokens, hs, ↓reduceIte, List.take_succ_cons, List.take_zero] at hn
    cases hn with
    | @cons _ n _ _ hd hr =>
      simp only [build] at h
      split_ifs at h with hneg
      cases h
      have hc : ((n.toNat : Nat) : Int) = n := by omega
      have hm : Means kind .length (first :: others) ⟨some .length, [], some n, none, none⟩ :=
        .length others hs hd (by omega)
      rwa [← hc] at hm
  | membership =>
    cases h
    have hm : kind.isString = true ∨ ∀ t ∈ first :: others, IsInteger t := by
      cases hs : kind.isString with
      | true => exact .inl rfl
      | false =>
        simp only [integerTokens, hs, Bool.false_eq_true, ↓reduceIte] at hn
        exact .inr (isInteger_of_forall₂ hn)
    exact .membership hm
  | minimum =>
    simp only [integerTokens, List.take_succ_cons, List.take_zero] at hn
    cases hn with
    | cons hd hr =>
      cases h
      exact .minimum others hd
  | maximum =>
    simp only [integerTokens, List.take_succ_cons, List.take_zero] at hn
    cases hn with
    | cons hd hr =>
      cases h
      exact .maximum others hd
  | range =>
    cases others with
    | nil =>
      cases hn
      cases h
    | cons second others =>
      cases hn with
      | cons ha hr =>
        cases hr with
        | cons hb hr =>
          cases h
          exact .range others ha hb

theorem build_of_means (h : Means kind f tokens row) (ht : tokens ≠ [])
    (hn : List.Forall₂ Numeral.Denotes (integerTokens kind f tokens) ns) (tag : String) :
    ∃ c, build tag f tokens ns = .ok c ∧ c.row = row := by
  cases h with
  | @length first n others hk h h0 =>
    simp only [integerTokens, hk, ↓reduceIte, List.take_succ_cons, List.take_zero] at hn
    cases hn with
    | cons hd hr =>
      obtain rfl := Numeral.denotes_unique h hd
      have hneg : ¬n < 0 := by omega
      refine ⟨.length n.toNat, by simp only [build, hneg, ↓reduceIte], ?_⟩
      simp only [Constraint.row, Constraint.family, Constraint.values, Constraint.exactLength?,
        Constraint.lower?, Constraint.upper?, Int.toNat_of_nonneg h0]
  | membership h =>
    obtain ⟨first, others, rfl⟩ := List.exists_cons_of_ne_nil ht
    exact ⟨_, rfl, rfl⟩
  | minimum others h =>
    cases hn with
    | cons hd hr =>
      obtain rfl := Numeral.denotes_unique h hd
      exact ⟨_, rfl, rfl⟩
  | maximum others h =>
    cases hn with
    | cons hd hr =>
      obtain rfl := Numeral.denotes_unique h hd
      exact ⟨_, rfl, rfl⟩
  | range others ha hb =>
    cases hn with
    | cons ha' hr =>
      cases hr with
      | cons hb' hr =>
        obtain rfl := Numeral.denotes_unique ha ha'
        obtain rfl := Numeral.denotes_unique hb hb'
        exact ⟨_, rfl, rfl⟩

theorem build_error {e : Error} (h : build tag f tokens ns = .error e) :
    ∃ reason, e = .fault ⟨tag, reason⟩ := by
  unfold build at h
  split at h
  case h_2 =>
    split_ifs at h
    cases h
    exact ⟨_, rfl⟩
  all_goals cases h
  exact ⟨_, rfl⟩

inductive Parses (kind : Kind) (tag : String) : Except Error Constraint → Prop
  | accepted {c : Constraint} (h : Denotes kind tag c.row)
      (hl : ∀ t, Examines kind tag t → digitCount t ≤ digitLimit) : Parses kind tag (.ok c)
  | tooLong {t : List Char} (h : Examines kind tag t) (hl : digitLimit < digitCount t) :
      Parses kind tag (.error (.numeral (.tooManyDigits (digitCount t))))
  | refused {reason : Reason} (h : ∀ row, ¬Denotes kind tag row)
      (hl : ∀ t, Examines kind tag t → digitCount t ≤ digitLimit) :
      Parses kind tag (.error (.fault ⟨tag, reason⟩))

theorem parses (tag : String) (kind : Kind) : Parses kind tag (parse tag kind) := by
  by_cases hp : ∃ f tokens, HasParts tag f tokens
  · obtain ⟨f, tokens, hp⟩ := hp
    rw [parse_of_hasParts hp]
    by_cases hk : f = .length ∧ kind.isString = false
    · rw [if_pos hk]
      refine .refused (fun row hd => ((hp.denotes_iff kind row).mp hd).legal hk) fun t ht => ?_
      obtain ⟨rfl, hs⟩ := hk
      simp [hp.examines_iff kind t, integerTokens, hs] at ht
    rw [if_neg hk, constraintOf_eq hk tag hp.ne_nil]
    have hr := readsIntegers tag (integerTokens kind f tokens)
    cases hm : (integerTokens kind f tokens).mapM (integer tag) <;> rw [hm] at hr
    case error e =>
      cases hr with
      | tooLong h hl => exact .tooLong ((hp.examines_iff kind _).mpr h) hl
      | refused h hn hl =>
        refine .refused (fun row hd => ?_) fun t ht => hl t ((hp.examines_iff kind t).mp ht)
        exact hn (integerTokens_of_means ((hp.denotes_iff kind row).mp hd) _ h)
    case ok ns =>
      cases hr with
      | done hn hl =>
        have hs : ∀ t, Examines kind tag t → digitCount t ≤ digitLimit := fun t ht =>
          hl t (List.takeWhile_subset _ ((hp.examines_iff kind t).mp ht))
        show Parses kind tag (build tag f tokens ns)
        cases hb : build tag f tokens ns with
        | ok c =>
          exact .accepted ((hp.denotes_iff kind _).mpr (means_of_build hk hp.ne_nil hn hb)) hs
        | error e =>
          obtain ⟨reason, rfl⟩ := build_error hb
          refine .refused (fun row hd => ?_) hs
          obtain ⟨c, hc, -⟩ := build_of_means ((hp.denotes_iff kind row).mp hd) hp.ne_nil hn tag
          rw [hb] at hc
          cases hc
  · have hn : ∀ f tokens, ¬HasParts tag f tokens := fun f tokens h => hp ⟨f, tokens, h⟩
    obtain ⟨reason, hr⟩ := parse_of_not_hasParts hn kind
    rw [hr]
    refine .refused ?_ ?_
    · rintro row ⟨f, tokens, h, -⟩
      exact hn f tokens h
    · rintro t ⟨f, tokens, h, -⟩
      exact absurd h (hn f tokens)

theorem parse_eq_ok_iff {c : Constraint} :
    parse tag kind = .ok c ↔
      Denotes kind tag c.row ∧ ∀ t, Examines kind tag t → digitCount t ≤ digitLimit := by
  have hp := parses tag kind
  constructor
  · intro h
    rw [h] at hp
    cases hp with
    | accepted h hl => exact ⟨h, hl⟩
  · rintro ⟨h, hl⟩
    cases hr : parse tag kind <;> rw [hr] at hp
    case ok d =>
      cases hp with
      | accepted hd _ => rw [row_injective (denotes_unique hd h)]
    case error e =>
      cases hp with
      | tooLong ht hlong => exact absurd (hl _ ht) (by omega)
      | refused hn _ => exact absurd h (hn c.row)

theorem examines_of_means (hp : HasParts tag f tokens) (hm : Means kind f tokens row)
    (t : List Char) : Examines kind tag t ↔ t ∈ integerTokens kind f tokens := by
  have hall : (integerTokens kind f tokens).takeWhile (fun u => decide (IsInteger u)) =
      integerTokens kind f tokens :=
    List.takeWhile_eq_self_iff.mpr fun u hu => decide_eq_true (integerTokens_of_means hm u hu)
  rw [hp.examines_iff, hall]

theorem parse_of_means {c : Constraint} (hp : HasParts tag f tokens)
    (hm : Means kind f tokens c.row)
    (hl : ∀ t ∈ integerTokens kind f tokens, digitCount t ≤ digitLimit) :
    parse tag kind = .ok c := by
  rw [parse_eq_ok_iff, hp.denotes_iff]
  exact ⟨hm, fun t ht => hl t ((examines_of_means hp hm t).mp ht)⟩

theorem means_of_parse {c : Constraint} (h : parse tag kind = .ok c) :
    ∃ f tokens, HasParts tag f tokens ∧ Means kind f tokens c.row ∧
      ∀ t ∈ integerTokens kind f tokens, digitCount t ≤ digitLimit := by
  obtain ⟨⟨f, tokens, hp, hm⟩, hl⟩ := parse_eq_ok_iff.mp h
  exact ⟨f, tokens, hp, hm, fun t ht => hl t ((examines_of_means hp hm t).mpr ht)⟩

theorem parse_of_not_denotes
    (hl : ∀ t, Examines kind tag t → digitCount t ≤ digitLimit)
    (h : ∀ row, ¬Denotes kind tag row) :
    ∃ reason, parse tag kind = .error (.fault ⟨tag, reason⟩) := by
  have hp := parses tag kind
  cases hr : parse tag kind <;> rw [hr] at hp
  case ok c =>
    cases hp with
    | accepted hd _ => exact absurd hd (h c.row)
  case error e =>
    cases hp with
    | tooLong ht hlong => exact absurd (hl _ ht) (by omega)
    | @refused reason _ _ => exact ⟨reason, rfl⟩

theorem parse_congr {other : String} {tokens' : List (List Char)} (hf : f ≠ .membership)
    (h : HasParts tag f tokens) (h' : HasParts other f tokens')
    (ht : tokens.take (arity f) = tokens'.take (arity f)) (c : Constraint) :
    parse tag kind = .ok c ↔ parse other kind = .ok c := by
  simp only [parse_eq_ok_iff, h.denotes_iff, h'.denotes_iff, h.examines_iff, h'.examines_iff,
    integerTokens_of_take hf ht]
  exact and_congr_left fun _ => ⟨means_of_take hf ht, means_of_take hf ht.symm⟩

/-- Reading accepts exactly the grammar and gives the meaning, as long as no token that it examines
has too many digits. Any other tag is a fault. The lead is unique in whatever order it is looked
for, and tokens beyond those that a family takes do not count. -/
theorem parse_iff_grammar (hl : ∀ t, Examines kind tag t → digitCount t ≤ digitLimit) :
    (∀ c, parse tag kind = .ok c ↔ Denotes kind tag c.row) ∧
    (∀ row, Denotes kind tag row → ∃ c, parse tag kind = .ok c ∧ c.row = row) ∧
    ((∀ row, ¬Denotes kind tag row) → ∃ reason, parse tag kind = .error (.fault ⟨tag, reason⟩)) ∧
    (∀ f g : Family, f.lead.toList <+: tag.toList → g.lead.toList <+: tag.toList → f = g) ∧
    (∀ order : List Family, (∀ f, f ∈ order) →
      splitLeadIn? order tag.toList = splitLead? tag.toList) ∧
    ∀ (f : Family) (tokens others : List (List Char)) (other : String), f ≠ .membership →
      HasParts tag f tokens → HasParts other f others →
      tokens.take (arity f) = others.take (arity f) →
      ∀ c, parse tag kind = .ok c ↔ parse other kind = .ok c := by
  have hd : ∀ c, parse tag kind = .ok c ↔ Denotes kind tag c.row := by
    intro c
    rw [parse_eq_ok_iff]
    exact and_iff_left hl
  refine ⟨hd, fun row h => ?_, parse_of_not_denotes hl, fun f g => lead_unique,
    fun order ho => splitLeadIn?_eq ho _, fun f tokens others other hf h h' ht =>
      parse_congr hf h h' ht⟩
  cases hr : parse tag kind with
  | ok c => exact ⟨c, rfl, denotes_unique ((hd c).mp hr) h⟩
  | error e =>
    have hp := parses tag kind
    rw [hr] at hp
    cases hp with
    | tooLong ht hlong => exact absurd (hl _ ht) (by omega)
    | refused hn _ => exact absurd h (hn row)

theorem parse_iff_grammar_range :
    (∀ t, Examines .integerList "range:+1,-007,x" t → digitCount t ≤ digitLimit) ∧
      parse "range:+1,-007,x" .integerList = .ok (.range 1 (-7)) := by
  have hp : HasParts "range:+1,-007,x" .range [['+', '1'], ['-', '0', '0', '7'], ['x']] :=
    ⟨by decide, by decide, by decide⟩
  have hl : ∀ t, Examines .integerList "range:+1,-007,x" t → digitCount t ≤ digitLimit := by
    intro t ht
    rw [hp.examines_iff] at ht
    revert t
    decide
  have ha : Numeral.Denotes ['+', '1'] 1 := by decide
  have hb : Numeral.Denotes ['-', '0', '0', '7'] (-7) := by decide
  exact ⟨hl, ((parse_iff_grammar hl).1 _).mpr ⟨_, _, hp, .range [['x']] ha hb⟩⟩

end FieldGuard.Tag
