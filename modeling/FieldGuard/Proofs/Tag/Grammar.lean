import FieldGuard.Constraint.Tag
import FieldGuard.Proofs.Numeral.Token
import FieldGuard.Proofs.Text.Separated
import Mathlib.Data.List.Forall2

namespace FieldGuard.Tag

open Numeral (IsInteger)

structure HasParts (tag : String) (f : Family) (tokens : List (List Char)) : Prop where
  toList_eq : tag.toList = f.lead.toList ++ [','].intercalate tokens
  no_comma : ∀ t ∈ tokens, ',' ∉ t
  first_ne : tokens.headD [] ≠ []

inductive Means (kind : Kind) : Family → List (List Char) → Constraint.Row → Prop
  | length {first : List Char} {n : Int} (others : List (List Char)) (hk : kind.isString = true)
      (h : Numeral.Denotes first n) (hn : 0 ≤ n) :
      Means kind .length (first :: others) ⟨some .length, [], some n, none, none⟩
  | membership {tokens : List (List Char)}
      (h : kind.isString = true ∨ ∀ t ∈ tokens, IsInteger t) :
      Means kind .membership tokens
        ⟨some .membership, tokens.map String.ofList, none, none, none⟩
  | minimum {first : List Char} {a : Int} (others : List (List Char))
      (h : Numeral.Denotes first a) :
      Means kind .minimum (first :: others) ⟨some .minimum, [], none, some a, none⟩
  | maximum {first : List Char} {b : Int} (others : List (List Char))
      (h : Numeral.Denotes first b) :
      Means kind .maximum (first :: others) ⟨some .maximum, [], none, none, some b⟩
  | range {first second : List Char} {a b : Int} (others : List (List Char))
      (ha : Numeral.Denotes first a) (hb : Numeral.Denotes second b) :
      Means kind .range (first :: second :: others) ⟨some .range, [], none, some a, some b⟩

def Denotes (kind : Kind) (tag : String) (row : Constraint.Row) : Prop :=
  ∃ f tokens, HasParts tag f tokens ∧ Means kind f tokens row

def integerTokens (kind : Kind) (f : Family) (tokens : List (List Char)) : List (List Char) :=
  match f with
  | .length => if kind.isString then tokens.take 1 else []
  | .membership => if kind.isString then [] else tokens
  | .minimum | .maximum => tokens.take 1
  | .range => if tokens.length < 2 then [] else tokens.take 2

/-- The integer tokens that reading examines: it stops at the first that is no integer. -/
def Examines (kind : Kind) (tag : String) (token : List Char) : Prop :=
  ∃ f tokens, HasParts tag f tokens ∧
    token ∈ (integerTokens kind f tokens).takeWhile fun t => decide (IsInteger t)

def arity : Family → Nat
  | .range => 2
  | _ => 1

variable {kind : Kind} {tag : String} {f g : Family} {tokens : List (List Char)}
  {row row' : Constraint.Row}

theorem splitLead?_lead (f : Family) (cs : List Char) :
    splitLead? (f.lead.toList ++ cs) = some (f, cs) := by
  cases f <;> rfl

theorem splitLead?_eq_some_iff {cs rest : List Char} :
    splitLead? cs = some (f, rest) ↔ cs = f.lead.toList ++ rest := by
  constructor
  · intro h
    obtain ⟨g, -, hg⟩ := List.exists_of_findSome?_eq_some h
    obtain ⟨r, hr, he⟩ := Option.map_eq_some_iff.mp hg
    cases he
    exact (List.append_eq_of_isPrefixOf?_eq_some hr).symm
  · rintro rfl
    exact splitLead?_lead f rest

theorem lead_unique {cs : List Char} (hf : f.lead.toList <+: cs) (hg : g.lead.toList <+: cs) :
    f = g := by
  obtain ⟨a, rfl⟩ := hf
  obtain ⟨b, hb⟩ := hg
  have h := splitLead?_lead g b
  rw [hb, splitLead?_lead] at h
  exact congrArg Prod.fst (Option.some.inj h)

def splitLeadIn? (order : List Family) (cs : List Char) : Option (Family × List Char) :=
  order.findSome? fun f => (f.lead.toList.isPrefixOf? cs).map fun rest => (f, rest)

theorem splitLeadIn?_eq {order : List Family} (h : ∀ f, f ∈ order) (cs : List Char) :
    splitLeadIn? order cs = splitLead? cs := by
  cases hs : splitLeadIn? order cs with
  | some r =>
    obtain ⟨f, -, hf⟩ := List.exists_of_findSome?_eq_some hs
    obtain ⟨rest, hr, rfl⟩ := Option.map_eq_some_iff.mp hf
    rw [← List.append_eq_of_isPrefixOf?_eq_some hr, splitLead?_lead]
  | none =>
    cases hc : splitLead? cs with
    | none => rfl
    | some r =>
      obtain ⟨f, rest⟩ := r
      have hn := List.findSome?_eq_none_iff.mp hs f (h f)
      rw [splitLead?_eq_some_iff.mp hc, List.isPrefixOf?_eq_some_iff_append_eq.mpr rfl] at hn
      cases hn

theorem HasParts.ne_nil (h : HasParts tag f tokens) : tokens ≠ [] := by
  rintro rfl
  exact h.first_ne rfl

theorem HasParts.splitOn_eq (h : HasParts tag f tokens) :
    ([','].intercalate tokens).splitOn ',' = tokens :=
  List.splitOn_intercalate ',' h.no_comma h.ne_nil

theorem HasParts.unique {others : List (List Char)} (hf : HasParts tag f tokens)
    (hg : HasParts tag g others) : f = g ∧ tokens = others := by
  have h : splitLead? tag.toList = some (g, [','].intercalate others) := by
    rw [hg.toList_eq, splitLead?_lead]
  rw [hf.toList_eq, splitLead?_lead] at h
  obtain ⟨rfl, hi⟩ := Prod.mk.inj (Option.some.inj h)
  exact ⟨rfl, by rw [← hf.splitOn_eq, hi, hg.splitOn_eq]⟩

theorem integerTokens_of_means (h : Means kind f tokens row) :
    ∀ t ∈ integerTokens kind f tokens, IsInteger t := by
  cases h with
  | length others hk h => simpa [integerTokens, hk] using ⟨_, h⟩
  | membership h =>
    rcases h with h | h
    · simp [integerTokens, h]
    · intro t ht
      rw [integerTokens] at ht
      split_ifs at ht
      · cases ht
      · exact h t ht
  | minimum others h => simpa [integerTokens] using ⟨_, h⟩
  | maximum others h => simpa [integerTokens] using ⟨_, h⟩
  | @range first second a b others ha hb =>
    have hf : IsInteger first := ⟨a, ha⟩
    have hs : IsInteger second := ⟨b, hb⟩
    simp [integerTokens, hf, hs]

theorem Means.legal (h : Means kind f tokens row) : ¬(f = .length ∧ kind.isString = false) := by
  rintro ⟨rfl, hk⟩
  cases h with
  | length others hs => simp [hs] at hk

theorem HasParts.exists_iff (h : HasParts tag f tokens)
    (P : Family → List (List Char) → Prop) :
    (∃ g us, HasParts tag g us ∧ P g us) ↔ P f tokens := by
  constructor
  · rintro ⟨g, us, hg, hm⟩
    obtain ⟨rfl, rfl⟩ := h.unique hg
    exact hm
  · exact fun hm => ⟨f, tokens, h, hm⟩

theorem HasParts.denotes_iff (h : HasParts tag f tokens) (kind : Kind) (row : Constraint.Row) :
    Denotes kind tag row ↔ Means kind f tokens row :=
  h.exists_iff fun g us => Means kind g us row

theorem HasParts.examines_iff (h : HasParts tag f tokens) (kind : Kind) (t : List Char) :
    Examines kind tag t ↔
      t ∈ (integerTokens kind f tokens).takeWhile fun t => decide (IsInteger t) :=
  h.exists_iff fun g us => t ∈ (integerTokens kind g us).takeWhile fun t => decide (IsInteger t)

theorem means_unique (h : Means kind f tokens row) (h' : Means kind f tokens row') :
    row = row' := by
  cases h with
  | length others hk h hn =>
    cases h' with
    | length _ _ h' _ => rw [Numeral.denotes_unique h h']
  | membership h =>
    cases h'
    rfl
  | minimum others h =>
    cases h' with
    | minimum _ h' => rw [Numeral.denotes_unique h h']
  | maximum others h =>
    cases h' with
    | maximum _ h' => rw [Numeral.denotes_unique h h']
  | range others ha hb =>
    cases h' with
    | range _ ha' hb' => rw [Numeral.denotes_unique ha ha', Numeral.denotes_unique hb hb']

theorem denotes_unique (h : Denotes kind tag row) (h' : Denotes kind tag row') : row = row' := by
  obtain ⟨f, tokens, hp, hm⟩ := h
  exact means_unique hm ((hp.denotes_iff kind row').mp h')

theorem means_of_take {others : List (List Char)} (hf : f ≠ .membership)
    (ht : tokens.take (arity f) = others.take (arity f)) (h : Means kind f tokens row) :
    Means kind f others row := by
  cases h with
  | length _ hk h hn =>
    match others, ht with
    | first :: rest, ht =>
      cases ht
      exact .length rest hk h hn
  | membership h => exact absurd rfl hf
  | minimum _ h =>
    match others, ht with
    | first :: rest, ht =>
      cases ht
      exact .minimum rest h
  | maximum _ h =>
    match others, ht with
    | first :: rest, ht =>
      cases ht
      exact .maximum rest h
  | range _ ha hb =>
    match others, ht with
    | first :: second :: rest, ht =>
      cases ht
      exact .range rest ha hb

theorem integerTokens_of_take {others : List (List Char)} (hf : f ≠ .membership)
    (ht : tokens.take (arity f) = others.take (arity f)) (kind : Kind) :
    integerTokens kind f tokens = integerTokens kind f others := by
  cases f with
  | membership => exact absurd rfl hf
  | length => simp only [integerTokens, ← show tokens.take 1 = others.take 1 from ht]
  | minimum | maximum => exact ht
  | range =>
    have hl := congrArg List.length ht
    simp only [arity, List.length_take] at hl
    have : tokens.length < 2 ↔ others.length < 2 := by omega
    simp only [integerTokens, this, ← show tokens.take 2 = others.take 2 from ht]

theorem row_injective {c d : Constraint} (h : c.row = d.row) : c = d := by
  have hc := Constraint.ofRow_row c
  rw [h, Constraint.ofRow_row] at hc
  exact (Except.ok.inj hc).symm

end FieldGuard.Tag
