import FieldGuard.Constraint.Check
import FieldGuard.Proofs.Numeral.Lenient
import FieldGuard.Proofs.Tag.Reading

namespace FieldGuard

open Numeral (IsInteger digitCount digitLimit)

namespace Value

theorem mapM_eq_some_iff {α : Type} {get? : Value → Option α} {of : α → Value}
    (h : ∀ v x, get? v = some x ↔ v = of x) {vs : List Value} {xs : List α} :
    vs.mapM get? = some xs ↔ vs = xs.map of := by
  induction vs generalizing xs with
  | nil => cases xs <;> simp
  | cons v vs ih =>
    rw [List.mapM_cons]
    cases xs with
    | nil => simp [Option.bind_eq_some_iff]
    | cons x xs => simp [Option.bind_eq_some_iff, ih, h]

end Value

namespace Kind

inductive Holds : Kind → Value → Elements → Prop
  | integer (n : Int) : Holds .integer (.int n) (.integers [n])
  | string (s : String) : Holds .string (.text s) (.strings [s])
  | integerList (ns : List Int) : Holds .integerList (.list (ns.map .int)) (.integers ns)
  | integerTuple (ns : List Int) : Holds .integerList (.tuple (ns.map .int)) (.integers ns)
  | stringList (ss : List String) : Holds .stringList (.list (ss.map .text)) (.strings ss)
  | stringTuple (ss : List String) : Holds .stringList (.tuple (ss.map .text)) (.strings ss)

theorem elements?_eq_some_iff {k : Kind} {v : Value} {els : Elements} :
    k.elements? v = some els ↔ k.Holds v els := by
  constructor
  · intro h
    cases k with
    | integer =>
      obtain ⟨n, hn, rfl⟩ := Option.map_eq_some_iff.mp h
      rw [Value.int?_eq_some_iff.mp hn]
      exact .integer n
    | string =>
      obtain ⟨s, hs, rfl⟩ := Option.map_eq_some_iff.mp h
      rw [Value.text?_eq_some_iff.mp hs]
      exact .string s
    | integerList =>
      obtain ⟨ns, hn, rfl⟩ := Option.map_eq_some_iff.mp h
      obtain ⟨vs, hv, hm⟩ := Option.bind_eq_some_iff.mp hn
      obtain rfl := (Value.mapM_eq_some_iff fun _ _ => Value.int?_eq_some_iff).mp hm
      rcases Value.items?_eq_some_iff.mp hv with rfl | rfl
      · exact .integerList ns
      · exact .integerTuple ns
    | stringList =>
      obtain ⟨ss, hs, rfl⟩ := Option.map_eq_some_iff.mp h
      obtain ⟨vs, hv, hm⟩ := Option.bind_eq_some_iff.mp hs
      obtain rfl := (Value.mapM_eq_some_iff fun _ _ => Value.text?_eq_some_iff).mp hm
      rcases Value.items?_eq_some_iff.mp hv with rfl | rfl
      · exact .stringList ss
      · exact .stringTuple ss
  · intro h
    have hi (ns : List Int) : (ns.map Value.int).mapM Value.int? = some ns :=
      (Value.mapM_eq_some_iff fun _ _ => Value.int?_eq_some_iff).mpr rfl
    have ht (ss : List String) : (ss.map Value.text).mapM Value.text? = some ss :=
      (Value.mapM_eq_some_iff fun _ _ => Value.text?_eq_some_iff).mpr rfl
    cases h with
    | integer n => rfl
    | string s => rfl
    | integerList ns | integerTuple ns => simp [elements?, Value.items?, hi]
    | stringList ss | stringTuple ss => simp [elements?, Value.items?, ht]

theorem elements?_eq_none_iff {k : Kind} {v : Value} :
    k.elements? v = none ↔ ∀ els, ¬k.Holds v els := by
  rw [Option.eq_none_iff_forall_ne_some]
  exact forall_congr' fun els => not_congr elements?_eq_some_iff

theorem Holds.isString {k : Kind} {v : Value} {ns : List Int} (h : k.Holds v (.integers ns)) :
    k.isString = false := by
  cases h <;> rfl

end Kind

namespace Constraint

inductive FailsInteger : Constraint → Int → String → Prop
  | membership {first : String} {others : List String} {n : Int}
      (h : ∀ token ∈ first :: others, ¬Numeral.Denotes token.toList n) :
      FailsInteger (.membership first others) n "the number is not in the list"
  | minimum {a n : Int} (h : n < a) :
      FailsInteger (.minimum a) n "the number is less than the lower bound"
  | maximum {b n : Int} (h : b < n) :
      FailsInteger (.maximum b) n "the number is greater than the upper bound"
  | range {a b n : Int} (h : n < a ∨ b < n) :
      FailsInteger (.range a b) n "the number is not in range"

inductive FailsString : Constraint → String → String → Prop
  | length {n : Nat} {s : String} (h : s.utf8ByteSize ≠ n) :
      FailsString (.length n) s "incorrect string len"
  | membership {first : String} {others : List String} {s : String}
      (h : ∀ entry ∈ first :: others, ¬s.toList <:+: entry.toList) :
      FailsString (.membership first others) s "the string is not in the list"
  | minimum {a : Int} {s : String} (h : s.utf8ByteSize < a) :
      FailsString (.minimum a) s "string len is less than the lower bound"
  | maximum {b : Int} {s : String} (h : b < s.utf8ByteSize) :
      FailsString (.maximum b) s "string len is greater than the upper bound"
  | range {a b : Int} {s : String} (h : s.utf8ByteSize < a ∨ b < s.utf8ByteSize) :
      FailsString (.range a b) s "string len is not in range"

inductive Found {α : Type} (Fails : α → String → Prop) (field : String) :
    List α → List Violation → Prop
  | nil : Found Fails field [] []
  | passes {x : α} {xs : List α} {vs : List Violation} (h : ∀ words, ¬Fails x words)
      (rest : Found Fails field xs vs) : Found Fails field (x :: xs) vs
  | fails {x : α} {xs : List α} {vs : List Violation} {words : String} (h : Fails x words)
      (rest : Found Fails field xs vs) : Found Fails field (x :: xs) (.failed field words :: vs)

def Finds (c : Constraint) (field : String) : Elements → List Violation → Prop
  | .integers ns => Found c.FailsInteger field ns
  | .strings ss => Found c.FailsString field ss

theorem found_iff {α : Type} {Fails : α → String → Prop} {fault? : α → Option String}
    (h : ∀ x words, fault? x = some words ↔ Fails x words) {field : String} {xs : List α}
    {vs : List Violation} :
    Found Fails field xs vs ↔ xs.flatMap (fun x => violation? field (fault? x)) = vs := by
  constructor
  · intro hf
    induction hf with
    | nil => rfl
    | @passes x xs vs hp _ ih =>
      have hx : fault? x = none :=
        Option.eq_none_iff_forall_ne_some.mpr fun words => mt (h x words).mp (hp words)
      rw [List.flatMap_cons, hx, ih]
      rfl
    | @fails x xs vs words hx _ ih =>
      rw [List.flatMap_cons, (h x words).mpr hx, ih]
      rfl
  · rintro rfl
    induction xs with
    | nil => exact .nil
    | cons x xs ih =>
      rw [List.flatMap_cons]
      cases hx : fault? x with
      | none =>
        have hp : ∀ words, ¬Fails x words := by
          intro words hw
          rw [(h x words).mpr hw] at hx
          cases hx
        exact .passes hp ih
      | some words => exact .fails ((h x words).mp hx) ih

theorem exists_of_mem_found {α : Type} {Fails : α → String → Prop} {field : String} {xs : List α}
    {vs : List Violation} (h : Found Fails field xs vs) :
    ∀ x ∈ vs, ∃ a words, Fails a words ∧ x = .failed field words := by
  induction h with
  | nil => simp
  | passes _ _ ih => exact ih
  | @fails a _ _ words hf _ ih =>
    intro x hx
    rcases List.mem_cons.mp hx with rfl | hx
    · exact ⟨a, words, hf, rfl⟩
    · exact ih x hx

theorem stringFault?_eq_some_iff {c : Constraint} {s words : String} :
    c.stringFault? s = some words ↔ c.FailsString s words := by
  constructor
  · intro h
    cases c with
    | length n =>
      simp only [stringFault?] at h
      split_ifs at h with hn
      cases h
      exact .length fun he => hn (by omega)
    | membership first others =>
      simp only [stringFault?] at h
      split_ifs at h with hm
      cases h
      refine .membership fun entry he hs => hm ?_
      exact List.any_eq_true.mpr ⟨entry, he, Text.occursIn_iff.mpr hs⟩
    | minimum a | maximum b | range a b =>
      simp only [stringFault?] at h
      split_ifs at h with hn
      cases h
      constructor
      exact hn
  · intro h
    cases h with
    | length h =>
      simp only [stringFault?]
      exact if_neg (by omega)
    | membership h =>
      simp only [stringFault?]
      refine if_neg fun hm => ?_
      obtain ⟨entry, he, hs⟩ := List.any_eq_true.mp hm
      exact h entry he (Text.occursIn_iff.mp hs)
    | minimum h | maximum h | range h => exact if_pos h

def Reads (c : Constraint) (ns : List Int) : Prop :=
  List.Forall₂ (fun v n => Numeral.Denotes v.toList n) c.values ns

theorem Reads.mem_iff {first : String} {others : List String} {ns : List Int}
    (h : (membership first others).Reads ns) {n : Int} :
    n ∈ ns ↔ ∃ token ∈ first :: others, Numeral.Denotes token.toList n := by
  have hs : List.Forall₂ (fun v n => Numeral.Denotes v.toList n) (first :: others) ns := h
  constructor
  · intro hn
    obtain ⟨i, hi, rfl⟩ := List.mem_iff_getElem.mp hn
    have hl : i < (first :: others).length := by
      rw [hs.length_eq]
      exact hi
    exact ⟨_, List.getElem_mem hl, List.Forall₂.get hs hl hi⟩
  · rintro ⟨token, ht, hd⟩
    obtain ⟨i, hi, rfl⟩ := List.mem_iff_getElem.mp ht
    have hl : i < ns.length := by
      rw [← hs.length_eq]
      exact hi
    have hg : Numeral.Denotes ((first :: others)[i]).toList ns[i] := List.Forall₂.get hs hi hl
    rw [Numeral.denotes_unique hd hg]
    exact List.getElem_mem hl

theorem integerFault?_eq_some_iff {c : Constraint} {ns : List Int} (hc : c.Reads ns) {n : Int}
    {words : String} : c.integerFault? ns n = some words ↔ c.FailsInteger n words := by
  constructor
  · intro h
    cases c with
    | length k => cases h
    | membership first others =>
      simp only [integerFault?] at h
      split_ifs at h with hm
      cases h
      exact .membership fun token ht hd => hm (hc.mem_iff.mpr ⟨token, ht, hd⟩)
    | minimum a | maximum b | range a b =>
      simp only [integerFault?] at h
      split_ifs at h with hn
      cases h
      constructor
      exact hn
  · intro h
    cases h with
    | membership h =>
      refine if_neg fun hm => ?_
      obtain ⟨token, ht, hd⟩ := hc.mem_iff.mp hm
      exact h token ht hd
    | minimum h | maximum h | range h => exact if_pos h

theorem mapM_read_of_isInteger {vs : List String}
    (h : ∀ v ∈ vs, IsInteger v.toList ∧ digitCount v.toList ≤ digitLimit) :
    ∃ ns, vs.mapM Numeral.read = .ok ns ∧
      List.Forall₂ (fun v n => Numeral.Denotes v.toList n) vs ns := by
  induction vs with
  | nil => exact ⟨[], rfl, .nil⟩
  | cons v vs ih =>
    obtain ⟨⟨n, hn⟩, hl⟩ := h v (by simp)
    obtain ⟨ns, hs, hd⟩ := ih fun w hw => h w (by simp [hw])
    have hv := Numeral.read_of_denotes hn hl
    rw [String.ofList_toList] at hv
    refine ⟨n :: ns, ?_, .cons hn hd⟩
    rw [Traversal.mapM_cons_of_ok hv, hs]
    rfl

theorem reads_of_denotes {kind : Kind} {tag : String} {c : Constraint}
    (h : Tag.Denotes kind tag c.row)
    (hl : ∀ t, Tag.Examines kind tag t → digitCount t ≤ digitLimit)
    (hk : kind.isString = false) : ∃ ns, c.integers = .ok ns ∧ c.Reads ns := by
  apply mapM_read_of_isInteger
  intro v hv
  obtain ⟨f, tokens, hp, hm⟩ := h
  have he := Tag.examines_of_means hp hm
  cases c with
  | length | minimum | maximum | range => cases hv
  | membership first others =>
    generalize hr : (membership first others).row = row at hm
    cases hm with
    | membership hi =>
      have hvs : first :: others = tokens.map String.ofList := congrArg Row.values hr
      rw [values, hvs] at hv
      obtain ⟨t, ht, rfl⟩ := List.mem_map.mp hv
      have hs : ∀ u ∈ tokens, IsInteger u := hi.resolve_left (by simp [hk])
      have hx : t ∈ Tag.integerTokens kind .membership tokens := by
        rwa [Tag.integerTokens, hk, if_neg (by simp)]
      rw [String.toList_ofList]
      exact ⟨hs t ht, hl t ((he t).mpr hx)⟩
    | _ => cases hr

variable {c : Constraint} {field : String} {els : Elements} {vs : List Violation}

theorem check_integers {allowed : List Int} (h : c.integers = .ok allowed) (ns : List Int) :
    c.check field (.integers ns) =
      .ok (ns.flatMap fun n => violation? field (c.integerFault? allowed n)) := by
  rw [check, h]
  rfl

theorem check_eq_ok_iff
    (h : ∀ ns, els = .integers ns → ∃ allowed, c.integers = .ok allowed ∧ c.Reads allowed) :
    c.check field els = .ok vs ↔ c.Finds field els vs := by
  cases els with
  | strings ss =>
    rw [check, Except.ok.injEq]
    exact (found_iff fun s words => stringFault?_eq_some_iff).symm
  | integers ns =>
    obtain ⟨allowed, ha, hr⟩ := h ns rfl
    rw [check_integers ha, Except.ok.injEq]
    exact (found_iff fun n words => integerFault?_eq_some_iff hr).symm

theorem exists_check
    (h : ∀ ns, els = .integers ns → ∃ allowed, c.integers = .ok allowed ∧ c.Reads allowed) :
    ∃ vs, c.check field els = .ok vs := by
  cases els with
  | strings ss => exact ⟨_, rfl⟩
  | integers ns =>
    obtain ⟨allowed, ha, -⟩ := h ns rfl
    exact ⟨_, check_integers ha ns⟩

end Constraint

end FieldGuard
