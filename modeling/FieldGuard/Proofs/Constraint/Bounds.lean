import FieldGuard.Proofs.Constraint.Elementwise
import FieldGuard.Proofs.Tag.Writing

namespace FieldGuard

open Numeral (Writes)

def Elements.sizes : Elements → List Int
  | .integers ns => ns
  | .strings ss => ss.map fun s => (s.utf8ByteSize : Int)

structure Constraint.Judges (c : Constraint) (els : Elements) (fails : List Bool) : Prop where
  each : List.Forall₂ (fun x fail => ∀ field vs,
    (c.record field x vs).1 = .ok (if fail = true then 1 else 0)) els.singles fails
  all : ∀ field vs, ∃ found, c.record field els vs = (.ok found.length, vs.appendAll found) ∧
    found.length = fails.count true

def Tag.Judges (tag : String) (k : Kind) (els : Elements) (fails : List Bool) : Prop :=
  ∃ c, Tag.parse tag k = .ok c ∧ c.Judges els fails

structure Splits (els : Elements) (a b : Int) (below above outside : List Bool) : Prop where
  below_eq : below = els.sizes.map fun z => decide (z < a)
  above_eq : above = els.sizes.map fun z => decide (b < z)
  union : outside = List.zipWith or below above
  apart : a ≤ b → (true, true) ∉ below.zip above
  count_eq : a ≤ b → outside.count true = below.count true + above.count true
  inverted : b < a → ∀ fail ∈ outside, fail = true

def Weaker (weak strong : List Bool) : Prop :=
  List.Forall₂ (fun w s => s = false → w = false) weak strong

section Lists

variable {α : Type} {p q : α → Bool}

theorem count_map_or (h : ∀ x, ¬(p x = true ∧ q x = true)) (xs : List α) :
    (xs.map fun x => p x || q x).count true = (xs.map p).count true + (xs.map q).count true := by
  induction xs with
  | nil => rfl
  | cons x xs ih =>
    have hx := h x
    simp only [List.map_cons, List.count_cons, ih]
    cases hp : p x <;> cases hq : q x <;> simp_all <;> omega

theorem splits_range (els : Elements) (a b : Int) :
    Splits els a b (els.sizes.map fun z => decide (z < a)) (els.sizes.map fun z => decide (b < z))
      (els.sizes.map fun z => decide (z < a) || decide (b < z)) := by
  refine ⟨rfl, rfl, ?union, ?apart, ?count, ?inverted⟩
  case union => rw [List.zipWith_map, List.zipWith_self]
  case apart =>
    intro hab hm
    rw [List.zip_map'] at hm
    obtain ⟨z, -, hz⟩ := List.mem_map.mp hm
    simp only [Prod.mk.injEq, decide_eq_true_eq] at hz
    omega
  case count =>
    intro hab
    apply count_map_or
    intro z
    simp only [decide_eq_true_eq]
    omega
  case inverted =>
    intro hba fail hf
    obtain ⟨z, -, rfl⟩ := List.mem_map.mp hf
    have : z < a ∨ b < z := by omega
    simpa using this

theorem weaker_map (h : ∀ x, q x = false → p x = false) (xs : List α) :
    Weaker (xs.map p) (xs.map q) := by
  rw [Weaker, List.forall₂_map_left_iff, List.forall₂_map_right_iff, List.forall₂_same]
  exact fun x _ => h x

end Lists

namespace Constraint

variable {c : Constraint} {allowed : List Int} {fails : Int → Bool}

theorem length_violation? (field : String) (fault : Option String) :
    (violation? field fault).length = if fault.isSome = true then 1 else 0 := by
  cases fault <;> rfl

theorem length_violations {α : Type} (field : String) (fault? : α → Option String)
    (xs : List α) :
    (xs.flatMap fun x => violation? field (fault? x)).length =
      (xs.map fun x => (fault? x).isSome).count true := by
  induction xs with
  | nil => rfl
  | cons x xs ih =>
    rw [List.flatMap_cons, List.length_append, length_violation?, ih, List.map_cons]
    cases (fault? x).isSome <;> simp [Nat.add_comm]

theorem judges_integers (ha : c.integers = .ok allowed)
    (hf : ∀ n, c.failsInteger allowed n = fails n) (ns : List Int) :
    c.Judges (.integers ns) ((Elements.integers ns).sizes.map fails) := by
  have hmap : (Elements.integers ns).sizes.map fails =
      ns.map fun n => (c.integerFault? allowed n).isSome :=
    List.map_congr_left fun n _ => (hf n).symm
  rw [hmap]
  refine ⟨?_, fun field vs => ?_⟩
  · rw [Elements.singles, List.forall₂_map_left_iff, List.forall₂_map_right_iff, List.forall₂_same]
    intro n _ field vs
    rw [record_ok (check_integers ha [n]), List.flatMap_singleton, length_violation?]
  · exact ⟨_, record_ok (check_integers ha ns) vs, length_violations _ _ ns⟩

theorem judges_strings (hf : ∀ s, c.failsString s = fails s.utf8ByteSize) (ss : List String) :
    c.Judges (.strings ss) ((Elements.strings ss).sizes.map fails) := by
  have hmap : (Elements.strings ss).sizes.map fails =
      ss.map fun s => (c.stringFault? s).isSome := by
    rw [Elements.sizes, List.map_map]
    exact List.map_congr_left fun s _ => (hf s).symm
  rw [hmap]
  refine ⟨?_, fun field vs => ?_⟩
  · rw [Elements.singles, List.forall₂_map_left_iff, List.forall₂_map_right_iff, List.forall₂_same]
    intro s _ field vs
    rw [record_ok rfl, List.flatMap_singleton, checkString, length_violation?]
  · exact ⟨_, record_ok rfl vs, length_violations _ _ ss⟩

theorem judges_of_bounds (hc : c.integers = .ok [])
    (hi : ∀ n, c.failsInteger [] n = fails n) (hs : ∀ s, c.failsString s = fails s.utf8ByteSize)
    (els : Elements) : c.Judges els (els.sizes.map fails) := by
  cases els with
  | integers ns => exact judges_integers hc hi ns
  | strings ss => exact judges_strings hs ss

theorem judges_minimum (a : Int) (els : Elements) :
    (minimum a).Judges els (els.sizes.map fun z => decide (z < a)) := by
  apply judges_of_bounds rfl
  · intro n
    by_cases h : n < a <;> simp [failsInteger, integerFault?, h]
  · intro s
    by_cases h : (s.utf8ByteSize : Int) < a <;> simp [failsString, stringFault?, h]

theorem judges_maximum (b : Int) (els : Elements) :
    (maximum b).Judges els (els.sizes.map fun z => decide (b < z)) := by
  apply judges_of_bounds rfl
  · intro n
    by_cases h : b < n <;> simp [failsInteger, integerFault?, h]
  · intro s
    by_cases h : b < (s.utf8ByteSize : Int) <;> simp [failsString, stringFault?, h]

theorem judges_range (a b : Int) (els : Elements) :
    (range a b).Judges els (els.sizes.map fun z => decide (z < a) || decide (b < z)) := by
  apply judges_of_bounds rfl
  · intro n
    rw [failsInteger_range]
    by_cases ha : n < a <;> by_cases hb : b < n <;> simp [failsInteger, integerFault?, ha, hb]
  · intro s
    rw [failsString_range]
    by_cases ha : (s.utf8ByteSize : Int) < a <;> by_cases hb : b < (s.utf8ByteSize : Int) <;>
      simp [failsString, stringFault?, ha, hb]

theorem judges_length (n : Nat) (ss : List String) :
    (length n).Judges (.strings ss)
      ((Elements.strings ss).sizes.map fun z : Int => decide (z < n) || decide (n < z)) := by
  apply judges_strings
  intro s
  rw [failsString, stringFault?]
  split_ifs with h
  · simp [h]
  · have : (s.utf8ByteSize : Int) < n ∨ (n : Int) < s.utf8ByteSize := by omega
    simpa using this

theorem judges_membership {t : List Char} {m : Int} (h : Writes t m) (ns : List Int) :
    (membership (String.ofList t) []).Judges (.integers ns)
      ((Elements.integers ns).sizes.map fun z => decide (z < m) || decide (m < z)) := by
  have ha : (membership (String.ofList t) []).integers = .ok [m] := by
    rw [integers, values, Traversal.mapM_singleton, Numeral.read_of_denotes h.denotes h.short]
    rfl
  apply judges_integers ha
  intro n
  rw [failsInteger, integerFault?]
  split_ifs with hn
  · simp only [List.mem_singleton] at hn
    simp [hn]
  · simp only [List.mem_singleton] at hn
    have : n < m ∨ m < n := by omega
    simpa using this

end Constraint

namespace Tag

open Numeral (decimal limit)

variable {k : Kind} {els : Elements} {v : Value} {t ta tb : List Char} {a b n : Int}

theorem judges_range_of_writes (ha : Writes ta a) (hb : Writes tb b) (k : Kind) (els : Elements) :
    Judges (ofParts .range [ta, tb]) k els
      (els.sizes.map fun z => decide (z < a) || decide (b < z)) :=
  ⟨_, parse_range ha hb, Constraint.judges_range a b els⟩

theorem judges_minimum_of_writes (ha : Writes ta a) (k : Kind) (els : Elements) :
    Judges (ofParts .minimum [ta]) k els (els.sizes.map fun z => decide (z < a)) :=
  ⟨_, parse_minimum ha, Constraint.judges_minimum a els⟩

theorem judges_maximum_of_writes (hb : Writes tb b) (k : Kind) (els : Elements) :
    Judges (ofParts .maximum [tb]) k els (els.sizes.map fun z => decide (b < z)) :=
  ⟨_, parse_maximum hb, Constraint.judges_maximum b els⟩

theorem judges_length_of_writes (h : Writes t n) (hn : 0 ≤ n) (hk : k.isString = true)
    (hv : k.Holds v els) : Judges (ofParts .length [t]) k els
      (els.sizes.map fun z => decide (z < n) || decide (n < z)) := by
  refine ⟨_, parse_length hk h hn, ?_⟩
  cases els with
  | integers ns =>
    rw [hv.isString] at hk
    cases hk
  | strings ss =>
    have hj := Constraint.judges_length n.toNat ss
    rwa [Int.toNat_of_nonneg hn] at hj

theorem judges_membership_of_writes (h : Writes t n) (hk : k.isString = false)
    (hv : k.Holds v els) : Judges (ofParts .membership [t]) k els
      (els.sizes.map fun z => decide (z < n) || decide (n < z)) := by
  refine ⟨_, parse_value h k, ?_⟩
  cases els with
  | integers ns => exact Constraint.judges_membership h ns
  | strings ss => cases hv <;> cases hk

theorem weaker_of_writes {ta' tb' : List Char} {a' b' : Int} (ha : Writes ta' a')
    (hb : Writes tb' b') (hal : a' ≤ a) (hbl : b ≤ b') (k : Kind) (els : Elements) :
    ∃ below above outside, Judges (ofParts .minimum [ta']) k els below ∧
      Judges (ofParts .maximum [tb']) k els above ∧
      Judges (ofParts .range [ta', tb']) k els outside ∧
      Weaker below (els.sizes.map fun z => decide (z < a)) ∧
      Weaker above (els.sizes.map fun z => decide (b < z)) ∧
      Weaker outside (els.sizes.map fun z => decide (z < a) || decide (b < z)) := by
  refine ⟨_, _, _, judges_minimum_of_writes ha k els, judges_maximum_of_writes hb k els,
    judges_range_of_writes ha hb k els, ?_, ?_, ?_⟩ <;> apply weaker_map <;> intro z hz
  · simp only [decide_eq_false_iff_not] at hz ⊢
    omega
  · simp only [decide_eq_false_iff_not] at hz ⊢
    omega
  · simp only [Bool.or_eq_false_iff, decide_eq_false_iff_not] at hz ⊢
    omega

end Tag

end FieldGuard
