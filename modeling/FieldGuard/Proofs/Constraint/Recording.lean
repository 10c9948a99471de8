import FieldGuard.Constraint.Recording
import FieldGuard.Proofs.Constraint.Failure

namespace FieldGuard.Constraint

variable {c : Constraint} {k : Kind} {v : Value} {field : String} {els : Elements} {n : Int}
  {words : String} {allowed : List Int}

/-- Failing integers, where the values of a membership are read as leniently as numbers can be:
with white space around them, underscores, and digits of every script. -/
inductive Misses : Constraint → Int → String → Prop
  | membership {first : String} {others : List String} {n : Int}
      (h : ∀ w ∈ first :: others, Numeral.read w ≠ .ok n) :
      Misses (.membership first others) n "the number is not in the list"
  | bounds {c : Constraint} {n : Int} {words : String} (hc : c.family ≠ .membership)
      (h : c.FailsInteger n words) : Misses c n words

def Adds (c : Constraint) (field : String) : Elements → List Violation → Prop
  | .integers ns => Found c.Misses field ns
  | .strings ss => Found c.FailsString field ss

def Unreadable (k : Kind) (c : Constraint) : Prop :=
  k.isString = false ∧ c.family = .membership ∧ ∃ w ∈ c.values, ∃ e, Numeral.read w = .error e

theorem values_of_family_ne (h : c.family ≠ .membership) : c.values = [] := by
  cases c with
  | membership => exact absurd rfl h
  | length | minimum | maximum | range => rfl

theorem family_of_mem_values {w : String} (h : w ∈ c.values) : c.family = .membership := by
  by_contra hc
  rw [values_of_family_ne hc] at h
  cases h

theorem exists_integers_eq_error_iff :
    (∃ e, c.integers = .error e) ↔ ∃ w ∈ c.values, ∃ e, Numeral.read w = .error e := by
  constructor
  · rintro ⟨e, h⟩
    obtain ⟨w, hw, he⟩ := Traversal.exists_of_mapM_eq_error h
    exact ⟨w, hw, e, he⟩
  · rintro ⟨w, hw, he⟩
    exact Traversal.exists_mapM_eq_error hw he

theorem unreadable_iff : Unreadable k c ↔ k.isString = false ∧ ∃ e, c.integers = .error e := by
  rw [exists_integers_eq_error_iff, Unreadable]
  refine and_congr_right fun _ => ⟨And.right, fun h => ⟨?_, h⟩⟩
  obtain ⟨w, hw, -⟩ := h
  exact family_of_mem_values hw

theorem exists_integers (hk : k.isString = false) (h : ¬Unreadable k c) :
    ∃ allowed, c.integers = .ok allowed := by
  cases hi : c.integers with
  | ok allowed => exact ⟨allowed, rfl⟩
  | error e => exact absurd (unreadable_iff.mpr ⟨hk, e, hi⟩) h

theorem not_unreadable_of_parse {tag : String} (h : Tag.parse tag k = .ok c) :
    ¬Unreadable k c := by
  intro hu
  obtain ⟨hk, e, he⟩ := unreadable_iff.mp hu
  obtain ⟨hd, hl⟩ := Tag.parse_eq_ok_iff.mp h
  obtain ⟨allowed, ha, -⟩ := reads_of_denotes hd hl hk
  rw [he] at ha
  cases ha

theorem mem_integers_iff (h : c.integers = .ok allowed) :
    n ∈ allowed ↔ ∃ w ∈ c.values, Numeral.read w = .ok n := by
  constructor
  · exact Traversal.exists_of_mem_of_mapM_eq_ok h n
  · rintro ⟨w, hw, hr⟩
    obtain ⟨m, hm, hr'⟩ := Traversal.forall_of_mapM_eq_ok h w hw
    rw [hr] at hr'
    cases hr'
    exact hm

theorem reads_of_family_ne (hc : c.family ≠ .membership) (h : c.integers = .ok allowed) :
    c.Reads allowed := by
  have hv := values_of_family_ne hc
  rw [integers, hv] at h
  cases h
  rw [Reads, hv]
  exact .nil

theorem note_eq (vs : Violations) (field : String) (fault : Option String) :
    vs.note field fault =
      ((violation? field fault).isEmpty, vs.appendAll (violation? field fault)) := by
  cases fault with
  | none => simp [Violations.note, violation?, Violations.appendAll]
  | some detail => rfl

theorem countFailures_eq {α ε : Type} {test : α → Violations → Recorded ε Bool}
    {fault : α → Option String} (h : ∀ x vs, test x vs =
      (.ok (vs.note field (fault x)).1, (vs.note field (fault x)).2)) (xs : List α) (n : Nat)
    (vs : Violations) :
    countFailures test xs n vs =
      (.ok (n + (xs.flatMap fun x => violation? field (fault x)).length),
        vs.appendAll (xs.flatMap fun x => violation? field (fault x))) := by
  induction xs generalizing n vs with
  | nil => simp [countFailures, Violations.appendAll]
  | cons x xs ih =>
    rw [countFailures, h x vs, note_eq]
    simp only [ih, List.flatMap_cons, List.length_append, ← Violations.appendAll_appendAll]
    cases fault x with
    | none => simp [violation?]
    | some detail => simp [violation?, Nat.add_assoc]

theorem record_ok {found : List Violation} (h : c.check field els = .ok found) (vs : Violations) :
    c.record field els vs = (.ok found.length, vs.appendAll found) := by
  cases els with
  | strings ss =>
    cases h
    have hl := @countFailures_eq field _ Numeral.Error _ c.stringFault? (fun s vs => rfl) ss 0 vs
    rwa [Nat.zero_add] at hl
  | integers ns =>
    rw [check] at h
    cases hi : c.integers with
    | error e =>
      rw [hi] at h
      cases h
    | ok allowed =>
      rw [hi] at h
      cases h
      have hl := @countFailures_eq field _ Numeral.Error _ (c.integerFault? allowed)
        (fun n vs => rfl) ns 0 vs
      rw [Nat.zero_add] at hl
      rw [record, hi]
      exact hl

theorem record_error {e : Numeral.Error} (h : c.check field els = .error e) (vs : Violations) :
    c.record field els vs = (.error e, vs) := by
  cases els with
  | strings ss => cases h
  | integers ns =>
    rw [check] at h
    cases hi : c.integers with
    | error e' =>
      rw [hi] at h
      cases h
      rw [record, hi]
    | ok allowed =>
      rw [hi] at h
      cases h

theorem integerFault?_eq_some_iff_misses (h : c.integers = .ok allowed) :
    c.integerFault? allowed n = some words ↔ c.Misses n words := by
  by_cases hc : c.family = .membership
  · cases c with
    | membership first others =>
      have hm := mem_integers_iff (n := n) h
      constructor
      · intro hf
        simp only [integerFault?] at hf
        split_ifs at hf with hn
        cases hf
        exact .membership fun w hw hr => hn (hm.mpr ⟨w, hw, hr⟩)
      · intro hf
        cases hf with
        | membership hw =>
          refine if_neg fun hn => ?_
          obtain ⟨w, hv, hr⟩ := hm.mp hn
          exact hw w hv hr
        | bounds hc => exact absurd rfl hc
    | length | minimum | maximum | range => cases hc
  · rw [integerFault?_eq_some_iff (reads_of_family_ne hc h)]
    constructor
    · exact .bounds hc
    · rintro (_ | ⟨-, hf⟩)
      · exact absurd rfl hc
      · exact hf

theorem exists_check_of_readable (hm : k.Holds v els) (h : ¬Unreadable k c) :
    ∃ found, c.check field els = .ok found ∧ c.Adds field els found := by
  cases els with
  | strings ss =>
    exact ⟨_, rfl, (found_iff fun s words => stringFault?_eq_some_iff).mpr rfl⟩
  | integers ns =>
    obtain ⟨allowed, ha⟩ := exists_integers hm.isString h
    exact ⟨_, check_integers ha ns,
      (found_iff fun n words => integerFault?_eq_some_iff_misses ha).mpr rfl⟩

theorem exists_check_of_unreadable (hm : k.Holds v els) (h : Unreadable k c) :
    ∃ e, c.check field els = .error e ∧ ∃ w ∈ c.values, Numeral.read w = .error e := by
  obtain ⟨hk, e, he⟩ := unreadable_iff.mp h
  refine ⟨e, ?_, Traversal.exists_of_mapM_eq_error he⟩
  cases els with
  | strings ss => cases hm <;> cases hk
  | integers ns =>
    rw [check, he]
    rfl

theorem Adds.shape {found : List Violation} (h : c.Adds field els found) :
    ∀ x ∈ found, x.field = field ∧ x.code = .constraintFailed := by
  intro x hx
  cases els <;>
    obtain ⟨_, words, -, rfl⟩ := exists_of_mem_found h x hx <;>
    exact ⟨rfl, rfl⟩

theorem matchesValue_iff : k.matchesValue v = true ↔ ∃ els, k.Holds v els := by
  rw [Kind.matchesValue, Option.isSome_iff_exists]
  simp only [Kind.elements?_eq_some_iff]

theorem record_length (hm : k.Holds v els) (hk : k.isString = false) (n : Nat) (field : String)
    (vs : Violations) : (length n).record field els vs = (.ok 0, vs) := by
  cases els with
  | strings ss => cases hm <;> cases hk
  | integers ns =>
    have hi : (length n).integers = .ok [] := rfl
    have hn : (ns.flatMap fun m => violation? field ((length n).integerFault? [] m)) = [] :=
      List.flatMap_eq_nil_iff.mpr fun m _ => rfl
    rw [record_ok (check_integers hi ns), hn]
    simp [Violations.appendAll]

theorem record_exact (hv : k.matchesValue v = true) (c : Constraint) (field : String)
    (vs : Violations) :
    ∃ els, k.elements? v = some els ∧ k.Holds v els ∧
      (¬Unreadable k c → ∃ found, c.record field els vs = (.ok found.length, ⟨vs.toList ++ found⟩) ∧
        c.Adds field els found ∧ ∀ x ∈ found, x.field = field ∧ x.code = .constraintFailed) ∧
      (Unreadable k c → ∃ e, c.record field els vs = (.error e, vs) ∧
        ∃ w ∈ c.values, Numeral.read w = .error e) ∧
      (∀ tag, Tag.parse tag k = .ok c → ∃ n, (c.record field els vs).1 = .ok n) ∧
      ∀ n, k.isString = false → c = length n → c.record field els vs = (.ok 0, vs) := by
  obtain ⟨els, hm⟩ := matchesValue_iff.mp hv
  have hadd (h : ¬Unreadable k c) : ∃ found,
      c.record field els vs = (.ok found.length, ⟨vs.toList ++ found⟩) ∧
        c.Adds field els found := by
    obtain ⟨found, hc, hf⟩ := exists_check_of_readable hm h
    exact ⟨found, record_ok hc vs, hf⟩
  refine ⟨els, Kind.elements?_eq_some_iff.mpr hm, hm, ?readable, ?unreadable, ?parsed, ?length⟩
  case readable =>
    intro h
    obtain ⟨found, hr, hf⟩ := hadd h
    exact ⟨found, hr, hf, hf.shape⟩
  case unreadable =>
    intro h
    obtain ⟨e, hc, hw⟩ := exists_check_of_unreadable hm h
    exact ⟨e, record_error hc vs, hw⟩
  case parsed =>
    intro tag h
    obtain ⟨found, hr, -⟩ := hadd (not_unreadable_of_parse h)
    exact ⟨found.length, by rw [hr]⟩
  case length =>
    rintro n hk rfl
    exact record_length hm hk n field vs

theorem record_exact_lenient :
    Kind.integerList.matchesValue (.tuple [.int 3, .int 10]) = true ∧
      ¬Unreadable .integerList (membership "1_0" [" 7"]) ∧
      (∃ found, (membership "1_0" [" 7"]).record "x" (.integers [3, 10]) ⟨[.missing "w"]⟩ =
          (.ok found.length, ⟨[.missing "w"] ++ found⟩) ∧
        (membership "1_0" [" 7"]).Adds "x" (.integers [3, 10]) found) ∧
      Kind.integerList.matchesValue (.list []) = true ∧
      Unreadable .integerList (membership "7" ["x"]) ∧
      ∃ e, (membership "7" ["x"]).record "x" (.integers []) ⟨[.missing "w"]⟩ =
        (.error e, ⟨[.missing "w"]⟩) := by
  have hv : Kind.integerList.matchesValue (.tuple [.int 3, .int 10]) = true := rfl
  have hv' : Kind.integerList.matchesValue (.list []) = true := rfl
  have hr : ¬Unreadable .integerList (membership "1_0" [" 7"]) := by
    rw [unreadable_iff]
    rintro ⟨-, e, h⟩
    cases h
  have hu : Unreadable .integerList (membership "7" ["x"]) := ⟨rfl, rfl, "x", by decide, _, rfl⟩
  obtain ⟨els, he, -, hadd, -⟩ := record_exact hv (membership "1_0" [" 7"]) "x" ⟨[.missing "w"]⟩
  obtain ⟨els', he', -, -, herr, -⟩ := record_exact hv' (membership "7" ["x"]) "x" ⟨[.missing "w"]⟩
  obtain rfl : Elements.integers [3, 10] = els := Option.some.inj he
  obtain rfl : Elements.integers [] = els' := Option.some.inj he'
  obtain ⟨found, hf, ha, -⟩ := hadd hr
  obtain ⟨e, he, -⟩ := herr hu
  exact ⟨hv, hr, ⟨found, hf, ha⟩, hv', hu, e, he⟩

example : (membership "1_0" [" 7"]).record "x" (.integers [3, 10]) ⟨[.missing "w"]⟩ =
    (.ok 1, ⟨[.missing "w", .failed "x" "the number is not in the list"]⟩) := rfl

end FieldGuard.Constraint
