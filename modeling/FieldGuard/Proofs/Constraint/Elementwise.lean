import FieldGuard.Host
import FieldGuard.Proofs.Constraint.Recording

/-!
Checks of lists, element by element. Checking a list is checking its elements in turn, each on its
own, whether the values of a membership are read once beforehand or again for each element.
-/

namespace FieldGuard

namespace Tag

variable {k l : Kind}

theorem constraintOf_congr (h : k.isString = l.isString) (tag : String) (f : Family)
    (tokens : List (List Char)) : constraintOf tag k f tokens = constraintOf tag l f tokens := by
  cases f with
  | membership => simp only [constraintOf, membership, h]
  | length | minimum | maximum | range => rfl

variable [DepthLimit]

theorem read_congr (h : k.isString = l.isString) (tag : Value) :
    read tag (some k) = read tag (some l) := by
  cases tag with
  | text s => simp only [read, parse, h, constraintOf_congr h]
  | _ => simp only [read]

theorem exists_text_of_read {tag : Value} {kind : Option Kind} {c : Constraint}
    (h : read tag kind = .ok c) : ∃ s, tag = .text s := by
  unfold read at h
  split at h
  · exact ⟨_, rfl⟩
  · split at h <;> cases h

end Tag

variable {α β ε : Type}

def Recorded.followedBy (x : Recorded ε Nat) (next : Violations → Recorded ε Nat) :
    Recorded ε Nat :=
  match x with
  | (.ok n, vs) => ((next vs).1.map (n + ·), (next vs).2)
  | (.error e, vs) => (.error e, vs)

def inTurn (f : α → Violations → Recorded ε Nat) : List α → Violations → Recorded ε Nat
  | [], vs => (.ok 0, vs)
  | x :: xs, vs => (f x vs).followedBy (inTurn f xs)

def Recorded.failures (x : Recorded ε Bool) : Recorded ε Nat :=
  (x.1.map fun passes => if passes then 0 else 1, x.2)

section InTurn

variable {f : α → Violations → Recorded ε Nat} {g : α → List Violation} {vs : Violations}

theorem inTurn_map (h : β → α) (f : α → Violations → Recorded ε Nat) (xs : List β)
    (vs : Violations) : inTurn f (xs.map h) vs = inTurn (fun x => f (h x)) xs vs := by
  induction xs generalizing vs with
  | nil => rfl
  | cons x xs ih =>
    have hf : inTurn f (xs.map h) = inTurn (fun x => f (h x)) xs := funext ih
    rw [List.map_cons, inTurn, inTurn, hf]

theorem inTurn_eq (h : ∀ x vs, f x vs = (.ok (g x).length, vs.appendAll (g x))) (xs : List α)
    (vs : Violations) :
    inTurn f xs vs = (.ok (xs.flatMap g).length, vs.appendAll (xs.flatMap g)) := by
  induction xs generalizing vs with
  | nil => simp [inTurn, Violations.appendAll]
  | cons x xs ih =>
    rw [inTurn, h x vs, Recorded.followedBy, ih, List.flatMap_cons, List.length_append,
      Violations.appendAll_appendAll]
    rfl

theorem Recorded.followedBy_assoc (x : Recorded ε Nat) (f g : Violations → Recorded ε Nat) :
    (x.followedBy f).followedBy g = x.followedBy fun vs => (f vs).followedBy g := by
  obtain ⟨_ | n, vs⟩ := x
  · rfl
  · simp only [followedBy]
    obtain ⟨_ | m, vs⟩ := f vs
    · rfl
    · simp only [Except.map]
      obtain ⟨_ | l, vs⟩ := g vs
      · rfl
      · simp only [Nat.add_assoc]

theorem inTurn_append (f : α → Violations → Recorded ε Nat) (xs ys : List α) (vs : Violations) :
    inTurn f (xs ++ ys) vs = (inTurn f xs vs).followedBy (inTurn f ys) := by
  induction xs generalizing vs with
  | nil =>
    simp only [List.nil_append, inTurn, Recorded.followedBy, Nat.zero_add]
    obtain ⟨_ | n, next⟩ := inTurn f ys vs <;> rfl
  | cons x xs ih =>
    have hf : inTurn f (xs ++ ys) = fun vs => (inTurn f xs vs).followedBy (inTurn f ys) := funext ih
    rw [List.cons_append, inTurn, hf, inTurn, Recorded.followedBy_assoc]

end InTurn

namespace Elements

def singles : Elements → List Elements
  | .integers ns => ns.map fun n => .integers [n]
  | .strings ss => ss.map fun s => .strings [s]

def items : Elements → List Value
  | .integers ns => ns.map .int
  | .strings ss => ss.map .text

def kind : Elements → Kind
  | .integers _ => .integer
  | .strings _ => .string

theorem forall₂_singles (els : Elements) :
    List.Forall₂ (fun item x => els.kind.elements? item = some x) els.items els.singles := by
  cases els <;>
    rw [items, singles, List.forall₂_map_left_iff, List.forall₂_map_right_iff,
      List.forall₂_same] <;>
    exact fun _ _ => rfl

theorem exists_append {els₁ els₂ : Elements} (h : els₁.kind = els₂.kind) :
    ∃ els : Elements, els.kind = els₁.kind ∧ els.items = els₁.items ++ els₂.items ∧
      els.singles = els₁.singles ++ els₂.singles := by
  cases els₁ with
  | integers ns₁ =>
    cases els₂ with
    | integers ns₂ => exact ⟨.integers (ns₁ ++ ns₂), rfl, List.map_append, List.map_append⟩
    | strings ss₂ => cases h
  | strings ss₁ =>
    cases els₂ with
    | integers ns₂ => cases h
    | strings ss₂ => exact ⟨.strings (ss₁ ++ ss₂), rfl, List.map_append, List.map_append⟩

end Elements

namespace Constraint

variable {c : Constraint} {k : Kind} {v : Value} {field : String} {els : Elements}
  {allowed : List Int}

def recordEach (c : Constraint) (field : String) (allowed : Option (List Int)) :
    Elements → Violations → Recorded Numeral.Error Nat
  | .integers ns => inTurn (fun n vs => (c.recordInteger field n allowed vs).failures) ns
  | .strings ss =>
    inTurn (fun s vs => Recorded.failures (.ok (c.recordString field s vs).1,
      (c.recordString field s vs).2)) ss

theorem failures_eq_length (field : String) (fault : Option String) :
    (if (violation? field fault).isEmpty then 0 else 1) = (violation? field fault).length := by
  cases fault <;> rfl

theorem failures_note (vs : Violations) (field : String) (fault : Option String) :
    @Recorded.failures Numeral.Error (.ok (vs.note field fault).1, (vs.note field fault).2) =
      (.ok (violation? field fault).length, vs.appendAll (violation? field fault)) := by
  rw [note_eq, ← failures_eq_length]
  rfl

theorem recordInteger_of_ok {given : Option (List Int)}
    (h : given.elim c.integers .ok = .ok allowed) (n : Int) (vs : Violations) :
    c.recordInteger field n given vs = (.ok (vs.note field (c.integerFault? allowed n)).1,
      (vs.note field (c.integerFault? allowed n)).2) := by
  rw [recordInteger, h]

theorem record_string (c : Constraint) (field s : String) (vs : Violations) :
    c.record field (.strings [s]) vs =
      Recorded.failures (.ok (c.recordString field s vs).1, (c.recordString field s vs).2) := by
  rw [recordString, failures_note, record_ok rfl, List.flatMap_singleton]
  rfl

theorem record_integer (c : Constraint) (field : String) (n : Int) (vs : Violations) :
    c.record field (.integers [n]) vs = (c.recordInteger field n none vs).failures := by
  cases hi : c.integers with
  | ok allowed =>
    have hg : Option.elim none c.integers Except.ok = .ok allowed := hi
    rw [recordInteger_of_ok hg, failures_note, record_ok (check_integers hi [n]),
      List.flatMap_singleton]
  | error e =>
    rw [record, recordInteger, Option.elim_none, hi]
    rfl

theorem recordEach_integers {given : Option (List Int)}
    (h : given.elim c.integers .ok = .ok allowed) (ns : List Int) (vs : Violations) :
    c.recordEach field given (.integers ns) vs =
      (.ok (ns.flatMap fun n => violation? field (c.integerFault? allowed n)).length,
        vs.appendAll (ns.flatMap fun n => violation? field (c.integerFault? allowed n))) :=
  inTurn_eq (fun n vs => by rw [recordInteger_of_ok h, failures_note]) ns vs

theorem recordEach_strings (c : Constraint) (field : String) (given : Option (List Int))
    (ss : List String) (vs : Violations) :
    c.recordEach field given (.strings ss) vs =
      (.ok (ss.flatMap (c.checkString field)).length,
        vs.appendAll (ss.flatMap (c.checkString field))) :=
  inTurn_eq (fun s vs => failures_note vs field (c.stringFault? s)) ss vs

theorem record_eq_recordEach (h : ∀ ns, els = .integers ns → c.integers = .ok allowed)
    (field : String) (vs : Violations) :
    c.record field els vs = c.recordEach field (some allowed) els vs ∧
      c.record field els vs = c.recordEach field none els vs := by
  cases els with
  | strings ss =>
    rw [recordEach_strings, recordEach_strings, record_ok rfl]
    exact ⟨rfl, rfl⟩
  | integers ns =>
    have hi := h ns rfl
    have hg : Option.elim none c.integers Except.ok = .ok allowed := hi
    rw [recordEach_integers rfl, recordEach_integers hg, record_ok (check_integers hi ns)]
    exact ⟨rfl, rfl⟩

theorem recordEach_eq_inTurn (c : Constraint) (field : String) (els : Elements)
    (vs : Violations) :
    c.recordEach field none els vs = inTurn (c.record field) els.singles vs := by
  cases els with
  | integers ns =>
    have hf : (fun n => c.record field (.integers [n])) =
        fun n vs => (c.recordInteger field n none vs).failures :=
      funext fun n => funext (record_integer c field n)
    rw [Elements.singles, inTurn_map, hf]
    rfl
  | strings ss =>
    have hf : (fun s => c.record field (.strings [s])) =
        fun s vs => Recorded.failures (.ok (c.recordString field s vs).1,
          (c.recordString field s vs).2) :=
      funext fun s => funext (record_string c field s)
    rw [Elements.singles, inTurn_map, hf]
    rfl

theorem holds_list_iff (hk : k.isList = true) :
    k.Holds v els ↔ v.items? = some els.items ∧ els.kind = k.element := by
  constructor
  · intro h
    cases h with
    | integer | string => cases hk
    | integerList | integerTuple | stringList | stringTuple => exact ⟨rfl, rfl⟩
  · rintro ⟨hi, he⟩
    cases k with
    | integer | string => cases hk
    | integerList =>
      cases els with
      | strings ss => cases he
      | integers ns =>
        rcases Value.items?_eq_some_iff.mp hi with rfl | rfl
        · exact .integerList ns
        · exact .integerTuple ns
    | stringList =>
      cases els with
      | integers ns => cases he
      | strings ss =>
        rcases Value.items?_eq_some_iff.mp hi with rfl | rfl
        · exact .stringList ss
        · exact .stringTuple ss

theorem items_eq {items : List Value} (hk : k.isList = true) (h : k.Holds v els)
    (hi : v.items? = some items) : els.items = items := by
  rw [((holds_list_iff hk).mp h).1] at hi
  exact Option.some.inj hi

theorem exists_allowed [DepthLimit] {tag : Value} (h : Tag.read tag (some k) = .ok c) :
    ∃ allowed, k.isString = false → c.integers = .ok allowed := by
  obtain ⟨s, rfl⟩ := Tag.exists_text_of_read h
  by_cases hk : k.isString = false
  · obtain ⟨allowed, ha⟩ := exists_integers hk (not_unreadable_of_parse h)
    exact ⟨allowed, fun _ => ha⟩
  · exact ⟨[], fun hs => absurd hs hk⟩

section Readable

variable (ha : k.isString = false → c.integers = .ok allowed)
include ha

theorem exists_record (hm : k.Holds v els) (field : String) (vs : Violations) :
    ∃ n, (c.record field els vs).1 = .ok n := by
  have hu : ¬Unreadable k c := by
    intro hu
    obtain ⟨hk, e, he⟩ := unreadable_iff.mp hu
    rw [ha hk] at he
    cases he
  obtain ⟨found, hc, -⟩ := exists_check_of_readable hm hu
  exact ⟨found.length, by rw [record_ok hc]⟩

theorem record_eq_each (hm : k.Holds v els) (field : String) (vs : Violations) :
    c.record field els vs = c.recordEach field (some allowed) els vs ∧
      c.record field els vs = c.recordEach field none els vs := by
  apply record_eq_recordEach
  rintro ns rfl
  exact ha hm.isString

theorem record_eq_inTurn (hm : k.Holds v els) (field : String) :
    c.record field els = inTurn (c.record field) els.singles := by
  funext vs
  rw [(record_eq_each ha hm field vs).2, recordEach_eq_inTurn]

theorem exists_record_append (hk : k.isList = true) {v₁ v₂ : Value} {els₁ els₂ : Elements}
    (h₁ : k.Holds v₁ els₁) (h₂ : k.Holds v₂ els₂)
    (hi : v.items? = some (els₁.items ++ els₂.items)) :
    ∃ els, k.Holds v els ∧ ∀ field vs, c.record field els vs =
      (c.record field els₁ vs).followedBy (c.record field els₂) := by
  have hk₁ := ((holds_list_iff hk).mp h₁).2
  have hk₂ := ((holds_list_iff hk).mp h₂).2
  obtain ⟨els, he, his, hs⟩ := Elements.exists_append (hk₁.trans hk₂.symm)
  have hm : k.Holds v els := (holds_list_iff hk).mpr ⟨by rw [hi, his], he.trans hk₁⟩
  refine ⟨els, hm, fun field vs => ?_⟩
  rw [record_eq_inTurn ha hm, hs, inTurn_append, record_eq_inTurn ha h₁, record_eq_inTurn ha h₂]

end Readable

end Constraint

end FieldGuard
