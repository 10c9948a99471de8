import FieldGuard.Proofs.Sequence
import FieldGuard.Proofs.Traversal
import FieldGuard.Violation.History
import Mathlib.Algebra.BigOperators.Group.List.Lemmas
import Mathlib.Algebra.GroupWithZero.Nat

/-!
What a collection of violations shows after a history, told from the operations and their results
alone: the violations of the additions that succeeded, in order and with repetitions.
-/

namespace FieldGuard.Violations

structure Step where
  operation : Operation
  result : Except Error Answer

def Step.addition? : Step → Option Violation
  | ⟨.add v, .ok _⟩ | ⟨.append v, .ok _⟩ => some v
  | _ => none

def step (vs : Violations) (op : Operation) : Step := ⟨op, (vs.perform op).1⟩

def steps (vs : Violations) : List Operation → List Step
  | [] => []
  | op :: ops => vs.step op :: (vs.perform op).2.steps ops

def additions (steps : List Step) : List Violation := steps.filterMap Step.addition?

theorem additions_cons (s : Step) (steps : List Step) :
    additions (s :: steps) = s.addition?.toList ++ additions steps := by
  rw [additions, List.filterMap_cons]
  cases s.addition? <;> rfl

theorem toList_perform (vs : Violations) (op : Operation) :
    (vs.perform op).2.toList = vs.toList ++ (vs.step op).addition?.toList := by
  cases op with
  | add | append => rfl
  | _ => exact (List.append_nil _).symm

theorem toList_after (vs : Violations) (ops : List Operation) :
    (vs.after ops).toList = vs.toList ++ additions (vs.steps ops) := by
  induction ops generalizing vs with
  | nil => exact (List.append_nil _).symm
  | cons op ops ih =>
    rw [steps, additions_cons, ← List.append_assoc, ← toList_perform]
    exact ih (vs.perform op).2

inductive Refuses (added : List Violation) : Operation → Error → Prop
  | other : Refuses added .appendOther .notAViolation
  | position {i : Int} (h : i < -(added.length : Int) ∨ (added.length : Int) ≤ i) :
      Refuses added (.get i) (.position (Sequence.missing i))
  | step {bounds : Sequence.Bounds} (h : bounds.step = some 0) :
      Refuses added (.slice bounds) (.position .zeroStep)

variable {vs : Violations} {op : Operation} {e : Error} {v : Violation} {i : Int}

theorem answer_get_eq_ok_iff :
    vs.answer (.get i) = .ok (.violation v) ↔ Sequence.get vs.toList i = .ok v := by
  rw [answer, perform, get, Traversal.map_eq_ok_iff]
  simp [Traversal.mapError_eq_ok_iff]

theorem answer_of_position {α : Type} {x : Except Sequence.Error α} {f : α → Answer} {P : Prop}
    {cause : Sequence.Error} (h : ∀ e', x = .error e' ↔ P ∧ e' = cause) :
    (x.mapError Error.position).map f = .error e ↔ P ∧ e = .position cause := by
  rw [Traversal.map_eq_error_iff, Traversal.mapError_eq_error_iff]
  simp only [h]
  constructor
  · rintro ⟨_, ⟨hp, rfl⟩, rfl⟩
    exact ⟨hp, rfl⟩
  · rintro ⟨hp, rfl⟩
    exact ⟨_, ⟨hp, rfl⟩, rfl⟩

theorem answer_get_eq_error_iff : vs.answer (.get i) = .error e ↔
    (i < -(vs.toList.length : Int) ∨ (vs.toList.length : Int) ≤ i) ∧
      e = .position (Sequence.missing i) :=
  answer_of_position fun _ => Sequence.get_eq_error_iff

theorem answer_slice_eq_error_iff {bounds : Sequence.Bounds} :
    vs.answer (.slice bounds) = .error e ↔
      bounds.step = some 0 ∧ e = .position .zeroStep :=
  answer_of_position fun _ => Sequence.slice_eq_error_iff

theorem answer_slice_of_ok {bounds : Sequence.Bounds} {found : List Violation}
    (h : Sequence.slice vs.toList bounds = .ok found) :
    vs.answer (.slice bounds) = .ok (.violations found) := by
  rw [answer, perform, slice, h]
  rfl

theorem answer_eq_error_iff : vs.answer op = .error e ↔ Refuses vs.toList op e := by
  constructor
  · intro h
    cases op with
    | appendOther =>
      cases h
      exact .other
    | get i =>
      obtain ⟨hi, rfl⟩ := answer_get_eq_error_iff.mp h
      exact .position hi
    | slice bounds =>
      obtain ⟨hs, rfl⟩ := answer_slice_eq_error_iff.mp h
      exact .step hs
    | _ => cases h
  · intro h
    cases h with
    | other => rfl
    | position hi => exact answer_get_eq_error_iff.mpr ⟨hi, rfl⟩
    | step hs => exact answer_slice_eq_error_iff.mpr ⟨hs, rfl⟩

theorem sum_length_forField (vs : Violations) :
    ((vs.toList.map Violation.field).dedup.map fun name => (vs.forField name).length).sum =
      vs.size := by
  have hc (name : String) :
      (vs.forField name).length = (vs.toList.map Violation.field).count name := by
    rw [forField, List.count, List.countP_map, List.countP_eq_length_filter]
    rfl
  simp only [hc]
  rw [List.sum_map_count_dedup_eq_length, List.length_map, size]

/-- A collection that holds the added violations, as each operation on it shows. -/
structure Shows (added : List Violation) (vs : Violations) : Prop where
  items : vs.answer .items = .ok (.violations added)
  size : vs.answer .size = .ok (.count added.length)
  isNonempty : vs.answer .isNonempty = .ok (.flag (!added.isEmpty))
  messages : vs.answer .messages = .ok (.texts (added.map Violation.message))
  text : vs.answer .text = .ok (.text ("\n".intercalate (added.map Violation.message)))
  has : ∀ code, ∃ held : Bool, (held = true ↔ ∃ v ∈ added, v.code = code) ∧
    vs.answer (.has code) = .ok (.flag held) ∧ vs.answer (.containsCode code) = .ok (.flag held)
  contains : ∀ v, ∃ held : Bool, (held = true ↔ v ∈ added) ∧
    vs.answer (.contains v) = .ok (.flag held)
  containsOther : vs.answer .containsOther = .ok (.flag false)
  forField : ∀ name,
    vs.answer (.forField name) = .ok (.violations (added.filter fun v => v.field = name))
  forField_total :
    ((added.map Violation.field).dedup.map fun name => (vs.forField name).length).sum =
      added.length
  get_of_nat : ∀ (i : Nat) v, added[i]? = some v → vs.answer (.get i) = .ok (.violation v)
  get_of_neg : ∀ i : Int, -(added.length : Int) ≤ i → i < 0 →
    vs.answer (.get i) = vs.answer (.get (i + added.length))
  get_iff : ∀ i : Int, (∃ v, vs.answer (.get i) = .ok (.violation v)) ↔
    -(added.length : Int) ≤ i ∧ i < added.length
  slice : ∀ k : Int, ∃ front back,
    vs.answer (.slice ⟨none, some k, none⟩) = .ok (.violations front) ∧
      vs.answer (.slice ⟨some k, none, none⟩) = .ok (.violations back) ∧
      front ++ back = added ∧ front.length = Sequence.cut added.length k
  error_iff : ∀ op e, vs.answer op = .error e ↔ Refuses added op e
  /-- Failures and queries change nothing. -/
  unchanged : ∀ op, (vs.step op).addition? = none → (vs.perform op).2 = vs
  grown : ∀ op v, (vs.step op).addition? = some v → (vs.perform op).2.toList = added ++ [v]

theorem shows_toList (vs : Violations) : Shows vs.toList vs where
  items := rfl
  size := rfl
  isNonempty := rfl
  messages := rfl
  text := rfl
  has code := ⟨vs.has code, vs.has_iff code, rfl, rfl⟩
  contains v := ⟨vs.contains v, vs.contains_iff v, rfl⟩
  containsOther := rfl
  forField name := rfl
  forField_total := vs.sum_length_forField
  get_of_nat i v h := answer_get_eq_ok_iff.mpr (Sequence.get_eq_ok h)
  get_of_neg i hl hi := by
    rw [answer, answer, perform, perform, get, get, Sequence.get_neg hi (by omega)]
  get_iff i := by
    simp only [answer_get_eq_ok_iff]
    exact Sequence.exists_get_iff
  slice k := by
    refine ⟨_, _, answer_slice_of_ok (Sequence.slice_front _ k),
      answer_slice_of_ok (Sequence.slice_back _ k), List.take_append_drop _ _, ?_⟩
    rw [List.length_take, Sequence.cut, Sequence.clamp]
    omega
  error_iff op e := answer_eq_error_iff
  unchanged op h := by
    have hl := toList_perform vs op
    rw [h, Option.toList_none, List.append_nil] at hl
    exact congrArg Violations.mk hl
  grown op v h := by
    rw [toList_perform, h]
    rfl

theorem after_shows_additions (ops : List Operation) :
    Shows (additions (empty.steps ops)) (empty.after ops) := by
  have hl : (empty.after ops).toList = additions (empty.steps ops) := by
    rw [toList_after]
    rfl
  rw [← hl]
  exact shows_toList _

end FieldGuard.Violations
