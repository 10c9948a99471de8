import FieldGuard.Sequence
import Mathlib.Data.List.Basic

namespace FieldGuard.Sequence

variable {α : Type} {xs : List α}

theorem get_eq_ok {i : Nat} {x : α} (h : xs[i]? = some x) : get xs i = .ok x := by
  obtain ⟨hl, rfl⟩ := List.getElem?_eq_some_iff.mp h
  exact get_ofNat hl

theorem exists_get_iff {i : Int} :
    (∃ x, get xs i = .ok x) ↔ -(xs.length : Int) ≤ i ∧ i < xs.length := by
  constructor
  · rintro ⟨x, hx⟩
    by_contra h
    have ho : i < -(xs.length : Int) ∨ (xs.length : Int) ≤ i := by omega
    rw [get_eq_error ho] at hx
    cases hx
  · rintro ⟨hl, hu⟩
    by_cases hi : i < 0
    · obtain ⟨n, hn⟩ := Int.eq_ofNat_of_zero_le (show 0 ≤ i + xs.length by omega)
      rw [get_neg hi (by omega), hn]
      exact ⟨_, get_ofNat (by omega)⟩
    · obtain ⟨n, rfl⟩ := Int.eq_ofNat_of_zero_le (show 0 ≤ i by omega)
      exact ⟨_, get_ofNat (by omega)⟩

theorem get_eq_error_iff {i : Int} {e : Error} : get xs i = .error e ↔
    (i < -(xs.length : Int) ∨ (xs.length : Int) ≤ i) ∧ e = missing i := by
  by_cases h : i < -(xs.length : Int) ∨ (xs.length : Int) ≤ i
  · simp [get_eq_error h, h, eq_comm]
  · obtain ⟨x, hx⟩ := exists_get_iff.mpr (show -(xs.length : Int) ≤ i ∧ i < xs.length by omega)
    simp [hx, h]

theorem slice_eq_error_iff {bounds : Bounds} {e : Error} :
    slice xs bounds = .error e ↔ bounds.step = some 0 ∧ e = .zeroStep := by
  obtain ⟨start, stop, step⟩ := bounds
  have hz : step.getD 1 = 0 ↔ step = some 0 := by
    cases step <;> simp
  by_cases h : step = some 0
  · simp [slice, h, eq_comm]
  · simp [slice, hz, h]

theorem filterMap_range_getElem? (xs : List α) (n : Nat) :
    (List.range n).filterMap (fun i => xs[i]?) = xs.take n := by
  induction n with
  | zero => rfl
  | succ n ih =>
    rw [List.range_succ, List.filterMap_append, ih, List.take_add_one]
    cases h : xs[n]? <;> simp [h]

theorem filterMap_positions (xs : List α) (start stop : Nat) :
    (positions start stop 1).filterMap (fun i => xs[i.toNat]?) = (xs.take stop).drop start := by
  have hc : count start stop 1 = stop - start := by
    simp only [count]
    omega
  have hp (i : Nat) : xs[((start : Int) + 1 * i).toNat]? = (xs.drop start)[i]? := by
    rw [List.getElem?_drop]
    congr 1
    omega
  rw [positions, hc, List.filterMap_map, List.drop_take, ← filterMap_range_getElem?]
  exact List.filterMap_congr fun i _ => hp i

def cut (length : Nat) (bound : Int) : Nat := (clamp length 0 length bound).toNat

theorem cut_cast (length : Nat) (bound : Int) :
    (cut length bound : Int) = clamp length 0 length bound := by
  rw [cut, clamp]
  omega

theorem slice_eq (xs : List α) (start stop : Option Int) :
    slice xs ⟨start, stop, none⟩ =
      .ok ((xs.take ((stop.map (cut xs.length)).getD xs.length)).drop
        ((start.map (cut xs.length)).getD 0)) := by
  have hs : (start.map (clamp xs.length 0 xs.length)).getD 0 =
      (((start.map (cut xs.length)).getD 0 : Nat) : Int) := by
    cases start with
    | none => rfl
    | some bound => exact (cut_cast _ bound).symm
  have ht : (stop.map (clamp xs.length 0 xs.length)).getD xs.length =
      (((stop.map (cut xs.length)).getD xs.length : Nat) : Int) := by
    cases stop with
    | none => rfl
    | some bound => exact (cut_cast _ bound).symm
  rw [← filterMap_positions, ← hs, ← ht]
  rfl

theorem slice_front (xs : List α) (bound : Int) :
    slice xs ⟨none, some bound, none⟩ = .ok (xs.take (cut xs.length bound)) :=
  slice_eq xs none (some bound)

theorem slice_back (xs : List α) (bound : Int) :
    slice xs ⟨some bound, none, none⟩ = .ok (xs.drop (cut xs.length bound)) := by
  rw [slice_eq, Option.map_none, Option.getD_none, List.take_length]
  rfl

end FieldGuard.Sequence
