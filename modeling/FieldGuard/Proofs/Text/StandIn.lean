import FieldGuard.Text.StandIn
import Mathlib.Data.List.TakeWhile

namespace FieldGuard.Text

variable [StandIns] {s : String} {fault : EncodeFault} {c : Char} {u : Fin 0x800}

theorem isStandIn_iff : isStandIn c = true ↔ ∃ u, StandIns.unit? c = some u := by
  rw [isStandIn, Option.isSome_iff_exists]

inductive Unencodable (s : String) : EncodeFault → Prop
  | run {before run after : List Char} {c : Char} {u : Fin 0x800}
      (hs : s.toList = before ++ c :: run ++ after) (hb : ∀ x ∈ before, isStandIn x = false)
      (hc : StandIns.unit? c = some u) (hr : ∀ x ∈ run, isStandIn x = true)
      (ha : ∀ x ∈ after.head?, isStandIn x = false) :
      Unencodable s ⟨before.length, run.length + 1, 0xd800 + u⟩

theorem exists_unencodable {cs : List Char} (h : s.toList.dropWhile (!isStandIn ·) = c :: cs) :
    ∃ fault, Unencodable s fault := by
  have hc : isStandIn c = true := by
    have := List.head?_dropWhile_not (!isStandIn ·) s.toList
    simp_all
  obtain ⟨u, hu⟩ := isStandIn_iff.mp hc
  have hb : ∀ x ∈ s.toList.takeWhile (!isStandIn ·), isStandIn x = false := by
    intro x hx
    simpa using List.mem_takeWhile_imp hx
  have ha : ∀ x ∈ (cs.dropWhile isStandIn).head?, isStandIn x = false := by
    intro x hx
    have := List.head?_dropWhile_not isStandIn cs
    simp_all
  have hs : s.toList = s.toList.takeWhile (!isStandIn ·) ++ c :: cs.takeWhile isStandIn ++
      cs.dropWhile isStandIn := by
    rw [List.append_assoc, List.cons_append, List.takeWhile_append_dropWhile, ← h,
      List.takeWhile_append_dropWhile]
  exact ⟨_, .run hs hb hu (fun x => List.mem_takeWhile_imp) ha⟩

theorem encodeFault?_of_unencodable (h : Unencodable s fault) : encodeFault? s = some fault := by
  obtain @⟨before, run, after, c, u, hs, hb, hc, hr, ha⟩ := h
  have hp : isStandIn c = true := isStandIn_iff.mpr ⟨u, hc⟩
  have hb' : ∀ x ∈ before, (!isStandIn x) = true := by simpa using hb
  have hd : s.toList.dropWhile (!isStandIn ·) = c :: (run ++ after) := by
    rw [hs, List.append_assoc, List.dropWhile_append_of_pos hb', List.cons_append,
      List.dropWhile_cons_of_neg (by simp [hp])]
  have ht : s.toList.takeWhile (!isStandIn ·) = before := by
    rw [hs, List.append_assoc, List.takeWhile_append_of_pos hb', List.cons_append,
      List.takeWhile_cons_of_neg (by simp [hp]), List.append_nil]
  have hn : after.takeWhile isStandIn = [] := by
    cases after with
    | nil => rfl
    | cons x xs => exact List.takeWhile_cons_of_neg (by simp [ha x rfl])
  have hl : (c :: (run ++ after)).takeWhile isStandIn = c :: run := by
    rw [List.takeWhile_cons_of_pos hp, List.takeWhile_append_of_pos hr, hn, List.append_nil]
  rw [encodeFault?, hd]
  dsimp only
  rw [ht, hl, hc]
  rfl

theorem encodeFault?_eq_some_iff : encodeFault? s = some fault ↔ Unencodable s fault := by
  refine ⟨fun h => ?_, encodeFault?_of_unencodable⟩
  cases hd : s.toList.dropWhile (!isStandIn ·) with
  | nil =>
    rw [encodeFault?, hd] at h
    cases h
  | cons c cs =>
    obtain ⟨found, hf⟩ := exists_unencodable hd
    rw [encodeFault?_of_unencodable hf] at h
    cases h
    exact hf

end FieldGuard.Text
