import Mathlib.Data.List.Infix
import Mathlib.Tactic.SplitIfs

namespace FieldGuard.Text

variable {sep : Char} {cs s t : List Char} {parts : List (List Char)}

theorem infix_cons_of_not_mem (h : sep ∉ s) : s <:+: sep :: cs ↔ s <:+: cs := by
  rw [List.infix_cons_iff]
  constructor
  · rintro (hp | hi)
    · cases s with
      | nil => exact List.nil_infix
      | cons c s =>
        have hc : c = sep := (List.cons_prefix_cons.mp hp).1
        simp [hc] at h
    · exact hi
  · exact .inr

theorem infix_append_cons_iff (h : sep ∉ s) : s <:+: t ++ sep :: cs ↔ s <:+: t ∨ s <:+: cs := by
  rw [List.infix_append_iff_ne_nil, infix_cons_of_not_mem h]
  constructor
  · rintro (ht | hc | ⟨u, w, -, hw, rfl, -, hp⟩)
    · exact .inl ht
    · exact .inr hc
    · -- An occurrence across the end of `t` would hold the separator.
      obtain ⟨c, w, rfl⟩ := List.exists_cons_of_ne_nil hw
      have hc : c = sep := (List.cons_prefix_cons.mp hp).1
      simp [hc] at h
  · rintro (ht | hc)
    · exact .inl ht
    · exact .inr (.inl hc)

theorem infix_intercalate_iff (h : sep ∉ s) (hp : parts ≠ []) :
    s <:+: [sep].intercalate parts ↔ ∃ part ∈ parts, s <:+: part := by
  induction parts with
  | nil => exact absurd rfl hp
  | cons part parts ih =>
    cases parts with
    | nil => simp
    | cons next parts =>
      have hi := ih (List.cons_ne_nil next parts)
      rw [List.intercalate_cons_cons, List.append_assoc, List.singleton_append,
        infix_append_cons_iff h, hi, List.exists_mem_cons_iff _ part]

theorem not_mem_of_mem_splitOn (h : t ∈ cs.splitOn sep) : sep ∉ t := by
  induction cs generalizing t with
  | nil => simp_all
  | cons c cs ih =>
    rw [List.splitOn_cons_eq_if_modifyHead] at h
    split at h
    · rcases List.mem_cons.mp h with rfl | h
      · simp
      · exact ih h
    · rename_i hc
      cases hs : cs.splitOn sep with
      | nil => exact absurd hs (List.splitOn_ne_nil sep cs)
      | cons u us =>
        rw [hs, List.modifyHead_cons] at h
        rcases List.mem_cons.mp h with rfl | h
        · have hu : sep ∉ u := ih (by simp [hs])
          have hne : sep ≠ c := by
            rintro rfl
            exact hc (by simp)
          simp [hu, hne]
        · exact ih (by simp [hs, h])

theorem headD_splitOn_eq_nil_iff :
    (cs.splitOn sep).headD [] = [] ↔ cs = [] ∨ cs.head? = some sep := by
  cases cs with
  | nil => simp
  | cons c cs =>
    rw [List.splitOn_cons_eq_if_modifyHead]
    by_cases hc : c = sep
    · simp [hc]
    · obtain ⟨part, parts, hs⟩ := List.exists_cons_of_ne_nil (List.splitOn_ne_nil sep cs)
      simp [hc, hs]

theorem infix_splitOn_iff : (∃ part ∈ cs.splitOn sep, s <:+: part) ↔ sep ∉ s ∧ s <:+: cs := by
  have hi (hs : sep ∉ s) : s <:+: cs ↔ ∃ part ∈ cs.splitOn sep, s <:+: part := by
    rw [← infix_intercalate_iff hs (List.splitOn_ne_nil sep cs), List.intercalate_splitOn]
  constructor
  · intro h
    obtain ⟨part, hp, hs⟩ := h
    have hn : sep ∉ s := fun hm => not_mem_of_mem_splitOn hp (hs.subset hm)
    exact ⟨hn, (hi hn).mpr ⟨part, hp, hs⟩⟩
  · rintro ⟨hn, hs⟩
    exact (hi hn).mp hs

end FieldGuard.Text
