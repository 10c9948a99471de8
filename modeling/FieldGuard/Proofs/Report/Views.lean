import FieldGuard.Proofs.Report.Lines

namespace FieldGuard

namespace Text

variable {s t : String}

theorem head?_lines_intercalate {l : String} (h : '\n' ∉ l.toList) (ls : List String) :
    (lines ("\n".intercalate (l :: ls))).head? = some l := by
  rw [lines_intercalate (List.cons_ne_nil l ls), List.flatMap_cons, lines_of_not_mem h]
  rfl

end Text

namespace Report

variable {r : Report} {header suffix text : String}

theorem isValid_eq_false_iff : r.isValid = false ↔ r.violations.toList ≠ [] := by
  rw [← Bool.not_eq_true, not_iff_not]
  exact r.isValid_iff

theorem newline_not_mem_of_checkedSuffix (h : r.checkedSuffix = .ok suffix) :
    '\n' ∉ suffix.toList := by
  have hc : '\n' ∉ ": ".toList := by decide
  have ht : '\n' ∉ " tagged fields checked".toList := by decide
  unfold checkedSuffix at h
  split at h
  · cases h
    decide
  · cases h
    decide
  · split at h
    · cases h
      simp only [String.toList_append, List.mem_append, newline_not_mem_repr, hc, ht, or_self,
        not_false_eq_true]
    · cases h

theorem header_of_passed (hv : r.violations.toList = []) (h : r.header = .ok header) :
    ∃ suffix, r.checkedSuffix = .ok suffix ∧ "Validation passed" ++ suffix = header := by
  rw [Report.header, r.isValid_iff.mpr hv] at h
  exact Traversal.map_eq_ok_iff.mp h

theorem header_of_failed (hv : r.violations.toList ≠ []) (h : r.header = .ok header) :
    ∃ rest, header = "Validation failed: " ++ r.violations.toList.length.repr ++ " " ++ rest := by
  rw [Report.header, isValid_eq_false_iff.mpr hv] at h
  obtain rfl := Except.ok.inj h
  let fields := (r.violations.toList.map label).eraseDups.length
  refine ⟨plural "violation" r.violations.size ++ (" in " ++ (fields.repr ++
    (" " ++ plural "field" fields))), ?_⟩
  simp only [String.append_assoc]
  rfl

theorem newline_not_mem_header (h : r.header = .ok header) : '\n' ∉ header.toList := by
  by_cases hv : r.violations.toList = []
  · obtain ⟨suffix, hs, rfl⟩ := header_of_passed hv h
    have hp : '\n' ∉ "Validation passed".toList := by decide
    rw [String.toList_append, List.mem_append, not_or]
    exact ⟨hp, newline_not_mem_of_checkedSuffix hs⟩
  · obtain ⟨header', h', hn⟩ := exists_header hv
    rw [h, Except.ok.injEq] at h'
    exact h' ▸ hn

theorem passed_prefix_iff (h : r.header = .ok header) :
    "Validation passed".toList <+: header.toList ↔ r.violations.toList = [] := by
  constructor
  · intro hp
    by_contra hv
    obtain ⟨rest, rfl⟩ := header_of_failed hv h
    have hf : "Validation failed: ".toList <+:
        ("Validation failed: " ++ r.violations.toList.length.repr ++ " " ++ rest).toList := by
      simp only [String.toList_append, List.append_assoc]
      exact List.prefix_append _ _
    exact absurd (List.prefix_of_prefix_length_le hp hf (by decide)) (by decide)
  · intro hv
    obtain ⟨suffix, -, rfl⟩ := header_of_passed hv h
    rw [String.toList_append]
    exact List.prefix_append _ _

theorem exists_header_of_text [DepthLimit] (h : r.text = .ok text) :
    ∃ header, r.header = .ok header ∧ (Text.lines text).head? = some header := by
  obtain ⟨ls, hl, rfl⟩ := Traversal.map_eq_ok_iff.mp h
  obtain ⟨header, hh, hl⟩ := Traversal.bind_eq_ok_iff.mp hl
  obtain ⟨context, -, hl⟩ := Traversal.bind_eq_ok_iff.mp hl
  cases hl
  exact ⟨header, hh, Text.head?_lines_intercalate (newline_not_mem_header hh) _⟩

structure Views [DepthLimit] (r : Report) : Prop where
  isValid_iff : r.isValid = true ↔ r.violations.toList = []
  truth_iff : r.truth = true ↔ r.violations.toList = []
  require_iff : r.require = .ok () ↔ r.violations.toList = []
  require_eq : r.violations.toList ≠ [] → r.require = .error r.violations
  errors_eq : r.errors = r.violations.toList.map Violation.message
  errors_iff : r.errors = [] ↔ r.violations.toList = []
  value : ∃ es, r.toValue = .mapping .plain es ∧ r.Lists es
  passed_iff : ∀ text, r.text = .ok text → ∃ first, (Text.lines text).head? = some first ∧
    ("Validation passed".toList <+: first.toList ↔ r.violations.toList = [])
  count_eq : ∀ text, r.text = .ok text → r.violations.toList ≠ [] → ∃ rest,
    (Text.lines text).head? =
      some ("Validation failed: " ++ r.violations.toList.length.repr ++ " " ++ rest)

theorem require_of_violations (hv : r.violations.toList ≠ []) :
    r.require = .error r.violations := by
  rw [require, isValid_eq_false_iff.mpr hv]
  rfl

theorem views [DepthLimit] (r : Report) : r.Views where
  isValid_iff := r.isValid_iff
  truth_iff := r.isValid_iff
  require_iff := r.require_eq_ok_iff.trans r.isValid_iff
  require_eq := require_of_violations
  errors_eq := rfl
  errors_iff := List.map_eq_nil_iff
  value := r.exists_lists
  passed_iff text h := by
    obtain ⟨header, hh, hl⟩ := exists_header_of_text h
    exact ⟨header, hl, passed_prefix_iff hh⟩
  count_eq text h hv := by
    obtain ⟨header, hh, hl⟩ := exists_header_of_text h
    obtain ⟨rest, rfl⟩ := header_of_failed hv hh
    exact ⟨rest, hl⟩

end Report

end FieldGuard
