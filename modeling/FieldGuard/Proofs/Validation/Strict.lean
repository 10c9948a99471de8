import FieldGuard.Proofs.Report.Views

namespace FieldGuard.Validator

section Strict

variable [Host] {v : Validator} {record : Value} {ref : Option SchemaRef} {r : Report}
  {e : Failure}

theorem validateStrict_of_error (h : (v.validate record ref).result = .error e) :
    (v.validateStrict record ref).result = .error (.failure e) := by
  rw [validateStrict]
  dsimp only
  rw [h]

theorem validateStrict_of_ok (h : (v.validate record ref).result = .ok r) :
    (v.validateStrict record ref).result = r.require.mapError .violations := by
  rw [validateStrict]
  dsimp only
  rw [h]

theorem validateStrict_eq_failure_iff :
    (v.validateStrict record ref).result = .error (.failure e) ↔
      (v.validate record ref).result = .error e := by
  refine ⟨fun h => ?_, validateStrict_of_error⟩
  cases hv : (v.validate record ref).result with
  | error e' =>
    rw [validateStrict_of_error hv] at h
    cases h
    rfl
  | ok r =>
    rw [validateStrict_of_ok hv, Traversal.mapError_eq_error_iff] at h
    obtain ⟨vs, -, hn⟩ := h
    cases hn

theorem validateStrict_eq_ok_iff (h : (v.validate record ref).result = .ok r) :
    (v.validateStrict record ref).result = .ok () ↔ r.violations.toList = [] := by
  rw [validateStrict_of_ok h, Traversal.mapError_eq_ok_iff]
  exact r.views.require_iff

theorem validateStrict_of_violations (h : (v.validate record ref).result = .ok r)
    (hv : r.violations.toList ≠ []) :
    (v.validateStrict record ref).result = .error (.violations r.violations) := by
  rw [validateStrict_of_ok h, r.views.require_eq hv]
  rfl

theorem strict_refines_plain (v : Validator) (record : Value) (ref : Option SchemaRef) :
    (v.validateStrict record ref).events = (v.validate record ref).events ∧
    (∀ e, (v.validateStrict record ref).result = .error (.failure e) ↔
      (v.validate record ref).result = .error e) ∧
    (∀ r, (v.validate record ref).result = .ok r →
      ((v.validateStrict record ref).result = .ok () ↔ r.violations.toList = []) ∧
      (r.violations.toList ≠ [] → ∃ vs : Violations,
        (v.validateStrict record ref).result = .error (.violations vs) ∧ vs = r.violations ∧
        (StrictError.violations vs).message = r.violations.text ∧
        (∀ code, vs.has code = true ↔ ∃ x ∈ r.violations.toList, x.code = code) ∧
        ∀ x, vs.contains x = true ↔ x ∈ r.violations.toList)) ∧
    ∀ r : Report, r.Views := by
  refine ⟨rfl, fun e => validateStrict_eq_failure_iff, ?_, Report.views⟩
  intro r h
  constructor
  · exact validateStrict_eq_ok_iff h
  · intro hv
    refine ⟨r.violations, validateStrict_of_violations h hv, rfl, rfl, ?_, ?_⟩
    · exact r.violations.has_iff
    · exact r.violations.contains_iff

end Strict

def twiceBroken : Schema :=
  ⟨"S", [⟨"a", some .integer, some "min:1"⟩, ⟨"_b", some .string, some "len:2"⟩], none⟩

def twiceBrokenReport : Report :=
  ⟨⟨[.failed "a" "the number is less than the lower bound", .unexported "_b"]⟩, [],
    [(.text "record_type", .text "dict"), (.text "schema", .text "S"),
      (.text "checked_fields", .list [.text "a", .text "_b"])]⟩

theorem strict_refines_plain_twiceBroken :
    (default.validate (.keyed [("a", .int 0)]) (some (.schema twiceBroken))).result =
        .ok twiceBrokenReport ∧
      twiceBrokenReport.violations.toList ≠ [] ∧
      (default.validateStrict (.keyed [("a", .int 0)]) (some (.schema twiceBroken))).result =
        .error (.violations twiceBrokenReport.violations) ∧
      twiceBrokenReport.violations.has .unexportedField = true ∧
      (default.validateStrict .null (some (.name "S"))).result =
        .error (.failure (.noRegistry "S")) ∧
      ∃ text first, twiceBrokenReport.text = .ok text ∧ (Text.lines text).head? = some first ∧
        ¬"Validation passed".toList <+: first.toList := by
  have hv : twiceBrokenReport.violations.toList ≠ [] := List.cons_ne_nil _ _
  have h : (default.validate (.keyed [("a", .int 0)]) (some (.schema twiceBroken))).result =
      .ok twiceBrokenReport := rfl
  obtain ⟨-, -, hr, hviews⟩ :=
    strict_refines_plain default (.keyed [("a", .int 0)]) (some (.schema twiceBroken))
  obtain ⟨vs, hs, rfl, -, hc, -⟩ := (hr _ h).2 hv
  have hn := (strict_refines_plain default .null (some (.name "S"))).2.1 (.noRegistry "S")
  obtain ⟨text, ht⟩ := Report.exists_text (r := twiceBrokenReport) ⟨_, rfl⟩ hv
  obtain ⟨first, hf, hp⟩ := (hviews twiceBrokenReport).passed_iff text ht
  exact ⟨h, hv, hs, (hc _).mpr ⟨.unexported "_b", by decide, rfl⟩, hn.mpr rfl, text, first, ht, hf,
    fun hpre => hv (hp.mp hpre)⟩

end FieldGuard.Validator
