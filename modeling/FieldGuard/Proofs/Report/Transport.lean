import FieldGuard.Proofs.Json.RoundTrip
import FieldGuard.Proofs.Validation.Report

namespace FieldGuard

namespace Report

open Json (IsJson IsWritten named)

variable {r r' : Report}

structure ListsViolation (v : Violation) (row : Value) : Prop where
  entries : ∃ es, row.entries? = some es ∧ Value.lookup es "field" = some (.text v.field) ∧
    Value.lookup es "message" = some (.text v.message) ∧
    Value.lookup es "code" = some (.text v.code.text)

structure Lists (r : Report) (es : Entries Value Value) : Prop where
  keys : es.keys = ["is_valid", "violations", "warnings", "context"].map .text
  isValid : ∃ b, Value.lookup es "is_valid" = some (.bool b) ∧
    (b = true ↔ r.violations.toList = [])
  violations : ∃ rows, Value.lookup es "violations" = some (.list rows) ∧
    List.Forall₂ ListsViolation r.violations.toList rows
  warnings : Value.lookup es "warnings" = some (.list (r.warnings.map .text))
  context : Value.lookup es "context" = some (.mapping .plain r.context)

theorem listsViolation_violationValue (v : Violation) : ListsViolation v (violationValue v) :=
  ⟨_, rfl, rfl, rfl, rfl⟩

theorem exists_lists (r : Report) : ∃ es, r.toValue = .mapping .plain es ∧ r.Lists es := by
  refine ⟨_, rfl, rfl, ⟨r.isValid, rfl, r.isValid_iff⟩, ⟨_, rfl, ?_⟩, rfl, rfl⟩
  rw [List.forall₂_map_right_iff, List.forall₂_same]
  exact fun v _ => listsViolation_violationValue v

theorem text_injective : Function.Injective ViolationCode.text := by
  intro c d h
  have hc := ViolationCode.ofText?_text c
  rw [h, ViolationCode.ofText?_text d] at hc
  exact (Option.some.inj hc).symm

theorem violationValue_injective : Function.Injective violationValue := by
  intro v w h
  simp only [violationValue, Value.keyed, List.map_cons, List.map_nil, Value.mapping.injEq,
    List.cons.injEq, Prod.mk.injEq, Value.text.injEq, and_true, true_and] at h
  obtain ⟨hf, hm, hc⟩ := h
  cases v
  cases w
  simp only [Violation.mk.injEq]
  exact ⟨hf, hm, text_injective hc⟩

theorem toValue_injective : Function.Injective toValue := by
  intro r r' h
  simp only [toValue, Value.keyed, List.map_cons, List.map_nil, Value.mapping.injEq,
    List.cons.injEq, Prod.mk.injEq, Value.list.injEq, and_true, true_and] at h
  obtain ⟨-, hv, hw, hc⟩ := h
  have htext : Function.Injective Value.text := fun _ _ => Value.text.inj
  have hv := List.map_injective_iff.mpr violationValue_injective hv
  have hw := List.map_injective_iff.mpr htext hw
  obtain ⟨⟨vs⟩, ws, es⟩ := r
  obtain ⟨⟨vs'⟩, ws', es'⟩ := r'
  simp_all

theorem isJson_violationValue (room : Nat) (v : Violation) :
    IsJson (room + 1) (violationValue v) := by
  apply IsJson.keyed
  · simp
  · simp only [List.forall_mem_cons]
    exact ⟨.text _ _, .text _ _, .text _ _, nofun⟩

theorem isJson_texts (room : Nat) (texts : List String) :
    IsJson (room + 1) (.list (texts.map .text)) := by
  apply IsJson.list
  intro v hv
  obtain ⟨s, -, rfl⟩ := List.mem_map.mp hv
  exact .text _ s

theorem isJson_toValue {room : Nat} (h : IsJson (room + 2) (.mapping .plain r.context)) :
    IsJson (room + 3) r.toValue := by
  apply IsJson.keyed
  · simp
  · simp only [List.forall_mem_cons]
    refine ⟨.bool _ _, ?_, isJson_texts _ _, h, nofun⟩
    apply IsJson.list
    intro v hv
    obtain ⟨violation, -, rfl⟩ := List.mem_map.mp hv
    exact isJson_violationValue room violation

end Report

namespace Validator

open Json (IsJson IsWritten)

section Reports

variable [Host] {v : Validator} {record : Value} {s : Option Schema} {r : Report}

theorem isJson_context (h : v.Describes record s r) (room : Nat) :
    IsJson (room + 2) (.mapping .plain r.context) := by
  cases h with
  | rejected _ =>
    have hj : IsJson (room + 2) (.keyed [("record_type", .text record.typeName)]) := by
      apply IsJson.keyed
      · simp
      · simp only [List.forall_mem_cons]
        exact ⟨.text _ _, nofun⟩
    exact hj
  | @checked fs blocks warnings _ _ _ _ =>
    have hn : IsJson (room + 1) (.list ((tagged fs).map fun f => .text f.name)) := by
      have hm := Report.isJson_texts room ((tagged fs).map Field.name)
      rwa [List.map_map] at hm
    cases s with
    | none =>
      have hj : IsJson (room + 2) (.keyed [("record_type", .text record.typeName),
          ("checked_fields", .list ((tagged fs).map fun f => .text f.name))]) := by
        apply IsJson.keyed
        · simp
        · simp only [List.forall_mem_cons]
          exact ⟨.text _ _, hn, nofun⟩
      exact hj
    | some schema =>
      have hj : IsJson (room + 2) (.keyed [("record_type", .text record.typeName),
          ("schema", .text schema.name),
          ("checked_fields", .list ((tagged fs).map fun f => .text f.name))]) := by
        apply IsJson.keyed
        · simp
        · simp only [List.forall_mem_cons]
          exact ⟨.text _ _, .text _ _, hn, nofun⟩
      exact hj

variable {ref : Option SchemaRef}

theorem exists_describes (h : (v.validate record ref).result = .ok r) :
    ∃ s, v.Describes record s r := by
  obtain ⟨s, hs⟩ := exists_resolves h
  rw [validate_of_resolves hs] at h
  exact ⟨s, (validateWith_eq_ok_iff.mp h).2⟩

theorem exists_toJson (h : (v.validate record ref).result = .ok r) :
    ∃ text, r.toJson = .ok text ∧
      Json.read (DepthLimit.limit .reading) text.toList = .ok r.toValue ∧
      ∀ c ∈ text.toList, IsWritten c := by
  obtain ⟨s, hd⟩ := exists_describes h
  exact Json.exists_write (Report.isJson_toValue (isJson_context hd 5))

theorem report_of_json (h : (v.validate record ref).result = .ok r) :
    ∃ text es, r.toJson = .ok text ∧ (∀ c ∈ text.toList, IsWritten c) ∧
      r.toValue = .mapping .plain es ∧
      Json.read (DepthLimit.limit .reading) text.toList = .ok (.mapping .plain es) ∧
      r.Lists es ∧
      ∀ (v' : Validator) (record' : Value) (ref' : Option SchemaRef) (r' : Report),
        (v'.validate record' ref').result = .ok r' → r'.toJson = .ok text → r' = r := by
  obtain ⟨text, hw, hr, ha⟩ := exists_toJson h
  obtain ⟨es, hv, hl⟩ := r.exists_lists
  refine ⟨text, es, hw, ha, hv, hv ▸ hr, hl, fun v' record' ref' r' h' hw' => ?_⟩
  obtain ⟨text', hw'', hr', -⟩ := exists_toJson h'
  rw [hw'', Except.ok.injEq] at hw'
  rw [hw', hr, Except.ok.injEq] at hr'
  exact Report.toValue_injective hr'.symm

end Reports

def quotedSchema : Schema :=
  ⟨"\"\\\n", [⟨"😀", some .integer, some "min:1"⟩, ⟨"b\x00", some .string, some "min:\u2028"⟩], none⟩

def quotedReport : Report :=
  ⟨⟨[.missing "😀", .invalidTag "b\x00"]⟩, ["undeclared keys ignored: \x7f"],
    [(.text "record_type", .text "dict"), (.text "schema", .text "\"\\\n"),
      (.text "checked_fields", .list [.text "😀", .text "b\x00"])]⟩

theorem report_of_json_quoted :
    (default.validate (.keyed [("\x7f", .null)]) (some (.schema quotedSchema))).result =
        .ok quotedReport ∧
      ∃ text es, quotedReport.toJson = .ok text ∧ (∀ c ∈ text.toList, IsWritten c) ∧
        quotedReport.toValue = .mapping .plain es ∧
        Json.read (DepthLimit.limit .reading) text.toList = .ok (.mapping .plain es) ∧
        quotedReport.Lists es ∧
        ∀ (v' : Validator) (record' : Value) (ref' : Option SchemaRef) (r' : Report),
          (v'.validate record' ref').result = .ok r' → r'.toJson = .ok text →
            r' = quotedReport := by
  have h : (default.validate (.keyed [("\x7f", .null)]) (some (.schema quotedSchema))).result =
      .ok quotedReport := rfl
  exact ⟨h, report_of_json h⟩

end Validator

end FieldGuard
