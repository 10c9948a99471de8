import FieldGuard.Proofs.Report.Transport
import FieldGuard.Proofs.Schema.Registrations
import FieldGuard.Proofs.Validation.Wording
import FieldGuard.Session

namespace FieldGuard

namespace Registry

variable {ops : List Operation} {name : String} {s : Schema}

theorem get_eq_ok_iff {r : Registry} : r.get name = .ok s ↔ r.get? name = some s := by
  rw [get]
  cases r.get? name <;> simp

theorem get_of_not_registered {r : Registry} (h : ∀ s, r.get name ≠ .ok s) :
    r.get name = .error (.unknown name) := by
  rw [get] at h ⊢
  cases hg : r.get? name with
  | none => rfl
  | some s =>
    rw [hg] at h
    exact absurd rfl (h s)

theorem name_of_get_after [Document.Checker] (h : (empty.after ops).get name = .ok s) :
    s.name = name := by
  have hf := follows_after ops
  obtain ⟨-, -, -, -, -, hn, -⟩ := (hf.get?_iff name s).mp (get_eq_ok_iff.mp h)
  exact hn

end Registry

namespace Validator

variable {v : Validator} {record : Value} {ref : Option SchemaRef} {s : Option Schema}
  {f : Field} {tag : Value} {block : List Violation} {report : Report}

theorem code_ne_notRecord_of_block (h : Block f tag block) :
    ∀ x ∈ block, x.code ≠ .notRecord := by
  intro x hx
  cases h with
  | unexported _ | invalid _ _ | missing _ _ _ | mismatch _ _ _ _ =>
    rw [List.mem_singleton.mp hx]
    exact nofun
  | checked _ _ _ _ hf =>
    obtain ⟨words, -, rfl⟩ := Constraint.exists_of_mem_finds hf x hx
    exact nofun

section Names

variable {r : Registry} {name : String} {schema : Schema} (hr : v.registry = some r)
include hr

theorem resolve_name_of_get (h : r.get name = .ok schema) :
    v.resolve (.name name) = .ok schema := by
  rw [resolve, hr]
  dsimp only
  rw [h]
  rfl

variable [Host]

theorem validate_name_of_get (h : r.get name = .ok schema) (record : Value) :
    v.validate record (some (.name name)) = v.validate record (some (.schema schema)) := by
  rw [validate, resolve_name_of_get hr h]
  rfl

theorem validate_name_of_not_registered (h : ∀ schema, r.get name ≠ .ok schema) (record : Value) :
    v.validate record (some (.name name)) = .of (.error (.registry (.unknown name))) := by
  have hs : v.resolve (.name name) = .error (.registry (.unknown name)) := by
    rw [resolve, hr]
    dsimp only
    rw [Registry.get_of_not_registered h]
    rfl
  rw [validate, hs]

end Names

section Sessions

variable [Host]

theorem validate_name_of_no_registry (hr : v.registry = none) (name : String) (record : Value) :
    v.validate record (some (.name name)) = .of (.error (.noRegistry name)) := by
  have hs : v.resolve (.name name) = .error (.noRegistry name) := by rw [resolve, hr]
  rw [validate, hs]

theorem has_notRecord_iff (h : v.Describes record s report) :
    report.violations.has .notRecord = true ↔ ¬IsRecord record s := by
  rw [Violations.has_iff]
  cases h with
  | rejected hn => exact iff_of_true ⟨.notRecord, List.mem_singleton_self _, rfl⟩ hn
  | checked hr _ hb _ =>
    refine iff_of_false ?_ (not_not.mpr hr)
    rintro ⟨x, hx, hc⟩
    obtain ⟨block, hm, hx⟩ := List.mem_flatten.mp hx
    obtain ⟨f, -, tag, -, hb⟩ := Traversal.exists_mem_left hb block hm
    exact code_ne_notRecord_of_block hb x hx hc

theorem sourceOf?_eq_none_iff : v.sourceOf? record s = none ↔ ¬IsRecord record s := by
  refine ⟨fun h hr => ?_, sourceOf?_of_not_isRecord⟩
  cases hr <;> cases h

theorem source?_of_resolves (h : v.Resolves ref s) (record : Value) :
    v.source? record ref = .ok (v.sourceOf? record s) := by
  have given (ref : SchemaRef) (schema : Schema) (hs : v.resolve ref = .ok schema) :
      v.source? record (some ref) = .ok (v.sourceOf? record (some schema)) := by
    cases record with
    | mapping form es =>
      rw [source?, hs]
      rfl
    | _ => rfl
  cases h with
  | absent => rfl
  | given schema => exact given _ _ rfl
  | registered hr h =>
    exact given _ _ (resolve_name_of_get hr (Registry.get_eq_ok_iff.mpr h))

theorem source?_iff_notRecord (h : v.Resolves ref s) (record : Value) :
    ∃ source, v.source? record ref = .ok source ∧
      (source = none ↔ ∃ report, (v.validate record ref).result = .ok report ∧
        report.violations.has .notRecord = true) := by
  refine ⟨_, source?_of_resolves h record, ?_⟩
  rw [sourceOf?_eq_none_iff, validate_of_resolves h]
  constructor
  · intro hn
    rw [validateWith_of_not_isRecord hn]
    exact ⟨_, rfl, rfl⟩
  · rintro ⟨report, hv, hc⟩
    exact (has_notRecord_iff (validateWith_eq_ok_iff.mp hv).2).mp hc

theorem lookup_schema {form : MappingForm} {es : List (Value × Value)} {schema : Schema}
    (h : v.Describes (.mapping form es) (some schema) report) :
    Value.lookup report.context "schema" = some (.text schema.name) := by
  cases h with
  | rejected hn => exact absurd (.mapping form es schema) hn
  | checked _ _ _ _ => rfl

theorem named_schema_eq_given (ops : List Session.Operation) :
    let r := Session.after .empty ops
    (∀ (c : Config) (name : String) (schema : Schema), r.get name = .ok schema →
      (∀ record, validate ⟨c, some r⟩ record (some (.name name)) =
        validate ⟨c, some r⟩ record (some (.schema schema))) ∧
      ∀ (form : MappingForm) (es : List (Value × Value)) (report : Report),
        (validate ⟨c, some r⟩ (.mapping form es) (some (.name name))).result = .ok report →
          Value.lookup report.context "schema" = some (.text name)) ∧
    (∀ (c : Config) (name : String), (∀ schema, r.get name ≠ .ok schema) → ∀ record,
      validate ⟨c, some r⟩ record (some (.name name)) =
        .of (.error (.registry (.unknown name)))) ∧
    (∀ (c : Config) (name : String) (record : Value),
      validate ⟨c, none⟩ record (some (.name name)) = .of (.error (.noRegistry name))) ∧
    (∀ (v : Validator) (ref : Option SchemaRef) (s : Option Schema), v.Resolves ref s →
      ∀ record, ∃ source, v.source? record ref = .ok source ∧
        (source = none ↔ ∃ report, (v.validate record ref).result = .ok report ∧
          report.violations.has .notRecord = true)) ∧
    r = Registry.empty.after (ops.filterMap Session.Operation.onRegistry?) ∧
    ∀ op : Session.Operation, op.onRegistry? = none → (Session.perform r op).2 = r := by
  intro r
  have hr : r = Registry.empty.after (ops.filterMap Session.Operation.onRegistry?) :=
    Session.after_eq .empty ops
  refine ⟨?registered, ?unknown, ?noRegistry, ?source, hr, ?frame⟩
  case registered =>
    intro c name schema h
    have hv := validate_name_of_get (v := ⟨c, some r⟩) rfl h
    refine ⟨hv, fun form es report hok => ?_⟩
    rw [hv, validate_of_resolves (.given schema)] at hok
    rw [lookup_schema (validateWith_eq_ok_iff.mp hok).2]
    rw [hr] at h
    rw [Registry.name_of_get_after h]
  case unknown =>
    intro c name h
    exact validate_name_of_not_registered rfl h
  case noRegistry =>
    intro c
    exact validate_name_of_no_registry rfl
  case source =>
    intro v ref s h
    exact source?_iff_notRecord h
  case frame =>
    intro op h
    exact Session.perform_of_onRegistry?_eq_none h r

end Sessions

def renewal : List Session.Operation :=
  [.registry (.register ⟨"a", [], none⟩ false), .validate .default (.keyed []) (some (.name "a")),
    .registry (.register ⟨"b", [], none⟩ false), .source .default .null (some (.name "b")),
    .registry (.register ⟨"a", [⟨"x", some .integer, some "min:1"⟩], none⟩ true),
    .registry (.unregister "b"), .validateStrict .default (.keyed []) (some (.name "b"))]

def renewedSchema : Schema := ⟨"a", [⟨"x", some .integer, some "min:1"⟩], none⟩

def renewedReport : Report :=
  ⟨⟨[.failed "x" "the number is less than the lower bound"]⟩, [],
    [(.text "record_type", .text "dict"), (.text "schema", .text "a"),
      (.text "checked_fields", .list [.text "x"])]⟩

theorem named_schema_eq_given_renewal :
    let r := Session.after .empty renewal
    let record : Value := .keyed [("x", .int 0)]
    r.get "a" = .ok renewedSchema ∧ (∀ schema, r.get "b" ≠ .ok schema) ∧
      default.Resolves (some (.schema renewedSchema)) (some renewedSchema) ∧
      (validate ⟨.default, some r⟩ record (some (.name "a"))).result = .ok renewedReport ∧
      Value.lookup renewedReport.context "schema" = some (.text "a") ∧
      validate ⟨.default, some r⟩ .null (some (.name "b")) =
        .of (.error (.registry (.unknown "b"))) ∧
      (default.source? .null (some (.schema renewedSchema)) = .ok none) ∧
      (Session.perform r (.source .default record (some (.name "a")))).2 = r := by
  intro r record
  obtain ⟨ha, hb, -, hs, -, hq⟩ := named_schema_eq_given renewal
  have hget : r.get "a" = .ok renewedSchema := rfl
  have hmiss : ∀ schema, r.get "b" ≠ .ok schema := nofun
  have hgiven : default.Resolves (some (.schema renewedSchema)) (some renewedSchema) :=
    .given renewedSchema
  obtain ⟨hn, hc⟩ := ha .default "a" renewedSchema hget
  have hv : (validate ⟨.default, some r⟩ record (some (.name "a"))).result =
      .ok renewedReport := by
    rw [hn]
    rfl
  obtain ⟨source, he, hsource⟩ := hs default _ _ hgiven .null
  have hnone : source = none := hsource.mpr ⟨_, rfl, rfl⟩
  exact ⟨hget, hmiss, hgiven, hv, hc .plain _ _ hv, hb .default "b" hmiss .null, hnone ▸ he,
    hq _ rfl⟩

end Validator

end FieldGuard
