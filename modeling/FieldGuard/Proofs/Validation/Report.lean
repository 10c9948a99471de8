import FieldGuard.Proofs.Record.Hints
import FieldGuard.Proofs.Validation.Walk

namespace FieldGuard

namespace SchemaField

variable {g : SchemaField} {es : Entries Value Value} {f : Field}

structure Shows (g : SchemaField) (es : Entries Value Value) (f : Field) : Prop where
  name_eq : f.name = g.name
  kind_eq : ∃ k, g.kind = some k ∧ f.kind = some k
  tag_eq : f.tag = g.tag.map .text
  value_eq : f.value = Value.lookup es g.name

theorem of_eq_ok_iff : g.of es = .ok f ↔ g.Shows es f := by
  unfold SchemaField.of
  cases hk : g.kind with
  | none =>
    constructor
    · intro h
      cases h
    · rintro ⟨-, ⟨k, hg, -⟩, -, -⟩
      rw [hk] at hg
      cases hg
  | some k =>
    constructor
    · intro h
      cases h
      exact ⟨rfl, ⟨k, hk, rfl⟩, rfl, rfl⟩
    · rintro ⟨hn, ⟨k', hg, hf⟩, ht, hv⟩
      rw [hk, ← hf] at hg
      dsimp only
      rw [hg, ← hv, ← ht, ← hn]

theorem of_eq_error_iff {fault : FieldFault} :
    g.of es = .error fault ↔ g.kind = none ∧ fault = .noKind := by
  unfold SchemaField.of
  cases g.kind with
  | none => simp [eq_comm]
  | some k => simp

end SchemaField

theorem Schema.fieldsOf_eq_map_ok_iff {schema : Schema} {es : Entries Value Value}
    {fs : List Field} :
    schema.fieldsOf es = fs.map .ok ↔
      List.Forall₂ (fun g f => SchemaField.Shows g es f) schema.fields fs := by
  rw [fieldsOf, Traversal.map_eq_map_ok_iff]
  simp only [SchemaField.of_eq_ok_iff]

namespace Validator

variable {v : Validator} {record : Value} {s : Option Schema} {fs : List Field}
  {names warnings : List String} {found : List Violation} {e : Failure} {report : Report}

inductive Resolves (v : Validator) : Option SchemaRef → Option Schema → Prop
  | absent : Resolves v none none
  | given (schema : Schema) : Resolves v (some (.schema schema)) (some schema)
  | registered {r : Registry} {name : String} {schema : Schema} (hr : v.registry = some r)
      (h : r.get? name = some schema) : Resolves v (some (.name name)) (some schema)

inductive IsRecord : Value → Option Schema → Prop
  | record (t : RecordType Value) (held : List (String × Value)) (shown : Shown) :
      IsRecord (.record t held shown) none
  | mapping (form : MappingForm) (es : List (Value × Value)) (schema : Schema) :
      IsRecord (.mapping form es) (some schema)

def contextStart (record : Value) (s : Option Schema) : Entries Value Value :=
  (.text "record_type", .text record.typeName) ::
    (s.map fun schema => (Value.text "schema", Value.text schema.name)).toList

theorem lookup_checkedFields (record : Value) (s : Option Schema) (names : List Value) :
    Value.lookup (contextStart record s ++ [(.text "checked_fields", .list names)])
      "checked_fields" = some (.list names) := by
  cases s <;> rfl

theorem report_eq_checked (fs : List Field) (blocks : List (List Violation)) :
    Validator.report record s ((tagged fs).map Field.name) blocks.flatten warnings =
      ⟨⟨blocks.flatten⟩, warnings, contextStart record s ++
        [(.text "checked_fields", .list ((tagged fs).map fun f => .text f.name))]⟩ := by
  rw [Validator.report, List.map_map]
  rfl

theorem resolves_of_resolve {ref : SchemaRef} {schema : Schema} (h : v.resolve ref = .ok schema) :
    v.Resolves (some ref) (some schema) := by
  cases ref with
  | schema given =>
    cases h
    exact .given schema
  | name name =>
    rw [resolve] at h
    cases hr : v.registry with
    | none =>
      rw [hr] at h
      cases h
    | some r =>
      rw [hr] at h
      have hg : r.get name = .ok schema := Traversal.mapError_eq_ok_iff.mp h
      rw [Registry.get] at hg
      cases hs : r.get? name with
      | none =>
        rw [hs] at hg
        cases hg
      | some found =>
        rw [hs] at hg
        cases hg
        exact .registered hr hs

variable [Host]

inductive HasField (v : Validator) : Value → Option Schema → Field → Prop
  | record {t : RecordType Value} {held : List (String × Value)} {shown : Shown}
      {d : FieldDecl Value} {f : Field}
      (hd : d ∈ t.fields) (h : t.Shows held v.config.tagKey d f) :
      HasField v (.record t held shown) none f
  | mapping {form : MappingForm} {es : List (Value × Value)} {schema : Schema} {g : SchemaField}
      {f : Field} (hg : g ∈ schema.fields) (h : g.Shows es f) :
      HasField v (.mapping form es) (some schema) f

inductive Presents (v : Validator) : Value → Option Schema → List Field → Prop
  | record {t : RecordType Value} {held : List (String × Value)} {shown : Shown} {fs : List Field}
      (h : List.Forall₂ (t.Shows held v.config.tagKey) t.fields fs) :
      Presents v (.record t held shown) none fs
  | mapping {form : MappingForm} {es : List (Value × Value)} {schema : Schema} {fs : List Field}
      (h : List.Forall₂ (fun g f => SchemaField.Shows g es f) schema.fields fs) :
      Presents v (.mapping form es) (some schema) fs

inductive Defect (v : Validator) : Value → Option Schema → Failure → Prop
  | hint {t : RecordType Value} {held : List (String × Value)} {shown : Shown}
      {fault : TypeHint.Fault}
      (h : t.HintDefect fault) : Defect v (.record t held shown) none (.field (.hint fault))
  | noKind {form : MappingForm} {es : List (Value × Value)} {schema : Schema} {g : SchemaField}
      (hg : g ∈ schema.fields) (hk : g.kind = none) :
      Defect v (.mapping form es) (some schema) (.field .noKind)
  | tag {record : Value} {s : Option Schema} {f : Field} {tag : Value} {e : Failure}
      (hf : v.HasField record s f) (ht : f.tag = some tag) (h : TagDefect f tag e) :
      Defect v record s e
  | key {form : MappingForm} {es : List (Value × Value)} {schema : Schema} {key : Value}
      {e : TextError} (hk : key ∈ schema.undeclared es)
      (h : key.Undisplayed (DepthLimit.limit .keyText) e) :
      Defect v (.mapping form es) (some schema) (.text e)

inductive Warns : Value → Option Schema → List String → Prop
  | record (record : Value) : Warns record none []
  | declared {form : MappingForm} {es : List (Value × Value)} {schema : Schema}
      (h : schema.undeclared es = []) : Warns (.mapping form es) (some schema) []
  | undeclared {form : MappingForm} {es : List (Value × Value)} {schema : Schema}
      {texts : List String} (h : schema.undeclared es ≠ [])
      (ht : List.Forall₂ (fun key text => key.display (DepthLimit.limit .keyText) = .ok text)
        (schema.undeclared es) texts) :
      Warns (.mapping form es) (some schema)
        ["undeclared keys ignored: " ++ ", ".intercalate texts]

inductive Describes (v : Validator) (record : Value) (s : Option Schema) : Report → Prop
  | rejected (h : ¬IsRecord record s) :
      Describes v record s ⟨⟨[.notRecord]⟩, [], [(.text "record_type", .text record.typeName)]⟩
  | checked {fs : List Field} {blocks : List (List Violation)} {warnings : List String}
      (hr : IsRecord record s) (hp : v.Presents record s fs) (hb : Blocks fs blocks)
      (hw : Warns record s warnings) :
      Describes v record s ⟨⟨blocks.flatten⟩, warnings, contextStart record s ++
        [(.text "checked_fields", .list ((tagged fs).map fun f => .text f.name))]⟩

section Record

variable {t : RecordType Value} {held : List (String × Value)} {shown : Shown}

theorem hasField_of_mem_fieldsOf {f : Field} (h : .ok f ∈ t.fieldsOf held v.config.tagKey) :
    v.HasField (.record t held shown) none f := by
  cases hk : t.kindReader with
  | error fault =>
    rw [RecordType.fieldsOf_of_error hk, List.mem_singleton] at h
    cases h
  | ok kind =>
    rw [RecordType.fieldsOf_of_kindReader hk] at h
    obtain ⟨d, hd, hf⟩ := List.mem_map.mp h
    exact .record hd ((RecordType.fieldOf_eq_ok_iff hk).mp hf)

theorem hintDefect_of_mem_fieldsOf {fault : FieldFault} {tagKey : String}
    (h : .error fault ∈ t.fieldsOf held tagKey) :
    ∃ hidden, t.HintDefect hidden ∧ fault = .hint hidden := by
  cases hk : t.kindReader with
  | error hidden =>
    rw [RecordType.fieldsOf_of_error hk, List.mem_singleton] at h
    cases h
    obtain ⟨hr, hn⟩ := RecordType.kindReader_eq_error_iff.mp hk
    exact ⟨hidden, .unresolvable hr hn, rfl⟩
  | ok kind =>
    rw [RecordType.fieldsOf_of_kindReader hk] at h
    obtain ⟨d, hd, hf⟩ := List.mem_map.mp h
    obtain ⟨hint, name, hr, hu, rfl⟩ := (RecordType.fieldOf_eq_error_iff hk).mp hf
    exact ⟨_, .unhashable hd hr hu, rfl⟩

theorem defect_of_blocked_record (h : Blocked (t.fieldsOf held v.config.tagKey) e) :
    v.Defect (.record t held shown) none e := by
  cases h with
  | hidden hm =>
    obtain ⟨fault, hf, rfl⟩ := hintDefect_of_mem_fieldsOf hm
    exact .hint hf
  | tag hf ht hd => exact .tag (hasField_of_mem_fieldsOf hf) ht hd

theorem blocked_of_defect_record (h : v.Defect (.record t held shown) none e) :
    ∃ e, Blocked (t.fieldsOf held v.config.tagKey) e := by
  cases hk : t.kindReader with
  | error fault =>
    have hm : Except.error (.hint fault) ∈ t.fieldsOf held v.config.tagKey := by
      rw [RecordType.fieldsOf_of_error hk]
      exact List.mem_singleton_self _
    exact ⟨_, .hidden hm⟩
  | ok kind =>
    rw [RecordType.fieldsOf_of_kindReader hk]
    cases h with
    | hint h =>
      cases h with
      | unresolvable hr hn =>
        rw [RecordType.kindReader_eq_error_iff.mpr ⟨hr, hn⟩] at hk
        cases hk
      | @unhashable d hint name hd hr hu =>
        have hf : t.fieldOf held v.config.tagKey kind d = .error (.hint (.unhashable name)) :=
          (RecordType.fieldOf_eq_error_iff hk).mpr ⟨hint, name, hr, hu, rfl⟩
        exact ⟨_, .hidden (List.mem_map.mpr ⟨d, hd, hf⟩)⟩
    | tag hf ht hd =>
      cases hf with
      | @record _ _ _ d f hm hs =>
        have hf := (RecordType.fieldOf_eq_ok_iff hk).mpr hs
        exact ⟨_, .tag (List.mem_map.mpr ⟨d, hm, hf⟩) ht hd⟩

theorem fieldsOf_eq_map_ok_iff (h : ∀ e, ¬v.Defect (.record t held shown) none e) :
    t.fieldsOf held v.config.tagKey = fs.map .ok ↔ v.Presents (.record t held shown) none fs := by
  rw [RecordType.fieldsOf_eq_map_ok_iff fun fault hf => h _ (.hint hf)]
  constructor
  · exact .record
  · rintro ⟨h⟩
    exact h

end Record

section Mapping

variable {form : MappingForm} {es : List (Value × Value)} {schema : Schema}

theorem defect_of_blocked_mapping (h : Blocked (schema.fieldsOf es) e) :
    v.Defect (.mapping form es) (some schema) e := by
  cases h with
  | hidden hm =>
    obtain ⟨g, hg, hf⟩ := List.mem_map.mp hm
    obtain ⟨hk, rfl⟩ := SchemaField.of_eq_error_iff.mp hf
    exact .noKind hg hk
  | tag hm ht hd =>
    obtain ⟨g, hg, hf⟩ := List.mem_map.mp hm
    exact .tag (.mapping hg (SchemaField.of_eq_ok_iff.mp hf)) ht hd

theorem fieldsOfSchema_eq_map_ok_iff :
    schema.fieldsOf es = fs.map .ok ↔ v.Presents (.mapping form es) (some schema) fs := by
  rw [Schema.fieldsOf_eq_map_ok_iff]
  constructor
  · exact .mapping
  · rintro (_ | h)
    exact h

theorem blocked_of_defect_mapping (h : v.Defect (.mapping form es) (some schema) e) :
    (∃ e, Blocked (schema.fieldsOf es) e) ∨
      ∃ key ∈ schema.undeclared es, ∃ e, key.Undisplayed (DepthLimit.limit .keyText) e := by
  cases h with
  | noKind hg hk =>
    exact .inl ⟨_, .hidden (List.mem_map.mpr ⟨_, hg, SchemaField.of_eq_error_iff.mpr ⟨hk, rfl⟩⟩)⟩
  | tag hf ht hd =>
    cases hf with
    | mapping hg hs =>
      exact .inl ⟨_, .tag (List.mem_map.mpr ⟨_, hg, SchemaField.of_eq_ok_iff.mpr hs⟩) ht hd⟩
  | key hk h => exact .inr ⟨_, hk, _, h⟩

theorem undeclaredWarnings_eq (schema : Schema) (form : MappingForm) (es : List (Value × Value)) :
    undeclaredWarnings schema (.mapping form es) =
      if schema.undeclared es = [] then .ok [] else
        ((schema.undeclared es).mapM (Value.display (DepthLimit.limit .keyText))).map fun texts =>
          ["undeclared keys ignored: " ++ ", ".intercalate texts] := by
  change (if (schema.undeclared es).isEmpty = true then (pure [] : Except TextError _) else do
    return ["undeclared keys ignored: " ++
      ", ".intercalate
        (← (schema.undeclared es).mapM (Value.display (DepthLimit.limit .keyText)))]) = _
  by_cases h : schema.undeclared es = []
  · rw [if_pos h, if_pos (List.isEmpty_iff.mpr h)]
    rfl
  · rw [if_neg h, if_neg (mt List.isEmpty_iff.mp h)]
    cases (schema.undeclared es).mapM (Value.display (DepthLimit.limit .keyText)) <;> rfl

theorem undeclaredWarnings_eq_ok_iff :
    undeclaredWarnings schema (.mapping form es) = .ok warnings ↔
      Warns (.mapping form es) (some schema) warnings := by
  rw [undeclaredWarnings_eq]
  by_cases h : schema.undeclared es = []
  · rw [if_pos h, Except.ok.injEq]
    constructor
    · rintro rfl
      exact .declared h
    · intro hw
      cases hw with
      | declared _ => rfl
      | undeclared hn _ => exact absurd h hn
  · rw [if_neg h, Traversal.map_eq_ok_iff]
    constructor
    · rintro ⟨texts, ht, rfl⟩
      exact .undeclared h (Traversal.mapM_eq_ok_iff.mp ht)
    · intro hw
      cases hw with
      | declared hd => exact absurd hd h
      | undeclared _ ht => exact ⟨_, Traversal.mapM_eq_ok_iff.mpr ht, rfl⟩

theorem undisplayed_of_undeclaredWarnings {fault : TextError}
    (h : undeclaredWarnings schema (.mapping form es) = .error fault) :
    ∃ key ∈ schema.undeclared es, key.Undisplayed (DepthLimit.limit .keyText) fault := by
  rw [undeclaredWarnings_eq] at h
  split_ifs at h with he
  obtain ⟨key, hk, hd⟩ := Traversal.exists_of_mapM_eq_error (Traversal.map_eq_error_iff.mp h)
  exact ⟨key, hk, Value.undisplayed_of_display hd⟩

theorem not_undisplayed_of_warns (hw : Warns (.mapping form es) (some schema) warnings)
    {key : Value} (hk : key ∈ schema.undeclared es) (fault : TextError) :
    ¬key.Undisplayed (DepthLimit.limit .keyText) fault := by
  intro h
  cases hw with
  | declared hd =>
    rw [hd] at hk
    cases hk
  | undeclared _ ht =>
    obtain ⟨e, he⟩ := Value.display_of_undisplayed h
    obtain ⟨text, -, hd⟩ := Traversal.forall_of_mapM_eq_ok (Traversal.mapM_eq_ok_iff.mpr ht) key hk
    rw [he] at hd
    cases hd

end Mapping

theorem sourceOf?_of_not_isRecord (h : ¬IsRecord record s) : v.sourceOf? record s = none := by
  cases s with
  | none =>
    cases record with
    | record t held shown => exact absurd (.record t held shown) h
    | _ => rfl
  | some schema =>
    cases record with
    | mapping form es => exact absurd (.mapping form es schema) h
    | _ => rfl

theorem validateWith_of_not_isRecord (h : ¬IsRecord record s) :
    v.validateWith record s =
      ⟨.rejected record.typeName :: v.violationEvents [.notRecord], .ok (rejection record)⟩ := by
  unfold validateWith
  rw [sourceOf?_of_not_isRecord h]

def warningsOf (record : Value) : Option Schema → Except Failure (List String)
  | none => .ok []
  | some schema => (undeclaredWarnings schema record).mapError .text

theorem validateWith_of_source {source : Source} (hs : v.sourceOf? record s = some source) :
    v.validateWith record s = checkFields source.fields >>= fun r =>
      Traced.of (warningsOf record s) >>= fun warnings =>
        ⟨.checked record.typeName r.1.length r.2.length :: v.violationEvents r.2,
          .ok (Validator.report record s r.1 r.2 warnings)⟩ := by
  unfold validateWith
  rw [hs]
  cases s <;> rfl

theorem validateWith_of_ok {source : Source} (hs : v.sourceOf? record s = some source)
    (h : (v.validateWith record s).result = .ok report) :
    ∃ names found warnings, (checkFields source.fields).result = .ok (names, found) ∧
      warningsOf record s = .ok warnings ∧
      v.validateWith record s =
        ⟨(checkFields source.fields).events ++
            .checked record.typeName names.length found.length :: v.violationEvents found,
          .ok (Validator.report record s names found warnings)⟩ := by
  rw [validateWith_of_source hs, Traced.result_bind, Traversal.bind_eq_ok_iff] at h
  obtain ⟨⟨names, found⟩, hc, h⟩ := h
  rw [Traced.result_bind, Traversal.bind_eq_ok_iff] at h
  obtain ⟨warnings, hw, -⟩ := h
  have hw : (Traced.of (warningsOf record s)).result = .ok warnings := hw
  refine ⟨names, found, warnings, hc, hw, ?_⟩
  rw [validateWith_of_source hs, Traced.bind_ok _ hc, Traced.bind_ok _ hw]
  rfl

theorem validateWith_record (t : RecordType Value) (held : List (String × Value)) :
    (v.validateWith (.record t held shown) none).result =
      (checkFields (t.fieldsOf held v.config.tagKey)).result.map fun r =>
        Validator.report (.record t held shown) none r.1 r.2 [] := by
  have hs : v.sourceOf? (.record t held shown) none =
      some (.record (t.fieldsOf held v.config.tagKey)) :=
    rfl
  rw [validateWith_of_source hs, Traced.result_bind]
  dsimp only [Source.fields]
  cases (checkFields (t.fieldsOf held v.config.tagKey)).result <;> rfl

theorem validateWith_mapping (form : MappingForm) (es : List (Value × Value)) (schema : Schema) :
    (v.validateWith (.mapping form es) (some schema)).result =
      (checkFields (schema.fieldsOf es)).result >>= fun r =>
        ((undeclaredWarnings schema (.mapping form es)).mapError .text).map fun warnings =>
          Validator.report (.mapping form es) (some schema) r.1 r.2 warnings := by
  have hs : v.sourceOf? (.mapping form es) (some schema) =
      some (.mapping (schema.fieldsOf es)) := rfl
  rw [validateWith_of_source hs, Traced.result_bind]
  congr 1
  funext r
  rw [Traced.result_bind]
  dsimp only [Traced.of, warningsOf]
  cases undeclaredWarnings schema (.mapping form es) <;> rfl

theorem Defect.isRecord (h : v.Defect record s e) : IsRecord record s := by
  cases h with
  | hint _ => exact .record _ _ _
  | noKind _ _ | key _ _ => exact .mapping _ _ _
  | tag hf _ _ =>
    cases hf with
    | record _ _ => exact .record _ _ _
    | mapping _ _ => exact .mapping _ _ _

theorem describes_iff_of_not_isRecord (h : ¬IsRecord record s) :
    v.Describes record s report ↔ rejection record = report := by
  constructor
  · intro hd
    cases hd with
    | rejected _ => rfl
    | checked hr _ _ _ => exact absurd hr h
  · rintro rfl
    exact .rejected h

theorem validateWith_record_eq_ok_iff {t : RecordType Value} {held : List (String × Value)}
    {shown : Shown} :
    (v.validateWith (.record t held shown) none).result = .ok report ↔
      (∀ e, ¬v.Defect (.record t held shown) none e) ∧
        v.Describes (.record t held shown) none report := by
  rw [validateWith_record, Traversal.map_eq_ok_iff]
  constructor
  · rintro ⟨⟨names, found⟩, hc, rfl⟩
    obtain ⟨hs, fs, blocks, hf, hb, rfl, rfl⟩ := checkFields_eq_ok_iff.mp hc
    have hd : ∀ e, ¬v.Defect (.record t held shown) none e := by
      intro e he
      obtain ⟨e', hb'⟩ := blocked_of_defect_record he
      exact hs e' hb'
    refine ⟨hd, ?_⟩
    rw [report_eq_checked]
    exact .checked (.record t held shown) ((fieldsOf_eq_map_ok_iff hd).mp hf) hb (.record _)
  · rintro ⟨hd, hr⟩
    cases hr with
    | rejected hn => exact absurd (.record t held shown) hn
    | checked hr hp hb hw =>
      cases hw
      refine ⟨_, checkFields_eq_ok_iff.mpr ⟨fun e he => hd e (defect_of_blocked_record he), _, _,
        (fieldsOf_eq_map_ok_iff hd).mpr hp, hb, rfl, rfl⟩, ?_⟩
      exact report_eq_checked _ _

theorem validateWith_mapping_eq_ok_iff {form : MappingForm} {es : List (Value × Value)}
    {schema : Schema} :
    (v.validateWith (.mapping form es) (some schema)).result = .ok report ↔
      (∀ e, ¬v.Defect (.mapping form es) (some schema) e) ∧
        v.Describes (.mapping form es) (some schema) report := by
  rw [validateWith_mapping, Traversal.bind_eq_ok_iff]
  simp only [Traversal.map_eq_ok_iff, Traversal.mapError_eq_ok_iff, undeclaredWarnings_eq_ok_iff]
  constructor
  · rintro ⟨⟨names, found⟩, hc, warnings, hw, rfl⟩
    obtain ⟨hs, fs, blocks, hf, hb, rfl, rfl⟩ := checkFields_eq_ok_iff.mp hc
    refine ⟨fun e he => ?_, ?_⟩
    · rcases blocked_of_defect_mapping he with ⟨e', hb'⟩ | ⟨key, hk, fault, hu⟩
      · exact hs e' hb'
      · exact not_undisplayed_of_warns hw hk fault hu
    · rw [report_eq_checked]
      exact .checked (.mapping form es schema) (fieldsOfSchema_eq_map_ok_iff.mp hf) hb hw
  · rintro ⟨hd, hr⟩
    cases hr with
    | rejected hn => exact absurd (.mapping form es schema) hn
    | checked hr hp hb hw =>
      refine ⟨_, checkFields_eq_ok_iff.mpr ⟨fun e he => hd e (defect_of_blocked_mapping he), _, _,
        fieldsOfSchema_eq_map_ok_iff.mpr hp, hb, rfl, rfl⟩, _, hw, ?_⟩
      exact report_eq_checked _ _

theorem validateWith_eq_ok_iff :
    (v.validateWith record s).result = .ok report ↔
      (∀ e, ¬v.Defect record s e) ∧ v.Describes record s report := by
  by_cases hr : IsRecord record s
  · cases hr with
    | record t held shown => exact validateWith_record_eq_ok_iff
    | mapping form es schema => exact validateWith_mapping_eq_ok_iff
  · have hd : ∀ e, ¬v.Defect record s e := fun e he => hr he.isRecord
    rw [validateWith_of_not_isRecord hr, Except.ok.injEq, and_iff_right hd,
      describes_iff_of_not_isRecord hr]

theorem defect_of_validateWith (h : (v.validateWith record s).result = .error e) :
    v.Defect record s e := by
  by_cases hr : IsRecord record s
  · cases hr with
    | record t held shown =>
      rw [validateWith_record, Traversal.map_eq_error_iff] at h
      exact defect_of_blocked_record (blocked_of_checkFields h)
    | mapping form es schema =>
      rw [validateWith_mapping, Traversal.bind_eq_error_iff] at h
      rcases h with h | ⟨r, -, h⟩
      · exact defect_of_blocked_mapping (blocked_of_checkFields h)
      · rw [Traversal.map_eq_error_iff, Traversal.mapError_eq_error_iff] at h
        obtain ⟨fault, hf, rfl⟩ := h
        obtain ⟨key, hk, hu⟩ := undisplayed_of_undeclaredWarnings hf
        exact .key hk hu
  · rw [validateWith_of_not_isRecord hr] at h
    cases h

theorem validate_of_resolves {ref : Option SchemaRef} (h : v.Resolves ref s) (record : Value) :
    v.validate record ref = v.validateWith record s := by
  cases h with
  | absent => rfl
  | given schema => rfl
  | @registered r name schema hr hg =>
    have hs : v.resolve (.name name) = .ok schema := by
      rw [resolve, hr]
      dsimp only
      rw [Registry.get, hg]
      rfl
    rw [validate, hs]

theorem exists_resolves {ref : Option SchemaRef} (h : (v.validate record ref).result = .ok report) :
    ∃ s, v.Resolves ref s := by
  cases ref with
  | none => exact ⟨none, .absent⟩
  | some ref =>
    rw [validate] at h
    cases hs : v.resolve ref with
    | error e =>
      rw [hs] at h
      cases h
    | ok schema => exact ⟨some schema, resolves_of_resolve hs⟩

end Validator

end FieldGuard
