import FieldGuard.Proofs.Validation.Report
import FieldGuard.Record.Chain

/-!
What a validation depends on. A record type is looked at for its name and for its tagged fields, and
of those that are private only the name counts. A mapping is looked at under the names of tagged
fields that are not private, and beyond that for its type and for the keys that are not declared.
-/

namespace FieldGuard

open Validator (IsPrivate)

namespace Field

variable {f g : Field}

inductive Alike : Field → Field → Prop
  | untagged {f g : Field} (hf : f.tag = none) (hg : g.tag = none) : Alike f g
  | hidden {f g : Field} {tag tag' : Value} (hp : IsPrivate f) (hn : g.name = f.name)
      (hf : f.tag = some tag) (hg : g.tag = some tag') : Alike f g
  | same (f : Field) : Alike f f

theorem alike_of (hn : g.name = f.name) (ht : f.tag = none ↔ g.tag = none)
    (h : f.tag ≠ none → ¬IsPrivate f → g.kind = f.kind ∧ g.tag = f.tag ∧ g.value = f.value) :
    f.Alike g := by
  cases hf : f.tag with
  | none => exact .untagged hf (ht.mp hf)
  | some tag =>
    by_cases hp : IsPrivate f
    · cases hg : g.tag with
      | none => exact .untagged (ht.mpr hg) hg
      | some tag' => exact .hidden hp hn hf hg
    · obtain ⟨hk, ht, hv⟩ := h (by simp [hf]) hp
      obtain rfl : g = f := by
        obtain ⟨n, k, t, w⟩ := g
        cases hn
        cases hk
        cases ht
        cases hv
        rfl
      exact .same g

end Field

namespace Validator

theorem checkFields_congr [Host] {fs gs : List Field} (h : List.Forall₂ Field.Alike fs gs) :
    checkFields (gs.map .ok) = checkFields (fs.map .ok) := by
  induction h with
  | nil => rfl
  | @cons f g fs gs hfg _ ih =>
    rw [List.map_cons, List.map_cons]
    cases hfg with
    | untagged hf hg => rw [checkFields_skip hf, checkFields_skip hg, ih]
    | hidden hp hn hf hg =>
      -- A private field is looked at for its name only, so neither tag is read.
      have hq : IsPrivate g := by
        rw [IsPrivate, hn]
        exact hp
      rw [checkFields_step hf, checkFields_step hg, checkField_eq_of_isPrivate hp,
        checkField_eq_of_isPrivate hq, hn, ih]
    | same =>
      cases ht : f.tag with
      | none => rw [checkFields_skip ht, checkFields_skip ht, ih]
      | some tag => rw [checkFields_step ht, checkFields_step ht, ih]

end Validator

namespace RecordType

variable {t t' : RecordType Value} {held held' : Entries String Value} {key : String}
  {d d' : FieldDecl Value} {f f' : Field}

def tagUnder (key : String) (d : FieldDecl Value) : Option Value :=
  (d.metadata.lookup key).bind Field.tagOf

variable [DepthLimit] [TypeHint.Evaluator]

theorem Reads.unique {hint hint' : TypeHint} (h : t.Reads d hint) (h' : t.Reads d hint') :
    hint' = hint := by
  cases h with
  | resolved hr hm =>
    cases h' with
    | resolved hr' hm' =>
      obtain rfl := Except.ok.inj (hr.symm.trans hr')
      rw [Option.some.inj (hm.symm.trans hm')]
    | unlisted hr' hm' =>
      obtain rfl := Except.ok.inj (hr.symm.trans hr')
      cases hm.symm.trans hm'
    | unresolved hr' => cases hr.symm.trans hr'
  | unlisted hr hm =>
    cases h' with
    | resolved hr' hm' =>
      obtain rfl := Except.ok.inj (hr.symm.trans hr')
      cases hm.symm.trans hm'
    | unlisted _ _ | unresolved _ => rfl
  | unresolved hr =>
    cases h' with
    | resolved hr' _ => cases hr.symm.trans hr'
    | unlisted _ _ | unresolved _ => rfl

def HasKind (t : RecordType Value) (d : FieldDecl Value) (k : Kind) : Prop :=
  ∃ hint, t.Reads d hint ∧ hint.Supports k

theorem Reads.hasKind_iff {hint : TypeHint} (h : t.Reads d hint) (k : Kind) :
    t.HasKind d k ↔ hint.Supports k := by
  constructor
  · rintro ⟨hint', hr, hs⟩
    rwa [← h.unique hr]
  · exact fun hs => ⟨hint, h, hs⟩

theorem Shows.kind_eq_some_iff (h : t.Shows held key d f) (k : Kind) :
    f.kind = some k ↔ t.HasKind d k := by
  obtain ⟨hint, hr, -, hk⟩ := h.kind_iff
  rw [hk, hr.hasKind_iff]

/-- Declarations of two record types that a validation under the key cannot tell apart. -/
structure AlikeAt (key : String) (t : RecordType Value) (held : Entries String Value)
    (t' : RecordType Value) (held' : Entries String Value) (d d' : FieldDecl Value) : Prop where
  name_eq : d'.name = d.name
  tagged_iff : tagUnder key d = none ↔ tagUnder key d' = none
  tag_eq : tagUnder key d ≠ none → d.name.toList.head? ≠ some '_' →
    tagUnder key d' = tagUnder key d
  kind_iff : tagUnder key d ≠ none → d.name.toList.head? ≠ some '_' →
    ∀ k, t'.HasKind d' k ↔ t.HasKind d k
  value_eq : tagUnder key d ≠ none → d.name.toList.head? ≠ some '_' →
    t'.valueOf? held' d'.name = t.valueOf? held d.name

theorem AlikeAt.alike (h : AlikeAt key t held t' held' d d') (hs : t.Shows held key d f)
    (hs' : t'.Shows held' key d' f') : f.Alike f' := by
  have ht : f.tag = tagUnder key d := hs.tag_eq
  have ht' : f'.tag = tagUnder key d' := hs'.tag_eq
  apply Field.alike_of
  · rw [hs'.name_eq, hs.name_eq, h.name_eq]
  · rw [ht, ht', h.tagged_iff]
  · intro hn hp
    rw [ht] at hn
    rw [IsPrivate, hs.name_eq] at hp
    refine ⟨?_, ?_, ?_⟩
    · ext k
      rw [hs'.kind_eq_some_iff, hs.kind_eq_some_iff, h.kind_iff hn hp]
    · rw [ht, ht', h.tag_eq hn hp]
    · rw [hs'.value_eq, hs.value_eq, h.value_eq hn hp]

theorem forall₂_alike {fs fs' : List Field}
    (h : List.Forall₂ (AlikeAt key t held t' held') t.fields t'.fields)
    (hs : List.Forall₂ (t.Shows held key) t.fields fs)
    (hs' : List.Forall₂ (t'.Shows held' key) t'.fields fs') : List.Forall₂ Field.Alike fs fs' := by
  have hd : List.Forall₂ (fun f d' => ∃ d, t.Shows held key d f ∧ AlikeAt key t held t' held' d d')
      fs t'.fields :=
    Traversal.forall₂_trans (fun _ d _ hf ha => ⟨d, hf, ha⟩) hs.flip h
  refine Traversal.forall₂_trans (fun f d' f' hf hf' => ?_) hd hs'
  obtain ⟨d, hf, ha⟩ := hf
  exact ha.alike hf hf'

end RecordType

namespace Validator

open RecordType (AlikeAt)

theorem report_congr {record record' : Value} (h : record'.typeName = record.typeName)
    (s : Option Schema) (names : List String) (found : List Violation) (warnings : List String) :
    Validator.report record' s names found warnings =
      Validator.report record s names found warnings := by
  rw [Validator.report, Validator.report, h]

section Records

variable [Host] {v : Validator} {t t' : RecordType Value} {held held' : List (String × Value)}
  {shown shown' : Shown} {r : Report}

theorem not_hintDefect_of_ok (h : (v.validate (.record t held shown) none).result = .ok r) :
    ∀ fault, ¬t.HintDefect fault :=
  fun _ hf => (validateWith_record_eq_ok_iff.mp h).1 _ (.hint hf)

theorem fieldsOf_congr
    (ha : List.Forall₂ (AlikeAt v.config.tagKey t held t' held') t.fields t'.fields)
    (h : ∀ fault, ¬t.HintDefect fault) (h' : ∀ fault, ¬t'.HintDefect fault) :
    checkFields (t'.fieldsOf held' v.config.tagKey) =
      checkFields (t.fieldsOf held v.config.tagKey) := by
  obtain ⟨fs, hs⟩ := RecordType.exists_shows h held v.config.tagKey
  obtain ⟨fs', hs'⟩ := RecordType.exists_shows h' held' v.config.tagKey
  rw [(RecordType.fieldsOf_eq_map_ok_iff h).mpr hs, (RecordType.fieldsOf_eq_map_ok_iff h').mpr hs']
  exact checkFields_congr (RecordType.forall₂_alike ha hs hs')

theorem validate_congr (shown shown' : Shown) (hn : t'.name = t.name)
    (ha : List.Forall₂ (AlikeAt v.config.tagKey t held t' held') t.fields t'.fields)
    (h : ∀ fault, ¬t.HintDefect fault) (h' : ∀ fault, ¬t'.HintDefect fault) :
    v.validate (.record t' held' shown') none = v.validate (.record t held shown) none := by
  have hs (t : RecordType Value) (held : List (String × Value)) (shown : Shown) :
      v.sourceOf? (.record t held shown) none =
        some (.record (t.fieldsOf held v.config.tagKey)) := rfl
  have ht : (Value.record t' held' shown').typeName = (Value.record t held shown).typeName := hn
  rw [validate_of_resolves .absent, validate_of_resolves .absent,
    validateWith_of_source (hs t held shown), validateWith_of_source (hs t' held' shown')]
  dsimp only [Source.fields, warningsOf]
  simp only [fieldsOf_congr ha h h', report_congr ht, ht]

/-- Records whose types are alike are reported alike, with the same events. A hint that cannot be
read, on whichever field, is what can still keep the other one from a report. -/
theorem validate_of_alike (hn : t'.name = t.name)
    (ha : List.Forall₂ (AlikeAt v.config.tagKey t held t' held') t.fields t'.fields)
    (h : (v.validate (.record t held shown) none).result = .ok r) :
    ((∃ r', (v.validate (.record t' held' shown') none).result = .ok r') ↔
      ∀ fault, ¬t'.HintDefect fault) ∧
    (∀ r', (v.validate (.record t' held' shown') none).result = .ok r' →
      r' = r ∧
        (v.validate (.record t' held' shown') none).events =
          (v.validate (.record t held shown) none).events) ∧
    ∀ (f : Field) (tag : Value), IsPrivate f →
      checkField f tag = ⟨[.unexported f.name], .ok [.unexported f.name]⟩ := by
  have hd := not_hintDefect_of_ok h
  refine ⟨⟨fun ⟨r', h'⟩ => not_hintDefect_of_ok h', fun hd' => ⟨r, ?_⟩⟩, fun r' h' => ?_,
    fun f tag hp => checkField_eq_of_isPrivate hp tag⟩
  · rwa [validate_congr shown shown' hn ha hd hd']
  · have he := validate_congr shown shown' hn ha hd (not_hintDefect_of_ok h')
    rw [he, h, Except.ok.injEq] at h'
    exact ⟨h'.symm, congrArg Traced.events he⟩

end Records

def plainType : RecordType Value :=
  (Chain.ofRecords "A" [[⟨"x", .ofKind .integer, none, []⟩,
    ⟨"n", .ofKind .integer, none, [("validate", .text "min:1")]⟩,
    ⟨"_p", .ofKind .integer, none, [("validate", .text "min:1")]⟩]]).toType

def disguisedType : RecordType Value :=
  (Chain.ofRecords "A" [[⟨"x", .ofKind .stringList, some (.text "y"),
      [("validate", .null), ("doc", .int 1)]⟩,
    ⟨"n", .ofKind .integer, some (.int 7), [("doc", .text "n"), ("validate", .text "min:1")]⟩,
    ⟨"_p", .ofKind .string, none, [("validate", .list [.int 5])]⟩]]).toType

def plainHeld : List (String × Value) := [("x", .int 1), ("n", .int 0), ("_p", .int 0)]

def disguisedHeld : List (String × Value) := [("n", .int 0)]

def plainRecord : Value := .record plainType plainHeld ⟨.ok "A", .ok "A"⟩

def disguisedRecord : Value := .record disguisedType disguisedHeld ⟨.ok "B", .ok "B"⟩

def hiddenReport : Report :=
  ⟨⟨[.failed "n" "the number is less than the lower bound", .unexported "_p"]⟩, [],
    [(.text "record_type", .text "A"), (.text "checked_fields", .list [.text "n", .text "_p"])]⟩

theorem hasKind_plainType_iff (k : Kind) :
    disguisedType.HasKind ⟨"n", .ofKind .integer, some (.int 7),
        [("doc", .text "n"), ("validate", .text "min:1")]⟩ k ↔
      plainType.HasKind ⟨"n", .ofKind .integer, none, [("validate", .text "min:1")]⟩ k := by
  have hp : plainType.resolution = .ok [("x", .type "int"), ("n", .type "int"),
      ("_p", .type "int")] := rfl
  have hd : disguisedType.resolution = .ok [("x", .applied (.generic "List") [.type "str"]),
      ("n", .type "int"), ("_p", .type "str")] := rfl
  rw [(RecordType.Reads.resolved hd rfl).hasKind_iff,
    (RecordType.Reads.resolved hp rfl).hasKind_iff]

theorem validate_of_alike_disguised :
    List.Forall₂ (AlikeAt "validate" plainType plainHeld disguisedType disguisedHeld)
        plainType.fields disguisedType.fields ∧
      (default.validate plainRecord none).result = .ok hiddenReport ∧
      (default.validate disguisedRecord none).result = .ok hiddenReport := by
  have hx {α : Prop} (h : RecordType.tagUnder "validate" ⟨"x", .ofKind .integer, none, []⟩ ≠ none) :
      α := absurd rfl h
  have hp : ("_p" : String).toList.head? = some '_' := rfl
  have ha : List.Forall₂ (AlikeAt "validate" plainType plainHeld disguisedType disguisedHeld)
      plainType.fields disguisedType.fields :=
    .cons ⟨rfl, iff_of_true rfl rfl, hx, hx, hx⟩
      (.cons ⟨rfl, iff_of_false nofun nofun, fun _ _ => rfl, fun _ _ => hasKind_plainType_iff,
          fun _ _ => rfl⟩
        (.cons ⟨rfl, iff_of_false nofun nofun, fun _ h => absurd hp h, fun _ h => absurd hp h,
          fun _ h => absurd hp h⟩ .nil))
  have hn : disguisedType.name = plainType.name := rfl
  have hr : (default.validate plainRecord none).result = .ok hiddenReport := rfl
  have hr' : ∃ r', (default.validate disguisedRecord none).result = .ok r' :=
    ⟨_, rfl⟩
  obtain ⟨r', hr'⟩ := hr'
  obtain ⟨rfl, -⟩ := (validate_of_alike hn ha hr).2.1 r' hr'
  exact ⟨ha, hr, hr'⟩

end Validator

namespace Schema

variable {s : Schema} {es es' : List (Value × Value)} {keys : List Value} {texts : List String}
  {fs fs' : List Field}

def SeesAlike (s : Schema) (es es' : List (Value × Value)) : Prop :=
  ∀ g ∈ s.fields, g.tag ≠ none → g.name.toList.head? ≠ some '_' →
    Value.lookup es' g.name = Value.lookup es g.name

def Declares (s : Schema) (key : Value) : Prop := ∃ g ∈ s.fields, key = .text g.name

inductive ListsUndeclared [DepthLimit] (s : Schema) : List Value → List String → Prop
  | nil : ListsUndeclared s [] []
  | declared {key : Value} {keys : List Value} {texts : List String} (h : s.Declares key)
      (hs : ListsUndeclared s keys texts) : ListsUndeclared s (key :: keys) texts
  | undeclared {key : Value} {keys : List Value} {text : String} {texts : List String}
      (h : ¬s.Declares key) (ht : key.display (DepthLimit.limit .keyText) = .ok text)
      (hs : ListsUndeclared s keys texts) :
      ListsUndeclared s (key :: keys) (text :: texts)

theorem not_any_isText_iff (key : Value) :
    (!s.fields.any fun g => key.isText g.name) = true ↔ ¬s.Declares key := by
  rw [Bool.not_eq_true', ← Bool.not_eq_true, List.any_eq_true]
  simp only [Value.isText_iff, Declares]

theorem undeclared_eq_nil_iff : s.undeclared es = [] ↔ ∀ key ∈ Entries.keys es, s.Declares key := by
  rw [undeclared, List.filter_eq_nil_iff]
  simp only [not_any_isText_iff, not_not]

theorem listsUndeclared_of_forall₂ [DepthLimit] {p : Value → Bool}
    (hp : ∀ key, p key = true ↔ ¬s.Declares key)
    (h : List.Forall₂ (fun key text => key.display (DepthLimit.limit .keyText) = .ok text)
      (keys.filter p) texts) :
    s.ListsUndeclared keys texts := by
  induction keys generalizing texts with
  | nil =>
    cases h
    exact .nil
  | cons key keys ih =>
    by_cases hd : s.Declares key
    · rw [List.filter_cons_of_neg (mt (hp key).mp (not_not.mpr hd))] at h
      exact .declared hd (ih h)
    · rw [List.filter_cons_of_pos ((hp key).mpr hd)] at h
      obtain ⟨text, texts, ht, hs, rfl⟩ := List.forall₂_cons_left_iff.mp h
      exact .undeclared hd ht (ih hs)

theorem SeesAlike.forall₂_alike (h : s.SeesAlike es es')
    (hs : List.Forall₂ (fun g f => SchemaField.Shows g es f) s.fields fs)
    (hs' : List.Forall₂ (fun g f => SchemaField.Shows g es' f) s.fields fs') :
    List.Forall₂ Field.Alike fs fs' := by
  refine Traversal.forall₂_trans (fun f g f' hf hf' => ?_) (Traversal.forall₂_and_mem hs).flip hs'
  obtain ⟨hf, hg, -⟩ := hf
  obtain ⟨k, hk, hfk⟩ := hf.kind_eq
  obtain ⟨k', hk', hfk'⟩ := hf'.kind_eq
  apply Field.alike_of
  · rw [hf'.name_eq, hf.name_eq]
  · rw [hf'.tag_eq, hf.tag_eq]
  · intro ht hp
    have hn : g.tag ≠ none := by
      rintro hn
      rw [hf.tag_eq, hn] at ht
      exact ht rfl
    rw [IsPrivate, hf.name_eq] at hp
    refine ⟨?_, ?_, ?_⟩
    · rw [hfk', hfk, ← hk', ← hk]
    · rw [hf'.tag_eq, hf.tag_eq]
    · rw [hf'.value_eq, hf.value_eq, h g hg hn hp]

end Schema

namespace Validator

section Mappings

variable {v : Validator} {s : Schema} {form form' : MappingForm} {es es' : List (Value × Value)}
  {r r' : Report} {warnings : List String}

structure SameButType (name name' : String) (r r' : Report) (log log' : List Event) : Prop where
  violations_eq : r'.violations = r.violations
  isValid_eq : r'.isValid = r.isValid
  checkedFields_eq :
    Value.lookup r'.context "checked_fields" = Value.lookup r.context "checked_fields"
  context_eq : ∃ rest, r.context = (.text "record_type", .text name) :: rest ∧
    r'.context = (.text "record_type", .text name') :: rest
  events_eq : ∃ before fields violations after,
    log = before ++ .checked name fields violations :: after ∧
      log' = before ++ .checked name' fields violations :: after

variable [Host]

theorem fieldsOfSchema_congr {x x' : List String × List Violation} (ha : s.SeesAlike es es')
    (h : (checkFields (s.fieldsOf es)).result = .ok x)
    (h' : (checkFields (s.fieldsOf es')).result = .ok x') :
    checkFields (s.fieldsOf es') = checkFields (s.fieldsOf es) := by
  obtain ⟨-, fs, -, hf, -⟩ := checkFields_eq_ok_iff.mp h
  obtain ⟨-, fs', -, hf', -⟩ := checkFields_eq_ok_iff.mp h'
  rw [hf, hf']
  exact checkFields_congr (ha.forall₂_alike (Schema.fieldsOf_eq_map_ok_iff.mp hf)
    (Schema.fieldsOf_eq_map_ok_iff.mp hf'))

theorem sameButType_of_seesAlike (ha : s.SeesAlike es es')
    (h : (v.validateWith (.mapping form es) (some s)).result = .ok r)
    (h' : (v.validateWith (.mapping form' es') (some s)).result = .ok r') :
    SameButType (Value.mapping form es).typeName (Value.mapping form' es').typeName r r'
      (v.validateWith (.mapping form es) (some s)).events
      (v.validateWith (.mapping form' es') (some s)).events := by
  have hs (form : MappingForm) (es : List (Value × Value)) :
      v.sourceOf? (.mapping form es) (some s) = some (.mapping (s.fieldsOf es)) := rfl
  obtain ⟨names, found, warnings, hc, -, he⟩ := validateWith_of_ok (hs form es) h
  obtain ⟨names', found', warnings', hc', -, he'⟩ := validateWith_of_ok (hs form' es') h'
  dsimp only [Source.fields] at hc hc' he he'
  have hf := fieldsOfSchema_congr ha hc hc'
  rw [hf, hc] at hc'
  obtain ⟨rfl, rfl⟩ := Prod.mk.inj (Except.ok.inj hc')
  rw [he] at h
  rw [he'] at h'
  obtain rfl := Except.ok.inj h
  obtain rfl := Except.ok.inj h'
  rw [he, he', hf]
  exact ⟨rfl, rfl, rfl, ⟨_, rfl, rfl⟩, _, _, _, _, rfl, rfl⟩

theorem warns_of_validateWith (h : (v.validateWith (.mapping form es) (some s)).result = .ok r) :
    Warns (.mapping form es) (some s) r.warnings := by
  obtain ⟨-, hd⟩ := validateWith_eq_ok_iff.mp h
  cases hd with
  | rejected hn => exact absurd (.mapping form es s) hn
  | checked _ _ _ hw => exact hw

theorem warns_iff (hw : Warns (.mapping form es) (some s) warnings) :
    (warnings = [] ↔ ∀ key ∈ Entries.keys es, s.Declares key) ∧
    (warnings ≠ [] → ∃ texts, s.ListsUndeclared (Entries.keys es) texts ∧
      warnings = ["undeclared keys ignored: " ++ ", ".intercalate texts]) := by
  rw [← Schema.undeclared_eq_nil_iff]
  cases hw with
  | declared h => exact ⟨iff_of_true rfl h, fun hn => absurd rfl hn⟩
  | undeclared h ht =>
    have hl := Schema.listsUndeclared_of_forall₂ Schema.not_any_isText_iff ht
    exact ⟨iff_of_false nofun h, fun _ => ⟨_, hl, rfl⟩⟩

theorem validate_config_congr {w : Validator} (hr : w.registry = v.registry)
    (hl : w.config.logViolations = v.config.logViolations) (record : Value) (ref : SchemaRef) :
    w.validate record (some ref) = v.validate record (some ref) := by
  have hs : w.resolve ref = v.resolve ref := by
    cases ref with
    | schema s => rfl
    | name name => rw [resolve, resolve, hr]
  have he : w.violationEvents = v.violationEvents := by
    funext found
    rw [violationEvents, violationEvents, hl]
  have hw (s : Schema) : w.validateWith record (some s) = v.validateWith record (some s) := by
    unfold validateWith
    rw [he]
    rfl
  unfold validate
  simp only [hs, hw]

theorem validate_of_seesAlike {ref : SchemaRef} (hr : v.Resolves (some ref) (some s)) :
    (∀ (form form' : MappingForm) (es es' : List (Value × Value)) (r r' : Report),
      s.SeesAlike es es' →
      (v.validate (.mapping form es) (some ref)).result = .ok r →
      (v.validate (.mapping form' es') (some ref)).result = .ok r' →
        SameButType (Value.mapping form es).typeName (Value.mapping form' es').typeName r r'
          (v.validate (.mapping form es) (some ref)).events
          (v.validate (.mapping form' es') (some ref)).events) ∧
    (∀ (form : MappingForm) (es : List (Value × Value)) (r : Report),
      (v.validate (.mapping form es) (some ref)).result = .ok r →
        (r.warnings = [] ↔ ∀ key ∈ Entries.keys es, s.Declares key) ∧
        (r.warnings ≠ [] → ∃ texts, s.ListsUndeclared (Entries.keys es) texts ∧
          r.warnings = ["undeclared keys ignored: " ++ ", ".intercalate texts])) ∧
    ∀ (w : Validator) (record : Value) (ref : SchemaRef), w.registry = v.registry →
      w.config.logViolations = v.config.logViolations →
        w.validate record (some ref) = v.validate record (some ref) := by
  simp only [validate_of_resolves hr]
  refine ⟨fun form form' es es' r r' ha h h' => sameButType_of_seesAlike ha h h',
    fun form es r h => warns_iff (warns_of_validateWith h), fun w record ref hr hl => ?_⟩
  exact validate_config_congr hr hl record ref

end Mappings

def partlyTagged : Schema :=
  ⟨"S", [⟨"a", some .integer, some "min:1"⟩, ⟨"b", some .string, none⟩,
    ⟨"_p", some .string, some "min"⟩], none⟩

def plainEntries : List (Value × Value) := [(.text "a", .int 0), (.text "_p", .text "x")]

def disguisedEntries : List (Value × Value) :=
  [(.text "z", .null), (.text "b", .int 3), (.null, .int 1), (.text "a", .int 0)]

theorem seesAlike_disguisedEntries : partlyTagged.SeesAlike plainEntries disguisedEntries := by
  intro g hg ht hp
  simp only [partlyTagged, List.mem_cons, List.not_mem_nil, or_false] at hg
  obtain rfl | rfl | rfl := hg
  · rfl
  · exact absurd rfl ht
  · exact absurd rfl hp

theorem validate_of_seesAlike_disguised :
    default.Resolves (some (.schema partlyTagged)) (some partlyTagged) ∧
      partlyTagged.SeesAlike plainEntries disguisedEntries ∧
      ∃ r r',
        (default.validate (.mapping .plain plainEntries) (some (.schema partlyTagged))).result =
          .ok r ∧
        (default.validate (.mapping .ordered disguisedEntries)
          (some (.schema partlyTagged))).result = .ok r' ∧
        r'.violations = r.violations ∧ r.warnings = [] ∧
        r'.warnings = ["undeclared keys ignored: z, None"] := by
  have hr : default.Resolves (some (.schema partlyTagged)) (some partlyTagged) := .given _
  have h : ∃ r, (default.validate (.mapping .plain plainEntries)
      (some (.schema partlyTagged))).result = .ok r ∧ r.warnings = [] := ⟨_, rfl, rfl⟩
  have h' : ∃ r, (default.validate (.mapping .ordered disguisedEntries)
      (some (.schema partlyTagged))).result = .ok r ∧
      r.warnings = ["undeclared keys ignored: z, None"] := ⟨_, rfl, rfl⟩
  obtain ⟨r, h, hw⟩ := h
  obtain ⟨r', h', hw'⟩ := h'
  have hs := (validate_of_seesAlike hr).1 _ _ _ _ r r' seesAlike_disguisedEntries h h'
  exact ⟨hr, seesAlike_disguisedEntries, r, r', h, h', hs.violations_eq, hw, hw'⟩

theorem recordType_of_same_entries :
    ∃ r r',
      (default.validate (.mapping .plain plainEntries) (some (.schema partlyTagged))).result =
        .ok r ∧
      (default.validate (.mapping .ordered plainEntries) (some (.schema partlyTagged))).result =
        .ok r' ∧
      r'.warnings = r.warnings ∧ Value.lookup r.context "record_type" = some (.text "dict") ∧
      Value.lookup r'.context "record_type" = some (.text "OrderedDict") :=
  ⟨_, _, rfl, rfl, rfl, rfl, rfl⟩

end Validator

end FieldGuard
