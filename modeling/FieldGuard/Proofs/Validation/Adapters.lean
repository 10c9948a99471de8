import FieldGuard.Proofs.Validation.Outcome
import Mathlib.Data.List.Nodup

namespace FieldGuard

open Numeral (digitCount digitLimit)

structure Slot where
  name : String
  kind : Kind
  tag : Option String
  value : Option Value

namespace Slot

def field (slot : Slot) : Field := ⟨slot.name, some slot.kind, slot.tag.map .text, slot.value⟩

def schemaField (slot : Slot) : SchemaField := ⟨slot.name, some slot.kind, slot.tag⟩

def given (slots : List Slot) : Entries String Value :=
  slots.filterMap fun slot => slot.value.map fun v => (slot.name, v)

structure IsDeclared (tagKey : String) (slot : Slot) (d : FieldDecl Value) : Prop where
  name_eq : d.name = slot.name
  hint_eq : d.hint = .ofKind slot.kind
  default_eq : d.default = none
  tag_eq : (d.metadata.lookup tagKey).bind Field.tagOf = slot.tag.map .text

variable {slots : List Slot} {pairs : Entries String Value}

theorem mem_given_iff {name : String} {v : Value} :
    (name, v) ∈ given slots ↔ ∃ slot ∈ slots, slot.name = name ∧ slot.value = some v := by
  simp only [given, List.mem_filterMap, Option.map_eq_some_iff, Prod.mk.injEq]
  constructor
  · rintro ⟨slot, hs, w, hw, hn, rfl⟩
    exact ⟨slot, hs, hn, hw⟩
  · rintro ⟨slot, hs, hn, hv⟩
    exact ⟨slot, hs, v, hv, hn, rfl⟩

theorem keys_given_sublist (slots : List Slot) :
    (given slots).keys.Sublist (slots.map Slot.name) := by
  induction slots with
  | nil => exact .slnil
  | cons slot slots ih =>
    cases hv : slot.value with
    | none =>
      have hg : given (slot :: slots) = given slots := by simp [given, hv]
      rw [hg, List.map_cons]
      exact ih.cons slot.name
    | some v =>
      have hg : given (slot :: slots) = (slot.name, v) :: given slots := by simp [given, hv]
      rw [hg, List.map_cons]
      exact ih.cons_cons slot.name

theorem lookup_of_perm (hn : (slots.map Slot.name).Nodup) (hp : pairs.Perm (given slots))
    {slot : Slot} (hs : slot ∈ slots) : pairs.lookup slot.name = slot.value := by
  have hk : pairs.keys.Nodup :=
    (hp.map Prod.fst).nodup_iff.mpr ((keys_given_sublist slots).nodup hn)
  ext v
  rw [Entries.lookup_eq_some_iff_mem hk, hp.mem_iff, mem_given_iff]
  constructor
  · rintro ⟨other, ho, he, hv⟩
    rwa [List.inj_on_of_nodup_map hn ho hs he] at hv
  · intro hv
    exact ⟨slot, hs, rfl, hv⟩

variable {decls : List (FieldDecl Value)} {held : Entries String Value}

section Record

variable {tagKey : String} {c : Chain} (hc : c.layers = [decls]) (hn : (slots.map Slot.name).Nodup)
  (hd : List.Forall₂ (IsDeclared tagKey) slots decls)

include hd

theorem names_of_isDeclared : decls.map FieldDecl.name = slots.map Slot.name := by
  induction hd with
  | nil => rfl
  | cons h _ ih => rw [List.map_cons, List.map_cons, h.name_eq, ih]

include hc

theorem attribute?_of_isDeclared (name : String) : c.toType.attribute? name = none := by
  have ha : (c.layer decls).attributes = [] := by
    rw [Chain.layer, List.filterMap_eq_nil_iff]
    intro d hm
    obtain ⟨slot, -, hs⟩ := Traversal.exists_mem_left hd d hm
    rw [hs.default_eq]
    rfl
  simp [RecordType.attribute?, Chain.toType, hc, ha]

include hn

theorem fields_of_isDeclared : c.toType.fields = decls := by
  apply Chain.fields_toType_of_nodup hc
  · rwa [names_of_isDeclared hd]
  · intro d hm
    obtain ⟨slot, -, hs⟩ := Traversal.exists_mem_left hd d hm
    rw [hs.hint_eq]
    exact TypeHint.isClassVariable_ofKind c.names slot.kind

variable [DepthLimit] [TypeHint.Evaluator]

theorem resolution_of_isDeclared :
    c.toType.resolution = .ok (decls.map fun d => (d.name, d.hint.written)) := by
  apply Chain.resolution_of_isFixed hc
  · rwa [names_of_isDeclared hd]
  · intro d hm
    obtain ⟨slot, -, hs⟩ := Traversal.exists_mem_left hd d hm
    rw [hs.hint_eq]
    exact TypeHint.isFixed_ofKind slot.kind

theorem reads_of_isDeclared {slot : Slot} {d : FieldDecl Value} (hm : d ∈ decls)
    (hs : IsDeclared tagKey slot d) : c.toType.Reads d (.ofKind slot.kind) := by
  have hl : (decls.map fun d => (d.name, d.hint.written)).lookup d.name =
      some d.hint.written := by
    refine (Entries.lookup_eq_some_iff_mem ?_).mpr (List.mem_map.mpr ⟨d, hm, rfl⟩)
    rwa [Entries.keys, List.map_map, ← names_of_isDeclared hd] at *
  rw [hs.hint_eq] at hl
  exact .resolved (resolution_of_isDeclared hc hn hd) hl

theorem shows_of_isDeclared (hp : held.Perm (given slots)) {slot : Slot} {d : FieldDecl Value}
    (hm : slot ∈ slots) (hdm : d ∈ decls) (hs : IsDeclared tagKey slot d) :
    c.toType.Shows held tagKey d slot.field := by
  have hk := TypeHint.kind?_ofKind slot.kind
  refine ⟨hs.name_eq.symm, ⟨_, reads_of_isDeclared hc hn hd hdm hs, ?_, ?_⟩, hs.tag_eq.symm, ?_⟩
  · intro name hu
    rw [TypeHint.kind?_eq_error_iff.mpr ⟨name, hu, rfl⟩] at hk
    cases hk
  · intro k
    rw [← TypeHint.kind?_eq_ok_some_iff, hk, Except.ok.injEq]
    rfl
  · rw [RecordType.valueOf?, hs.name_eq, lookup_of_perm hn hp hm, attribute?_of_isDeclared hc hd,
      Option.or_none]
    rfl

theorem fieldsOf_record (hp : held.Perm (given slots)) :
    c.toType.fieldsOf held tagKey = (slots.map Slot.field).map .ok := by
  have hr : c.toType.kindReader =
      .ok (RecordType.resolvedKind (decls.map fun d => (d.name, d.hint.written))) := by
    rw [RecordType.kindReader, resolution_of_isDeclared hc hn hd]
  rw [RecordType.fieldsOf_of_kindReader hr, fields_of_isDeclared hc hn hd,
    Traversal.map_eq_map_ok_iff, List.forall₂_map_right_iff]
  refine List.Forall₂.flip (List.forall₂_iff_zip.mpr ⟨hd.length_eq, fun {slot d} hz => ?_⟩)
  obtain ⟨hm, hdm⟩ := List.of_mem_zip hz
  exact (RecordType.fieldOf_eq_ok_iff hr).mpr
    (shows_of_isDeclared hc hn hd hp hm hdm (List.forall₂_zip hd hz))

end Record

theorem fieldsOf_mapping (hn : (slots.map Slot.name).Nodup) (hp : pairs.Perm (given slots))
    (name : String) (description : Option String) :
    (Schema.mk name (slots.map schemaField) description).fieldsOf
        (pairs.map fun p => (.text p.1, p.2)) = (slots.map Slot.field).map .ok := by
  rw [Schema.fieldsOf, List.map_map, List.map_map]
  refine List.map_congr_left fun slot hs => ?_
  have hv := lookup_of_perm hn hp hs
  rw [← Value.lookup_keyed] at hv
  show Except.ok _ = Except.ok _
  rw [schemaField, hv]
  rfl

theorem undeclared_mapping (hp : pairs.Perm (given slots)) (name : String)
    (description : Option String) :
    (Schema.mk name (slots.map schemaField) description).undeclared
      (pairs.map fun p => (.text p.1, p.2)) = [] := by
  rw [Schema.undeclared, List.filter_eq_nil_iff]
  intro key hk
  rw [Entries.keys, List.map_map] at hk
  obtain ⟨⟨n, v⟩, hm, rfl⟩ := List.mem_map.mp hk
  obtain ⟨slot, hs, rfl, -⟩ := mem_given_iff.mp (hp.mem_iff.mp hm)
  have ha : (slots.map schemaField).any (fun f => (Value.text slot.name).isText f.name) = true :=
    List.any_eq_true.mpr ⟨slot.schemaField, List.mem_map_of_mem hs, beq_self_eq_true slot.name⟩
  rw [Bool.not_eq_true', Bool.not_eq_false]
  exact ha

end Slot

namespace Validator

open Slot

variable {v : Validator} {slots : List Slot} {decls : List (FieldDecl Value)}
  {held pairs : Entries String Value} {c : Chain}

def findings (r : Report) : Violations × Option Value :=
  (r.violations, Value.lookup r.context Report.checkedFields)

theorem findings_report (record : Value) (s : Option Schema) (names : List String)
    (found : List Violation) (warnings : List String) :
    findings (Validator.report record s names found warnings) =
      (⟨found⟩, some (.list (names.map .text))) := by
  cases s <;> rfl

section Host

variable [Host]

def foundIn (fields : Fields) : Except Failure (Violations × Option Value) :=
  (checkFields fields).result.map fun r => (⟨r.2⟩, some (.list (r.1.map .text)))

theorem findings_record (hc : c.layers = [decls]) (hn : (slots.map Slot.name).Nodup)
    (hd : List.Forall₂ (IsDeclared v.config.tagKey) slots decls) (hp : held.Perm (given slots))
    (shown : Shown) :
    (v.validate (.record c.toType held shown) none).result.map findings =
      foundIn ((slots.map Slot.field).map .ok) := by
  rw [validate_of_resolves .absent, validateWith_record, fieldsOf_record hc hn hd hp, foundIn]
  cases (checkFields ((slots.map Slot.field).map .ok)).result with
  | error e => rfl
  | ok r => exact congrArg Except.ok (findings_report _ _ _ _ _)

theorem findings_mapping (hn : (slots.map Slot.name).Nodup) (hp : pairs.Perm (given slots))
    (form : MappingForm) (name : String) (description : Option String) :
    (v.validate (.mapping form (pairs.map fun p => (.text p.1, p.2)))
        (some (.schema ⟨name, slots.map schemaField, description⟩))).result.map findings =
      foundIn ((slots.map Slot.field).map .ok) := by
  have hw : undeclaredWarnings ⟨name, slots.map schemaField, description⟩
      (.mapping form (pairs.map fun p => (.text p.1, p.2))) = .ok [] := by
    rw [undeclaredWarnings_eq, if_pos (undeclared_mapping hp name description)]
  rw [validate_of_resolves (.given _), validateWith_mapping, fieldsOf_mapping hn hp, hw, foundIn]
  cases (checkFields ((slots.map Slot.field).map .ok)).result with
  | error e => rfl
  | ok r => exact congrArg Except.ok (findings_report _ _ _ _ _)

theorem unencoded_of_blocked
    (hl : ∀ slot ∈ slots, ¬IsPrivate slot.field → ∀ tag, slot.tag = some tag →
      ∀ t, Tag.Examines slot.kind tag t → digitCount t ≤ digitLimit) {e : Failure}
    (hb : Blocked ((slots.map Slot.field).map .ok) e) :
    ∃ fault, e = .encoding fault ∧ ∃ slot ∈ slots, ∃ tag, slot.tag = some tag ∧
      TagDefect slot.field (.text tag) e := by
  cases hb with
  | hidden hm =>
    obtain ⟨f, -, hf⟩ := List.mem_map.mp hm
    cases hf
  | tag hm ht hd =>
    obtain ⟨f, hf, he⟩ := List.mem_map.mp hm
    cases he
    obtain ⟨slot, hs, rfl⟩ := List.mem_map.mp hf
    obtain ⟨text, hs', rfl⟩ := Option.map_eq_some_iff.mp ht
    cases hd with
    | unread hu =>
      cases hu with
      | tooLong hp hk hx hlong =>
        cases hk
        exact absurd (hl slot hs hp text hs' _ hx) (by omega)
      | unshown _ htext _ => cases htext
    | unencoded hp hc hn hv hm hx hf =>
      exact ⟨_, rfl, slot, hs, text, hs', .unencoded hp hc hn hv hm hx hf⟩

theorem validate_record_eq_mapping (hc : c.layers = [decls]) (hn : (slots.map Slot.name).Nodup)
    (hd : List.Forall₂ (IsDeclared v.config.tagKey) slots decls) (hh : held.Perm (given slots))
    (hp : pairs.Perm (given slots)) (shown : Shown) (form : MappingForm) (name : String)
    (description : Option String) :
    let ofRecord := (v.validate (.record c.toType held shown) none).result
    let ofMapping := (v.validate (.mapping form (pairs.map fun p => (.text p.1, p.2)))
      (some (.schema ⟨name, slots.map schemaField, description⟩))).result
    ofRecord.map findings = ofMapping.map findings ∧
    ((∀ slot ∈ slots, ¬IsPrivate slot.field → ∀ tag, slot.tag = some tag →
        ∀ t, Tag.Examines slot.kind tag t → digitCount t ≤ digitLimit) →
      (∃ r r', ofRecord = .ok r ∧ ofMapping = .ok r' ∧ r.violations = r'.violations ∧
        ∃ names, Value.lookup r.context Report.checkedFields = some names ∧
          Value.lookup r'.context Report.checkedFields = some names) ∨
      ∃ fault, ofRecord = .error (.encoding fault) ∧ ofMapping = .error (.encoding fault) ∧
        ∃ slot ∈ slots, ∃ tag, slot.tag = some tag ∧
          TagDefect slot.field (.text tag) (.encoding fault)) := by
  have hr := findings_record (v := v) hc hn hd hh shown
  have hm := findings_mapping (v := v) hn hp form name description
  refine ⟨hr.trans hm.symm, fun hl => ?_⟩
  cases hf : (checkFields ((slots.map Slot.field).map .ok)).result with
  | error e =>
    obtain ⟨fault, rfl, hs⟩ := unencoded_of_blocked hl (blocked_of_checkFields hf)
    rw [foundIn, hf] at hr hm
    exact .inr ⟨fault, Traversal.map_eq_error_iff.mp hr, Traversal.map_eq_error_iff.mp hm, hs⟩
  | ok found =>
    rw [foundIn, hf] at hr hm
    obtain ⟨r, hrr, hf⟩ := Traversal.map_eq_ok_iff.mp hr
    obtain ⟨r', hrr', hf'⟩ := Traversal.map_eq_ok_iff.mp hm
    obtain ⟨hv, hx⟩ := Prod.mk.inj hf
    obtain ⟨hv', hx'⟩ := Prod.mk.inj hf'
    exact .inl ⟨r, r', hrr, hrr', hv.trans hv'.symm, _, hx, hx'⟩

end Host

def boundedSlots : List Slot :=
  [⟨"a", .integer, some "min:5", some (.int 3)⟩,
    ⟨"b", .stringList, some "in:xy", some (.list [.text "z"])⟩, ⟨"c", .string, none, none⟩]

def boundedDecls : List (FieldDecl Value) :=
  [⟨"a", .ofKind .integer, none, [("validate", .text "min:5")]⟩,
    ⟨"b", .ofKind .stringList, none, [("validate", .text "in:xy"), ("doc", .null)]⟩,
    ⟨"c", .ofKind .string, none, []⟩]

def boundedFindings : Violations × Option Value :=
  (⟨[.failed "a" "the number is less than the lower bound",
      .failed "b" "the string is not in the list"]⟩, some (.list [.text "a", .text "b"]))

theorem validate_record_eq_mapping_bounded :
    (boundedSlots.map Slot.name).Nodup ∧
      List.Forall₂ (IsDeclared default.config.tagKey) boundedSlots boundedDecls ∧
      (given boundedSlots).reverse.Perm (given boundedSlots) ∧
      (default.validate (.record (Chain.ofRecords "R" [boundedDecls]).toType
          (given boundedSlots) ⟨.ok "R()", .ok "R()"⟩) none).result.map findings =
        .ok boundedFindings ∧
      (default.validate (.mapping .plain ((given boundedSlots).reverse.map fun p =>
            (.text p.1, p.2)))
          (some (.schema ⟨"S", boundedSlots.map schemaField, none⟩))).result.map findings =
        .ok boundedFindings := by
  have hn : (boundedSlots.map Slot.name).Nodup := by decide
  have hd : List.Forall₂ (IsDeclared default.config.tagKey) boundedSlots boundedDecls :=
    .cons ⟨rfl, rfl, rfl, rfl⟩ (.cons ⟨rfl, rfl, rfl, rfl⟩ (.cons ⟨rfl, rfl, rfl, rfl⟩ .nil))
  have hp : (given boundedSlots).reverse.Perm (given boundedSlots) := List.reverse_perm _
  have hr : (default.validate (.record (Chain.ofRecords "R" [boundedDecls]).toType
      (given boundedSlots) ⟨.ok "R()", .ok "R()"⟩) none).result.map findings =
        .ok boundedFindings := rfl
  exact ⟨hn, hd, hp, hr,
    (validate_record_eq_mapping rfl hn hd (.refl _) hp _ .plain "S" none).1.symm.trans hr⟩

end Validator

end FieldGuard
