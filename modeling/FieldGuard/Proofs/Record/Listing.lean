import FieldGuard.Proofs.Record.Resolution
import FieldGuard.Proofs.Validation.Report
import Mathlib.Data.List.Nodup

/-!
The listing of the tagged fields of a record type beside the fields that a validation checks. A
field whose note is null is listed and not checked; on all others the two agree.
-/

namespace FieldGuard

namespace RecordType

variable {t : RecordType Value} {held : Entries String Value} {key : String}
  {d : FieldDecl Value} {fs : List Field}

theorem mem_names_filter_iff (p : FieldDecl Value → Bool) (hd : d ∈ t.fields) :
    d.name ∈ (t.fields.filter p).map FieldDecl.name ↔ p d = true := by
  rw [List.mem_map]
  constructor
  · rintro ⟨d', hm, hn⟩
    obtain ⟨hm, hp⟩ := List.mem_filter.mp hm
    rwa [← List.inj_on_of_nodup_map (nodup_names_fields t) hm hd hn]
  · intro hp
    exact ⟨d, List.mem_filter.mpr ⟨hd, hp⟩, rfl⟩

def hasNote (key : String) (d : FieldDecl Value) : Bool := (d.metadata.lookup key).isSome

def hasTag (key : String) (d : FieldDecl Value) : Bool :=
  ((d.metadata.lookup key).bind Field.tagOf).isSome

def HasNullNote (key : String) (d : FieldDecl Value) : Prop := d.metadata.lookup key = some .null

theorem hasTag_iff : hasTag key d = true ↔ hasNote key d = true ∧ ¬HasNullNote key d := by
  unfold hasTag hasNote HasNullNote
  cases d.metadata.lookup key with
  | none => simp
  | some v => cases v <;> simp [Field.tagOf]

theorem hasNote_of_hasNullNote (h : HasNullNote key d) : hasNote key d = true := by
  rw [hasNote, h]
  rfl

def checkedNames (t : RecordType Value) (key : String) : List String :=
  (t.fields.filter (hasTag key)).map FieldDecl.name

theorem taggedNames_eq (t : RecordType Value) (key : String) :
    t.taggedNames key = (t.fields.filter (hasNote key)).map FieldDecl.name := rfl

theorem checkedNames_sublist (t : RecordType Value) (key : String) :
    (t.checkedNames key).Sublist (t.taggedNames key) := by
  apply List.Sublist.map
  apply List.monotone_filter_right
  intro d h
  exact (hasTag_iff.mp h).1

theorem listed_not_checked_iff (hd : d ∈ t.fields) :
    d.name ∈ t.taggedNames key ∧ d.name ∉ t.checkedNames key ↔ HasNullNote key d := by
  rw [taggedNames_eq, checkedNames, mem_names_filter_iff _ hd, mem_names_filter_iff _ hd,
    hasTag_iff]
  constructor
  · rintro ⟨hn, hc⟩
    by_contra h
    exact hc ⟨hn, h⟩
  · intro h
    exact ⟨hasNote_of_hasNullNote h, fun hc => hc.2 h⟩

theorem taggedNames_eq_checkedNames_iff :
    t.taggedNames key = t.checkedNames key ↔ ∀ d ∈ t.fields, ¬HasNullNote key d := by
  constructor
  · intro h d hd hn
    obtain ⟨hm, hc⟩ := (listed_not_checked_iff hd).mpr hn
    exact hc (h ▸ hm)
  · intro h
    have hf : t.fields.filter (hasNote key) = t.fields.filter (hasTag key) := by
      apply List.filter_congr
      intro d hd
      rw [Bool.eq_iff_iff, hasTag_iff, and_iff_left (h d hd)]
    rw [taggedNames_eq, checkedNames, hf]

theorem names_tagged_of_shows [DepthLimit] [TypeHint.Evaluator]
    (h : List.Forall₂ (t.Shows held key) t.fields fs) :
    (fs.filter Field.isTagged).map Field.name = t.checkedNames key := by
  have hf := List.rel_filter (p := hasTag key) (q := Field.isTagged) ?_ h
  · rw [checkedNames, eq_comm, ← List.forall₂_eq_eq_eq, List.forall₂_map_left_iff,
      List.forall₂_map_right_iff]
    exact hf.imp fun d f hs => hs.name_eq.symm
  · intro d f hs
    simp [Field.isTagged, hasTag, hs.tag_eq]

end RecordType

namespace Validator

open RecordType (HasNullNote)

variable {v : Validator} {t : RecordType Value} {held : List (String × Value)} {shown : Shown}
  {r : Report}

theorem listed_iff_checked [Host] (h : (v.validate (.record t held shown) none).result = .ok r) :
    ∃ (fs : List Field) (listed checked : List String),
      Record.fields (.record t held shown) v.config.tagKey = .ok (fs.map .ok) ∧
      Record.taggedNames (.record t held shown) v.config.tagKey = .ok listed ∧
      Value.lookup r.context "checked_fields" = some (.list (checked.map .text)) ∧
      checked = (fs.filter Field.isTagged).map Field.name ∧
      checked.Sublist listed ∧
      (∀ d ∈ t.fields,
        (d.name ∈ listed ∧ d.name ∉ checked ↔ HasNullNote v.config.tagKey d)) ∧
      (listed = checked ↔ ∀ d ∈ t.fields, ¬HasNullNote v.config.tagKey d) := by
  obtain ⟨hd, hr⟩ := validateWith_record_eq_ok_iff.mp h
  cases hr with
  | rejected hn => exact absurd (.record t held shown) hn
  | @checked fs blocks warnings _ hp _ _ =>
    have hf := (fieldsOf_eq_map_ok_iff hd).mpr hp
    cases hp with
    | record hs =>
      have hn := RecordType.names_tagged_of_shows hs
      refine ⟨fs, _, t.checkedNames v.config.tagKey, congrArg Except.ok hf, rfl, ?_, hn.symm,
        t.checkedNames_sublist _, fun d => RecordType.listed_not_checked_iff,
        RecordType.taggedNames_eq_checkedNames_iff⟩
      rw [lookup_checkedFields, ← hn, List.map_map]
      rfl

def nullNoteType : RecordType Value :=
  (Chain.ofRecords "A" [[⟨"a", TypeHint.ofKind .integer, none, [("validate", .null)]⟩,
    ⟨"b", TypeHint.ofKind .integer, none, [("validate", .text "min:1")]⟩]]).toType

def nullNoteRecord : Value :=
  .record nullNoteType [("a", .int 1), ("b", .int 2)] ⟨.ok "A(a=1, b=2)", .ok "A(a=1, b=2)"⟩

def nullNoteReport : Report :=
  ⟨⟨[]⟩, [], [(.text "record_type", .text "A"), (.text "checked_fields", .list [.text "b"])]⟩

theorem validate_nullNoteRecord :
    (default.validate nullNoteRecord none).result = .ok nullNoteReport := rfl

theorem listed_iff_checked_nullNote :
    (default.validate nullNoteRecord none).result = .ok nullNoteReport ∧
      ∃ (fs : List Field) (listed checked : List String),
        Record.fields nullNoteRecord "validate" = .ok (fs.map .ok) ∧
        Record.taggedNames nullNoteRecord "validate" = .ok listed ∧
        Value.lookup nullNoteReport.context "checked_fields" =
          some (.list (checked.map .text)) ∧
        checked = (fs.filter Field.isTagged).map Field.name ∧
        checked.Sublist listed ∧
        (∀ d ∈ nullNoteType.fields,
          (d.name ∈ listed ∧ d.name ∉ checked ↔ HasNullNote "validate" d)) ∧
        (listed = checked ↔ ∀ d ∈ nullNoteType.fields, ¬HasNullNote "validate" d) :=
  ⟨validate_nullNoteRecord, listed_iff_checked validate_nullNoteRecord⟩

theorem listed_ne_checked :
    (default.validate nullNoteRecord none).result = .ok nullNoteReport ∧
      Record.taggedNames nullNoteRecord "validate" = .ok ["a", "b"] ∧
      Value.lookup nullNoteReport.context "checked_fields" = some (.list [.text "b"]) :=
  ⟨validate_nullNoteRecord, rfl, rfl⟩

end Validator

end FieldGuard
