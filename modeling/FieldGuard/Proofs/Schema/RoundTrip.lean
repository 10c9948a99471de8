import FieldGuard.Proofs.Schema.Document
import FieldGuard.Proofs.Schema.Reading

namespace FieldGuard.Schema

open Document

structure Row.Renders (row : Row) (f : SchemaField) : Prop where
  name : row.name = f.name
  kind : ∃ k, f.kind = some k ∧ row.kind = k.text
  tag : row.tag = f.tag

structure Outline.Renders (o : Outline) (s : Schema) : Prop where
  name : o.name = s.name
  description : o.description = s.description
  rows : List.Forall₂ Row.Renders o.rows s.fields

theorem exists_renders {s : Schema} (h : ∀ f ∈ s.fields, ∃ k, f.kind = some k) :
    ∃ o : Outline, o.Renders s := by
  have hr : ∀ f ∈ s.fields, ∃ row : Row, row.Renders f := by
    intro f hf
    obtain ⟨k, hk⟩ := h f hf
    exact ⟨⟨f.name, k.text, f.tag⟩, rfl, ⟨k, hk, rfl⟩, rfl⟩
  obtain ⟨rows, hrows⟩ := Traversal.exists_forall₂ hr
  exact ⟨⟨s.name, s.description, rows⟩, rfl, rfl, hrows.flip⟩

section Renders

variable {o : Outline} {s : Schema} {row : Row} {f : SchemaField}

theorem Row.Renders.declares (h : row.Renders f) : row.Declares f := by
  obtain ⟨k, hf, hk⟩ := h.kind
  exact ⟨h.name.symm, ⟨k, .inl hk.symm, hf⟩, h.tag.symm⟩

theorem Row.Renders.kind_ne (h : row.Renders f) : row.kind ≠ "" := by
  obtain ⟨k, -, hk⟩ := h.kind
  rw [hk]
  cases k <;> decide

theorem fieldDocument_of_renders (h : row.Renders f) : fieldDocument f = .ok row.document := by
  obtain ⟨k, hf, hk⟩ := h.kind
  rw [fieldDocument, hf, Row.document, hk, h.name, h.tag]

variable (h : o.Renders s)
include h

theorem Outline.Renders.declares : o.Declares s :=
  ⟨h.name.symm, h.description.symm, h.rows.imp fun _ _ => Row.Renders.declares⟩

theorem toDocument_of_renders : s.toDocument = .ok o.document := by
  have hf : s.fields.mapM fieldDocument = .ok (o.rows.map Row.document) := by
    rw [Traversal.mapM_eq_ok_iff, List.forall₂_map_right_iff]
    exact (h.rows.imp fun _ _ => fieldDocument_of_renders).flip
  rw [toDocument, hf, Outline.document, h.name, h.description]
  rfl

theorem Outline.Renders.writes_document_iff :
    o.Writes o.document ↔ s.name ≠ "" ∧ ∀ f ∈ s.fields, f.name ≠ "" := by
  rw [o.writes_document_iff, h.name]
  refine and_congr_right fun _ => ⟨fun hr f hf => ?_, fun hf row hr => ?_⟩
  · obtain ⟨row, hm, hrow⟩ := Traversal.exists_mem_left h.rows f hf
    exact hrow.name ▸ (hr row hm).1
  · obtain ⟨f, hm, hrow⟩ := Traversal.exists_mem_right h.rows row hr
    exact ⟨hrow.name ▸ hf f hm, hrow.kind_ne⟩

end Renders

theorem Row.eq_of_writes_document {row row' : Row} (h : row'.Writes row.document) : row = row' := by
  obtain ⟨es, he, h⟩ := h
  obtain rfl := Option.some.inj he
  have hn := h.name
  have hk := h.kind
  have ht := h.tag
  rw [Value.lookup_keyed] at hn hk ht
  have htag : row.tag.map Value.text = row'.tag.map .text := by
    rw [← ht]
    cases row.tag <;> rfl
  exact Row.ext (Value.text.inj (Option.some.inj hn)) (Value.text.inj (Option.some.inj hk))
    (Option.map_injective (fun _ _ => Value.text.inj) htag)

theorem Outline.eq_of_writes_document {o o' : Outline} (h : o'.Writes o.document) : o = o' := by
  obtain ⟨es, he, h⟩ := h
  obtain rfl := Option.some.inj he
  obtain ⟨entries, hf, hr⟩ := h.fields
  have hn := h.name
  have hd := h.description
  rw [Value.lookup_keyed] at hn hd hf
  have hdesc : o.description.map Value.text = o'.description.map .text := by
    rw [← hd]
    cases o.description <;> rfl
  have hrows : o'.rows = o.rows := by
    rw [← Value.list.inj (Option.some.inj hf), List.forall₂_map_right_iff] at hr
    rw [← List.forall₂_eq_eq_eq]
    exact hr.imp fun _ _ hrow => (Row.eq_of_writes_document hrow).symm
  exact Outline.ext (Value.text.inj (Option.some.inj hn))
    (Option.map_injective (fun _ _ => Value.text.inj) hdesc) hrows.symm

def SameUnder (R : String → Value → Value → Prop) (v w : Value) : Prop :=
  ∃ es es', v.writableEntries? = some es ∧ w.writableEntries? = some es' ∧
    (∀ k ∈ es.keys ++ es'.keys, ∃ name, k = .text name) ∧
    ∀ name, Option.Rel (R name) (Value.lookup es name) (Value.lookup es' name)

def SameRow : Value → Value → Prop :=
  SameUnder fun name v w =>
    if name = "kind" then ∃ s k, v = .text s ∧ Kind.Spells s k ∧ w = .text k.text else v = w

def SameDocument : Value → Value → Prop :=
  SameUnder fun name v w =>
    if name = "fields" then ∃ items items', v = .list items ∧ w = .list items' ∧
      List.Forall₂ SameRow items items'
    else v = w

section Same

variable {R : String → Value → Value → Prop} {es es' : Entries Value Value}

theorem lookup_eq_none {names : List String} (hk : ∀ k ∈ es.keys, k ∈ names.map Value.text)
    {name : String} (hn : name ∉ names) : Value.lookup es name = none := by
  rw [Value.lookup, Option.map_eq_none_iff, List.find?_eq_none]
  intro e he ht
  rw [Value.isText_iff] at ht
  obtain ⟨n, hm, hv⟩ := List.mem_map.mp (hk e.1 (List.mem_map_of_mem he))
  rw [ht] at hv
  cases hv
  exact hn hm

theorem sameUnder_of_names {v w : Value} (names : List String)
    (hv : v.writableEntries? = some es) (hw : w.writableEntries? = some es')
    (hk : ∀ k ∈ es.keys, k ∈ names.map Value.text)
    (hk' : ∀ k ∈ es'.keys, k ∈ names.map Value.text)
    (hR : ∀ name ∈ names, Option.Rel (R name) (Value.lookup es name) (Value.lookup es' name)) :
    SameUnder R v w := by
  refine ⟨es, es', hv, hw, fun k hm => ?_, fun name => ?_⟩
  · have hm' : k ∈ names.map Value.text := (List.mem_append.mp hm).elim (hk k) (hk' k)
    obtain ⟨name, -, he⟩ := List.mem_map.mp hm'
    exact ⟨name, he.symm⟩
  · by_cases hn : name ∈ names
    · exact hR name hn
    · rw [lookup_eq_none hk hn, lookup_eq_none hk' hn]
      exact .none

theorem rel_refl {R : Value → Value → Prop} (hR : ∀ v, R v v) (x : Option Value) :
    Option.Rel R x x := by
  cases x with
  | none => exact .none
  | some v => exact .some (hR v)

end Same

structure Row.Canonical (row row' : Row) : Prop where
  name : row'.name = row.name
  kind : ∃ k, Kind.Spells row.kind k ∧ row'.kind = k.text
  tag : row'.tag = row.tag

structure Outline.Canonical (o o' : Outline) : Prop where
  name : o'.name = o.name
  description : o'.description = o.description
  rows : List.Forall₂ Row.Canonical o.rows o'.rows

theorem sameRow_of_canonical {row row' : Row} {v w : Value} (h : row.Writes v) (h' : row'.Writes w)
    (hc : row.Canonical row') : SameRow v w := by
  obtain ⟨es, he, h⟩ := h
  obtain ⟨es', he', h'⟩ := h'
  obtain ⟨k, hs, hk⟩ := hc.kind
  refine sameUnder_of_names ["name", "kind", "validate"] he he' h.keys h'.keys ?_
  simp only [List.forall_mem_cons]
  refine ⟨?_, ?_, ?_, nofun⟩
  · rw [h.name, h'.name, hc.name]
    exact rel_refl (by simp) _
  · rw [h.kind, h'.kind, hk]
    exact .some (by simpa using ⟨k, hs, rfl⟩)
  · rw [h.tag, h'.tag, hc.tag]
    exact rel_refl (by simp) _

theorem sameRows_of_canonical {rows rows' : List Row} {items items' : List Value}
    (hc : List.Forall₂ Row.Canonical rows rows') (h : List.Forall₂ Row.Writes rows items)
    (h' : List.Forall₂ Row.Writes rows' items') : List.Forall₂ SameRow items items' := by
  have hrow : List.Forall₂ (fun item row' => ∃ row : Row, row.Writes item ∧ row.Canonical row')
      items rows' :=
    Traversal.forall₂_trans (fun _ row _ hw hc => ⟨row, hw, hc⟩) h.flip hc
  refine Traversal.forall₂_trans ?_ hrow h'
  rintro item row' item' ⟨row, hw, hc⟩ hw'
  exact sameRow_of_canonical hw hw' hc

theorem sameDocument_of_canonical {o o' : Outline} {v w : Value} (h : o.Writes v)
    (h' : o'.Writes w) (hc : o.Canonical o') : SameDocument v w := by
  obtain ⟨es, he, h⟩ := h
  obtain ⟨es', he', h'⟩ := h'
  obtain ⟨items, hf, hr⟩ := h.fields
  obtain ⟨items', hf', hr'⟩ := h'.fields
  refine sameUnder_of_names ["name", "description", "fields"] he he' h.keys h'.keys ?_
  simp only [List.forall_mem_cons]
  refine ⟨?_, ?_, ?_, nofun⟩
  · rw [h.name, h'.name, hc.name]
    exact rel_refl (by simp) _
  · rw [h.description, h'.description, hc.description]
    exact rel_refl (by simp) _
  · rw [hf, hf']
    exact .some (by simpa using sameRows_of_canonical hc.rows hr hr')

theorem canonical_of_renders {o o' : Outline} {s : Schema} (hd : o.Declares s)
    (hr : o'.Renders s) : o.Canonical o' := by
  refine ⟨hr.name.trans hd.name, hr.description.trans hd.description,
    Traversal.forall₂_trans ?_ hd.fields hr.rows.flip⟩
  intro row f row' hdecl hrend
  obtain ⟨k, hs, hk⟩ := hdecl.kind
  obtain ⟨l, hl, ht⟩ := hrend.kind
  obtain rfl := Option.some.inj (hk.symm.trans hl)
  exact ⟨hrend.name.trans hdecl.name, ⟨k, hs, ht⟩, hrend.tag.trans hdecl.tag⟩

section RoundTrips

variable [Document.Checker]

section

variable {o : Outline} {s : Schema} (h : o.Renders s)
include h

theorem ofDocument_document_iff {t : Schema} : ofDocument o.document = .ok t ↔
    (s.name ≠ "" ∧ (∀ f ∈ s.fields, f.name ≠ "") ∧ (s.fields.map SchemaField.name).Nodup) ∧
      t = s := by
  rw [ofDocument_eq_ok_iff, h.declares.names_eq]
  constructor
  · rintro ⟨o', hw, hn, hd⟩
    obtain rfl := Outline.eq_of_writes_document hw
    obtain ⟨hname, hnames⟩ := h.writes_document_iff.mp hw
    exact ⟨⟨hname, hnames, hn⟩, Outline.declares_unique hd h.declares⟩
  · rintro ⟨⟨hname, hnames, hn⟩, rfl⟩
    exact ⟨o, h.writes_document_iff.mpr ⟨hname, hnames⟩, hn, h.declares⟩

end

theorem exists_renders_of_ofDocument {d : Value} {s : Schema} (hs : ofDocument d = .ok s) :
    ∃ o : Outline, o.Renders s ∧ ofDocument o.document = .ok s := by
  obtain ⟨o, hw, hn, hd⟩ := ofDocument_eq_ok_iff.mp hs
  obtain ⟨o', h⟩ := exists_renders (kind_of_ofDocument hs)
  obtain ⟨hname, hrows⟩ := hw.texts_ne
  have hname : s.name ≠ "" := hd.name ▸ hname
  have hnames : ∀ f ∈ s.fields, f.name ≠ "" := by
    intro f hf
    obtain ⟨row, hm, hrow⟩ := Traversal.exists_mem_left hd.fields f hf
    exact hrow.name ▸ (hrows row hm).1
  rw [← hd.names_eq] at hn
  exact ⟨o', h, (ofDocument_document_iff h).mpr ⟨⟨hname, hnames, hn⟩, rfl⟩⟩

theorem document_roundTrip :
    (∀ s : Schema, (∀ f ∈ s.fields, f.kind ≠ none) → ∃ doc, s.toDocument = .ok doc ∧
      ((∃ t, ofDocument doc = .ok t) ↔
        s.name ≠ "" ∧ (∀ f ∈ s.fields, f.name ≠ "") ∧ (s.fields.map SchemaField.name).Nodup) ∧
      ∀ t, ofDocument doc = .ok t → t = s) ∧
    ∀ d s, ofDocument d = .ok s →
      ∃ doc, s.toDocument = .ok doc ∧ ofDocument doc = .ok s ∧ SameDocument d doc := by
  constructor
  · intro s hs
    obtain ⟨o, h⟩ := exists_renders fun f hf => Option.ne_none_iff_exists'.mp (hs f hf)
    refine ⟨o.document, toDocument_of_renders h, ?_, fun t ht => ?_⟩
    · simp [ofDocument_document_iff h]
    · exact ((ofDocument_document_iff h).mp ht).2
  · intro d s hs
    obtain ⟨o, hw, -, hd⟩ := ofDocument_eq_ok_iff.mp hs
    obtain ⟨o', h, hdoc⟩ := exists_renders_of_ofDocument hs
    obtain ⟨⟨hname, hnames, -⟩, -⟩ := (ofDocument_document_iff h).mp hdoc
    refine ⟨o'.document, toDocument_of_renders h, hdoc, ?_⟩
    exact sameDocument_of_canonical hw (h.writes_document_iff.mpr ⟨hname, hnames⟩)
      (canonical_of_renders hd h)

end RoundTrips

def plainSchema : Schema :=
  ⟨"S", [⟨"_a", some .integerList, some ""⟩, ⟨"b", some .string, none⟩], some ""⟩

def mixedDocument : Value :=
  .mapping .ordered [(.text "fields", .list [
      .mapping .plain [(.text "kind", .text " Integer_List\n"), (.text "validate", .text ""),
        (.text "name", .text "_a")],
      .keyed [("name", .text "b"), ("kind", .text "string")]]),
    (.text "description", .text ""), (.text "name", .text "S")]

theorem document_roundTrip_mixed :
    (∀ f ∈ plainSchema.fields, f.kind ≠ none) ∧
      ofDocument mixedDocument = .ok plainSchema ∧
      (∃ doc, plainSchema.toDocument = .ok doc ∧ ∃ t, ofDocument doc = .ok t) ∧
      ∃ doc, plainSchema.toDocument = .ok doc ∧ ofDocument doc = .ok plainSchema ∧
        SameDocument mixedDocument doc := by
  have hk : ∀ f ∈ plainSchema.fields, f.kind ≠ none := by decide
  have hd : ofDocument mixedDocument = .ok plainSchema := rfl
  obtain ⟨doc, ht, hs, -⟩ := document_roundTrip.1 plainSchema hk
  exact ⟨hk, hd, ⟨doc, ht, hs.mpr (by decide)⟩, document_roundTrip.2 _ _ hd⟩

end FieldGuard.Schema
