import FieldGuard.Proofs.Traversal
import FieldGuard.Schema.Document

/-!
What a schema document says: a name, perhaps a description, and a row for each field. The values
that the document format accepts are those that write such an outline.
-/

namespace FieldGuard

namespace Kind

/-- The ways to write a kind: its own spelling, or its constant name in any case between blanks. -/
def Spells (s : String) (k : Kind) : Prop :=
  k.text = s ∨ Text.upper (Text.strip s.toList) = k.constantName.toList

theorem constantName_injective {k l : Kind} (h : k.constantName.toList = l.constantName.toList) :
    k = l := by
  revert h
  cases k <;> cases l <;> decide

theorem spells_text_iff {k l : Kind} : Spells k.text l ↔ k = l := by
  constructor
  · rintro (h | h)
    · exact (text_injective h).symm
    · revert h
      cases k <;> cases l <;> decide
  · rintro rfl
    exact .inl rfl

theorem spells_unique {s : String} {k l : Kind} (h : Spells s k) (h' : Spells s l) : k = l := by
  rcases h with rfl | h
  · exact spells_text_iff.mp h'
  · rcases h' with rfl | h'
    · exact (spells_text_iff.mp (.inr h)).symm
    · exact constantName_injective (h.symm.trans h')

theorem ofName?_eq_some_iff {s : String} {k : Kind} : ofName? s = some k ↔ Spells s k := by
  have sound : ∀ k, ofName? s = some k → Spells s k := by
    intro k h
    rw [ofName?, Option.or_eq_some_iff] at h
    rcases h with h | ⟨-, h⟩
    · exact .inl (text_of_ofText? h)
    · have := List.find?_some h
      exact .inr (beq_iff_eq.mp this).symm
  refine ⟨sound k, fun h => ?_⟩
  cases hs : ofName? s with
  | some l => rw [spells_unique (sound l hs) h]
  | none =>
    rw [ofName?, Option.or_eq_none_iff] at hs
    have hk : k ∈ all := by cases k <;> decide
    rcases h with h | h
    · exact absurd (beq_iff_eq.mpr h) (List.find?_eq_none.mp hs.1 k hk)
    · exact absurd (beq_iff_eq.mpr h.symm) (List.find?_eq_none.mp hs.2 k hk)

theorem ofName?_eq_none_iff {s : String} : ofName? s = none ↔ ∀ k, ¬Spells s k := by
  simp only [← ofName?_eq_some_iff, Option.eq_none_iff_forall_ne_some]

end Kind

namespace Schema

@[ext]
structure Row where
  name : String
  kind : String
  tag : Option String

@[ext]
structure Outline where
  name : String
  description : Option String
  rows : List Row

structure Row.WrittenIn (row : Row) (es : Entries Value Value) : Prop where
  keys : ∀ k ∈ es.keys, k ∈ [Value.text "name", .text "kind", .text "validate"]
  name : Value.lookup es "name" = some (.text row.name)
  name_ne : row.name ≠ ""
  kind : Value.lookup es "kind" = some (.text row.kind)
  kind_ne : row.kind ≠ ""
  tag : Value.lookup es "validate" = row.tag.map .text

def Row.Writes (row : Row) (entry : Value) : Prop :=
  ∃ es, entry.writableEntries? = some es ∧ row.WrittenIn es

structure Outline.WrittenIn (o : Outline) (es : Entries Value Value) : Prop where
  keys : ∀ k ∈ es.keys, k ∈ [Value.text "name", .text "description", .text "fields"]
  name : Value.lookup es "name" = some (.text o.name)
  name_ne : o.name ≠ ""
  description : Value.lookup es "description" = o.description.map .text
  fields : ∃ entries, Value.lookup es "fields" = some (.list entries) ∧
    List.Forall₂ Row.Writes o.rows entries

def Outline.Writes (o : Outline) (doc : Value) : Prop :=
  ∃ es, doc.writableEntries? = some es ∧ o.WrittenIn es

open Document

section Form

theorem accepts_text_iff {nonempty : Bool} {v : Value} :
    (Format.text nonempty).accepts v = true ↔ ∃ s, v = .text s ∧ (nonempty = true → s ≠ "") := by
  cases v with
  | text s => cases nonempty <;> simp [Format.accepts]
  | _ => simp [Format.accepts]

theorem accepts_list_iff {item : Format} {v : Value} :
    (Format.list item).accepts v = true ↔
      ∃ items, v = .list items ∧ ∀ w ∈ items, item.accepts w = true := by
  cases v with
  | list items => simp [Format.accepts]
  | _ => simp [Format.accepts]

structure InOrder (properties : List (String × Format)) (required : List String)
    (es : Entries Value Value) : Prop where
  accepts : ∀ p ∈ properties, ∀ w, Value.lookup es p.1 = some w → p.2.accepts w = true
  present : ∀ name ∈ required, Value.lookup es name ≠ none
  expected : ∀ k ∈ es.keys, ∃ p ∈ properties, k = .text p.1

theorem acceptsEach_iff {properties : List (String × Format)} {es : Entries Value Value} :
    Format.acceptsEach properties es = true ↔
      ∀ p ∈ properties, ∀ w, Value.lookup es p.1 = some w → p.2.accepts w = true := by
  induction properties with
  | nil => simp [Format.acceptsEach]
  | cons p properties ih =>
    rw [Format.acceptsEach, Bool.and_eq_true, ih, List.forall_mem_cons]
    cases Value.lookup es p.1 <;> simp

theorem accepts_object_iff {properties : List (String × Format)} {required : List String}
    {v : Value} :
    (Format.object properties required).accepts v = true ↔
      ∃ es, v.writableEntries? = some es ∧ InOrder properties required es := by
  rw [Format.accepts]
  cases v.writableEntries? with
  | none => simp
  | some es =>
    simp only [Bool.and_eq_true, acceptsEach_iff, List.all_eq_true, List.any_eq_true,
      Value.isText_iff, Option.isSome_iff_ne_none, Option.some.injEq, exists_eq_left']
    exact ⟨fun h => ⟨h.1.1, h.1.2, h.2⟩, fun h => ⟨⟨h.accepts, h.present⟩, h.expected⟩⟩

variable {es : Entries Value Value} {name : String}

theorem exists_text_of_accepts
    (h : ∀ w, Value.lookup es name = some w → (Format.text false).accepts w = true) :
    ∃ s : Option String, Value.lookup es name = s.map .text := by
  cases hl : Value.lookup es name with
  | none => exact ⟨none, rfl⟩
  | some w =>
    obtain ⟨s, rfl, -⟩ := accepts_text_iff.mp (h w hl)
    exact ⟨some s, rfl⟩

theorem exists_text_of_present (hn : Value.lookup es name ≠ none)
    (h : ∀ w, Value.lookup es name = some w → (Format.text true).accepts w = true) :
    ∃ s, Value.lookup es name = some (.text s) ∧ s ≠ "" := by
  obtain ⟨w, hw⟩ := Option.ne_none_iff_exists'.mp hn
  obtain ⟨s, rfl, hs⟩ := accepts_text_iff.mp (h w hw)
  exact ⟨s, hw, hs rfl⟩

theorem accepts_of_lookup {s : String} (hl : Value.lookup es name = some (.text s)) (hs : s ≠ "")
    {w : Value} (hw : Value.lookup es name = some w) : (Format.text true).accepts w = true := by
  rw [hl, Option.some.injEq] at hw
  exact accepts_text_iff.mpr ⟨s, hw.symm, fun _ => hs⟩

theorem accepts_of_lookup_map {s : Option String} (hl : Value.lookup es name = s.map .text)
    {w : Value} (hw : Value.lookup es name = some w) : (Format.text false).accepts w = true := by
  rw [hl, Option.map_eq_some_iff] at hw
  obtain ⟨t, -, ht⟩ := hw
  exact accepts_text_iff.mpr ⟨t, ht.symm, nofun⟩

end Form

theorem accepts_fieldFormat_iff {entry : Value} :
    fieldFormat.accepts entry = true ↔ ∃ row : Row, row.Writes entry := by
  rw [fieldFormat, accepts_object_iff]
  constructor
  · rintro ⟨es, he, h⟩
    obtain ⟨name, hn, hne⟩ := exists_text_of_present (h.present "name" (by simp))
      (h.accepts ("name", .text true) (by simp))
    obtain ⟨kind, hk, hke⟩ := exists_text_of_present (h.present "kind" (by simp))
      (h.accepts ("kind", .text true) (by simp))
    obtain ⟨tag, ht⟩ :=
      exists_text_of_accepts (h.accepts ("validate", .text false) (by simp [tagKey]))
    exact ⟨⟨name, kind, tag⟩, es, he, fun k hk => by simpa [tagKey] using h.expected k hk, hn, hne,
      hk, hke, ht⟩
  · rintro ⟨row, es, he, h⟩
    refine ⟨es, he, ?_, ?_, ?_⟩
    · simp only [List.forall_mem_cons]
      exact ⟨fun w => accepts_of_lookup h.name h.name_ne,
        fun w => accepts_of_lookup h.kind h.kind_ne, fun w => accepts_of_lookup_map h.tag, nofun⟩
    · simp [h.name, h.kind]
    · intro k hk
      simpa [tagKey] using h.keys k hk

theorem accepts_schemaFormat_iff {doc : Value} :
    schemaFormat.accepts doc = true ↔ ∃ o : Outline, o.Writes doc := by
  rw [schemaFormat, accepts_object_iff]
  constructor
  · rintro ⟨es, he, h⟩
    obtain ⟨name, hn, hne⟩ := exists_text_of_present (h.present "name" (by simp))
      (h.accepts ("name", .text true) (by simp))
    obtain ⟨description, hd⟩ :=
      exists_text_of_accepts (h.accepts ("description", .text false) (by simp))
    obtain ⟨w, hw⟩ := Option.ne_none_iff_exists'.mp (h.present "fields" (by simp))
    obtain ⟨entries, rfl, hi⟩ :=
      accepts_list_iff.mp (h.accepts ("fields", .list fieldFormat) (by simp) w hw)
    obtain ⟨rows, hr⟩ := Traversal.exists_forall₂ fun e hm => accepts_fieldFormat_iff.mp (hi e hm)
    exact ⟨⟨name, description, rows⟩, es, he, fun k hk => by simpa using h.expected k hk, hn, hne,
      hd, entries, hw, hr.flip⟩
  · rintro ⟨o, es, he, h⟩
    obtain ⟨entries, hf, hr⟩ := h.fields
    refine ⟨es, he, ?_, ?_, ?_⟩
    · simp only [List.forall_mem_cons]
      refine ⟨fun w => accepts_of_lookup h.name h.name_ne,
        fun w => accepts_of_lookup_map h.description, fun w hw => ?_, nofun⟩
      rw [hf, Option.some.injEq] at hw
      refine accepts_list_iff.mpr ⟨entries, hw.symm, fun e hm => ?_⟩
      obtain ⟨row, -, hrow⟩ := Traversal.exists_mem_left hr e hm
      exact accepts_fieldFormat_iff.mpr ⟨row, hrow⟩
    · simp [h.name, hf]
    · intro k hk
      simpa using h.keys k hk

def Row.document (row : Row) : Value :=
  .keyed ([("name", .text row.name), ("kind", .text row.kind)] ++
    (row.tag.map fun t => (tagKey, Value.text t)).toList)

def Outline.document (o : Outline) : Value :=
  .keyed ([("name", .text o.name), ("fields", .list (o.rows.map Row.document))] ++
    (o.description.map fun d => ("description", Value.text d)).toList)

theorem Row.writes_document_iff (row : Row) :
    row.Writes row.document ↔ row.name ≠ "" ∧ row.kind ≠ "" := by
  constructor
  · rintro ⟨es, -, h⟩
    exact ⟨h.name_ne, h.kind_ne⟩
  · rintro ⟨hn, hk⟩
    refine ⟨_, rfl, ?_, ?_, hn, ?_, hk, ?_⟩
    · cases row.tag <;> simp [tagKey]
    · rw [Value.lookup_keyed]
      rfl
    · rw [Value.lookup_keyed]
      rfl
    · rw [Value.lookup_keyed]
      cases row.tag <;> rfl

theorem Outline.Writes.texts_ne {o : Outline} {doc : Value} (h : o.Writes doc) :
    o.name ≠ "" ∧ ∀ row ∈ o.rows, row.name ≠ "" ∧ row.kind ≠ "" := by
  obtain ⟨es, -, h⟩ := h
  obtain ⟨entries, -, hr⟩ := h.fields
  refine ⟨h.name_ne, fun row hm => ?_⟩
  obtain ⟨_, -, _, -, hrow⟩ := Traversal.exists_mem_right hr row hm
  exact ⟨hrow.name_ne, hrow.kind_ne⟩

theorem Outline.writes_document_iff (o : Outline) :
    o.Writes o.document ↔ o.name ≠ "" ∧ ∀ row ∈ o.rows, row.name ≠ "" ∧ row.kind ≠ "" := by
  constructor
  · exact Outline.Writes.texts_ne
  · rintro ⟨hn, hr⟩
    refine ⟨_, rfl, ?_, ?_, hn, ?_, o.rows.map Row.document, ?_, ?_⟩
    · cases o.description <;> simp
    · rw [Value.lookup_keyed]
      rfl
    · rw [Value.lookup_keyed]
      cases o.description <;> rfl
    · rw [Value.lookup_keyed]
      rfl
    · rw [List.forall₂_map_right_iff, List.forall₂_same]
      exact fun row hm => row.writes_document_iff.mpr (hr row hm)

end Schema

end FieldGuard
