import FieldGuard.Proofs.Json.RoundTrip
import FieldGuard.Proofs.Schema.File
import FieldGuard.Proofs.Schema.RoundTrip

namespace FieldGuard.Schema

open String (utf8EncodeChar)
open Json (IsJson IsWritten)

theorem isJson_row (room : Nat) (row : Row) : IsJson (room + 1) row.document := by
  apply IsJson.keyed
  · cases row.tag <;> simp [Document.tagKey]
  · intro p hp
    simp only [List.mem_append, List.mem_cons, List.not_mem_nil, or_false, Option.mem_toList,
      Option.map_eq_some_iff] at hp
    rcases hp with (rfl | rfl) | ⟨tag, -, rfl⟩
    · exact .text _ _
    · exact .text _ _
    · exact .text _ tag

theorem isJson_outline (room : Nat) (o : Outline) : IsJson (room + 3) o.document := by
  apply IsJson.keyed
  · cases o.description <;> simp
  · intro p hp
    simp only [List.mem_append, List.mem_cons, List.not_mem_nil, or_false, Option.mem_toList,
      Option.map_eq_some_iff] at hp
    rcases hp with (rfl | rfl) | ⟨description, -, rfl⟩
    · exact .text _ _
    · apply IsJson.list
      intro v hv
      obtain ⟨row, -, rfl⟩ := List.mem_map.mp hv
      exact isJson_row room row
    · exact .text _ description

theorem unifyLineEnds_of_isWritten {cs : List Char} (h : ∀ c ∈ cs, IsWritten c) :
    Text.unifyLineEnds cs = cs := by
  apply Text.unifyLineEnds_of_not_mem
  intro hm
  have hw := h '\r' hm
  revert hw
  decide

section Saving

variable [DepthLimit] [StandIns] [Document.Checker]

theorem load_of_read {file : String} {cs : List Char} {v : Value} {s : Schema}
    (hw : ∀ c ∈ cs, IsWritten c) (hr : Json.read (DepthLimit.limit .reading) cs = .ok v)
    (hd : ofDocument v = .ok s) :
    load file (some (cs.flatMap utf8EncodeChar)) =
      ⟨[.loaded s.name s.fields.length file], .ok s⟩ := by
  have hb : ofBytes file (cs.flatMap utf8EncodeChar) = .ok s := by
    rw [ofBytes_of_utf8 rfl, jsonOf, unifyLineEnds_of_isWritten hw, hr]
    simp only [hd]
  unfold load
  dsimp only
  rw [hb, Traced.bind_ok _ rfl]
  rfl

theorem load_savedDocument (file : String) {d : Value} {s : Schema} (h : ofDocument d = .ok s) :
    ∃ doc text, s.toDocument = .ok doc ∧ Json.write doc = .ok text ∧
      (∀ c ∈ text.toList, IsWritten c) ∧
      load file (some (text.toList.flatMap utf8EncodeChar)) =
        ⟨[.loaded s.name s.fields.length file], .ok s⟩ := by
  obtain ⟨o, ho, hdoc⟩ := exists_renders_of_ofDocument h
  obtain ⟨text, hw, hr, ha⟩ := Json.exists_write (isJson_outline 5 o)
  exact ⟨o.document, text, toDocument_of_renders ho, hw, ha, load_of_read ha hr hdoc⟩

end Saving

def unicodeDocument : Value :=
  .keyed [("description", .text "\u2028\x00\x7f\\\"\r\n"),
    ("fields", .list [.keyed [("kind", .text "STRING"), ("validate", .text "in:\u00e9,\t\ud7ff"),
      ("name", .text "😀")]]),
    ("name", .text "\"\\/\x08\ue000")]

def unicodeSchema : Schema :=
  ⟨"\"\\/\x08\ue000", [⟨"😀", some .string, some "in:\u00e9,\t\ud7ff"⟩],
    some "\u2028\x00\x7f\\\"\r\n"⟩

theorem load_savedDocument_unicode :
    ofDocument unicodeDocument = .ok unicodeSchema ∧
      ∃ doc text, unicodeSchema.toDocument = .ok doc ∧ Json.write doc = .ok text ∧
        (∀ c ∈ text.toList, IsWritten c) ∧
        load "s.json" (some (text.toList.flatMap utf8EncodeChar)) =
          ⟨[.loaded unicodeSchema.name 1 "s.json"], .ok unicodeSchema⟩ := by
  have hd : ofDocument unicodeDocument = .ok unicodeSchema := rfl
  exact ⟨hd, load_savedDocument "s.json" hd⟩

end FieldGuard.Schema
