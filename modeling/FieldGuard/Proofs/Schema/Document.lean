import FieldGuard.Proofs.Traversal
import FieldGuard.Schema.Document

namespace FieldGuard.Schema

theorem kind_of_fieldOfDocument {seen : List String} {index : Nat} {entry : Value}
    {f : SchemaField} (h : fieldOfDocument seen index entry = .ok f) : ∃ k, f.kind = some k := by
  unfold fieldOfDocument at h
  dsimp only at h
  split_ifs at h with hs
  split at h
  · cases h
  · rename_i k hk
    cases h
    exact ⟨k, rfl⟩

theorem kind_of_fieldsOfDocument {entries : List Value} {seen : List String} {index : Nat}
    {fields : List SchemaField} (h : fieldsOfDocument seen index entries = .ok fields) :
    ∀ f ∈ fields, ∃ k, f.kind = some k := by
  induction entries generalizing seen index fields with
  | nil =>
    cases h
    simp
  | cons entry entries ih =>
    rw [fieldsOfDocument, Traversal.bind_eq_ok_iff] at h
    obtain ⟨f, hf, h⟩ := h
    rw [Traversal.bind_eq_ok_iff] at h
    obtain ⟨rest, hr, h⟩ := h
    cases h
    intro g hg
    rcases List.mem_cons.mp hg with rfl | hg
    · exact kind_of_fieldOfDocument hf
    · exact ih hr g hg

theorem kind_of_ofDocument [Document.Checker] {doc : Value} {schema : Schema}
    (h : ofDocument doc = .ok schema) : ∀ f ∈ schema.fields, ∃ k, f.kind = some k := by
  unfold ofDocument at h
  split at h
  · cases h
  · cases h
  · dsimp only at h
    split at h
    · cases h
    · rename_i fields hf
      cases h
      exact kind_of_fieldsOfDocument hf

end FieldGuard.Schema
