import FieldGuard.Proofs.Validation.Field

namespace FieldGuard

theorem Traced.result_bind {ε α β : Type} (x : Traced ε α) (g : α → Traced ε β) :
    (x >>= g).result = x.result >>= fun a => (g a).result := by
  cases h : x.result with
  | ok a =>
    rw [Traced.bind_ok g h]
    rfl
  | error e =>
    rw [Traced.bind_error g h]
    rfl

namespace Validator

variable {fields : Fields} {fs : List Field} {names : List String} {found : List Violation}
  {e : Failure}

def tagged (fs : List Field) : List Field := fs.filter Field.isTagged

def Blocks (fs : List Field) (blocks : List (List Violation)) : Prop :=
  List.Forall₂ (fun f block => ∃ tag, f.tag = some tag ∧ Block f tag block) (tagged fs) blocks

inductive Blocked [Host] (fields : Fields) : Failure → Prop
  | hidden {fault : FieldFault} (h : .error fault ∈ fields) : Blocked fields (.field fault)
  | tag {f : Field} {tag : Value} {e : Failure} (hf : .ok f ∈ fields) (ht : f.tag = some tag)
      (h : TagDefect f tag e) : Blocked fields e

def Walked (fields : Fields) (names : List String) (found : List Violation) : Prop :=
  ∃ fs blocks, fields = fs.map .ok ∧ Blocks fs blocks ∧ names = (tagged fs).map Field.name ∧
    found = blocks.flatten

section Untagged

variable {f : Field} (h : f.tag = none) {rest : Fields}
include h

theorem tagged_cons_of_none (fs : List Field) : tagged (f :: fs) = tagged fs :=
  List.filter_cons_of_neg (by simp [Field.isTagged, h])

theorem walked_iff_of_none : Walked (.ok f :: rest) names found ↔ Walked rest names found := by
  constructor
  · rintro ⟨fs, blocks, hf, hb, hn, hv⟩
    obtain ⟨g, fs, rfl, hg, rfl⟩ := List.map_eq_cons_iff.mp hf.symm
    cases hg
    rw [Blocks, tagged_cons_of_none h] at hb
    rw [tagged_cons_of_none h] at hn
    exact ⟨fs, blocks, rfl, hb, hn, hv⟩
  · rintro ⟨fs, blocks, rfl, hb, hn, hv⟩
    refine ⟨f :: fs, blocks, rfl, ?_, ?_, hv⟩
    · rw [Blocks, tagged_cons_of_none h]
      exact hb
    · rw [tagged_cons_of_none h]
      exact hn

variable [Host]

theorem checkFields_skip : checkFields (.ok f :: rest) = checkFields rest := by
  rw [checkFields]
  dsimp only
  rw [h]

theorem checkFields_of_none :
    (checkFields (.ok f :: rest)).result = (checkFields rest).result := by
  rw [checkFields_skip h]

theorem blocked_iff_of_none : Blocked (.ok f :: rest) e ↔ Blocked rest e := by
  constructor
  · intro hb
    cases hb with
    | hidden hm => exact .hidden (by simpa using hm)
    | @tag g tag _ hg ht hd =>
      rcases List.mem_cons.mp hg with hg | hg
      · cases hg
        rw [h] at ht
        cases ht
      · exact .tag hg ht hd
  · intro hb
    cases hb with
    | hidden hm => exact .hidden (List.mem_cons_of_mem _ hm)
    | tag hg ht hd => exact .tag (List.mem_cons_of_mem _ hg) ht hd

end Untagged

section Tagged

variable {f : Field} {tag : Value} (h : f.tag = some tag) {rest : Fields}
include h

theorem tagged_cons_of_some (fs : List Field) : tagged (f :: fs) = f :: tagged fs :=
  List.filter_cons_of_pos (by simp [Field.isTagged, h])

theorem walked_iff_of_some :
    Walked (.ok f :: rest) names found ↔ ∃ block names' found', Block f tag block ∧
      Walked rest names' found' ∧ names = f.name :: names' ∧ found = block ++ found' := by
  constructor
  · rintro ⟨fs, blocks, hf, hb, rfl, rfl⟩
    obtain ⟨g, fs, rfl, hg, rfl⟩ := List.map_eq_cons_iff.mp hf.symm
    cases hg
    rw [Blocks, tagged_cons_of_some h] at hb
    obtain ⟨block, blocks, ⟨tag', ht, hd⟩, hbs, rfl⟩ := List.forall₂_cons_left_iff.mp hb
    rw [h] at ht
    cases ht
    refine ⟨block, _, _, hd, ⟨fs, blocks, rfl, hbs, rfl, rfl⟩, ?_, List.flatten_cons⟩
    rw [tagged_cons_of_some h, List.map_cons]
  · rintro ⟨block, names', found', hd, ⟨fs, blocks, rfl, hb, rfl, rfl⟩, rfl, rfl⟩
    refine ⟨f :: fs, block :: blocks, rfl, ?_, ?_, List.flatten_cons.symm⟩
    · rw [Blocks, tagged_cons_of_some h]
      exact .cons ⟨tag, h, hd⟩ hb
    · rw [tagged_cons_of_some h, List.map_cons]

variable [Host]

theorem checkFields_step :
    checkFields (.ok f :: rest) = checkField f tag >>= fun block =>
      checkFields rest >>= fun r => pure (f.name :: r.1, block ++ r.2) := by
  rw [checkFields]
  dsimp only
  rw [h]

theorem checkFields_of_some :
    (checkFields (.ok f :: rest)).result = (checkField f tag).result >>= fun block =>
      (checkFields rest).result.map fun r => (f.name :: r.1, block ++ r.2) := by
  rw [checkFields_step h, Traced.result_bind]
  congr 1
  funext block
  rw [Traced.result_bind]
  cases (checkFields rest).result <;> rfl

theorem blocked_iff_of_some :
    Blocked (.ok f :: rest) e ↔ TagDefect f tag e ∨ Blocked rest e := by
  constructor
  · intro hb
    cases hb with
    | hidden hm => exact .inr (.hidden (by simpa using hm))
    | @tag g tag' _ hg ht hd =>
      rcases List.mem_cons.mp hg with hg | hg
      · cases hg
        rw [h] at ht
        cases ht
        exact .inl hd
      · exact .inr (.tag hg ht hd)
  · rintro (hd | hb)
    · exact .tag (List.mem_cons_self ..) h hd
    · cases hb with
      | hidden hm => exact .hidden (List.mem_cons_of_mem _ hm)
      | tag hg ht hd => exact .tag (List.mem_cons_of_mem _ hg) ht hd

end Tagged

theorem not_walked_error (fault : FieldFault) (rest : Fields) :
    ¬Walked (.error fault :: rest) names found := by
  rintro ⟨fs, blocks, hf, -⟩
  cases fs with
  | nil => cases hf
  | cons f fs => cases hf

theorem walked_nil_iff : Walked [] names found ↔ names = [] ∧ found = [] := by
  constructor
  · rintro ⟨fs, blocks, hf, hb, rfl, rfl⟩
    obtain rfl := List.map_eq_nil_iff.mp hf.symm
    cases hb
    exact ⟨rfl, rfl⟩
  · rintro ⟨rfl, rfl⟩
    exact ⟨[], [], rfl, .nil, rfl, rfl⟩

variable [Host]

theorem not_blocked_nil : ¬Blocked [] e := by
  rintro (hm | ⟨hm, -, -⟩) <;> cases hm

theorem checkFields_eq_ok_iff :
    (checkFields fields).result = .ok (names, found) ↔
      (∀ e, ¬Blocked fields e) ∧ Walked fields names found := by
  induction fields generalizing names found with
  | nil =>
    have hr : (checkFields []).result = .ok ([], []) := rfl
    rw [hr, walked_nil_iff, and_iff_right fun e => not_blocked_nil]
    simp [eq_comm]
  | cons x rest ih =>
    cases x with
    | error fault =>
      constructor
      · intro h
        cases h
      · rintro ⟨-, h⟩
        exact absurd h (not_walked_error fault rest)
    | ok f =>
      cases ht : f.tag with
      | none =>
        rw [checkFields_of_none ht, walked_iff_of_none ht, ih]
        simp only [blocked_iff_of_none ht]
      | some tag =>
        rw [checkFields_of_some ht, walked_iff_of_some ht, Traversal.bind_eq_ok_iff]
        simp only [Traversal.map_eq_ok_iff, blocked_iff_of_some ht, not_or, forall_and]
        constructor
        · rintro ⟨block, hb, ⟨names', found'⟩, hr, he⟩
          cases he
          obtain ⟨hd, hb⟩ := checkField_eq_ok_iff.mp hb
          obtain ⟨hs, hw⟩ := ih.mp hr
          exact ⟨⟨hd, hs⟩, block, names', found', hb, hw, rfl, rfl⟩
        · rintro ⟨⟨hd, hs⟩, block, names', found', hb, hw, rfl, rfl⟩
          exact ⟨block, checkField_eq_ok_iff.mpr ⟨hd, hb⟩, _, ih.mpr ⟨hs, hw⟩, rfl⟩

theorem blocked_of_checkFields (h : (checkFields fields).result = .error e) :
    Blocked fields e := by
  induction fields with
  | nil => cases h
  | cons x rest ih =>
    cases x with
    | error fault =>
      cases h
      exact .hidden (List.mem_cons_self ..)
    | ok f =>
      cases ht : f.tag with
      | none =>
        rw [checkFields_of_none ht] at h
        exact (blocked_iff_of_none ht).mpr (ih h)
      | some tag =>
        rw [checkFields_of_some ht, Traversal.bind_eq_error_iff] at h
        rw [blocked_iff_of_some ht]
        rcases h with h | ⟨block, -, h⟩
        · exact .inl (tagDefect_of_checkField h)
        · exact .inr (ih (Traversal.map_eq_error_iff.mp h))

end Validator

end FieldGuard
