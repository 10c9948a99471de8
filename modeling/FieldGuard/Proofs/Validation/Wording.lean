import FieldGuard.Proofs.Validation.Field

/-!
The words of the violations that tagged fields have: only those about a value name the field in
their message, and what else they say stands on one line.
-/

namespace FieldGuard

def Violation.IsOfValue (x : Violation) : Prop :=
  x.code = .typeMismatch ∨ x.code = .constraintFailed

instance (x : Violation) : Decidable x.IsOfValue :=
  inferInstanceAs (Decidable (_ ∨ _))

namespace Constraint

variable {c : Constraint} {field words : String} {els : Elements} {vs : List Violation}

theorem newline_not_mem_of_failsInteger {n : Int} (h : c.FailsInteger n words) :
    '\n' ∉ words.toList := by
  cases h <;> decide

theorem newline_not_mem_of_failsString {s : String} (h : c.FailsString s words) :
    '\n' ∉ words.toList := by
  cases h <;> decide

theorem exists_of_mem_finds (h : c.Finds field els vs) :
    ∀ x ∈ vs, ∃ words : String, '\n' ∉ words.toList ∧ x = .failed field words := by
  intro x hx
  cases els with
  | integers ns =>
    obtain ⟨n, words, hf, rfl⟩ := exists_of_mem_found h x hx
    exact ⟨words, newline_not_mem_of_failsInteger hf, rfl⟩
  | strings ss =>
    obtain ⟨s, words, hf, rfl⟩ := exists_of_mem_found h x hx
    exact ⟨words, newline_not_mem_of_failsString hf, rfl⟩

end Constraint

namespace Validator

variable {f : Field} {tag : Value} {k : Kind} {c : Constraint} {block : List Violation}

/-- The violations that a field of the given name can have. The record as a whole counts as a field
with the empty name. -/
inductive Concerns : String → Violation → Prop
  | notRecord : Concerns "" .notRecord
  | unexported (name : String) : Concerns name (.unexported name)
  | invalidTag (name : String) : Concerns name (.invalidTag name)
  | value {name detail : String} {x : Violation} (hf : x.field = name)
      (hm : x.message = Violation.wrongField name detail) (hd : '\n' ∉ detail.toList)
      (hc : x.IsOfValue) : Concerns name x

theorem Concerns.field_eq {name : String} {x : Violation} (h : Concerns name x) :
    x.field = name := by
  cases h with
  | notRecord | unexported | invalidTag => rfl
  | value hf _ _ _ => exact hf

theorem newline_not_mem_mismatch (k : Kind) :
    '\n' ∉ ("value does not match declared type " ++ k.text).toList := by
  cases k <;> decide

theorem concerns_of_block (h : Block f tag block) : ∀ x ∈ block, Concerns f.name x := by
  intro x hx
  cases h with
  | unexported _ =>
    rw [List.mem_singleton.mp hx]
    exact .unexported f.name
  | invalid _ _ =>
    rw [List.mem_singleton.mp hx]
    exact .invalidTag f.name
  | missing _ _ _ =>
    rw [List.mem_singleton.mp hx]
    exact .value rfl rfl (by decide) (.inl rfl)
  | @mismatch k _ _ _ _ _ _ =>
    rw [List.mem_singleton.mp hx]
    exact .value rfl rfl (newline_not_mem_mismatch k) (.inl rfl)
  | checked _ _ _ _ hf =>
    obtain ⟨words, hw, rfl⟩ := Constraint.exists_of_mem_finds hf x hx
    exact .value rfl rfl hw (.inr rfl)

theorem isOfValue_of_constrains (hp : ¬IsPrivate f) (hc : Constrains f tag k c)
    (h : Block f tag block) : ∀ x ∈ block, x.IsOfValue := by
  intro x hx
  cases h with
  | unexported h => exact absurd h hp
  | invalid _ h => exact absurd hc (h k c)
  | missing _ _ _ | mismatch _ _ _ _ =>
    rw [List.mem_singleton.mp hx]
    exact .inl rfl
  | checked _ _ _ _ hf =>
    obtain ⟨words, -, rfl⟩ := Constraint.exists_of_mem_finds hf x hx
    exact .inr rfl

end Validator

end FieldGuard
