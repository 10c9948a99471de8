import FieldGuard.Proofs.Traversal
import FieldGuard.Record.Basic

namespace FieldGuard

namespace TypeHint

inductive Supports : TypeHint → Kind → Prop
  | text {s : String} {k : Kind} (h : spellings.lookup (withoutSpaces s) = some k) :
      Supports (.text s) k
  | integer : Supports (.type (.type "int")) .integer
  | string : Supports (.type (.type "str")) .string
  | integerList {head : Head} (h : Meaning.isList head = true) :
      Supports (.type (.applied head [.type "int"])) .integerList
  | stringList {head : Head} (h : Meaning.isList head = true) :
      Supports (.type (.applied head [.type "str"])) .stringList

inductive Unhashable : TypeHint → String → Prop
  | item {head : Head} {item : Meaning} {name : String} (h : Meaning.isList head = true)
      (hi : item.unhashable? = some name) : Unhashable (.type (.applied head [item])) name

theorem classKinds?_eq_some_iff {m : Meaning} {scalar list : Kind} :
    m.classKinds? = some (scalar, list) ↔
      m = .type "int" ∧ scalar = .integer ∧ list = .integerList ∨
        m = .type "str" ∧ scalar = .string ∧ list = .stringList := by
  cases m with
  | type name =>
    by_cases hi : name = "int"
    · subst hi
      simp [Meaning.classKinds?, eq_comm]
    · by_cases hs : name = "str"
      · subst hs
        simp [Meaning.classKinds?, eq_comm]
      · simp [Meaning.classKinds?, hi, hs]
  | _ => simp [Meaning.classKinds?]

theorem kind?_list {head : Head} (h : Meaning.isList head = true) (item : Meaning) :
    (TypeHint.type (.applied head [item])).kind? = match item.unhashable? with
      | some name => .error (.unhashable name)
      | none => .ok (item.classKinds?.map Prod.snd) := by
  cases hu : item.unhashable? with
  | some name => simp [kind?, Meaning.kind?, h, hu]
  | none => simp [kind?, Meaning.kind?, h, hu]

theorem kind?_type {m : Meaning} (h : ∀ head item, m = .applied head [item] →
    Meaning.isList head = false) : (TypeHint.type m).kind? = .ok (m.classKinds?.map Prod.fst) := by
  rw [kind?]
  unfold Meaning.kind?
  split
  · rename_i head item
    rw [if_neg (by simp [h head item rfl])]
    rfl
  · rfl

theorem kind?_generic {head : String} (h : Meaning.isList (.generic head) = false)
    (args : List Meaning) : (Meaning.applied (.generic head) args).kind? = .ok none := by
  apply kind?_type
  rintro _ item he
  cases he
  exact h

theorem exists_applied_or (m : Meaning) :
    (∃ head item, m = .applied head [item] ∧ Meaning.isList head = true) ∨
      ∀ head item, m = .applied head [item] → Meaning.isList head = false := by
  by_cases h : ∃ head item, m = .applied head [item] ∧ Meaning.isList head = true
  · exact .inl h
  · right
    intro head item hm
    by_contra hl
    exact h ⟨head, item, hm, by simpa using hl⟩

theorem kind?_eq_error_iff {hint : TypeHint} {fault : Fault} :
    hint.kind? = .error fault ↔ ∃ name, hint.Unhashable name ∧ fault = .unhashable name := by
  constructor
  · intro h
    cases hint with
    | text s => cases h
    | type m =>
      rcases exists_applied_or m with ⟨head, item, rfl, hl⟩ | hm
      · rw [kind?_list hl] at h
        cases hu : item.unhashable? <;> rw [hu] at h <;> cases h
        exact ⟨_, .item hl hu, rfl⟩
      · rw [kind?_type hm] at h
        cases h
  · rintro ⟨name, h, rfl⟩
    cases h with
    | item hl hu => rw [kind?_list hl, hu]

theorem kind?_eq_ok_some_iff {hint : TypeHint} {k : Kind} :
    hint.kind? = .ok (some k) ↔ hint.Supports k := by
  constructor
  · intro h
    cases hint with
    | text s => exact .text (Except.ok.inj h)
    | type m =>
      rcases exists_applied_or m with ⟨head, item, rfl, hl⟩ | hm
      · rw [kind?_list hl] at h
        cases hu : item.unhashable? <;> rw [hu] at h
        · obtain ⟨⟨scalar, list⟩, hk, rfl⟩ := Option.map_eq_some_iff.mp (Except.ok.inj h)
          rcases classKinds?_eq_some_iff.mp hk with ⟨rfl, -, rfl⟩ | ⟨rfl, -, rfl⟩
          · exact .integerList hl
          · exact .stringList hl
        · cases h
      · rw [kind?_type hm] at h
        obtain ⟨⟨scalar, list⟩, hk, rfl⟩ := Option.map_eq_some_iff.mp (Except.ok.inj h)
        rcases classKinds?_eq_some_iff.mp hk with ⟨rfl, rfl, -⟩ | ⟨rfl, rfl, -⟩
        · exact .integer
        · exact .string
  · intro h
    cases h with
    | text h => exact congrArg Except.ok h
    | integer | string => rfl
    | integerList hl | stringList hl =>
      rw [kind?_list hl]
      rfl

end TypeHint

namespace RecordType

open TypeHint (Fault)

variable {t : RecordType Value} {held : Entries String Value} {tagKey : String}
  {d : FieldDecl Value} {f : Field} {kind : FieldDecl Value → Except Fault (Option Kind)}

theorem fieldOf_eq_ok (h : t.fieldOf held tagKey kind d = .ok f) :
    kind d = .ok f.kind ∧ f.name = d.name ∧
      f.tag = (d.metadata.lookup tagKey).bind Field.tagOf ∧
      f.value = t.valueOf? held d.name := by
  unfold fieldOf at h
  cases hk : kind d with
  | error fault =>
    rw [hk] at h
    cases h
  | ok k =>
    rw [hk] at h
    cases h
    exact ⟨rfl, rfl, rfl, rfl⟩

variable [DepthLimit] [TypeHint.Evaluator]

/-- The hint that gives a field its kind: what it denotes if all hints of the type denote something,
and else the hint as it is written. -/
inductive Reads (t : RecordType Value) (d : FieldDecl Value) : TypeHint → Prop
  | resolved {meanings : Entries String TypeHint.Meaning} {m : TypeHint.Meaning}
      (h : t.resolution = .ok meanings) (hm : meanings.lookup d.name = some m) :
      Reads t d (.type m)
  | unlisted {meanings : Entries String TypeHint.Meaning} (h : t.resolution = .ok meanings)
      (hm : meanings.lookup d.name = none) : Reads t d d.hint
  | unresolved (h : t.resolution = .error .unresolved) : Reads t d d.hint

inductive HintDefect (t : RecordType Value) : Fault → Prop
  | unresolvable {fault : Fault} (h : t.resolution = .error fault) (hn : fault ≠ .unresolved) :
      HintDefect t fault
  | unhashable {d : FieldDecl Value} {hint : TypeHint} {name : String} (hd : d ∈ t.fields)
      (hr : t.Reads d hint) (h : hint.Unhashable name) : HintDefect t (.unhashable name)

structure Shows (t : RecordType Value) (held : Entries String Value) (tagKey : String)
    (d : FieldDecl Value) (f : Field) : Prop where
  name_eq : f.name = d.name
  kind_iff : ∃ hint, t.Reads d hint ∧ (∀ name, ¬hint.Unhashable name) ∧
    ∀ k, f.kind = some k ↔ hint.Supports k
  tag_eq : f.tag = (d.metadata.lookup tagKey).bind Field.tagOf
  value_eq : f.value = t.valueOf? held d.name

theorem kindReader_eq_error_iff {fault : Fault} :
    t.kindReader = .error fault ↔ t.resolution = .error fault ∧ fault ≠ .unresolved := by
  unfold kindReader
  cases t.resolution with
  | ok meanings => simp
  | error other => cases other <;> simp <;> rintro rfl <;> simp

theorem Reads.kind_eq {hint : TypeHint} (hr : t.Reads d hint) (h : t.kindReader = .ok kind) :
    kind d = hint.kind? := by
  unfold kindReader at h
  cases hr with
  | resolved hr hm =>
    rw [hr] at h
    cases h
    rw [resolvedKind, hm]
    rfl
  | unlisted hr hm =>
    rw [hr] at h
    cases h
    rw [resolvedKind, hm]
  | unresolved hr =>
    rw [hr] at h
    cases h
    rfl

theorem exists_reads (h : t.kindReader = .ok kind) (d : FieldDecl Value) :
    ∃ hint, t.Reads d hint := by
  unfold kindReader at h
  cases hr : t.resolution with
  | ok meanings =>
    cases hm : meanings.lookup d.name with
    | some m => exact ⟨.type m, .resolved hr hm⟩
    | none => exact ⟨d.hint, .unlisted hr hm⟩
  | error fault =>
    rw [hr] at h
    cases fault with
    | unresolved => exact ⟨d.hint, .unresolved hr⟩
    | _ => cases h

theorem fieldOf_eq_ok_iff (h : t.kindReader = .ok kind) :
    t.fieldOf held tagKey kind d = .ok f ↔ t.Shows held tagKey d f := by
  constructor
  · intro hf
    obtain ⟨hint, hr⟩ := exists_reads h d
    obtain ⟨hk, hn, ht, hv⟩ := fieldOf_eq_ok hf
    rw [hr.kind_eq h] at hk
    refine ⟨hn, ⟨hint, hr, fun name hu => ?_, fun k' => ?_⟩, ht, hv⟩
    · rw [TypeHint.kind?_eq_error_iff.mpr ⟨name, hu, rfl⟩] at hk
      cases hk
    · rw [← TypeHint.kind?_eq_ok_some_iff, hk, Except.ok.injEq]
  · rintro ⟨hn, ⟨hint, hr, hu, hs⟩, ht, hv⟩
    unfold fieldOf
    rw [hr.kind_eq h]
    cases hk : hint.kind? with
    | error fault =>
      obtain ⟨name, hun, -⟩ := TypeHint.kind?_eq_error_iff.mp hk
      exact absurd hun (hu name)
    | ok k =>
      have hfk : k = f.kind := by
        ext k'
        rw [hs, ← TypeHint.kind?_eq_ok_some_iff, hk, Except.ok.injEq]
      dsimp only
      rw [hfk, ← hv, ← ht, ← hn]

theorem fieldOf_eq_error_iff (h : t.kindReader = .ok kind) {e : FieldFault} :
    t.fieldOf held tagKey kind d = .error e ↔
      ∃ hint name, t.Reads d hint ∧ hint.Unhashable name ∧ e = .hint (.unhashable name) := by
  constructor
  · intro he
    obtain ⟨hint, hr⟩ := exists_reads h d
    unfold fieldOf at he
    rw [hr.kind_eq h] at he
    cases hk : hint.kind? with
    | ok k =>
      rw [hk] at he
      cases he
    | error fault =>
      rw [hk] at he
      cases he
      obtain ⟨name, hu, rfl⟩ := TypeHint.kind?_eq_error_iff.mp hk
      exact ⟨hint, name, hr, hu, rfl⟩
  · rintro ⟨hint, name, hr, hu, rfl⟩
    unfold fieldOf
    rw [hr.kind_eq h, TypeHint.kind?_eq_error_iff.mpr ⟨name, hu, rfl⟩]

theorem fieldsOf_of_kindReader (h : t.kindReader = .ok kind) (held : Entries String Value)
    (tagKey : String) :
    t.fieldsOf held tagKey = t.fields.map (t.fieldOf held tagKey kind) := by
  rw [fieldsOf, h]

theorem fieldsOf_of_error {fault : Fault} (h : t.kindReader = .error fault)
    (held : Entries String Value) (tagKey : String) :
    t.fieldsOf held tagKey = [.error (.hint fault)] := by
  rw [fieldsOf, h]

theorem exists_kindReader (h : ∀ fault, ¬t.HintDefect fault) :
    ∃ kind, t.kindReader = .ok kind := by
  cases hk : t.kindReader with
  | ok kind => exact ⟨kind, rfl⟩
  | error fault =>
    obtain ⟨hr, hn⟩ := kindReader_eq_error_iff.mp hk
    exact absurd (.unresolvable hr hn) (h fault)

theorem fieldsOf_eq_map_ok_iff (h : ∀ fault, ¬t.HintDefect fault) {fs : List Field} :
    t.fieldsOf held tagKey = fs.map .ok ↔ List.Forall₂ (t.Shows held tagKey) t.fields fs := by
  obtain ⟨kind, hk⟩ := exists_kindReader h
  rw [fieldsOf_of_kindReader hk, Traversal.map_eq_map_ok_iff]
  simp only [fieldOf_eq_ok_iff hk]

theorem exists_shows (h : ∀ fault, ¬t.HintDefect fault) (held : Entries String Value)
    (tagKey : String) : ∃ fs, List.Forall₂ (t.Shows held tagKey) t.fields fs := by
  obtain ⟨kind, hk⟩ := exists_kindReader h
  apply Traversal.exists_forall₂
  intro d hd
  cases hf : t.fieldOf held tagKey kind d with
  | ok f => exact ⟨f, (fieldOf_eq_ok_iff hk).mp hf⟩
  | error e =>
    obtain ⟨hint, name, hr, hu, rfl⟩ := (fieldOf_eq_error_iff hk).mp hf
    exact absurd (.unhashable hd hr hu) (h _)

end RecordType

end FieldGuard
