import FieldGuard.Host
import FieldGuard.Proofs.Record.Denotation

/-!
Two versions of a record type that differ in the hint of one field only: what the other fields
show in both, and when their kinds are the same.
-/

namespace FieldGuard

structure Layer.DiffersAt (j : String) (l l' : Layer Value) : Prop where
  module_eq : l'.module = l.module
  attributes_eq : l'.attributes = l.attributes
  own_eq : l'.own = l.own
  hints : List.Forall₂ (fun e e' => e'.1 = e.1 ∧ (e.1 ≠ j → e'.2 = e.2)) l.hints l'.hints

namespace RecordType

structure DiffersAt (j : String) (t t' : RecordType Value) : Prop where
  name_eq : t'.name = t.name
  module_eq : t'.module = t.module
  modules_eq : t'.modules = t.modules
  fields_eq : (t'.fields.filter fun d => d.name != j) = t.fields.filter fun d => d.name != j
  layers : List.Forall₂ (Layer.DiffersAt j) t.layers t'.layers

end RecordType

structure FieldDecl.DiffersAt (j : String) (d d' : FieldDecl Value) : Prop where
  name_eq : d'.name = d.name
  default_eq : d'.default = d.default
  metadata_eq : d'.metadata = d.metadata
  hint_eq : d.name ≠ j → d'.hint = d.hint

namespace Chain

variable {j : String} {c c' : Chain} {ds ds' : List (FieldDecl Value)}

structure DiffersAt (j : String) (c c' : Chain) : Prop where
  name_eq : c'.name = c.name
  module_eq : c'.module = c.module
  names_eq : c'.names = c.names
  layers : List.Forall₂ (List.Forall₂ (FieldDecl.DiffersAt j)) c.layers c'.layers

theorem eq_of_differsAt {d d' : FieldDecl Value} (h : d.DiffersAt j d') (hn : d.name ≠ j) :
    d' = d := by
  have hh := h.hint_eq hn
  obtain ⟨hd, hv, hm, -⟩ := h
  cases d
  cases d'
  simp_all

theorem merge_of_differsAt (h : List.Forall₂ (FieldDecl.DiffersAt j) ds ds') :
    List.Forall₂ (FieldDecl.DiffersAt j) (FieldDecl.merge ds) (FieldDecl.merge ds') := by
  have ha : Entries.Agree (FieldDecl.DiffersAt j) (ds.map fun d => (d.name, d))
      (ds'.map fun d => (d.name, d)) := by
    rw [Entries.Agree, List.forall₂_map_left_iff, List.forall₂_map_right_iff]
    exact h.imp fun d d' hd => ⟨hd.name_eq, hd⟩
  rw [FieldDecl.merge, FieldDecl.merge, List.forall₂_map_left_iff, List.forall₂_map_right_iff]
  exact (ha.ofPairs (· == ·)).imp fun e e' he => he.2

theorem DiffersAt.fields_eq (h : c.DiffersAt j c') :
    (c'.fields.filter fun d => d.name != j) = c.fields.filter fun d => d.name != j := by
  -- The changed hint may make its field a class variable, so both filters are taken at once.
  rw [fields, fields, List.filter_filter, List.filter_filter, eq_comm, ← List.forall₂_eq_eq_eq]
  have hd := merge_of_differsAt (List.rel_flatten h.layers)
  have hf := List.rel_filter (p := fun d => d.name != j && !d.hint.isClassVariable c.names)
    (q := fun d => d.name != j && !d.hint.isClassVariable c'.names) ?_ hd
  · apply (Traversal.forall₂_and_mem hf).imp
    rintro d d' ⟨hd, hm, -⟩
    have hj := (List.mem_filter.mp hm).2
    exact (eq_of_differsAt hd (by simp_all)).symm
  · intro d d' hd
    by_cases hj : d.name = j
    · simp [hd.name_eq, hj]
    · simp [h.names_eq, eq_of_differsAt hd hj]

theorem DiffersAt.layer (h : c.DiffersAt j c') (hd : List.Forall₂ (FieldDecl.DiffersAt j) ds ds') :
    (c.layer ds).DiffersAt j (c'.layer ds') := by
  have hv {β : Type} (g : String → Value → β) :
      (ds'.filterMap fun d => d.default.map (g d.name)) =
        ds.filterMap fun d => d.default.map (g d.name) := by
    induction hd with
    | nil => rfl
    | cons he _ ih => rw [List.filterMap_cons, List.filterMap_cons, he.name_eq, he.default_eq, ih]
  refine ⟨h.module_eq, hv fun name v => (name, some v), ?_, ?_⟩
  · show c'.ownNames ds' = c.ownNames ds
    rw [ownNames, ownNames, h.module_eq]
    exact congrArg _ (hv fun name v => (name, v.meaning))
  · show List.Forall₂ _ (ds.map fun d => (d.name, d.hint)) (ds'.map fun d => (d.name, d.hint))
    rw [List.forall₂_map_left_iff, List.forall₂_map_right_iff]
    exact hd.imp fun d d' he => ⟨he.name_eq, he.hint_eq⟩

theorem DiffersAt.toType (h : c.DiffersAt j c') : c.toType.DiffersAt j c'.toType := by
  refine ⟨h.name_eq, h.module_eq, ?_, ?_, ?_⟩
  · show (fun module => if module = c'.module then c'.names else []) = _
    rw [h.module_eq, h.names_eq]
    rfl
  · rw [fields_toType, fields_toType]
    exact h.fields_eq
  · show List.Forall₂ _ (c.layers.map c.layer) (c'.layers.map c'.layer)
    rw [List.forall₂_map_left_iff, List.forall₂_map_right_iff]
    exact h.layers.imp fun _ _ hd => h.layer hd

end Chain

namespace RecordType

open TypeHint (Fault IsListOf Meaning)

variable {t t' : RecordType Value} {j : String} {d : FieldDecl Value}

theorem DiffersAt.attribute?_eq (h : t.DiffersAt j t') (name : String) :
    t'.attribute? name = t.attribute? name := by
  have hr := List.forall₂_reverse_iff.mpr h.layers
  rw [attribute?, attribute?]
  congr 1
  generalize t.layers.reverse = ls at hr ⊢
  generalize t'.layers.reverse = ls' at hr ⊢
  induction hr with
  | nil => rfl
  | cons hd _ ih => rw [List.findSome?_cons, List.findSome?_cons, hd.attributes_eq, ih]

theorem DiffersAt.valueOf?_eq (h : t.DiffersAt j t') (held : Entries String Value)
    (name : String) : t'.valueOf? held name = t.valueOf? held name := by
  rw [valueOf?, valueOf?, h.attribute?_eq]

def PlacedAlike (j name : String) (p p' : Placed) : Prop :=
  p.1.DiffersAt j p'.1 ∧ (name ≠ j → p'.2 = p.2)

theorem DiffersAt.placements (h : t.DiffersAt j t') :
    List.Forall₂ (fun e e' => e'.1 = e.1 ∧ PlacedAlike j e.1 e.2 e'.2)
      t.placements t'.placements := by
  apply List.rel_flatMap h.layers
  intro l l' hl
  rw [List.forall₂_map_left_iff, List.forall₂_map_right_iff]
  exact hl.hints.imp fun e e' he => ⟨he.1, hl, he.2⟩

theorem DiffersAt.placed (h : t.DiffersAt j t') (name : String) :
    Option.Rel (PlacedAlike j name) (t.placed.lookup name) (t'.placed.lookup name) := by
  rw [RecordType.placed, RecordType.placed, Entries.lookup_ofPairs, Entries.lookup_ofPairs]
  exact Entries.rel_lookup (List.forall₂_reverse_iff.mpr h.placements) name

section Evaluated

variable [DepthLimit] [TypeHint.Evaluator]

theorem DiffersAt.denoted_eq (h : t.DiffersAt j t') {name : String} (hn : name ≠ j)
    {p p' : Placed} (hp : PlacedAlike j name p p') : t'.denoted p' = t.denoted p := by
  rw [denoted, denoted, layerScope, layerScope, hp.2 hn, hp.1.own_eq, hp.1.module_eq,
    h.modules_eq]

theorem DiffersAt.evaluatedKind_eq (h : t.DiffersAt j t') (hn : d.name ≠ j) :
    t'.evaluatedKind d = t.evaluatedKind d := by
  have hp := h.placed d.name
  rw [evaluatedKind, evaluatedKind]
  generalize t.placed.lookup d.name = found at hp ⊢
  generalize t'.placed.lookup d.name = found' at hp ⊢
  cases hp with
  | none => rfl
  | some hp =>
    dsimp only
    rw [h.denoted_eq hn hp]

inductive Steady : TypeHint → Prop
  | named (name : String) : Steady (.type (.type name))
  | list {m : Meaning} {name : String} (h : IsListOf m (.type name)) : Steady (.type m)
  | generic {head : String} {args : List Meaning} (h : Meaning.isList (.generic head) = false) :
      Steady (.type (.applied (.generic head) args))

theorem denoted_of_isFixed {hint : TypeHint} {m : Meaning} (h : hint.IsFixed m)
    (l : Layer Value) : t.denoted (l, hint) = .ok m :=
  Traversal.bind_eq_ok_iff.mpr
    ⟨m, Traversal.run'_eq_ok_iff.mpr ⟨_, h.resolve_eq (t.layerScope l)⟩, h.plain_eq⟩

theorem exists_generic_of_denoted {head : String} {args : List Meaning} {m : Meaning}
    {l : Layer Value}
    (h : t.denoted (l, .type (.applied (.generic head) args)) = .ok m) :
    ∃ found, m = .applied (.generic head) found := by
  obtain ⟨m', hr, hp⟩ := Traversal.bind_eq_ok_iff.mp h
  obtain ⟨s, hr⟩ := Traversal.run'_eq_ok_iff.mp hr
  obtain ⟨n, hl⟩ := Nat.exists_eq_add_of_le' (DepthLimit.le_limit .hints)
  change Meaning.resolve (.applied (.generic head) args) _ = _ at hr
  rw [Meaning.resolve, hl] at hr
  obtain ⟨found, s₁, -, hf⟩ := Traversal.run_bind_eq_ok_iff.mp hr
  cases hf
  obtain ⟨plain, -, hq⟩ := Traversal.bind_eq_ok_iff.mp hp
  cases hq
  exact ⟨plain, rfl⟩

theorem Steady.kind?_eq {hint : TypeHint} {m : Meaning} {l : Layer Value} (h : Steady hint)
    (hm : t.denoted (l, hint) = .ok m) : m.kind? = hint.kind? := by
  cases h with
  | named name =>
    rw [denoted_of_isFixed (TypeHint.isFixed_named name)] at hm
    cases hm
    rfl
  | list h =>
    rw [denoted_of_isFixed h.isFixed_named] at hm
    cases hm
    rfl
  | generic h =>
    obtain ⟨found, rfl⟩ := exists_generic_of_denoted hm
    rw [TypeHint.kind?_generic h]
    exact (TypeHint.kind?_generic h _).symm

variable {held : Entries String Value} {tagKey : String} {f f' : Field} {fs fs' : List Field}

/-- What two versions of a record type show of one field. The kinds are the same if the hints of
both versions resolve or those of neither do, and else if the nearest hint of the field's name has
the kind evaluated that the field's own hint has as it is written. -/
structure Corresponds (t t' : RecordType Value) (f f' : Field) : Prop where
  name_eq : f'.name = f.name
  tag_eq : f'.tag = f.tag
  value_eq : f'.value = f.value
  kind_iff : ∃ d ∈ t.fields, d.name = f.name ∧
    (f'.kind = f.kind ↔ (t.Resolves ↔ t'.Resolves) ∨ t.evaluatedKind d = d.hint.kind?) ∧
    ∀ l, t.placed.lookup d.name = some (l, d.hint) → Steady d.hint → f'.kind = f.kind

section Versions

variable {kind kind' : FieldDecl Value → Except Fault (Option Kind)} {k k' : Option Kind}
  (h : t.DiffersAt j t') (ha : t.HintsApart) (ha' : t'.HintsApart)
  (hk : t.kindReader = .ok kind) (hk' : t'.kindReader = .ok kind') (hn : d.name ≠ j)
include h ha ha' hk hk' hn

theorem DiffersAt.kind_eq_iff (hd : kind d = .ok k) (hd' : kind' d = .ok k') :
    k' = k ↔ (t.Resolves ↔ t'.Resolves) ∨ t.evaluatedKind d = d.hint.kind? := by
  by_cases hr : t.Resolves
  · rw [kind_of_resolves ha hr hk] at hd
    by_cases hr' : t'.Resolves
    · rw [kind_of_resolves ha' hr' hk', h.evaluatedKind_eq hn, hd, Except.ok.injEq] at hd'
      simp [hr, hr', hd']
    · rw [kind_of_not_resolves hr' hk'] at hd'
      simp [hr, hr', hd, hd', eq_comm]
  · rw [kind_of_not_resolves hr hk] at hd
    by_cases hr' : t'.Resolves
    · rw [kind_of_resolves ha' hr' hk', h.evaluatedKind_eq hn] at hd'
      simp [hr, hr', hd, hd']
    · rw [kind_of_not_resolves hr' hk', hd, Except.ok.injEq] at hd'
      simp [hr, hr', hd']

theorem DiffersAt.kind_eq_of_steady {l : Layer Value}
    (hl : t.placed.lookup d.name = some (l, d.hint)) (hs : Steady d.hint) (hd : kind d = .ok k)
    (hd' : kind' d = .ok k') : k' = k := by
  apply (h.kind_eq_iff ha ha' hk hk' hn hd hd').mpr
  have he (k : Option Kind) (hk : t.evaluatedKind d = .ok k) :
      t.evaluatedKind d = d.hint.kind? := by
    rw [evaluatedKind, hl] at hk ⊢
    obtain ⟨m, hm, -⟩ := Traversal.bind_eq_ok_iff.mp hk
    dsimp only
    rw [hm]
    exact hs.kind?_eq hm
  by_cases hr : t.Resolves
  · rw [kind_of_resolves ha hr hk] at hd
    exact .inr (he k hd)
  · by_cases hr' : t'.Resolves
    · rw [kind_of_resolves ha' hr' hk', h.evaluatedKind_eq hn] at hd'
      exact .inr (he k' hd')
    · exact .inl (by simp [hr, hr'])

theorem DiffersAt.corresponds (hm : d ∈ t.fields) (hf : t.fieldOf held tagKey kind d = .ok f)
    (hf' : t'.fieldOf held tagKey kind' d = .ok f') : Corresponds t t' f f' := by
  obtain ⟨hkind, hname, htag, hvalue⟩ := fieldOf_eq_ok hf
  obtain ⟨hkind', hname', htag', hvalue'⟩ := fieldOf_eq_ok hf'
  refine ⟨?_, ?_, ?_, d, hm, hname.symm, ?_, fun l hl hs => ?_⟩
  · rw [hname, hname']
  · rw [htag, htag']
  · rw [hvalue, hvalue', h.valueOf?_eq]
  · exact h.kind_eq_iff ha ha' hk hk' hn hkind hkind'
  · exact h.kind_eq_of_steady ha ha' hk hk' hn hl hs hkind hkind'

end Versions

theorem exists_forall₂_fieldOf (h : t.fieldsOf held tagKey = fs.map .ok) (j : String) :
    ∃ kind, t.kindReader = .ok kind ∧
      List.Forall₂ (fun d f => t.fieldOf held tagKey kind d = .ok f)
        (t.fields.filter fun d => d.name != j) (fs.filter fun f => f.name != j) := by
  cases hk : t.kindReader with
  | error fault =>
    rw [fieldsOf_of_error hk] at h
    cases fs <;> cases h
  | ok kind =>
    rw [fieldsOf_of_kindReader hk, Traversal.map_eq_map_ok_iff] at h
    refine ⟨kind, rfl, List.rel_filter ?_ h⟩
    intro d f hf
    simp only [(fieldOf_eq_ok hf).2.1]

end Evaluated

def quotedList : TypeHint := .type (.applied (.generic "List") [.quoted "int" false])

def versionLayer (hint : TypeHint) : List (FieldDecl Value) :=
  [⟨"n", .text "int", none, []⟩, ⟨"i", quotedList, none, []⟩, ⟨"j", hint, none, []⟩]

def version (hint : TypeHint) : RecordType Value :=
  (Chain.ofRecords "A" [versionLayer hint]).toType

def integerVersion : RecordType Value := version (.type (.type "int"))

def unknownVersion : RecordType Value := version (.text "Missing")

theorem differsAt_version (hint hint' : TypeHint) :
    (version hint).DiffersAt "j" (version hint') := by
  have same (d : FieldDecl Value) : d.DiffersAt "j" d := ⟨rfl, rfl, rfl, fun _ => rfl⟩
  have changed : FieldDecl.DiffersAt "j" ⟨"j", hint, none, []⟩ ⟨"j", hint', none, []⟩ :=
    ⟨rfl, rfl, rfl, fun h => absurd rfl h⟩
  apply Chain.DiffersAt.toType
  exact ⟨rfl, rfl, rfl, .cons (.cons (same _) (.cons (same _) (.cons changed .nil))) .nil⟩

def versionScope (hint : TypeHint) : TypeHint.Scope :=
  ⟨TypeHint.Library.recordNames,
    Chain.ownNames (.ofRecords "A" [versionLayer hint]) (versionLayer hint), none, none⟩

theorem hintsApart_version {hint : TypeHint}
    (h : ∀ m s, hint.resolve (versionScope hint) = .ok (m, s) → s = versionScope hint) :
    (version hint).HintsApart := by
  intro l hl e he m s hr
  obtain rfl := List.mem_singleton.mp hl
  have hn : (TypeHint.text "int").resolve (versionScope hint) =
      .ok (.type "int", versionScope hint) := rfl
  have hi : quotedList.resolve (versionScope hint) =
      .ok (.applied (.generic "List") [.type "int"], versionScope hint) := rfl
  have hm : e ∈ [("n", TypeHint.text "int"), ("i", quotedList), ("j", hint)] := he
  simp only [List.mem_cons, List.not_mem_nil, or_false] at hm
  rcases hm with rfl | rfl | rfl
  · cases hn.symm.trans hr
    rfl
  · cases hi.symm.trans hr
    rfl
  · exact h m s hr

theorem hintsApart_integerVersion : integerVersion.HintsApart := by
  apply hintsApart_version
  intro m s h
  cases h
  rfl

theorem hintsApart_unknownVersion : unknownVersion.HintsApart := by
  apply hintsApart_version
  intro m s h
  have he : (match (TypeHint.text "Missing").resolve (versionScope (.text "Missing")) with
    | .ok _ => false
    | .error _ => true) = true := by decide +kernel
  rw [h] at he
  cases he

theorem resolution_unknownVersion : unknownVersion.resolution = .error .unresolved := by
  have he : (match unknownVersion.resolution with
    | .ok _ => false
    | .error fault => decide (fault = .unresolved)) = true := by decide +kernel
  split at he
  · cases he
  · rename_i h
    rw [h, of_decide_eq_true he]

def versionFields (list kind : Option Kind) : List Field :=
  [⟨"n", some .integer, none, none⟩, ⟨"i", list, none, none⟩, ⟨"j", kind, none, none⟩]

theorem fieldsOf_integerVersion :
    integerVersion.fieldsOf [] "validate" =
      (versionFields (some .integerList) (some .integer)).map .ok := rfl

theorem fieldsOf_unknownVersion :
    unknownVersion.fieldsOf [] "validate" = (versionFields none none).map .ok := by
  have hk : unknownVersion.kindReader = .ok fun d => d.hint.kind? := by
    rw [kindReader, resolution_unknownVersion]
  rw [fieldsOf_of_kindReader hk]
  rfl

/-- A type with two bases over a common one. Its field is that of one base, and the other one has
the nearest hint of its name. -/
def diamondType : RecordType Value where
  module := "records"
  name := "D"
  declared := [⟨"i", .type (.type "int"), none, []⟩]
  layers := [⟨"records", [("i", .type (.type "int"))], [], []⟩,
    ⟨"records", [("i", .type (.type "str"))], [], []⟩, ⟨"records", [], [], []⟩,
    ⟨"records", [], [], []⟩]
  modules _ := TypeHint.Library.recordNames

example : diamondType.fieldsOf [] "validate" = [.ok ⟨"i", some .string, none, none⟩] := rfl

end RecordType

end FieldGuard
