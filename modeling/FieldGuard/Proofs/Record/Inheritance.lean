import FieldGuard.Host
import FieldGuard.Proofs.Record.Denotation
import Mathlib.Data.List.Nodup

/-!
What a record of a chain of types shows of each name that the chain declares: kind and tag of the
nearest declaration, in the place of the first one, and the value held or else the nearest default.
-/

namespace FieldGuard

namespace Chain

open RecordType (Modules resolveHint resolveLayer)
open TypeHint (Meaning Scope)

/-- A declaration with what stands around it: the types that its own type extends and those that
extend it, and the declarations of its own type before and behind it. -/
structure Place where
  bases : List (List (FieldDecl Value))
  before : List (FieldDecl Value)
  decl : FieldDecl Value
  behind : List (FieldDecl Value)
  derived : List (List (FieldDecl Value))

namespace Place

def name (p : Place) : String := p.decl.name

def layer (p : Place) : List (FieldDecl Value) := p.before ++ p.decl :: p.behind

structure IsNearest (p : Place) (c : Chain) : Prop where
  layers_eq : c.layers = p.bases ++ p.layer :: p.derived
  behind : ∀ d ∈ p.behind, d.name ≠ p.name
  derived : ∀ layer ∈ p.derived, ∀ d ∈ layer, d.name ≠ p.name

end Place

variable {c : Chain} {p : Place} {d : FieldDecl Value} {name : String}
  {layer : List (FieldDecl Value)} {layers : List (List (FieldDecl Value))}

theorem Place.IsNearest.not_mem_later (hp : p.IsNearest c) :
    p.name ∉ (p.behind ++ p.derived.flatten).map FieldDecl.name := by
  intro hm
  obtain ⟨d, hd, he⟩ := List.mem_map.mp hm
  rcases List.mem_append.mp hd with hd | hd
  · exact hp.behind d hd he
  · obtain ⟨layer, hl, hd⟩ := List.mem_flatten.mp hd
    exact hp.derived layer hl d hd he

theorem exists_place_of_flatten {before behind : List (FieldDecl Value)}
    (h : layers.flatten = before ++ d :: behind) :
    ∃ p : Place, p.decl = d ∧ layers = p.bases ++ p.layer :: p.derived ∧
      behind = p.behind ++ p.derived.flatten := by
  induction layers generalizing before with
  | nil => simp at h
  | cons layer layers ih =>
    rw [List.flatten_cons, List.append_eq_append_iff] at h
    -- The declaration belongs to a later type, or else to this one. At the border it may seem to
    -- be the end of this one with nothing behind it.
    rcases h with ⟨rest, rfl, h⟩ | ⟨rest, rfl, h⟩
    · obtain ⟨p, hd, rfl, hb⟩ := ih h
      exact ⟨{ p with bases := layer :: p.bases }, hd, rfl, hb⟩
    · cases rest with
      | nil =>
        have h : layers.flatten = [] ++ d :: behind := h.symm
        obtain ⟨p, hd, rfl, hb⟩ := ih h
        exact ⟨{ p with bases := (before ++ []) :: p.bases }, hd, rfl, hb⟩
      | cons first rest =>
        obtain ⟨rfl, rfl⟩ := List.cons.inj h
        exact ⟨⟨[], before, d, rest, layers⟩, rfl, rfl, rfl⟩

theorem mem_declarations_iff : d ∈ c.declarations ↔ ∃ p : Place, p.IsNearest c ∧ p.decl = d := by
  rw [declarations, FieldDecl.merge, List.mem_map]
  simp only [Entries.mem_ofPairs_iff]
  constructor
  · rintro ⟨⟨name, d'⟩, ⟨before, behind, hp, hn⟩, rfl⟩
    obtain ⟨ds, rest, hf, -, hr⟩ := List.map_eq_append_iff.mp hp
    obtain ⟨d, ds', rfl, hd, rfl⟩ := List.map_eq_cons_iff.mp hr
    cases hd
    obtain ⟨p, rfl, hl, rfl⟩ := exists_place_of_flatten hf
    have hb : ∀ d ∈ p.behind ++ p.derived.flatten, d.name ≠ p.name := by
      intro d hd he
      apply hn
      rw [Entries.keys, List.map_map]
      exact List.mem_map.mpr ⟨d, hd, he⟩
    rw [List.forall_mem_append] at hb
    refine ⟨p, ⟨hl, hb.1, fun layer hm d hd => ?_⟩, rfl⟩
    exact hb.2 d (List.mem_flatten_of_mem hm hd)
  · rintro ⟨p, hp, rfl⟩
    refine ⟨(p.name, p.decl), ⟨(p.bases.flatten ++ p.before).map fun d => (d.name, d),
      (p.behind ++ p.derived.flatten).map fun d => (d.name, d), ?_, ?_⟩, rfl⟩
    · rw [hp.layers_eq, Place.layer]
      simp [Place.name]
    · rw [Entries.keys, List.map_map]
      exact hp.not_mem_later

theorem mem_fields_iff :
    d ∈ c.fields ↔
      ∃ p : Place, p.IsNearest c ∧ p.decl = d ∧ d.hint.isClassVariable c.names = false := by
  rw [fields, List.mem_filter, mem_declarations_iff, Bool.not_eq_true']
  constructor
  · rintro ⟨⟨p, hp, hd⟩, hc⟩
    exact ⟨p, hp, hd, hc⟩
  · rintro ⟨p, hp, hd, hc⟩
    exact ⟨⟨p, hp, hd⟩, hc⟩

def declaredNames (c : Chain) : List String := c.layers.flatten.map FieldDecl.name

def DeclaredBefore (c : Chain) (name other : String) : Prop :=
  c.declaredNames.idxOf name < c.declaredNames.idxOf other

theorem DeclaredBefore.ne {other : String} (h : c.DeclaredBefore name other) : name ≠ other := by
  rintro rfl
  exact Nat.lt_irrefl _ h

theorem pairwise_declarations (c : Chain) :
    c.declarations.Pairwise fun d d' => c.DeclaredBefore d.name d'.name := by
  have hk : Entries.keys (c.layers.flatten.map fun d => (d.name, d)) = c.declaredNames := by
    rw [Entries.keys, List.map_map]
    rfl
  have hp := Entries.pairwise_keys_ofPairs (c.layers.flatten.map fun d => (d.name, d))
  rw [hk, Entries.keys, List.pairwise_map] at hp
  rw [declarations, FieldDecl.merge, List.pairwise_map]
  apply hp.imp_of_mem
  intro e e' hm hm' h
  obtain ⟨d, -, rfl⟩ := List.mem_map.mp (Entries.mem_of_mem_ofPairs hm)
  obtain ⟨d', -, rfl⟩ := List.mem_map.mp (Entries.mem_of_mem_ofPairs hm')
  exact h

/-- The fields of a chain by their nearest declarations, in the order of the first ones. -/
structure Enumerates (c : Chain) (places : List Place) : Prop where
  nearest : ∀ p ∈ places, p.IsNearest c ∧ p.decl.hint.isClassVariable c.names = false
  complete : ∀ p : Place, p.IsNearest c → p.decl.hint.isClassVariable c.names = false →
    p.name ∈ places.map Place.name
  nodup : (places.map Place.name).Nodup
  sorted : places.Pairwise fun p q => c.DeclaredBefore p.name q.name

theorem exists_enumerates (c : Chain) :
    ∃ places : List Place, c.Enumerates places ∧ places.map Place.decl = c.fields := by
  have hm : ∀ d ∈ c.fields,
      ∃ p : Place, p.IsNearest c ∧ p.decl = d ∧ d.hint.isClassVariable c.names = false :=
    fun d hd => mem_fields_iff.mp hd
  obtain ⟨places, hf⟩ := Traversal.exists_forall₂ hm
  have hd : places.map Place.decl = c.fields := by
    rw [eq_comm, ← List.forall₂_eq_eq_eq, List.forall₂_map_right_iff]
    exact hf.imp fun d p hp => hp.2.1.symm
  have hs : places.Pairwise fun p q => c.DeclaredBefore p.name q.name := by
    have hp := (pairwise_declarations c).filter fun d => !d.hint.isClassVariable c.names
    rw [← fields, ← hd, List.pairwise_map] at hp
    exact hp
  refine ⟨places, ⟨fun p hp => ?_, fun p hp hc => ?_, ?_, hs⟩, hd⟩
  · obtain ⟨d, -, hn, rfl, hc⟩ := Traversal.exists_mem_left hf p hp
    exact ⟨hn, hc⟩
  · have hm : p.decl ∈ places.map Place.decl := hd ▸ mem_fields_iff.mpr ⟨p, hp, rfl, hc⟩
    obtain ⟨q, hq, he⟩ := List.mem_map.mp hm
    exact List.mem_map.mpr ⟨q, hq, congrArg FieldDecl.name he⟩
  · rw [List.Nodup, List.pairwise_map]
    exact hs.imp DeclaredBefore.ne

theorem agree_plain {es meanings : Entries String Meaning}
    (h : es.mapM (fun (name, m) => do return (name, ← m.plain)) = .ok meanings) :
    Entries.Agree (fun m m' => m.plain = .ok m') es meanings := by
  rw [Traversal.mapM_eq_ok_iff] at h
  refine h.imp fun e e' he => ?_
  obtain ⟨m, hm, he⟩ := Traversal.bind_eq_ok_iff.mp he
  cases he
  exact ⟨rfl, hm⟩

section Hints

variable [DepthLimit] [TypeHint.Evaluator]

theorem keys_resolveHints {hints : List (String × TypeHint)} {row : Entries String Meaning}
    {s s' : Scope} (h : hints.mapM resolveHint s = .ok (row, s')) :
    row.keys = hints.map Prod.fst := by
  rw [Entries.keys, eq_comm, ← List.forall₂_eq_eq_eq, List.forall₂_map_left_iff,
    List.forall₂_map_right_iff]
  apply (Traversal.forall₂_exists_of_run_mapM h).imp
  rintro e r ⟨s, s', he⟩
  exact (RecordType.resolveHint_eq_ok he).1.symm

theorem keys_resolveLayers {ls : List (Layer Value)} {rows : List (Entries String Meaning)}
    {ms ms' : Modules} (h : ls.mapM resolveLayer ms = .ok (rows, ms')) :
    Entries.keys rows.flatten = (ls.flatMap Layer.hints).map Prod.fst := by
  rw [Entries.keys, List.map_flatten, List.map_flatMap, List.flatMap]
  congr 1
  rw [eq_comm, ← List.forall₂_eq_eq_eq, List.forall₂_map_left_iff, List.forall₂_map_right_iff]
  apply (Traversal.forall₂_exists_of_run_mapM h).imp
  rintro l row ⟨ms, ms', hr⟩
  obtain ⟨s, hs, -⟩ := RecordType.resolveLayer_eq_ok_iff.mp hr
  exact (keys_resolveHints hs).symm

def hintsOf (ds : List (FieldDecl Value)) : List (String × TypeHint) :=
  ds.map fun d => (d.name, d.hint)

namespace Place

def Reaches (p : Place) (c : Chain) (s : Scope) : Prop :=
  ∃ rows ms row,
    (p.bases.map c.layer).mapM resolveLayer c.toType.modules = .ok (rows, ms) ∧
    (hintsOf p.before).mapM resolveHint ⟨ms c.module, c.ownNames p.layer, none, none⟩ =
      .ok (row, s)

def Denotes (p : Place) (c : Chain) (m : Meaning) : Prop :=
  ∃ s found s', p.Reaches c s ∧ p.decl.hint.resolve s = .ok (found, s') ∧ found.plain = .ok m

theorem Reaches.unique {s s' : Scope} (h : p.Reaches c s) (h' : p.Reaches c s') : s' = s := by
  obtain ⟨rows, ms, row, hb, hr⟩ := h
  obtain ⟨rows', ms', row', hb', hr'⟩ := h'
  rw [hb] at hb'
  cases hb'
  rw [hr] at hr'
  cases hr'
  rfl

theorem Denotes.unique {m m' : Meaning} (h : p.Denotes c m) (h' : p.Denotes c m') : m' = m := by
  obtain ⟨s, found, s₁, hs, hr, hp⟩ := h
  obtain ⟨s', found', s₁', hs', hr', hp'⟩ := h'
  obtain rfl := hs.unique hs'
  rw [hr] at hr'
  cases hr'
  rw [hp] at hp'
  exact (Except.ok.inj hp').symm

end Place

theorem exists_denotes {meanings : Entries String Meaning}
    (h : c.toType.resolution = .ok meanings) (hp : p.IsNearest c) :
    ∃ m, p.Denotes c m ∧ meanings.lookup p.name = some m := by
  rw [RecordType.resolution, Traversal.bind_eq_ok_iff] at h
  obtain ⟨found, hf, hm⟩ := h
  obtain ⟨ms', hf⟩ := Traversal.run'_eq_ok_iff.mp hf
  -- The evaluation is cut at the type of the declaration, and there at the declaration.
  have hl : c.toType.layers =
      p.bases.map c.layer ++ c.layer p.layer :: p.derived.map c.layer := by
    rw [toType, hp.layers_eq, List.map_append, List.map_cons]
  rw [hl] at hf
  obtain ⟨rows, ms, row, ms₁, rows', hb, hr, hd, rfl⟩ := Traversal.exists_of_run_mapM_split hf
  obtain ⟨s', hr, -⟩ := RecordType.resolveLayer_eq_ok_iff.mp hr
  have hs : (c.layer p.layer).hints =
      hintsOf p.before ++ (p.name, p.decl.hint) :: hintsOf p.behind := by
    rw [layer, Place.layer, List.map_append, List.map_cons]
    rfl
  rw [hs] at hr
  obtain ⟨front, s₁, e, s₂, back, hfr, he, hba, rfl⟩ := Traversal.exists_of_run_mapM_split hr
  obtain ⟨hn, hr⟩ := RecordType.resolveHint_eq_ok he
  have hlast : e ∈ Entries.ofPairs (· == ·) (rows ++ (front ++ e :: back) :: rows').flatten := by
    refine Entries.mem_ofPairs_iff.mpr ⟨rows.flatten ++ front, back ++ rows'.flatten, by simp, ?_⟩
    have hk : Entries.keys (back ++ rows'.flatten) =
        (p.behind ++ p.derived.flatten).map FieldDecl.name := by
      rw [Entries.keys, List.map_append, ← Entries.keys, ← Entries.keys, keys_resolveHints hba,
        keys_resolveLayers hd, List.flatMap_map, List.map_append, List.map_flatMap,
        List.map_flatten, List.flatMap]
      simp [hintsOf, layer, Function.comp_def]
    rw [hk, hn]
    exact hp.not_mem_later
  have ha := agree_plain hm
  have hnodup : meanings.keys.Nodup := by
    rw [ha.keys_eq]
    exact Entries.nodup_keys_ofPairs _
  obtain ⟨⟨name, m⟩, hme, hen, hpl⟩ := Traversal.exists_mem_right ha e hlast
  refine ⟨m, ⟨s₁, e.2, s₂, ⟨rows, ms, front, hb, hfr⟩, hr, hpl⟩, ?_⟩
  rw [Entries.lookup_eq_some_iff_mem hnodup]
  have hk : name = p.name := hen.trans hn
  exact hk ▸ hme

end Hints

def DeclaresOnce (c : Chain) : Prop :=
  ∀ layer ∈ c.layers, (layer.map FieldDecl.name).Nodup

def DefaultIn (layer : List (FieldDecl Value)) (name : String) (v : Value) : Prop :=
  ∃ d ∈ layer, d.name = name ∧ d.default = some v

def NearestDefault (c : Chain) (name : String) (v : Value) : Prop :=
  ∃ bases layer derived, c.layers = bases ++ layer :: derived ∧ DefaultIn layer name v ∧
    ∀ l ∈ derived, ∀ w, ¬DefaultIn l name w

def HasDefault (c : Chain) (name : String) : Prop :=
  ∃ layer ∈ c.layers, ∃ v, DefaultIn layer name v

theorem lookup_attributes_iff (h : (layer.map FieldDecl.name).Nodup) {v : Option Value} :
    (c.layer layer).attributes.lookup name = some v ↔ ∃ w, v = some w ∧ DefaultIn layer name w := by
  have hk : Entries.keys (c.layer layer).attributes =
      (layer.filter fun d => d.default.isSome).map FieldDecl.name := by
    rw [Chain.layer, Entries.keys, List.map_filterMap]
    simp only [Option.map_map, Function.comp_def]
    induction layer with
    | nil => rfl
    | cons d layer ih =>
      have ht := ih (List.nodup_cons.mp h).2
      cases hd : d.default <;> simp [hd, ht]
  have hn : (Entries.keys (c.layer layer).attributes).Nodup := by
    rw [hk]
    exact h.sublist (List.filter_sublist.map _)
  rw [Entries.lookup_eq_some_iff_mem hn, Chain.layer, List.mem_filterMap]
  constructor
  · rintro ⟨d, hd, he⟩
    obtain ⟨w, hw, he⟩ := Option.map_eq_some_iff.mp he
    cases he
    exact ⟨w, rfl, d, hd, rfl, hw⟩
  · rintro ⟨w, rfl, d, hd, rfl, hw⟩
    exact ⟨d, hd, by rw [hw]; rfl⟩

theorem attribute?_eq_some_iff (h : c.DeclaresOnce) {v : Value} :
    c.toType.attribute? name = some v ↔ c.NearestDefault name v := by
  have hs {layer : List (FieldDecl Value)} (hl : layer ∈ c.layers) {v : Option Value} :
      (c.layer layer).attributes.lookup name = some v ↔ ∃ w, v = some w ∧ DefaultIn layer name w :=
    lookup_attributes_iff (h layer hl)
  -- The search starts at the type itself, so what it passes over are the types that extend.
  rw [RecordType.attribute?, toType, ← List.map_reverse, List.findSome?_map,
    Option.join_eq_some_iff, List.findSome?_eq_some_iff]
  constructor
  · rintro ⟨derived, layer, bases, hl, hv, hd⟩
    have hl : c.layers = bases.reverse ++ layer :: derived.reverse := by
      rw [← List.reverse_reverse c.layers, hl]
      simp
    obtain ⟨w, hw, hv⟩ := (hs (by simp [hl])).mp hv
    cases hw
    refine ⟨bases.reverse, layer, derived.reverse, hl, hv, ?_⟩
    intro l hm w hw
    have hn := (hs (by simp [hl, List.mem_reverse.mp hm])).mpr ⟨w, rfl, hw⟩
    cases (hd l (List.mem_reverse.mp hm)).symm.trans hn
  · rintro ⟨bases, layer, derived, hl, hv, hd⟩
    refine ⟨derived.reverse, layer, bases.reverse, by simp [hl], (hs (by simp [hl])).mpr
      ⟨v, rfl, hv⟩, ?_⟩
    intro l hm
    have hm := List.mem_reverse.mp hm
    refine Option.eq_none_iff_forall_ne_some.mpr fun w hw => ?_
    obtain ⟨w, -, hw⟩ := (hs (by simp [hl, hm])).mp hw
    exact hd l hm w hw

theorem exists_nearestDefault_iff (h : c.DeclaresOnce) :
    (∃ v, c.NearestDefault name v) ↔ c.HasDefault name := by
  constructor
  · rintro ⟨v, bases, layer, derived, hl, hv, -⟩
    exact ⟨layer, by simp [hl], v, hv⟩
  · rintro ⟨layer, hl, v, hv⟩
    have hs : (c.toType.layers.reverse.findSome? fun l => l.attributes.lookup name).isSome := by
      rw [List.findSome?_isSome_iff]
      refine ⟨c.layer layer, by simpa [toType] using ⟨layer, hl, rfl⟩, ?_⟩
      rw [(lookup_attributes_iff (h layer hl)).mpr ⟨v, rfl, hv⟩]
      rfl
    obtain ⟨found, hf⟩ := Option.isSome_iff_exists.mp hs
    obtain ⟨l, hm, hn⟩ := List.exists_of_findSome?_eq_some hf
    obtain ⟨layer', hl', rfl⟩ := List.mem_map.mp (List.mem_reverse.mp hm)
    obtain ⟨w, rfl, -⟩ := (lookup_attributes_iff (h layer' hl')).mp hn
    refine ⟨w, (attribute?_eq_some_iff h).mp ?_⟩
    rw [RecordType.attribute?, hf]
    rfl

section Fields

variable {held : Entries String Value} {key : String} {f : Field}

theorem tagOf_eq_some_iff {v w : Value} : Field.tagOf w = some v ↔ w = v ∧ v ≠ .null := by
  constructor
  · intro h
    cases w <;> cases h <;> exact ⟨rfl, nofun⟩
  · rintro ⟨rfl, hn⟩
    cases w with
    | null => exact absurd rfl hn
    | _ => rfl

theorem valueOf?_eq_some_iff (h : c.DeclaresOnce) {v : Value} :
    c.toType.valueOf? held name = some v ↔
      held.lookup name = some v ∨ held.lookup name = none ∧ c.NearestDefault name v := by
  rw [RecordType.valueOf?, Option.or_eq_some_iff, attribute?_eq_some_iff h]

theorem isSome_valueOf?_iff (h : c.DeclaresOnce) :
    (c.toType.valueOf? held name).isSome = true ↔
      (∃ v, held.lookup name = some v) ∨ c.HasDefault name := by
  rw [← exists_nearestDefault_iff h]
  simp only [← attribute?_eq_some_iff h, ← Option.isSome_iff_exists, RecordType.valueOf?,
    Option.isSome_or, Bool.or_eq_true]

variable [DepthLimit] [TypeHint.Evaluator]

structure Inherits (c : Chain) (held : Entries String Value) (key : String)
    (p : Place) (f : Field) : Prop where
  name_eq : f.name = p.name
  kind_iff : ∃ m, p.Denotes c m ∧ ∀ k, f.kind = some k ↔ (TypeHint.type m).Supports k
  tag_iff : ∀ v, f.tag = some v ↔ p.decl.metadata.lookup key = some v ∧ v ≠ .null
  present_iff : f.isPresent = true ↔
    (∃ v, held.lookup p.name = some v) ∨ c.HasDefault p.name
  value_iff : ∀ v, f.value = some v ↔ held.lookup p.name = some v ∨
    held.lookup p.name = none ∧ c.NearestDefault p.name v

def Place.Unhashable (p : Place) (c : Chain) (name : String) : Prop :=
  ∃ m, p.Denotes c m ∧ (TypeHint.type m).Unhashable name

inductive Yields (c : Chain) (held : Entries String Value) (key : String) (p : Place) :
    Except FieldFault Field → Prop
  | field {f : Field} (h : Inherits c held key p f) (hu : ∀ name, ¬p.Unhashable c name) :
      Yields c held key p (.ok f)
  | fault {name : String} (h : p.Unhashable c name) :
      Yields c held key p (.error (.hint (.unhashable name)))

theorem yields_fieldOf {meanings : Entries String Meaning} (h : c.DeclaresOnce)
    (hr : c.toType.resolution = .ok meanings) (hp : p.IsNearest c) :
    c.Yields held key p (c.toType.fieldOf held key (RecordType.resolvedKind meanings) p.decl) := by
  obtain ⟨m, hm, hl⟩ := exists_denotes hr hp
  have hk : RecordType.resolvedKind meanings p.decl = (TypeHint.type m).kind? := by
    rw [RecordType.resolvedKind, ← Place.name, hl]
    rfl
  cases hc : (TypeHint.type m).kind? with
  | error fault =>
    obtain ⟨name, hu, rfl⟩ := TypeHint.kind?_eq_error_iff.mp hc
    rw [RecordType.fieldOf, hk, hc]
    exact .fault ⟨m, hm, hu⟩
  | ok k =>
    rw [RecordType.fieldOf, hk, hc]
    refine .field ⟨rfl, ⟨m, hm, fun k' => ?_⟩, fun v => ?_, isSome_valueOf?_iff h, fun v =>
      valueOf?_eq_some_iff h⟩ ?_
    · rw [← TypeHint.kind?_eq_ok_some_iff, hc, Except.ok.injEq]
    · rw [Option.bind_eq_some_iff]
      simp only [tagOf_eq_some_iff]
      constructor
      · rintro ⟨w, hw, rfl, hv⟩
        exact ⟨hw, hv⟩
      · rintro ⟨hw, hv⟩
        exact ⟨v, hw, rfl, hv⟩
    · rintro name ⟨m', hm', hu⟩
      obtain rfl := hm.unique hm'
      rw [TypeHint.kind?_eq_error_iff.mpr ⟨name, hu, rfl⟩] at hc
      cases hc

theorem exists_eq_map_ok_iff {places : List Place} {entries : Fields}
    (h : List.Forall₂ (c.Yields held key) places entries) :
    (∃ fs : List Field, entries = fs.map .ok) ↔ ∀ p ∈ places, ∀ name, ¬p.Unhashable c name := by
  induction h with
  | nil => exact ⟨fun _ => nofun, fun _ => ⟨[], rfl⟩⟩
  | @cons p entry places entries hy _ ih =>
    rw [List.forall_mem_cons, ← ih]
    constructor
    · rintro ⟨fs, he⟩
      obtain ⟨f, fs, rfl, rfl, rfl⟩ := List.map_eq_cons_iff.mp he.symm
      cases hy with
      | field _ hu => exact ⟨hu, fs, rfl⟩
    · rintro ⟨hu, fs, rfl⟩
      cases hy with
      | field => exact ⟨_ :: fs, rfl⟩
      | fault hn => exact absurd hn (hu _)

end Fields

def shownChain : Shown := ⟨.ok "C()", .ok "C()"⟩

def redeclaringType : Chain :=
  .ofRecords "C" [[⟨"x", TypeHint.ofKind .integer, some (.int 5), [("validate", .text "min:1")]⟩,
      ⟨"y", TypeHint.ofKind .integerList, none, [("validate", .text "max:3")]⟩],
    [⟨"z", TypeHint.ofKind .string, some (.text ""), []⟩,
      ⟨"y", TypeHint.ofKind .stringList, none, []⟩],
    [⟨"x", .text "str", none, [("validate", .text "len:2")]⟩,
      ⟨"z", TypeHint.ofKind .string, some (.text "z"), [("validate", .null)]⟩]]

theorem declaresOnce_redeclaringType : redeclaringType.DeclaresOnce := by
  unfold DeclaresOnce
  decide

theorem resolves_redeclaringType : redeclaringType.toType.Resolves := ⟨_, rfl⟩

def unhashableChain : Chain :=
  .ofRecords "B" [[⟨"x", TypeHint.ofKind .integer, some (.int 1), [("validate", .text "min:1")]⟩],
    [⟨"y", .type (.applied (.native "list" false) [.list [TypeHint.Meaning.int]]), none, []⟩]]

end Chain

end FieldGuard
