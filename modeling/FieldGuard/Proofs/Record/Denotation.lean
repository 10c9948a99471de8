import FieldGuard.Proofs.Record.Resolution

/-!
What the hints of a record type denote where each of them is evaluated by itself: the kind of a
field is then found from the nearest hint of its name and the names that its layer sees.
-/

namespace FieldGuard

namespace RecordType

open TypeHint (Fault Meaning Scope Eval)

abbrev Placed := Layer Value × TypeHint

variable {t : RecordType Value} {l : Layer Value} {p : Placed} {d : FieldDecl Value}

def placements (t : RecordType Value) : Entries String Placed :=
  t.layers.flatMap fun l => l.hints.map fun e => (e.1, l, e.2)

def placed (t : RecordType Value) : Entries String Placed :=
  Entries.ofPairs (· == ·) t.placements

def layerScope (t : RecordType Value) (l : Layer Value) : Scope :=
  ⟨t.modules l.module, l.own, none, none⟩

variable [DepthLimit] [TypeHint.Evaluator]

/-- Each hint is evaluated by itself: none binds a name that another one could use. -/
def HintsApart (t : RecordType Value) : Prop :=
  ∀ l ∈ t.layers, ∀ e ∈ l.hints, ∀ m s,
    e.2.resolve (t.layerScope l) = .ok (m, s) → s = t.layerScope l

def denoted (t : RecordType Value) (p : Placed) : Except Fault Meaning := do
  (← p.2.resolve.run' (t.layerScope p.1)).plain

def evaluatedKind (t : RecordType Value) (d : FieldDecl Value) : Except Fault (Option Kind) :=
  match t.placed.lookup d.name with
  | some p => do (← t.denoted p).kind?
  | none => d.hint.kind?

def Resolves (t : RecordType Value) : Prop := ∃ meanings, t.resolution = .ok meanings

def Found (t : RecordType Value) (l : Layer Value) (e : String × TypeHint)
    (r : String × Meaning) : Prop :=
  r.1 = e.1 ∧ e.2.resolve (t.layerScope l) = .ok (r.2, t.layerScope l)

theorem resolveHint_eq_ok {e : String × TypeHint} {r : String × Meaning} {s s' : Scope}
    (h : resolveHint e s = .ok (r, s')) : r.1 = e.1 ∧ e.2.resolve s = .ok (r.2, s') := by
  obtain ⟨m, s₁, hm, h⟩ := Traversal.run_bind_eq_ok_iff.mp h
  cases h
  exact ⟨rfl, hm⟩

theorem resolveLayer_eq_ok_iff {ms ms' : Modules} {row : Entries String Meaning} :
    resolveLayer l ms = .ok (row, ms') ↔ ∃ s,
      l.hints.mapM resolveHint ⟨ms l.module, l.own, none, none⟩ = .ok (row, s) ∧
        ms' = ms.put l.module s.module := by
  rw [resolveLayer, Traversal.bind_eq_ok_iff]
  constructor
  · rintro ⟨⟨row, s⟩, h, hr⟩
    cases hr
    exact ⟨s, h, rfl⟩
  · rintro ⟨s, h, rfl⟩
    exact ⟨(row, s), h, rfl⟩

theorem found_of_resolveLayer {row : Entries String Meaning} {ms : Modules}
    (ha : ∀ e ∈ l.hints, ∀ m s, e.2.resolve (t.layerScope l) = .ok (m, s) → s = t.layerScope l)
    (h : resolveLayer l t.modules = .ok (row, ms)) :
    ms = t.modules ∧ List.Forall₂ (t.Found l) l.hints row := by
  obtain ⟨s, hr, rfl⟩ := resolveLayer_eq_ok_iff.mp h
  obtain ⟨rfl, hf⟩ := Traversal.forall₂_of_run_mapM
    (fun e he r s' hs => ha e he r.2 s' (resolveHint_eq_ok hs).2) hr
  exact ⟨Modules.put_self _ _, hf.imp fun e r he => resolveHint_eq_ok he⟩

theorem HintsApart.found {rows : List (Entries String Meaning)} {ms : Modules}
    (ha : t.HintsApart) (h : t.layers.mapM resolveLayer t.modules = .ok (rows, ms)) :
    List.Forall₂ (fun l row => List.Forall₂ (t.Found l) l.hints row) t.layers rows := by
  obtain ⟨-, hr⟩ := Traversal.forall₂_of_run_mapM
    (fun l hl row ms hs => (found_of_resolveLayer (ha l hl) hs).1) h
  apply (Traversal.forall₂_and_mem hr).imp
  rintro l row ⟨hs, hl, -⟩
  exact (found_of_resolveLayer (ha l hl) hs).2

theorem agree_found {rows : List (Entries String Meaning)}
    (h : List.Forall₂ (fun l row => List.Forall₂ (t.Found l) l.hints row) t.layers rows) :
    Entries.Agree (fun (p : Placed) m => p.2.resolve (t.layerScope p.1) =
      .ok (m, t.layerScope p.1)) t.placements rows.flatten := by
  apply List.rel_flatten
  rw [List.forall₂_map_left_iff]
  apply h.imp
  intro l row hr
  rw [List.forall₂_map_left_iff]
  exact hr

theorem agree_resolution {meanings : Entries String Meaning} (ha : t.HintsApart)
    (h : t.resolution = .ok meanings) :
    Entries.Agree (fun (p : Placed) m => t.denoted p = .ok m) t.placed meanings := by
  rw [resolution, Traversal.bind_eq_ok_iff] at h
  obtain ⟨rows, hf, hp⟩ := h
  obtain ⟨ms, hf⟩ := Traversal.run'_eq_ok_iff.mp hf
  have hr := (agree_found (ha.found hf)).ofPairs (· == ·)
  rw [Traversal.mapM_eq_ok_iff] at hp
  apply Traversal.forall₂_trans ?_ hr hp
  rintro ⟨name, p⟩ ⟨name', m⟩ e ⟨hn, hm⟩ he
  obtain ⟨m', hm', he⟩ := Traversal.bind_eq_ok_iff.mp he
  cases he
  exact ⟨hn, Traversal.bind_eq_ok_iff.mpr ⟨m, Traversal.run'_eq_ok_iff.mpr ⟨_, hm⟩, hm'⟩⟩

variable {kind : FieldDecl Value → Except Fault (Option Kind)}

theorem kind_of_resolves (ha : t.HintsApart) (hr : t.Resolves) (hk : t.kindReader = .ok kind)
    (d : FieldDecl Value) : kind d = t.evaluatedKind d := by
  obtain ⟨meanings, hr⟩ := hr
  have hm := Entries.rel_lookup (R := fun _ p m => t.denoted p = .ok m)
    (agree_resolution ha hr) d.name
  rw [evaluatedKind]
  generalize t.placed.lookup d.name = found at hm ⊢
  cases hl : meanings.lookup d.name with
  | none =>
    rw [hl] at hm
    cases hm
    exact (Reads.unlisted hr hl).kind_eq hk
  | some m =>
    rw [hl] at hm
    cases hm with
    | some hd =>
      rw [(Reads.resolved hr hl).kind_eq hk]
      dsimp only
      rw [hd]
      rfl

theorem kind_of_not_resolves (hr : ¬t.Resolves) (hk : t.kindReader = .ok kind)
    (d : FieldDecl Value) : kind d = d.hint.kind? := by
  cases h : t.resolution with
  | ok meanings => exact absurd ⟨meanings, h⟩ hr
  | error fault =>
    by_cases hf : fault = .unresolved
    · exact (Reads.unresolved (hf ▸ h)).kind_eq hk
    · rw [kindReader_eq_error_iff.mpr ⟨h, hf⟩] at hk
      cases hk

end RecordType

end FieldGuard
