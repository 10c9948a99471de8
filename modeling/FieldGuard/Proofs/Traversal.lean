import Mathlib.Data.List.Forall2

namespace FieldGuard.Traversal

variable {α β ε : Type} {f : α → Except ε β} {xs : List α} {ys : List β}

theorem map_eq_error_iff {x : Except ε α} {f : α → β} {e : ε} :
    x.map f = .error e ↔ x = .error e := by
  cases x <;> simp [Except.map]

theorem map_eq_ok_iff {x : Except ε α} {f : α → β} {b : β} :
    x.map f = .ok b ↔ ∃ a, x = .ok a ∧ f a = b := by
  cases x <;> simp [Except.map]

theorem bind_eq_ok_iff {x : Except ε α} {f : α → Except ε β} {b : β} :
    x >>= f = .ok b ↔ ∃ a, x = .ok a ∧ f a = .ok b := by
  cases x <;> simp [bind, Except.bind]

theorem bind_eq_error_iff {x : Except ε α} {f : α → Except ε β} {e : ε} :
    x >>= f = .error e ↔ x = .error e ∨ ∃ a, x = .ok a ∧ f a = .error e := by
  cases x <;> simp [bind, Except.bind]

theorem mapError_eq_ok_iff {ε' : Type} {x : Except ε α} {f : ε → ε'} {a : α} :
    x.mapError f = .ok a ↔ x = .ok a := by
  cases x <;> simp [Except.mapError]

theorem mapError_eq_error_iff {ε' : Type} {x : Except ε α} {f : ε → ε'} {e : ε'} :
    x.mapError f = .error e ↔ ∃ e', x = .error e' ∧ f e' = e := by
  cases x <;> simp [Except.mapError]

theorem exists_map_eq_error {x : Except ε α} (f : α → β) (h : ∃ e, x = .error e) :
    ∃ e, x.map f = .error e := by
  obtain ⟨e, h⟩ := h
  exact ⟨e, map_eq_error_iff.mpr h⟩

theorem mapM_cons_of_ok {x : α} {y : β} (h : f x = .ok y) (xs : List α) :
    (x :: xs).mapM f = (xs.mapM f).map (y :: ·) := by
  rw [List.mapM_cons, h]
  cases xs.mapM f <;> rfl

theorem mapM_cons_of_error {x : α} {e : ε} (h : f x = .error e) (xs : List α) :
    (x :: xs).mapM f = .error e := by
  rw [List.mapM_cons, h]
  rfl

theorem mapM_singleton (x : α) (f : α → Except ε β) : [x].mapM f = (f x).map fun y => [y] := by
  cases h : f x with
  | error e => rw [mapM_cons_of_error h]; rfl
  | ok y => rw [mapM_cons_of_ok h]; rfl

theorem mapM_eq_ok_iff : xs.mapM f = .ok ys ↔ List.Forall₂ (fun x y => f x = .ok y) xs ys := by
  induction xs generalizing ys with
  | nil => cases ys <;> simp [pure, Except.pure]
  | cons x xs ih =>
    cases hx : f x with
    | error e => simp [mapM_cons_of_error hx, List.forall₂_cons_left_iff, hx]
    | ok y =>
      rw [mapM_cons_of_ok hx]
      constructor
      · intro h
        cases hs : xs.mapM f with
        | error e =>
          rw [hs] at h
          cases h
        | ok zs =>
          rw [hs] at h
          cases h
          exact .cons hx (ih.mp hs)
      · intro h
        cases h with
        | cons hy ht =>
          rw [ih.mpr ht, Except.ok.inj (hx.symm.trans hy)]
          rfl

theorem map_eq_map_ok_iff {g : α → Except ε β} :
    xs.map g = ys.map .ok ↔ List.Forall₂ (fun x y => g x = .ok y) xs ys := by
  rw [← List.forall₂_eq_eq_eq, List.forall₂_map_left_iff, List.forall₂_map_right_iff]

theorem exists_of_mapM_eq_error {e : ε} (h : xs.mapM f = .error e) : ∃ x ∈ xs, f x = .error e := by
  induction xs with
  | nil => cases h
  | cons x xs ih =>
    cases hx : f x with
    | error e' =>
      rw [mapM_cons_of_error hx] at h
      cases h
      exact ⟨x, by simp, hx⟩
    | ok y =>
      rw [mapM_cons_of_ok hx] at h
      cases hs : xs.mapM f with
      | ok zs =>
        rw [hs] at h
        cases h
      | error e' =>
        rw [hs] at h
        cases h
        obtain ⟨x', hm, hx'⟩ := ih hs
        exact ⟨x', by simp [hm], hx'⟩

theorem exists_mem_right {R : α → β → Prop} (h : List.Forall₂ R xs ys) :
    ∀ x ∈ xs, ∃ y ∈ ys, R x y := by
  induction h with
  | nil => simp
  | cons hx _ ih =>
    intro x hm
    rcases List.mem_cons.mp hm with rfl | hm
    · exact ⟨_, List.mem_cons_self, hx⟩
    · obtain ⟨y, hy, hr⟩ := ih x hm
      exact ⟨y, List.mem_cons_of_mem _ hy, hr⟩

theorem exists_mem_left {R : α → β → Prop} (h : List.Forall₂ R xs ys) :
    ∀ y ∈ ys, ∃ x ∈ xs, R x y :=
  exists_mem_right h.flip

theorem forall₂_trans {γ : Type} {R : α → β → Prop} {S : β → γ → Prop} {T : α → γ → Prop}
    {zs : List γ} (h : ∀ x y z, R x y → S y z → T x z) (hr : List.Forall₂ R xs ys)
    (hs : List.Forall₂ S ys zs) : List.Forall₂ T xs zs := by
  induction hr generalizing zs with
  | nil =>
    cases hs
    exact .nil
  | cons hx _ ih =>
    cases hs with
    | cons hy hs => exact .cons (h _ _ _ hx hy) (ih hs)

theorem forall₂_and_mem {R : α → β → Prop} (h : List.Forall₂ R xs ys) :
    List.Forall₂ (fun x y => R x y ∧ x ∈ xs ∧ y ∈ ys) xs ys := by
  induction h with
  | nil => exact .nil
  | cons hx _ ih =>
    refine .cons ⟨hx, List.mem_cons_self, List.mem_cons_self⟩ (ih.imp fun x y hr => ?_)
    exact ⟨hr.1, List.mem_cons_of_mem _ hr.2.1, List.mem_cons_of_mem _ hr.2.2⟩

theorem exists_forall₂ {R : α → β → Prop} (h : ∀ x ∈ xs, ∃ y, R x y) :
    ∃ ys, List.Forall₂ R xs ys := by
  induction xs with
  | nil => exact ⟨[], .nil⟩
  | cons x xs ih =>
    obtain ⟨y, hy⟩ := h x List.mem_cons_self
    obtain ⟨ys, hys⟩ := ih fun x hx => h x (List.mem_cons_of_mem _ hx)
    exact ⟨y :: ys, .cons hy hys⟩

theorem forall_of_mapM_eq_ok (h : xs.mapM f = .ok ys) : ∀ x ∈ xs, ∃ y ∈ ys, f x = .ok y :=
  exists_mem_right (mapM_eq_ok_iff.mp h)

theorem exists_of_mem_of_mapM_eq_ok (h : xs.mapM f = .ok ys) :
    ∀ y ∈ ys, ∃ x ∈ xs, f x = .ok y :=
  exists_mem_left (mapM_eq_ok_iff.mp h)

theorem exists_mapM_eq_error {x : α} (hm : x ∈ xs) (h : ∃ e, f x = .error e) :
    ∃ e, xs.mapM f = .error e := by
  cases hs : xs.mapM f with
  | error e => exact ⟨e, rfl⟩
  | ok ys =>
    obtain ⟨e, he⟩ := h
    obtain ⟨y, -, hy⟩ := forall_of_mapM_eq_ok hs x hm
    rw [he] at hy
    cases hy

variable {g : α → Except ε (List β)} {found : List (List β)}

section State

variable {σ : Type} {f : α → StateT σ (Except ε) β} {s s' : σ} {zs : List α}

theorem bind_of_run_eq_ok {γ : Type} {x : StateT σ (Except ε) α} {a : α} (h : x s = .ok (a, s'))
    (g : α → StateT σ (Except ε) γ) : (x >>= g) s = g a s' := by
  show (x s >>= fun p => g p.1 p.2) = g a s'
  rw [h]
  rfl

theorem run_bind_eq_ok_iff {γ : Type} {x : StateT σ (Except ε) α}
    {g : α → StateT σ (Except ε) γ} {r : γ × σ} :
    (x >>= g) s = .ok r ↔ ∃ a s', x s = .ok (a, s') ∧ g a s' = .ok r := by
  show (x s >>= fun p => g p.1 p.2) = .ok r ↔ _
  rw [bind_eq_ok_iff]
  constructor
  · rintro ⟨⟨a, s'⟩, hx, hg⟩
    exact ⟨a, s', hx, hg⟩
  · rintro ⟨a, s', hx, hg⟩
    exact ⟨(a, s'), hx, hg⟩

theorem run'_eq_ok_iff {x : StateT σ (Except ε) α} {a : α} :
    x.run' s = .ok a ↔ ∃ s', x s = .ok (a, s') := by
  show (x s).map Prod.fst = .ok a ↔ _
  rw [map_eq_ok_iff]
  constructor
  · rintro ⟨⟨_, s'⟩, hx, rfl⟩
    exact ⟨s', hx⟩
  · rintro ⟨s', hx⟩
    exact ⟨(a, s'), hx, rfl⟩

theorem forall₂_of_run_mapM (hf : ∀ x ∈ xs, ∀ y s', f x s = .ok (y, s') → s' = s)
    (h : xs.mapM f s = .ok (ys, s')) :
    s' = s ∧ List.Forall₂ (fun x y => f x s = .ok (y, s)) xs ys := by
  induction xs generalizing ys with
  | nil =>
    cases h
    exact ⟨rfl, .nil⟩
  | cons x xs ih =>
    rw [List.mapM_cons, run_bind_eq_ok_iff] at h
    obtain ⟨y, s₁, hx, h⟩ := h
    obtain rfl := hf x List.mem_cons_self y s₁ hx
    rw [run_bind_eq_ok_iff] at h
    obtain ⟨zs, s₂, hs, h⟩ := h
    cases h
    obtain ⟨rfl, ht⟩ := ih (fun x hm => hf x (List.mem_cons_of_mem _ hm)) hs
    exact ⟨rfl, .cons hx ht⟩

theorem exists_of_run_mapM_split {x : α} (h : (xs ++ x :: zs).mapM f s = .ok (ys, s')) :
    ∃ us s₁ v s₂ vs, xs.mapM f s = .ok (us, s₁) ∧ f x s₁ = .ok (v, s₂) ∧
      zs.mapM f s₂ = .ok (vs, s') ∧ ys = us ++ v :: vs := by
  rw [List.mapM_append, run_bind_eq_ok_iff] at h
  obtain ⟨us, s₁, hu, h⟩ := h
  rw [List.mapM_cons, run_bind_eq_ok_iff] at h
  obtain ⟨ws, s₃, hw, h⟩ := h
  cases h
  obtain ⟨v, s₂, hv, hw⟩ := run_bind_eq_ok_iff.mp hw
  obtain ⟨vs, s₄, hs, hw⟩ := run_bind_eq_ok_iff.mp hw
  cases hw
  exact ⟨us, s₁, v, s₂, vs, hu, hv, hs, rfl⟩

theorem forall₂_exists_of_run_mapM (h : xs.mapM f s = .ok (ys, s')) :
    List.Forall₂ (fun x y => ∃ s s', f x s = .ok (y, s')) xs ys := by
  induction xs generalizing ys s with
  | nil =>
    cases h
    exact .nil
  | cons x xs ih =>
    rw [List.mapM_cons, run_bind_eq_ok_iff] at h
    obtain ⟨y, s₁, hx, h⟩ := h
    obtain ⟨ys', s₂, hs, h⟩ := run_bind_eq_ok_iff.mp h
    cases h
    exact .cons ⟨_, _, hx⟩ (ih hs)

end State

end FieldGuard.Traversal
