namespace FieldGuard

abbrev Entries (κ α : Type) := List (κ × α)

namespace Entries

variable {κ α : Type}

def put (same : κ → κ → Bool) (k : κ) (v : α) : Entries κ α → Entries κ α
  | [] => [(k, v)]
  | (k', v') :: rest => if same k' k then (k', v) :: rest else (k', v') :: put same k v rest

def ofPairs (same : κ → κ → Bool) (pairs : List (κ × α)) : Entries κ α :=
  pairs.foldl (fun es p => put same p.1 p.2 es) []

def keys (es : Entries κ α) : List κ := es.map Prod.fst

@[simp] theorem keys_nil : keys ([] : Entries κ α) = [] := rfl

@[simp] theorem keys_cons (e : κ × α) (es : Entries κ α) : keys (e :: es) = e.1 :: keys es := rfl

theorem keys_put_of_any {same : κ → κ → Bool} {k : κ} {v : α} {es : Entries κ α}
    (h : es.keys.any (same · k) = true) : (put same k v es).keys = es.keys := by
  induction es with
  | nil => simp at h
  | cons e es ih =>
    by_cases he : same e.1 k = true
    · simp [put, he]
    · have hes : (keys es).any (same · k) = true := by
        simpa [he] using h
      simp [put, he, ih hes]

theorem put_of_not_any {same : κ → κ → Bool} {k : κ} {v : α} {es : Entries κ α}
    (h : es.keys.any (same · k) = false) : put same k v es = es ++ [(k, v)] := by
  induction es with
  | nil => rfl
  | cons e es ih =>
    rw [keys_cons, List.any_cons, Bool.or_eq_false_iff] at h
    simp [put, h.1, ih h.2]

theorem keys_put_of_not_any {same : κ → κ → Bool} {k : κ} {v : α} {es : Entries κ α}
    (h : es.keys.any (same · k) = false) : (put same k v es).keys = es.keys ++ [k] := by
  rw [put_of_not_any h, keys, keys, List.map_append]
  rfl

theorem lookup_put [BEq κ] [LawfulBEq κ] (k k' : κ) (v : α) (es : Entries κ α) :
    (put (· == ·) k v es).lookup k' = if k' == k then some v else es.lookup k' := by
  induction es with
  | nil => cases h : k' == k <;> simp [put, List.lookup_cons, h]
  | cons e es ih =>
    obtain ⟨a, b⟩ := e
    by_cases h : a = k
    · subst h
      cases hk : k' == a <;> simp [put, List.lookup_cons, hk]
    · have hp : put (· == ·) k v ((a, b) :: es) = (a, b) :: put (· == ·) k v es := by
        simp [put, h]
      rw [hp]
      by_cases hk : k' = a
      · subst hk
        simp [h]
      · have hk' : (k' == a) = false := by simpa using hk
        simp only [List.lookup_cons, hk', ih]

theorem mem_put {same : κ → κ → Bool} {k : κ} {v : α} {es : Entries κ α} {e : κ × α}
    (h : e ∈ put same k v es) :
    e ∈ es ∨ e.2 = v ∧ (e.1 = k ∨ e.1 ∈ es.keys ∧ same e.1 k = true) := by
  induction es with
  | nil =>
    cases List.mem_singleton.mp h
    exact .inr ⟨rfl, .inl rfl⟩
  | cons first es ih =>
    rw [put] at h
    split at h
    · rename_i hk
      obtain rfl | h := List.mem_cons.mp h
      · exact .inr ⟨rfl, .inr ⟨List.mem_cons_self, hk⟩⟩
      · exact .inl (List.mem_cons_of_mem _ h)
    · obtain rfl | h := List.mem_cons.mp h
      · exact .inl List.mem_cons_self
      · refine (ih h).imp (List.mem_cons_of_mem _) fun ⟨hv, hk⟩ => ⟨hv, hk.imp_right fun hk => ?_⟩
        exact ⟨List.mem_cons_of_mem _ hk.1, hk.2⟩

end Entries

end FieldGuard
