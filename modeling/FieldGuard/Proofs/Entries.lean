import FieldGuard.Entries
import Mathlib.Data.List.Forall2
import Mathlib.Data.List.Induction

namespace FieldGuard.Entries

variable {κ α β : Type}

theorem not_mem_keys_of_nodup {es pairs : Entries κ α} {p : κ × α}
    (h : (keys (es ++ p :: pairs)).Nodup) : p.1 ∉ es.keys := by
  rw [keys, List.map_append, List.map_cons, List.nodup_append] at h
  intro hm
  exact h.2.2 _ hm p.1 List.mem_cons_self rfl

def Agree (R : α → β → Prop) : Entries κ α → Entries κ β → Prop :=
  List.Forall₂ fun e e' => e'.1 = e.1 ∧ R e.2 e'.2

theorem Agree.keys_eq {R : α → β → Prop} {es : Entries κ α} {es' : Entries κ β}
    (h : Agree R es es') : es'.keys = es.keys := by
  induction h with
  | nil => rfl
  | cons he _ ih => rw [keys_cons, keys_cons, he.1, ih]

theorem Agree.put {R : α → β → Prop} {es : Entries κ α} {es' : Entries κ β} (h : Agree R es es')
    (same : κ → κ → Bool) (k : κ) {v : α} {w : β} (hv : R v w) :
    Agree R (Entries.put same k v es) (Entries.put same k w es') := by
  induction h with
  | nil => exact .cons ⟨rfl, hv⟩ .nil
  | @cons e e' es es' he ht ih =>
    by_cases hs : same e.1 k = true
    · rw [Entries.put, Entries.put, he.1, if_pos hs, if_pos hs]
      exact .cons ⟨rfl, hv⟩ ht
    · rw [Entries.put, Entries.put, he.1, if_neg hs, if_neg hs]
      exact .cons ⟨rfl, he.2⟩ ih

theorem Agree.foldl_put {R : α → β → Prop} {pairs : Entries κ α} {pairs' : Entries κ β}
    (h : Agree R pairs pairs') (same : κ → κ → Bool) {es : Entries κ α} {es' : Entries κ β}
    (hs : Agree R es es') :
    Agree R (pairs.foldl (fun es p => Entries.put same p.1 p.2 es) es)
      (pairs'.foldl (fun es p => Entries.put same p.1 p.2 es) es') := by
  induction h generalizing es es' with
  | nil => exact hs
  | cons he _ ih =>
    rw [List.foldl_cons, List.foldl_cons, he.1]
    exact ih (hs.put same _ he.2)

theorem Agree.ofPairs {R : α → β → Prop} {pairs : Entries κ α} {pairs' : Entries κ β}
    (h : Agree R pairs pairs') (same : κ → κ → Bool) :
    Agree R (Entries.ofPairs same pairs) (Entries.ofPairs same pairs') :=
  h.foldl_put same .nil

theorem ofPairs_concat (same : κ → κ → Bool) (pairs : Entries κ α) (p : κ × α) :
    ofPairs same (pairs ++ [p]) = put same p.1 p.2 (ofPairs same pairs) := by
  rw [ofPairs, List.foldl_append]
  rfl

variable [BEq κ] [LawfulBEq κ]

theorem put_of_not_mem {k : κ} {es : Entries κ α} (h : k ∉ es.keys) (v : α) :
    put (· == ·) k v es = es ++ [(k, v)] := by
  apply put_of_not_any
  rw [List.any_eq_false]
  intro k' hk he
  exact h (eq_of_beq he ▸ hk)

theorem foldl_put_of_nodup (pairs es : Entries κ α) (h : (keys (es ++ pairs)).Nodup) :
    pairs.foldl (fun es p => put (· == ·) p.1 p.2 es) es = es ++ pairs := by
  induction pairs generalizing es with
  | nil => simp
  | cons p pairs ih =>
    have hs : es ++ [p] ++ pairs = es ++ p :: pairs := by simp
    rw [List.foldl_cons, put_of_not_mem (not_mem_keys_of_nodup h),
      ih (es ++ [p]) (by rwa [hs]), hs]

theorem ofPairs_of_nodup {pairs : Entries κ α} (h : pairs.keys.Nodup) :
    ofPairs (· == ·) pairs = pairs :=
  foldl_put_of_nodup pairs [] h

theorem eq_or_mem_of_mem_put {k : κ} {v : α} {es : Entries κ α} {e : κ × α}
    (h : e ∈ put (· == ·) k v es) : e = (k, v) ∨ e ∈ es := by
  rcases mem_put h with hm | ⟨hv, hk | ⟨-, hk⟩⟩
  · exact .inr hm
  · exact .inl (Prod.ext hk hv)
  · exact .inl (Prod.ext (eq_of_beq hk) hv)

theorem mem_of_mem_foldl_put {pairs es : Entries κ α} {e : κ × α}
    (h : e ∈ pairs.foldl (fun es p => put (· == ·) p.1 p.2 es) es) : e ∈ es ∨ e ∈ pairs := by
  induction pairs generalizing es with
  | nil => exact .inl h
  | cons p pairs ih =>
    rcases ih h with hm | hm
    · rcases eq_or_mem_of_mem_put hm with rfl | hm
      · exact .inr List.mem_cons_self
      · exact .inl hm
    · exact .inr (List.mem_cons_of_mem p hm)

theorem mem_of_mem_ofPairs {pairs : Entries κ α} {e : κ × α}
    (h : e ∈ ofPairs (· == ·) pairs) : e ∈ pairs :=
  (mem_of_mem_foldl_put h).resolve_left List.not_mem_nil

theorem nodup_keys_put {es : Entries κ α} (h : es.keys.Nodup) (k : κ) (v : α) :
    (put (· == ·) k v es).keys.Nodup := by
  cases ha : es.keys.any (· == k) with
  | true => rwa [keys_put_of_any ha]
  | false =>
    have hk : k ∉ es.keys := by
      intro hm
      exact List.any_eq_false.mp ha k hm (beq_self_eq_true k)
    rw [keys_put_of_not_any ha, List.nodup_append]
    refine ⟨h, by simp, fun a hm b hb hab => ?_⟩
    rw [hab, List.mem_singleton.mp hb] at hm
    exact hk hm

theorem nodup_keys_ofPairs (pairs : Entries κ α) : (ofPairs (· == ·) pairs).keys.Nodup := by
  have hf (es : Entries κ α) (h : es.keys.Nodup) :
      (pairs.foldl (fun es p => put (· == ·) p.1 p.2 es) es).keys.Nodup := by
    induction pairs generalizing es with
    | nil => exact h
    | cons p pairs ih => exact ih _ (nodup_keys_put h p.1 p.2)
  exact hf [] List.nodup_nil

theorem lookup_eq_some_iff_mem {es : Entries κ α} (hn : es.keys.Nodup) {k : κ} {v : α} :
    es.lookup k = some v ↔ (k, v) ∈ es := by
  induction es with
  | nil => simp
  | cons e es ih =>
    obtain ⟨k', w⟩ := e
    rw [keys_cons, List.nodup_cons] at hn
    rw [List.lookup_cons]
    cases hm : k == k' with
    | true =>
      obtain rfl := eq_of_beq hm
      have hv : (k, v) ∉ es := fun h => hn.1 (List.mem_map.mpr ⟨_, h, rfl⟩)
      simp [hv, eq_comm]
    | false =>
      have hne : k ≠ k' := ne_of_beq_false hm
      simp [ih hn.2, hne]

theorem rel_lookup {R : κ → α → β → Prop} {es : Entries κ α} {es' : Entries κ β}
    (h : List.Forall₂ (fun e e' => e'.1 = e.1 ∧ R e.1 e.2 e'.2) es es') (k : κ) :
    Option.Rel (R k) (es.lookup k) (es'.lookup k) := by
  induction h with
  | nil => exact .none
  | @cons e e' es es' he _ ih =>
    rw [List.lookup_cons, List.lookup_cons, he.1]
    cases hk : k == e.1 with
    | true =>
      rw [eq_of_beq hk]
      exact .some he.2
    | false => exact ih

theorem lookup_ofPairs (pairs : Entries κ α) (k : κ) :
    (ofPairs (· == ·) pairs).lookup k = pairs.reverse.lookup k := by
  induction pairs using List.reverseRecOn with
  | nil => rfl
  | append_singleton pairs p ih =>
    rw [ofPairs_concat, lookup_put, ih, List.reverse_concat, List.lookup_cons]
    cases k == p.1 <;> rfl

theorem mem_ofPairs_iff {pairs : Entries κ α} {e : κ × α} :
    e ∈ ofPairs (· == ·) pairs ↔
      ∃ before behind, pairs = before ++ e :: behind ∧ e.1 ∉ keys behind := by
  rw [← Prod.eta e, ← lookup_eq_some_iff_mem (nodup_keys_ofPairs pairs), lookup_ofPairs,
    List.lookup_eq_some_iff]
  constructor
  · rintro ⟨behind, before, hp, hk⟩
    refine ⟨before.reverse, behind.reverse, ?_, ?_⟩
    · rw [← List.reverse_reverse pairs, hp]
      simp
    · rintro hm
      obtain ⟨e', he', hk'⟩ := List.mem_map.mp hm
      exact bne_iff_ne.mp (hk e' (List.mem_reverse.mp he')) hk'.symm
  · rintro ⟨before, behind, rfl, hk⟩
    refine ⟨behind.reverse, before.reverse, by simp, fun e' he' => ?_⟩
    rw [bne_iff_ne]
    intro he
    exact hk (List.mem_map.mpr ⟨e', List.mem_reverse.mp he', he.symm⟩)

theorem mem_keys_put_iff {k k' : κ} {v : α} {es : Entries κ α} :
    k' ∈ (put (· == ·) k v es).keys ↔ k' = k ∨ k' ∈ es.keys := by
  cases ha : es.keys.any (· == k) with
  | true =>
    rw [keys_put_of_any ha]
    obtain ⟨k₀, hk, he⟩ := List.any_eq_true.mp ha
    obtain rfl := eq_of_beq he
    exact ⟨.inr, fun h => h.elim (fun h => h ▸ hk) id⟩
  | false =>
    rw [keys_put_of_not_any ha, List.mem_append, List.mem_singleton, or_comm]

theorem mem_keys_ofPairs_iff {pairs : Entries κ α} {k : κ} :
    k ∈ (ofPairs (· == ·) pairs).keys ↔ k ∈ keys pairs := by
  induction pairs using List.reverseRecOn with
  | nil => rfl
  | append_singleton pairs p ih =>
    rw [ofPairs_concat, mem_keys_put_iff, ih]
    simp [keys, or_comm]

theorem pairwise_keys_ofPairs (pairs : Entries κ α) :
    (ofPairs (· == ·) pairs).keys.Pairwise fun k k' =>
      (keys pairs).idxOf k < (keys pairs).idxOf k' := by
  induction pairs using List.reverseRecOn with
  | nil => exact .nil
  | append_singleton pairs p ih =>
    have hk : keys (pairs ++ [p]) = keys pairs ++ [p.1] := by simp [keys]
    have hp : (ofPairs (· == ·) pairs).keys.Pairwise fun k k' =>
        (keys (pairs ++ [p])).idxOf k < (keys (pairs ++ [p])).idxOf k' := by
      apply ih.imp_of_mem
      intro k k' hm hm' h
      rw [hk, List.idxOf_append_of_mem (mem_keys_ofPairs_iff.mp hm),
        List.idxOf_append_of_mem (mem_keys_ofPairs_iff.mp hm')]
      exact h
    rw [ofPairs_concat]
    cases ha : (ofPairs (· == ·) pairs).keys.any (· == p.1) with
    | true => rwa [keys_put_of_any ha]
    | false =>
      have hn : p.1 ∉ keys pairs := by
        rw [← mem_keys_ofPairs_iff]
        intro hm
        exact List.any_eq_false.mp ha p.1 hm (beq_self_eq_true p.1)
      rw [keys_put_of_not_any ha, List.pairwise_append]
      refine ⟨hp, List.pairwise_singleton _ _, fun k hm k' hm' => ?_⟩
      rw [List.mem_singleton.mp hm', hk,
        List.idxOf_append_of_mem (mem_keys_ofPairs_iff.mp hm), List.idxOf_append_of_notMem hn]
      exact Nat.lt_add_right _ (List.idxOf_lt_length_iff.mpr (mem_keys_ofPairs_iff.mp hm))

end FieldGuard.Entries
