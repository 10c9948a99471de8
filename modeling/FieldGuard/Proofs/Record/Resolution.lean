import FieldGuard.Proofs.Entries
import FieldGuard.Proofs.Record.Hints
import FieldGuard.Record.Chain

namespace FieldGuard

namespace TypeHint

def written : TypeHint → Meaning
  | .type m => m
  | .text s => .text s

variable [DepthLimit] [Evaluator]

structure IsFixed (hint : TypeHint) (m : Meaning) : Prop where
  resolve_eq : ∀ s, hint.resolve s = .ok (m, s)
  plain_eq : m.plain = .ok m

theorem isFixed_ofKind (k : Kind) : (ofKind k).IsFixed (Meaning.ofKind k) :=
  ⟨resolve_ofKind k, Meaning.plain_ofKind k⟩

theorem isFixed_of_resolveWithin {m : Meaning} (hn : m ≠ .none)
    (hr : ∀ n s, Meaning.resolveWithin (n + 2) [] m s = .ok (m, s)) (hp : m.plain = .ok m) :
    (TypeHint.type m).IsFixed m := by
  obtain ⟨n, hl⟩ := Nat.exists_eq_add_of_le' (DepthLimit.le_limit .hints)
  refine ⟨fun s => ?_, hp⟩
  have hs : (TypeHint.type m).resolve = Meaning.resolve m := by
    cases m with
    | none => exact absurd rfl hn
    | _ => rfl
  rw [hs, Meaning.resolve, hl]
  exact hr (n + 6) s

inductive IsListOf : Meaning → Meaning → Prop
  | generic {item : Meaning} : IsListOf (.applied (.generic "List") [item]) item
  | native {item : Meaning} : IsListOf (.applied (.native "list" false) [item]) item

theorem isFixed_named (name : String) : (TypeHint.type (.type name)).IsFixed (.type name) :=
  isFixed_of_resolveWithin nofun (fun _ _ => rfl) rfl

theorem IsListOf.isFixed_named {m : Meaning} {name : String} (h : IsListOf m (.type name)) :
    (TypeHint.type m).IsFixed m := by
  cases h <;> exact isFixed_of_resolveWithin nofun (fun _ _ => rfl) rfl

theorem IsListOf.isFixed_list {m : Meaning} {items : List Meaning}
    (h : IsListOf m (.list items)) : (TypeHint.type m).IsFixed m := by
  cases h <;> exact isFixed_of_resolveWithin nofun (fun _ _ => rfl) rfl

end TypeHint

namespace FieldDecl

variable {α : Type} {ds : List (FieldDecl α)}

theorem nodup_names_merge (ds : List (FieldDecl α)) : ((merge ds).map name).Nodup := by
  have hn : (merge ds).map name = Entries.keys (Entries.ofPairs (· == ·)
      (ds.map fun d => (d.name, d))) := by
    rw [merge, List.map_map, Entries.keys]
    apply List.map_congr_left
    intro e he
    obtain ⟨d, -, rfl⟩ := List.mem_map.mp (Entries.mem_of_mem_ofPairs he)
    rfl
  rw [hn]
  exact Entries.nodup_keys_ofPairs _

theorem merge_of_nodup (h : (ds.map name).Nodup) : merge ds = ds := by
  have hp : Entries.ofPairs (· == ·) (ds.map fun d => (d.name, d)) =
      ds.map fun d => (d.name, d) := by
    apply Entries.ofPairs_of_nodup
    rwa [Entries.keys, List.map_map]
  rw [merge, hp, List.map_map]
  exact List.map_id ds

end FieldDecl

namespace RecordType

theorem nodup_names_fields (t : RecordType Value) : (t.fields.map FieldDecl.name).Nodup :=
  FieldDecl.nodup_names_merge t.declared

theorem Modules.put_self (ms : Modules) (module : String) : ms.put module (ms module) = ms := by
  funext name
  by_cases h : name = module <;> simp [Modules.put, h]

end RecordType

namespace Chain

open RecordType (Modules resolveHint resolveLayer)
open TypeHint (Meaning Scope)

theorem fields_toType (c : Chain) : c.toType.fields = c.fields :=
  FieldDecl.merge_of_nodup ((FieldDecl.nodup_names_merge _).sublist (List.filter_sublist.map _))

variable {c : Chain} {layer : List (FieldDecl Value)}

theorem fields_toType_of_nodup (hl : c.layers = [layer])
    (hn : (layer.map FieldDecl.name).Nodup)
    (hc : ∀ d ∈ layer, d.hint.isClassVariable c.names = false) : c.toType.fields = layer := by
  rw [fields_toType, fields, declarations, hl, List.flatten_singleton,
    FieldDecl.merge_of_nodup hn]
  exact List.filter_eq_self.mpr fun d hm => by simp [hc d hm]

variable [DepthLimit] [TypeHint.Evaluator] {meaning : FieldDecl Value → Meaning}

theorem resolveHints_of_isFixed (h : ∀ d ∈ layer, d.hint.IsFixed (meaning d)) (s : Scope) :
    (layer.map fun d => (d.name, d.hint)).mapM resolveHint s =
      .ok (layer.map fun d => (d.name, meaning d), s) := by
  induction layer with
  | nil => rfl
  | cons d layer ih =>
    obtain ⟨hd, ht⟩ := List.forall_mem_cons.mp h
    have hs : resolveHint (d.name, d.hint) s = .ok ((d.name, meaning d), s) := by
      rw [resolveHint, Traversal.bind_of_run_eq_ok (hd.resolve_eq s)]
      rfl
    rw [List.map_cons, List.mapM_cons, Traversal.bind_of_run_eq_ok hs,
      Traversal.bind_of_run_eq_ok (ih ht)]
    rfl

theorem resolution_of_isFixed (hl : c.layers = [layer]) (hn : (layer.map FieldDecl.name).Nodup)
    (h : ∀ d ∈ layer, d.hint.IsFixed (meaning d)) :
    c.toType.resolution = .ok (layer.map fun d => (d.name, meaning d)) := by
  have hr : resolveLayer (c.layer layer) c.toType.modules =
      .ok (layer.map fun d => (d.name, meaning d), c.toType.modules) := by
    show ((layer.map fun d => (d.name, d.hint)).mapM resolveHint _ >>= fun p =>
      pure (p.1, Modules.put c.toType.modules c.module p.2.module)) = _
    rw [resolveHints_of_isFixed h]
    exact congrArg (fun ms => Except.ok (_, ms)) (Modules.put_self _ _)
  have hf : (c.toType.layers.mapM resolveLayer).run' c.toType.modules =
      .ok [layer.map fun d => (d.name, meaning d)] := by
    rw [Traversal.run'_eq_ok_iff]
    refine ⟨c.toType.modules, ?_⟩
    have hs : c.toType.layers = [c.layer layer] := by rw [toType, hl, List.map_singleton]
    rw [hs, List.mapM_cons, Traversal.bind_of_run_eq_ok hr]
    rfl
  have hp : Entries.ofPairs (· == ·) (layer.map fun d => (d.name, meaning d)) =
      layer.map fun d => (d.name, meaning d) := by
    apply Entries.ofPairs_of_nodup
    rwa [Entries.keys, List.map_map]
  have hm : (layer.map fun d => (d.name, meaning d)).mapM
      (fun e : String × Meaning => do return (e.1, ← e.2.plain)) =
        (.ok (layer.map fun d => (d.name, meaning d)) : Except TypeHint.Fault _) := by
    rw [Traversal.mapM_eq_ok_iff, List.forall₂_same]
    intro e he
    obtain ⟨d, hd, rfl⟩ := List.mem_map.mp he
    rw [(h d hd).plain_eq]
    rfl
  rw [RecordType.resolution, hf]
  show (Entries.ofPairs (· == ·) [layer.map fun d => (d.name, meaning d)].flatten).mapM _ = _
  rw [List.flatten_singleton, hp]
  exact hm

end Chain

end FieldGuard
