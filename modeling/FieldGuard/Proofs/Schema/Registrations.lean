import FieldGuard.Host
import FieldGuard.Schema.History
import Mathlib.Data.List.Induction

/-!
What a registry holds after a history, told from the operations and their results alone: under each
name the schema that was last registered, in the order in which the names were last new.
-/

namespace FieldGuard.Registry

section Names

variable {r : Registry} {s : Schema} {name : String} {replace : Bool}

theorem mem_names_iff : name ∈ r.names ↔ ∃ s, r.get? name = some s := by
  rw [get?, ← Option.ne_none_iff_exists', ne_eq, List.lookup_eq_none_iff, names, Entries.keys]
  simp only [List.mem_map, bne_iff_ne]
  grind

theorem contains_iff : r.contains name = true ↔ name ∈ r.names := by
  rw [mem_names_iff, contains, Option.isSome_iff_exists]

theorem any_keys_iff : r.schemas.keys.any (· == name) = true ↔ name ∈ r.names := by
  simp [names]

theorem names_put_of_mem (h : s.name ∈ r.names) : (r.put s).names = r.names :=
  Entries.keys_put_of_any (any_keys_iff.mpr h)

theorem names_put_of_not_mem (h : s.name ∉ r.names) : (r.put s).names = r.names ++ [s.name] :=
  Entries.keys_put_of_not_any (Bool.eq_false_iff.mpr (mt any_keys_iff.mp h))

theorem names_unregister_sublist : (r.unregister name).names.Sublist r.names :=
  List.filter_sublist.map _

theorem unregister_of_not_mem (h : name ∉ r.names) : r.unregister name = r := by
  obtain ⟨es⟩ := r
  rw [unregister, List.filter_eq_self.mpr]
  intro e he
  rw [bne_iff_ne]
  rintro rfl
  exact h (List.mem_map_of_mem he)

theorem add_of_taken (h : s.name ∈ r.names) (answer : Answer) : r.add s false answer =
    (.of (.error (.document (.fault (.alreadyRegistered s.name)))), r) :=
  add_of_error (by simp [register, contains_iff.mpr h]) answer

theorem add_of_free (h : s.name ∈ r.names → replace = true) (answer : Answer) :
    r.add s replace answer = (⟨[.registered s.name], .ok answer⟩, r.put s) := by
  have hg : (r.contains s.name && !replace) = false := by
    rw [Bool.and_eq_false_imp, contains_iff]
    exact fun hm => by rw [h hm]; rfl
  simp [add, register, hg]

theorem add_eq_error_iff {answer : Answer} {refusal : Refusal} :
    (r.add s replace answer).1.result = .error refusal ↔ (s.name ∈ r.names ∧ replace = false) ∧
      refusal = .document (.fault (.alreadyRegistered s.name)) := by
  by_cases hf : s.name ∈ r.names → replace = true
  · rw [add_of_free hf]
    refine ⟨nofun, fun h => ?_⟩
    rw [hf h.1.1] at h
    cases h.1.2
  · obtain ⟨hm, hr⟩ := Classical.not_imp.mp hf
    obtain rfl := Bool.eq_false_iff.mpr hr
    simp [add_of_taken hm, Traced.of, hm, eq_comm]

theorem add_of_ok {answer a : Answer} (h : (r.add s replace answer).1.result = .ok a) :
    a = answer ∧ (r.add s replace answer).2 = r.put s := by
  by_cases hf : s.name ∈ r.names → replace = true
  · rw [add_of_free hf] at h ⊢
    cases h
    exact ⟨rfl, rfl⟩
  · obtain ⟨hm, hr⟩ := Classical.not_imp.mp hf
    obtain rfl := Bool.eq_false_iff.mpr hr
    rw [add_of_taken hm] at h
    cases h

end Names

structure Step where
  operation : Operation
  result : Except Refusal Answer

section Histories

variable [Document.Checker]

def step (r : Registry) (op : Operation) : Step := ⟨op, (r.perform op).1.result⟩

def steps (r : Registry) : List Operation → List Step
  | [] => []
  | op :: ops => r.step op :: (r.perform op).2.steps ops

namespace Step

inductive Registers : Step → Schema → Prop
  | schema {s : Schema} {replace : Bool} {answer : Answer} :
      Registers ⟨.register s replace, .ok answer⟩ s
  | document {doc : Value} {replace : Bool} {s : Schema} (h : Schema.ofDocument doc = .ok s) :
      Registers ⟨.registerDocument doc replace, .ok (.schema s)⟩ s

inductive Unregisters : Step → String → Prop
  | found {name : String} : Unregisters ⟨.unregister name, .ok (.flag true)⟩ name

def Settles (e : Step) (name : String) : Prop :=
  (∃ s, e.Registers s ∧ s.name = name) ∨ e.Unregisters name

section

variable {e : Step} {s t : Schema} {name other : String}

theorem Registers.unique (h : e.Registers s) (h' : e.Registers t) : t = s := by
  cases h <;> cases h' <;> rfl

theorem Registers.settles_iff (h : e.Registers s) : e.Settles name ↔ s.name = name := by
  constructor
  · rintro (⟨t, ht, rfl⟩ | hu)
    · rw [h.unique ht]
    · cases hu
      cases h
  · exact fun hn => .inl ⟨s, h, hn⟩

theorem Unregisters.not_registers (h : e.Unregisters name) : ¬e.Registers s := by
  cases h
  nofun

theorem Unregisters.settles_iff (h : e.Unregisters name) : e.Settles other ↔ name = other := by
  constructor
  · rintro (⟨t, ht, -⟩ | hu)
    · exact absurd ht h.not_registers
    · cases h
      cases hu
      rfl
  · rintro rfl
    exact .inr h

end

inductive Effect (e : Step) (r : Registry) : Registry → Prop
  | put {s : Schema} (h : e.Registers s) : Effect e r (r.put s)
  | removed {name : String} (h : e.Unregisters name) : Effect e r (r.unregister name)
  | unchanged (h : ∀ name, ¬e.Settles name) : Effect e r r

end Step

theorem Step.not_settles_of_error {e : Step} {refusal : Refusal} (h : e.result = .error refusal)
    (name : String) : ¬e.Settles name := by
  rintro (⟨s, hs, -⟩ | hu)
  · cases hs <;> cases h
  · cases hu
    cases h

theorem effect_step (r : Registry) (op : Operation) : (r.step op).Effect r (r.perform op).2 := by
  cases hr : (r.perform op).1.result with
  | error e =>
    rw [perform_of_error hr]
    exact .unchanged (Step.not_settles_of_error hr)
  | ok answer =>
    rw [step, hr]
    cases op with
    | register s replace =>
      rw [perform, (add_of_ok hr).2]
      exact .put .schema
    | registerDocument doc replace =>
      rw [perform] at hr ⊢
      cases hd : Schema.ofDocument doc with
      | error e =>
        rw [hd] at hr
        cases hr
      | ok s =>
        simp only [hd] at hr ⊢
        rw [(add_of_ok hr).1, (add_of_ok hr).2]
        exact .put (.document hd)
    | unregister name =>
      obtain rfl : Answer.flag (r.contains name) = answer := Except.ok.inj hr
      by_cases h : r.contains name = true
      · rw [h]
        exact .removed .found
      · rw [perform, unregister_of_not_mem (mt contains_iff.mpr h), Bool.eq_false_iff.mpr h]
        refine .unchanged fun other => ?_
        rintro (⟨s, hs, -⟩ | hu)
        · cases hs
        · cases hu
    | get _ | contains _ | names | size =>
      refine .unchanged fun name => ?_
      rintro (⟨s, hs, -⟩ | hu)
      · cases hs
      · cases hu

/-- The last step that decides about the name registers the schema under it. -/
def Holds (h : List Step) (name : String) (s : Schema) : Prop :=
  ∃ before e later, h = before ++ e :: later ∧ e.Registers s ∧ s.name = name ∧
    ∀ e' ∈ later, ¬e'.Settles name

def Adds (h : List Step) (e : Step) (name : String) : Prop :=
  (∃ s, e.Registers s ∧ s.name = name) ∧ ∀ t, ¬Holds h name t

def NewAt (h : List Step) (name : String) (i : Nat) : Prop :=
  ∃ e, h[i]? = some e ∧ Adds (h.take i) e name

structure LastNewAt (h : List Step) (name : String) (i : Nat) : Prop where
  new : NewAt h name i
  last : ∀ j, NewAt h name j → j ≤ i

def NewBefore (h : List Step) (name other : String) : Prop :=
  ∃ i j, LastNewAt h name i ∧ LastNewAt h other j ∧ i < j

section Steps

variable {h : List Step} {e : Step} {name other : String} {s t : Schema} {i : Nat}

theorem holds_concat_iff : Holds (h ++ [e]) name s ↔
    e.Registers s ∧ s.name = name ∨ ¬e.Settles name ∧ Holds h name s := by
  constructor
  · rintro ⟨before, e', later, heq, hr, hn, hl⟩
    cases later using List.reverseRecOn with
    | nil =>
      obtain ⟨-, he⟩ := List.append_inj' heq rfl
      obtain rfl := List.singleton_inj.mp he
      exact .inl ⟨hr, hn⟩
    | append_singleton later last =>
      rw [← List.cons_append, ← List.append_assoc] at heq
      obtain ⟨rfl, he⟩ := List.append_inj' heq rfl
      obtain rfl := List.singleton_inj.mp he
      rw [List.forall_mem_append] at hl
      exact .inr ⟨hl.2 e (List.mem_singleton_self e), before, e', later, rfl, hr, hn, hl.1⟩
  · rintro (⟨hr, hn⟩ | ⟨he, before, e', later, rfl, hr, hn, hl⟩)
    · exact ⟨h, e, [], rfl, hr, hn, nofun⟩
    · refine ⟨before, e', later ++ [e], by simp, hr, hn, ?_⟩
      rw [List.forall_mem_append]
      exact ⟨hl, by simpa using he⟩

theorem holds_concat_of_registers (he : e.Registers s) : Holds (h ++ [e]) name t ↔
    if s.name = name then t = s else Holds h name t := by
  rw [holds_concat_iff, he.settles_iff]
  split
  · rename_i hn
    refine ⟨fun ht => ht.elim (fun ht => he.unique ht.1) (fun ht => absurd hn ht.1), ?_⟩
    rintro rfl
    exact .inl ⟨he, hn⟩
  · rename_i hn
    refine ⟨fun ht => ht.elim (fun ht => ?_) And.right, fun ht => .inr ⟨hn, ht⟩⟩
    exact absurd (he.unique ht.1 ▸ ht.2) hn

theorem holds_concat_of_unregisters (he : e.Unregisters other) :
    Holds (h ++ [e]) name t ↔ other ≠ name ∧ Holds h name t := by
  rw [holds_concat_iff, he.settles_iff]
  exact ⟨fun ht => ht.elim (fun ht => absurd ht.1 he.not_registers) id, .inr⟩

theorem holds_concat_of_not_settles (he : ¬e.Settles name) :
    Holds (h ++ [e]) name t ↔ Holds h name t := by
  rw [holds_concat_iff]
  exact ⟨fun ht => ht.elim (fun ht => absurd (.inl ⟨t, ht⟩) he) And.right, fun ht => .inr ⟨he, ht⟩⟩

theorem NewAt.lt_length (hn : NewAt h name i) : i < h.length := by
  obtain ⟨e, he, -⟩ := hn
  exact (List.getElem?_eq_some_iff.mp he).1

theorem newAt_concat_iff :
    NewAt (h ++ [e]) name i ↔ NewAt h name i ∨ i = h.length ∧ Adds h e name := by
  rcases Nat.lt_trichotomy i h.length with hi | rfl | hi
  · simp only [NewAt, List.getElem?_append_left hi, Nat.ne_of_lt hi,
      List.take_append_of_le_length (Nat.le_of_lt hi), false_and, or_false]
  · simp [NewAt]
  · have hlt : ¬NewAt h name i := fun hn => Nat.lt_asymm hi hn.lt_length
    have hlt' : ¬NewAt (h ++ [e]) name i := fun hn => by
      have := hn.lt_length
      rw [List.length_append, List.length_singleton] at this
      omega
    simp [hlt, hlt', Nat.ne_of_gt hi]

theorem LastNewAt.concat (hn : LastNewAt h name i) (he : ¬Adds h e name) :
    LastNewAt (h ++ [e]) name i := by
  refine ⟨newAt_concat_iff.mpr (.inl hn.new), fun j hj => ?_⟩
  obtain hj | ⟨-, hj⟩ := newAt_concat_iff.mp hj
  · exact hn.last j hj
  · exact absurd hj he

theorem lastNewAt_concat_length (he : Adds h e name) :
    LastNewAt (h ++ [e]) name h.length := by
  refine ⟨newAt_concat_iff.mpr (.inr ⟨rfl, he⟩), fun j hj => ?_⟩
  have := hj.lt_length
  rw [List.length_append, List.length_singleton] at this
  omega

theorem NewBefore.ne (hb : NewBefore h name other) : name ≠ other := by
  rintro rfl
  obtain ⟨i, j, hi, hj, hlt⟩ := hb
  exact Nat.not_lt.mpr (hi.last j hj.new) hlt

end Steps

structure Follows (h : List Step) (r : Registry) : Prop where
  get?_iff : ∀ name s, r.get? name = some s ↔ Holds h name s
  own : ∀ e ∈ r.schemas, e.2.name = e.1
  new : ∀ name ∈ r.names, ∃ i, LastNewAt h name i
  sorted : r.names.Pairwise (NewBefore h)

namespace Follows

variable {h : List Step} {r : Registry} {e : Step} {name : String}

theorem mem_names_iff (hf : Follows h r) : name ∈ r.names ↔ ∃ s, Holds h name s := by
  simp only [Registry.mem_names_iff, hf.get?_iff]

section Kept

variable (hf : Follows h r) (he : ∀ name ∈ r.names, ¬Adds h e name)
include hf he

theorem new_concat : ∀ name ∈ r.names, ∃ i, LastNewAt (h ++ [e]) name i := by
  intro name hm
  obtain ⟨i, hi⟩ := hf.new name hm
  exact ⟨i, hi.concat (he name hm)⟩

theorem sorted_concat : r.names.Pairwise (NewBefore (h ++ [e])) := by
  refine hf.sorted.imp_of_mem fun {a b} ha hb hab => ?_
  obtain ⟨i, j, hi, hj, hlt⟩ := hab
  exact ⟨i, j, hi.concat (he a ha), hj.concat (he b hb), hlt⟩

end Kept

theorem put {s : Schema} (hf : Follows h r) (he : e.Registers s) :
    Follows (h ++ [e]) (r.put s) := by
  have hheld : ∀ name ∈ r.names, ¬Adds h e name := by
    intro name hm ha
    obtain ⟨t, ht⟩ := hf.mem_names_iff.mp hm
    exact ha.2 t ht
  have hget : ∀ name t, (r.put s).get? name = some t ↔ Holds (h ++ [e]) name t := by
    intro name t
    rw [get?_put, holds_concat_of_registers he]
    split
    · rw [Option.some.injEq, eq_comm]
    · exact hf.get?_iff name t
  have hown : ∀ e ∈ (r.put s).schemas, e.2.name = e.1 := by
    intro e hm
    obtain hm | ⟨hv, hk | ⟨-, hk⟩⟩ := Entries.mem_put hm
    · exact hf.own e hm
    · rw [hv, hk]
    · rw [hv, eq_of_beq hk]
  -- A name that is held keeps its place; a new one comes last, as its step does.
  by_cases hs : s.name ∈ r.names
  · refine ⟨hget, hown, ?_, ?_⟩ <;> rw [names_put_of_mem hs]
    · exact hf.new_concat hheld
    · exact hf.sorted_concat hheld
  · have ha : Adds h e s.name := ⟨⟨s, he, rfl⟩, fun t ht => hs (hf.mem_names_iff.mpr ⟨t, ht⟩)⟩
    have hlast := lastNewAt_concat_length ha
    refine ⟨hget, hown, ?_, ?_⟩ <;> rw [names_put_of_not_mem hs]
    · rw [List.forall_mem_append]
      exact ⟨hf.new_concat hheld, by simpa using ⟨_, hlast⟩⟩
    · rw [List.pairwise_append]
      refine ⟨hf.sorted_concat hheld, List.pairwise_singleton _ _, ?_⟩
      rintro name hm _ (_ | ⟨_, ⟨⟩⟩)
      obtain ⟨i, hi⟩ := hf.new name hm
      exact ⟨i, _, hi.concat (hheld name hm), hlast, hi.new.lt_length⟩

theorem unregister {name : String} (hf : Follows h r) (he : e.Unregisters name) :
    Follows (h ++ [e]) (r.unregister name) := by
  have hnot : ∀ other ∈ r.names, ¬Adds h e other := by
    rintro other - ⟨⟨s, hs, -⟩, -⟩
    exact he.not_registers hs
  refine ⟨fun other t => ?_, fun e he => ?_, fun other hm => ?_, ?_⟩
  · rw [get?_unregister, holds_concat_of_unregisters he, ← hf.get?_iff]
    by_cases hn : name = other <;> simp [hn]
  · exact hf.own e (List.mem_filter.mp he).1
  · exact hf.new_concat hnot other (names_unregister_sublist.subset hm)
  · exact (hf.sorted_concat hnot).sublist names_unregister_sublist

theorem unchanged (hf : Follows h r) (he : ∀ name, ¬e.Settles name) : Follows (h ++ [e]) r := by
  have hnot : ∀ name ∈ r.names, ¬Adds h e name := fun name _ ha => he name (.inl ha.1)
  refine ⟨fun name t => ?_, hf.own, hf.new_concat hnot, hf.sorted_concat hnot⟩
  rw [hf.get?_iff, holds_concat_of_not_settles (he name)]

theorem effect {r' : Registry} (hf : Follows h r) (he : e.Effect r r') : Follows (h ++ [e]) r' := by
  cases he with
  | put he => exact hf.put he
  | removed he => exact hf.unregister he
  | unchanged he => exact hf.unchanged he

end Follows

theorem follows_empty : Follows [] empty := by
  refine ⟨fun name s => ⟨nofun, ?_⟩, nofun, nofun, .nil⟩
  rintro ⟨before, e, later, h, -⟩
  simp at h

theorem after_concat (r : Registry) (ops : List Operation) (op : Operation) :
    r.after (ops ++ [op]) = ((r.after ops).perform op).2 := by
  rw [after, List.foldl_append]
  rfl

theorem steps_concat (r : Registry) (ops : List Operation) (op : Operation) :
    r.steps (ops ++ [op]) = r.steps ops ++ [(r.after ops).step op] := by
  induction ops generalizing r with
  | nil => rfl
  | cons first ops ih => exact congrArg (r.step first :: ·) (ih _)

theorem follows_after (ops : List Operation) : Follows (empty.steps ops) (empty.after ops) := by
  induction ops using List.reverseRecOn with
  | nil => exact follows_empty
  | append_singleton ops op ih =>
    rw [steps_concat, after_concat]
    exact ih.effect (effect_step _ op)

section Observers

variable {r : Registry} {name : String} {s : Schema} {refusal : Refusal}

theorem step_get_eq_ok_iff :
    (r.step (.get name)).result = .ok (.schema s) ↔ r.get? name = some s := by
  simp only [step, perform, Traced.of, get]
  cases r.get? name <;> simp [Except.mapError, Except.map]

theorem step_get_eq_error_iff : (r.step (.get name)).result = .error refusal ↔
    r.get? name = none ∧ refusal = .registry (.unknown name) := by
  simp only [step, perform, Traced.of, get]
  cases r.get? name <;> simp [Except.mapError, Except.map, eq_comm]

theorem step_registerDocument_eq_error_iff {doc : Value} {replace : Bool} :
    (r.step (.registerDocument doc replace)).result = .error refusal ↔
      (∃ e, Schema.ofDocument doc = .error e ∧ refusal = .document e) ∨
        ∃ s, Schema.ofDocument doc = .ok s ∧ (s.name ∈ r.names ∧ replace = false) ∧
          refusal = .document (.fault (.alreadyRegistered s.name)) := by
  rw [step, perform]
  cases hd : Schema.ofDocument doc with
  | error e => simp [Traced.of, eq_comm]
  | ok s => simp [add_eq_error_iff]

end Observers

theorem after_follows_steps (ops : List Operation) :
    let r := empty.after ops
    let h := empty.steps ops
    (∀ name s, (r.step (.get name)).result = .ok (.schema s) ↔ Holds h name s) ∧
    (∀ name, (r.step (.get name)).result = .error (.registry (.unknown name)) ↔
      ∀ s, ¬Holds h name s) ∧
    (∀ name, ∃ held : Bool, (held = true ↔ ∃ s, Holds h name s) ∧
      (r.step (.contains (.text name))).result = .ok (.flag held) ∧
      (r.step (.unregister name)).result = .ok (.flag held)) ∧
    (∃ names, (r.step .names).result = .ok (.names names) ∧
      (r.step .size).result = .ok (.count names.length) ∧
      (∀ name, name ∈ names ↔ ∃ s, Holds h name s) ∧
      names.Nodup ∧ names.Pairwise (NewBefore h)) ∧
    (∀ e ∈ r.schemas, e.2.name = e.1) ∧
    (∀ s replace e, (r.step (.register s replace)).result = .error e ↔
      ((∃ t, Holds h s.name t) ∧ replace = false) ∧
        e = .document (.fault (.alreadyRegistered s.name))) ∧
    (∀ doc replace e, (r.step (.registerDocument doc replace)).result = .error e ↔
      (∃ x, Schema.ofDocument doc = .error x ∧ e = .document x) ∨
        ∃ s, Schema.ofDocument doc = .ok s ∧ ((∃ t, Holds h s.name t) ∧ replace = false) ∧
          e = .document (.fault (.alreadyRegistered s.name))) ∧
    ∀ op e, (r.step op).result = .error e → (r.perform op).2 = r := by
  intro r h
  have hf : Follows h r := follows_after ops
  refine ⟨fun name s => step_get_eq_ok_iff.trans (hf.get?_iff name s), fun name => ?_,
    fun name => ⟨r.contains name, contains_iff.trans hf.mem_names_iff, rfl, rfl⟩,
    ⟨r.names, rfl, ?_, fun name => hf.mem_names_iff, hf.sorted.imp NewBefore.ne, hf.sorted⟩,
    hf.own, fun s replace e => ?_, fun doc replace e => ?_, fun op e => perform_of_error⟩
  · simp [step_get_eq_error_iff, Option.eq_none_iff_forall_ne_some, hf.get?_iff]
  · simp [step, perform, Traced.of, size, names, Entries.keys]
  · rw [← hf.mem_names_iff]
    exact add_eq_error_iff
  · simp only [step_registerDocument_eq_error_iff, hf.mem_names_iff]

end Histories

def turnover : List Operation :=
  [.register ⟨"a", [], none⟩ false, .register ⟨"b", [], none⟩ false,
    .registerDocument (.keyed [("name", .text "a"), ("fields", .list [])]) true,
    .unregister "b", .register ⟨"c", [], none⟩ false, .register ⟨"b", [], some ""⟩ false,
    .register ⟨"c", [], some ""⟩ false]

theorem after_follows_steps_turnover :
    Holds (empty.steps turnover) "b" ⟨"b", [], some ""⟩ ∧
      (∀ s, ¬Holds (empty.steps turnover) "d" s) ∧
      ["a", "c", "b"].Pairwise (NewBefore (empty.steps turnover)) ∧
      ((empty.after turnover).step (.get "d")).result = .error (.registry (.unknown "d")) ∧
      ((empty.after turnover).perform (.get "d")).2 = empty.after turnover := by
  obtain ⟨hget, hmiss, -, ⟨names, hn, -, -, -, hp⟩, -, -, -, hr⟩ := after_follows_steps turnover
  have hd : ((empty.after turnover).step (.get "d")).result =
    .error (.registry (.unknown "d")) := rfl
  cases hn
  exact ⟨(hget "b" _).mp rfl, (hmiss "d").mp hd, hp, hd, hr _ _ hd⟩

end FieldGuard.Registry
