import FieldGuard.Host
import FieldGuard.Proofs.Schema.Outline

namespace FieldGuard.Schema

open Document

structure Row.Declares (row : Row) (f : SchemaField) : Prop where
  name : f.name = row.name
  kind : ∃ k, Kind.Spells row.kind k ∧ f.kind = some k
  tag : f.tag = row.tag

inductive Row.Fault (earlier : List String) (i : Nat) (row : Row) : SchemaFault → Prop
  | repeated (h : row.name ∈ earlier) : Fault earlier i row (.duplicateField i row.name)
  | unknown (h : row.name ∉ earlier) (hk : ∀ k, ¬Kind.Spells row.kind k) :
      Fault earlier i row (.unknownKind i row.kind)

def Row.IsSound (earlier : List String) (row : Row) : Prop :=
  row.name ∉ earlier ∧ ∃ k, Kind.Spells row.kind k

theorem Row.isSound_iff {earlier : List String} {row : Row} (i : Nat) :
    row.IsSound earlier ↔ ∀ e, ¬row.Fault earlier i e := by
  constructor
  · rintro ⟨hn, k, hk⟩ e (h | ⟨-, h⟩)
    · exact hn h
    · exact h k hk
  · intro h
    have hn : row.name ∉ earlier := fun hn => h _ (.repeated hn)
    refine ⟨hn, ?_⟩
    by_contra hk
    exact h _ (.unknown hn (not_exists.mp hk))

theorem Row.Fault.congr {earlier later : List String} {i : Nat} {row : Row} {e : SchemaFault}
    (hm : ∀ name, name ∈ earlier ↔ name ∈ later) (h : row.Fault earlier i e) :
    row.Fault later i e := by
  cases h with
  | repeated h => exact .repeated ((hm _).mp h)
  | unknown h hk => exact .unknown (fun hn => h ((hm _).mpr hn)) hk

def FaultAt (seen : List String) (rows : List Row) (n i : Nat) (e : SchemaFault) : Prop :=
  ∃ row, rows[n]? = some row ∧ row.Fault (seen ++ (rows.take n).map Row.name) i e

theorem faultAt_zero_iff {seen : List String} {row : Row} {rows : List Row} {i : Nat}
    {e : SchemaFault} : FaultAt seen (row :: rows) 0 i e ↔ row.Fault seen i e := by
  simp [FaultAt]

theorem faultAt_succ_iff {seen : List String} {row : Row} {rows : List Row} {n i : Nat}
    {e : SchemaFault} :
    FaultAt seen (row :: rows) (n + 1) i e ↔ FaultAt (row.name :: seen) rows n i e := by
  have hm : ∀ name, name ∈ seen ++ ((row :: rows).take (n + 1)).map Row.name ↔
      name ∈ row.name :: seen ++ (rows.take n).map Row.name := by
    intro name
    simp only [List.take_succ_cons, List.map_cons, List.mem_append, List.mem_cons]
    tauto
  constructor
  · rintro ⟨r, hr, hf⟩
    exact ⟨r, hr, hf.congr hm⟩
  · rintro ⟨r, hr, hf⟩
    exact ⟨r, hr, hf.congr fun name => (hm name).symm⟩

theorem fieldOfDocument_cases (seen : List String) (index : Nat) {entry : Value} {row : Row}
    (h : row.Writes entry) :
    (∃ f, fieldOfDocument seen index entry = .ok f ∧ row.name ∉ seen ∧ row.Declares f) ∨
      ∃ e, fieldOfDocument seen index entry = .error e ∧ row.Fault seen index e := by
  obtain ⟨es, he, h⟩ := h
  have hn : textUnder es "name" = row.name := by rw [textUnder, h.name]; rfl
  have hk : textUnder es "kind" = row.kind := by rw [textUnder, h.kind]; rfl
  have ht : (Value.lookup es tagKey).bind Value.text? = row.tag := by
    rw [tagKey, h.tag]
    cases row.tag <;> rfl
  simp only [fieldOfDocument, he, Option.getD_some, hn, hk, ht]
  by_cases hs : row.name ∈ seen
  · rw [if_pos (List.contains_iff_mem.mpr hs)]
    exact .inr ⟨_, rfl, .repeated hs⟩
  · rw [if_neg (mt List.contains_iff_mem.mp hs)]
    split
    · rename_i hk
      exact .inr ⟨_, rfl, .unknown hs (Kind.ofName?_eq_none_iff.mp hk)⟩
    · rename_i k hk
      exact .inl ⟨_, rfl, hs, rfl, ⟨k, Kind.ofName?_eq_some_iff.mp hk, rfl⟩, rfl⟩

theorem Row.Declares.isSound {row : Row} {f : SchemaField} {earlier : List String}
    (hd : row.Declares f) (hn : row.name ∉ earlier) : row.IsSound earlier := by
  obtain ⟨k, hk, -⟩ := hd.kind
  exact ⟨hn, k, hk⟩

theorem fieldsOfDocument_cases {rows : List Row} {entries : List Value}
    (h : List.Forall₂ Row.Writes rows entries) (seen : List String) (index : Nat) :
    (∃ fields, fieldsOfDocument seen index entries = .ok fields ∧
        List.Forall₂ Row.Declares rows fields ∧ (rows.map Row.name).Nodup ∧
          ∀ row ∈ rows, row.name ∉ seen) ∨
      ∃ n e, fieldsOfDocument seen index entries = .error e ∧
        FaultAt seen rows n (index + n) e ∧ ∀ j < n, ∀ i e, ¬FaultAt seen rows j i e := by
  -- Each row adds its name to those seen, so the induction is for any names and any first index.
  induction h generalizing seen index with
  | nil => exact .inl ⟨[], rfl, .nil, .nil, nofun⟩
  | @cons row entry rows entries hw _ ih =>
    rw [fieldsOfDocument]
    obtain ⟨f, hf, hs, hd⟩ | ⟨e, he, hf⟩ := fieldOfDocument_cases seen index hw
    · rw [hf]
      obtain ⟨fields, hr, hds, hn, hss⟩ | ⟨n, e, he, hft, hl⟩ := ih (f.name :: seen) (index + 1)
      · refine .inl ⟨f :: fields, ?_, .cons hd hds, ?_, ?_⟩
        · change (fieldsOfDocument (f.name :: seen) (index + 1) entries >>= _) = _
          rw [hr]
          rfl
        · rw [List.map_cons, List.nodup_cons]
          refine ⟨fun hm => ?_, hn⟩
          obtain ⟨r, hr, he⟩ := List.mem_map.mp hm
          exact hss r hr (by rw [he, hd.name]; exact List.mem_cons_self)
        · rw [List.forall_mem_cons]
          exact ⟨hs, fun r hr hm => hss r hr (List.mem_cons_of_mem _ hm)⟩
      · rw [hd.name] at hft hl
        refine .inr ⟨n + 1, e, ?_, faultAt_succ_iff.mpr ?_, fun j hj i e hfj => ?_⟩
        · change (fieldsOfDocument (f.name :: seen) (index + 1) entries >>= _) = _
          rw [he]
          rfl
        · rwa [Nat.add_comm n, ← Nat.add_assoc]
        · cases j with
          | zero => exact (Row.isSound_iff i).mp (hd.isSound hs) e (faultAt_zero_iff.mp hfj)
          | succ j => exact hl j (by omega) i e (faultAt_succ_iff.mp hfj)
    · rw [he]
      exact .inr ⟨0, e, rfl, faultAt_zero_iff.mpr hf, nofun⟩

structure Outline.Declares (o : Outline) (s : Schema) : Prop where
  name : s.name = o.name
  description : s.description = o.description
  fields : List.Forall₂ Row.Declares o.rows s.fields

theorem Outline.Declares.names_eq {o : Outline} {s : Schema} (h : o.Declares s) :
    s.fields.map SchemaField.name = o.rows.map Row.name := by
  rw [eq_comm, ← List.forall₂_eq_eq_eq, List.forall₂_map_left_iff, List.forall₂_map_right_iff]
  exact h.fields.imp fun _ _ hf => hf.name.symm

structure FirstFault (rows : List Row) (i : Nat) (row : Row) : Prop where
  found : rows[i]? = some row
  fault : ¬row.IsSound ((rows.take i).map Row.name)
  sound : ∀ j < i, ∀ r, rows[j]? = some r → r.IsSound ((rows.take j).map Row.name)

theorem firstFault_of_faultAt {rows : List Row} {n i : Nat} {e : SchemaFault}
    (h : FaultAt [] rows n i e) (hl : ∀ j < n, ∀ i e, ¬FaultAt [] rows j i e) :
    ∃ row, FirstFault rows n row ∧ row.Fault ((rows.take n).map Row.name) i e := by
  obtain ⟨row, hr, hf⟩ := h
  refine ⟨row, ⟨hr, fun hs => (Row.isSound_iff i).mp hs e hf, fun j hj r hrj => ?_⟩, hf⟩
  exact (Row.isSound_iff 0).mpr fun e he => hl j hj 0 e ⟨r, hrj, he⟩

theorem exists_declares {o : Outline} (h : ∀ row ∈ o.rows, ∃ k, Kind.Spells row.kind k) :
    ∃ s, o.Declares s := by
  have hr : ∀ row ∈ o.rows, ∃ f, row.Declares f := by
    intro row hm
    obtain ⟨k, hk⟩ := h row hm
    exact ⟨⟨row.name, some k, row.tag⟩, rfl, ⟨k, hk, rfl⟩, rfl⟩
  obtain ⟨fields, hf⟩ := Traversal.exists_forall₂ hr
  exact ⟨⟨o.name, fields, o.description⟩, rfl, rfl, hf⟩

theorem Row.declares_unique : Relator.RightUnique Row.Declares := by
  rintro row ⟨_, _, _⟩ ⟨_, _, _⟩ ⟨rfl, ⟨k, hk, rfl⟩, rfl⟩ ⟨rfl, ⟨l, hl, rfl⟩, rfl⟩
  rw [Kind.spells_unique hk hl]

theorem Outline.declares_unique {o : Outline} {s t : Schema} (h : o.Declares s)
    (h' : o.Declares t) : s = t := by
  obtain ⟨_, _, _⟩ := s
  obtain ⟨_, _, _⟩ := t
  obtain ⟨rfl, rfl, hf⟩ := h
  obtain ⟨rfl, rfl, hf'⟩ := h'
  exact congrArg (Schema.mk o.name · o.description)
    (List.right_unique_forall₂' Row.declares_unique hf hf')

theorem not_mem_take_of_nodup {rows : List Row} (hn : (rows.map Row.name).Nodup) {i : Nat}
    {row : Row} (hr : rows[i]? = some row) : row.name ∉ (rows.take i).map Row.name := by
  obtain ⟨hi, rfl⟩ := List.getElem?_eq_some_iff.mp hr
  rw [← List.take_append_drop i rows, List.map_append, List.nodup_append] at hn
  have hd : rows[i] ∈ rows.drop i := by
    rw [List.drop_eq_getElem_cons hi]
    exact List.mem_cons_self
  exact fun hm => hn.2.2 _ hm _ (List.mem_map_of_mem hd) rfl

theorem not_firstFault {rows : List Row} (hn : (rows.map Row.name).Nodup)
    (hk : ∀ row ∈ rows, ∃ k, Kind.Spells row.kind k) (i : Nat) (row : Row) :
    ¬FirstFault rows i row := fun h =>
  h.fault ⟨not_mem_take_of_nodup hn h.found, hk row (List.mem_of_getElem? h.found)⟩

theorem Row.Fault.reports {earlier : List String} {i : Nat} {row : Row} {e : SchemaFault}
    (h : row.Fault earlier i e) :
    row.name ∈ earlier ∧ e.path = some ("fields/" ++ i.repr) ∧
        e.detail = "duplicate field " ++ Text.quoted row.name ∨
      row.name ∉ earlier ∧ e.path = some ("fields/" ++ i.repr ++ "/kind") ∧
        e.detail = "unknown field kind " ++ Text.quoted row.kind := by
  cases h with
  | repeated h => exact .inl ⟨h, rfl, rfl⟩
  | unknown h _ => exact .inr ⟨h, rfl, rfl⟩

section Outcomes

variable [Checker] {doc : Value} {o : Outline}

theorem check_schemaFormat_iff :
    Checker.check schemaFormat doc = .ok () ↔ ∃ o : Outline, o.Writes doc := by
  rw [Checker.check_eq_ok_iff, accepts_schemaFormat_iff]

theorem ofDocument_of_writes (h : o.Writes doc) :
    (∃ s, ofDocument doc = .ok s ∧ o.Declares s ∧ (o.rows.map Row.name).Nodup) ∨
      ∃ i row e, ofDocument doc = .error (.fault e) ∧ FirstFault o.rows i row ∧
        row.Fault ((o.rows.take i).map Row.name) i e := by
  have hok := check_schemaFormat_iff.mpr ⟨o, h⟩
  obtain ⟨es, he, h⟩ := h
  obtain ⟨entries, hf, hr⟩ := h.fields
  have hn : textUnder es "name" = o.name := by rw [textUnder, h.name]; rfl
  have hd : (Value.lookup es "description").bind Value.text? = o.description := by
    rw [h.description]
    cases o.description <;> rfl
  have hfs : ((Value.lookup es "fields").bind Value.items?).getD [] = entries := by rw [hf]; rfl
  simp only [ofDocument, hok, he, Option.getD_some, hn, hd, hfs]
  obtain ⟨fields, hs, hds, hnd, -⟩ | ⟨n, e, hs, hft, hl⟩ := fieldsOfDocument_cases hr [] 0
  · rw [hs]
    exact .inl ⟨_, rfl, ⟨rfl, rfl, hds⟩, hnd⟩
  · rw [hs]
    rw [Nat.zero_add] at hft
    obtain ⟨row, hff, hf⟩ := firstFault_of_faultAt hft hl
    exact .inr ⟨n, row, e, rfl, hff, hf⟩

theorem ofDocument_of_not_writes (h : ∀ o : Outline, ¬o.Writes doc) :
    (∃ path message, Checker.check schemaFormat doc = .error (.broken path message) ∧
        ofDocument doc = .error (.fault (.offence path message))) ∨
      ∃ e, Checker.check schemaFormat doc = .error (.failed e) ∧
        ofDocument doc = .error (.text e) := by
  rw [ofDocument]
  cases hc : Checker.check schemaFormat doc with
  | ok _ =>
    obtain ⟨o, ho⟩ := check_schemaFormat_iff.mp hc
    exact absurd ho (h o)
  | error breach =>
    cases breach with
    | broken path message => exact .inl ⟨path, message, rfl, rfl⟩
    | failed e => exact .inr ⟨e, rfl, rfl⟩

theorem ofDocument_eq_text_iff {e : TextError} :
    ofDocument doc = .error (.text e) ↔
      Checker.check schemaFormat doc = .error (.failed e) := by
  constructor
  · intro he
    by_cases h : ∃ o : Outline, o.Writes doc
    · obtain ⟨o, h⟩ := h
      obtain ⟨s, hs, -⟩ | ⟨i, row, e', hs, -⟩ := ofDocument_of_writes h <;>
      · rw [he] at hs
        cases hs
    · obtain ⟨path, message, -, hf⟩ | ⟨e', hc, hf⟩ := ofDocument_of_not_writes (not_exists.mp h)
      · rw [he] at hf
        cases hf
      · rw [he] at hf
        cases hf
        exact hc
  · intro hc
    rw [ofDocument, hc]

theorem ofDocument_eq_ok_iff {s : Schema} : ofDocument doc = .ok s ↔
    ∃ o : Outline, o.Writes doc ∧ (o.rows.map Row.name).Nodup ∧ o.Declares s := by
  constructor
  · intro h
    by_cases hw : ∃ o : Outline, o.Writes doc
    · obtain ⟨o, hw⟩ := hw
      obtain ⟨t, ht, hd, hn⟩ | ⟨_, _, e, he, -⟩ := ofDocument_of_writes hw
      · rw [ht, Except.ok.injEq] at h
        exact ⟨o, hw, hn, h ▸ hd⟩
      · rw [he] at h
        cases h
    · obtain ⟨_, _, -, he⟩ | ⟨_, -, he⟩ := ofDocument_of_not_writes (not_exists.mp hw) <;>
      · rw [he] at h
        cases h
  · rintro ⟨o, hw, hn, hd⟩
    obtain ⟨t, ht, hd', -⟩ | ⟨i, row, -, -, hf, -⟩ := ofDocument_of_writes hw
    · rw [ht, Outline.declares_unique hd hd']
    · refine absurd hf (not_firstFault hn (fun r hr => ?_) i row)
      obtain ⟨f, -, hf⟩ := Traversal.exists_mem_right hd.fields r hr
      obtain ⟨k, hk, -⟩ := hf.kind
      exact ⟨k, hk⟩

theorem exists_ofDocument_eq_ok_iff : (∃ s, ofDocument doc = .ok s) ↔
    ∃ o : Outline, o.Writes doc ∧ (o.rows.map Row.name).Nodup ∧
      ∀ row ∈ o.rows, ∃ k, Kind.Spells row.kind k := by
  constructor
  · rintro ⟨s, h⟩
    obtain ⟨o, hw, hn, hd⟩ := ofDocument_eq_ok_iff.mp h
    refine ⟨o, hw, hn, fun row hm => ?_⟩
    obtain ⟨f, -, hf⟩ := Traversal.exists_mem_right hd.fields row hm
    obtain ⟨k, hk, -⟩ := hf.kind
    exact ⟨k, hk⟩
  · rintro ⟨o, hw, hn, hk⟩
    obtain ⟨s, hd⟩ := exists_declares hk
    exact ⟨s, ofDocument_eq_ok_iff.mpr ⟨o, hw, hn, hd⟩⟩

/-- The documents that write an outline of distinct names and known kinds are read, and every other
one is reported, unless the checker of documents stops with an error of its own. -/
theorem ofDocument_reads_or_reports (doc : Value) :
    (∀ s, ofDocument doc = .ok s ↔
      ∃ o : Outline, o.Writes doc ∧ (o.rows.map Row.name).Nodup ∧ o.Declares s) ∧
    ((∃ s, ofDocument doc = .ok s) ↔
      ∃ o : Outline, o.Writes doc ∧ (o.rows.map Row.name).Nodup ∧
        ∀ row ∈ o.rows, ∃ k, Kind.Spells row.kind k) ∧
    (∀ o : Outline, o.Writes doc → (∀ s, ofDocument doc ≠ .ok s) →
      ∃ i row e, FirstFault o.rows i row ∧ ofDocument doc = .error (.fault e) ∧
        (row.name ∈ (o.rows.take i).map Row.name ∧ e.path = some ("fields/" ++ i.repr) ∧
            e.detail = "duplicate field " ++ Text.quoted row.name ∨
          row.name ∉ (o.rows.take i).map Row.name ∧
            e.path = some ("fields/" ++ i.repr ++ "/kind") ∧
            e.detail = "unknown field kind " ++ Text.quoted row.kind)) ∧
    ((∀ o : Outline, ¬o.Writes doc) →
      (∀ e, Checker.check schemaFormat doc ≠ .error (.failed e)) →
      ∃ path message, Checker.check schemaFormat doc = .error (.broken path message) ∧
        ofDocument doc = .error (.fault (.offence path message))) ∧
    ∀ e, ofDocument doc = .error (.text e) ↔
      Checker.check schemaFormat doc = .error (.failed e) := by
  refine ⟨fun s => ofDocument_eq_ok_iff, exists_ofDocument_eq_ok_iff, fun o hw hn => ?_,
    fun hw hc => ?_, fun e => ofDocument_eq_text_iff⟩
  · obtain ⟨s, hs, -⟩ | ⟨i, row, e, he, hf, hr⟩ := ofDocument_of_writes hw
    · exact absurd hs (hn s)
    · exact ⟨i, row, e, hf, he, hr.reports⟩
  · obtain hf | ⟨e, he, -⟩ := ofDocument_of_not_writes hw
    · exact hf
    · exact absurd he (hc e)

end Outcomes

def aliasOutline : Outline :=
  ⟨"S", some "", [⟨"a", " Integer_List\n", some "min:1"⟩, ⟨"b", "real", none⟩, ⟨"a", "int", none⟩]⟩

def strayDocument : Value :=
  .keyed [("name", .text ""), ("fields", .list [.keyed [("kind", .bool true)]])]

theorem ofDocument_reads_or_reports_alias :
    (aliasOutline.Writes aliasOutline.document ∧
      (∀ s, ofDocument aliasOutline.document ≠ .ok s) ∧
      ∃ i row e, FirstFault aliasOutline.rows i row ∧
        ofDocument aliasOutline.document = .error (.fault e)) ∧
    ofDocument aliasOutline.document = .error (.fault (.unknownKind 1 "real")) ∧
    (∀ o : Outline, ¬o.Writes strayDocument) ∧
    (∀ e, Checker.check schemaFormat strayDocument ≠ .error (.failed e)) ∧
    (∃ path message, ofDocument strayDocument = .error (.fault (.offence path message))) ∧
    ofDocument strayDocument =
      .error (.fault (.offence [.key "name"] "'' should be non-empty")) := by
  have ha : ofDocument aliasOutline.document = .error (.fault (.unknownKind 1 "real")) := rfl
  have hc : Checker.check schemaFormat strayDocument =
    .error (.broken [.key "name"] "'' should be non-empty") := rfl
  have hw : aliasOutline.Writes aliasOutline.document :=
    aliasOutline.writes_document_iff.mpr (by decide)
  have hn : ∀ s, ofDocument aliasOutline.document ≠ .ok s := by
    intro s h
    rw [ha] at h
    cases h
  have hstray : ∀ o : Outline, ¬o.Writes strayDocument := by
    intro o ho
    have h := check_schemaFormat_iff.mpr ⟨o, ho⟩
    rw [hc] at h
    cases h
  have hfailed : ∀ e, Checker.check schemaFormat strayDocument ≠ .error (.failed e) := by
    intro e h
    rw [hc] at h
    cases h
  obtain ⟨i, row, e, hf, he, -⟩ :=
    (ofDocument_reads_or_reports aliasOutline.document).2.2.1 _ hw hn
  obtain ⟨path, message, -, hf'⟩ :=
    (ofDocument_reads_or_reports strayDocument).2.2.2.1 hstray hfailed
  exact ⟨⟨hw, hn, i, row, e, hf, he⟩, ha, hstray, hfailed, ⟨path, message, hf'⟩, rfl⟩

end FieldGuard.Schema
