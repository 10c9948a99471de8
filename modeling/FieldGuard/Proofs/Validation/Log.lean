import FieldGuard.Proofs.Validation.Report
import FieldGuard.Proofs.Validation.Wording

namespace FieldGuard.Validator

variable {v : Validator} {record : Value} {ref : Option SchemaRef} {s : Option Schema}
  {f : Field} {tag : Value} {fs : List Field} {block found : List Violation} {names : List String}
  {e : Event} {r : Report} {rows : List (List Violation × Event)} {log : List Event}

section Log

def isOfTag (x : Violation) : Bool := x.code == .unexportedField || x.code == .invalidTag

inductive Announces : Event → Violation → Prop
  | unexported (name : String) : Announces (.unexported name) (.unexported name)
  | invalidTag (name : String) (fault : Tag.Fault) :
      Announces (.invalidTag name fault) (.invalidTag name)

def withLog (v : Validator) (log : Bool) : Validator :=
  ⟨{ v.config with logViolations := log }, v.registry⟩

def infos (log : Bool) (r : Report) : List Event :=
  if log then r.violations.toList.map Event.ofViolation else []

theorem Resolves.withLog (h : v.Resolves ref s) (b : Bool) : (v.withLog b).Resolves ref s := by
  cases h with
  | absent => exact .absent
  | given schema => exact .given schema
  | registered hr h => exact .registered hr h

theorem level_of_mem_infos (r : Report) (b : Bool) : ∀ e ∈ infos b r, e.level = .info := by
  intro e he
  cases b with
  | false => cases he
  | true =>
    obtain ⟨x, -, rfl⟩ := List.mem_map.mp he
    rfl

theorem filter_warning_infos (b : Bool) (r : Report) :
    ((infos b r).filter fun e => e.level == .warning) = [] := by
  rw [List.filter_eq_nil_iff]
  intro e he
  rw [level_of_mem_infos r b e he]
  exact nofun

variable [Host]

inductive Leaves (f : Field) (tag : Value) : List Violation → Event → Prop
  | unexported (h : IsPrivate f) : Leaves f tag [.unexported f.name] (.unexported f.name)
  | invalid {fault : Tag.Fault} (hp : ¬IsPrivate f) (hn : ∀ k c, ¬Constrains f tag k c)
      (hr : Tag.read tag f.kind = .error (.fault fault)) :
      Leaves f tag [.invalidTag f.name] (.invalidTag f.name fault)
  | parsed {k : Kind} {text : String} {c : Constraint} {block : List Violation}
      (hp : ¬IsPrivate f) (hk : f.kind = some k) (ht : tag = .text text)
      (hd : Tag.Denotes k text c.row) (hb : Block f tag block) (hv : ∀ x ∈ block, x.IsOfValue) :
      Leaves f tag block (.parsed text k c.family)

def LeavesEach (fs : List Field) (rows : List (List Violation × Event)) : Prop :=
  List.Forall₂ (fun f row => ∃ tag, f.tag = some tag ∧ Leaves f tag row.1 row.2) (tagged fs) rows

inductive Mirrors (v : Validator) : Value → Option Schema → Report → List Event → Prop
  | rejected {record : Value} {s : Option Schema} (h : ¬IsRecord record s) :
      Mirrors v record s (rejection record) [.rejected record.typeName]
  | checked {record : Value} {s : Option Schema} {r : Report} {fs : List Field}
      {rows : List (List Violation × Event)} {names : List Value} (hr : IsRecord record s)
      (hp : v.Presents record s fs) (hl : LeavesEach fs rows)
      (hc : Value.lookup r.context "checked_fields" = some (.list names))
      (hn : names = (tagged fs).map fun f => .text f.name)
      (hv : r.violations.toList = (rows.map Prod.fst).flatten) :
      Mirrors v record s r (rows.map Prod.snd ++
        [.checked record.typeName names.length r.violations.size])

theorem checkField_of_fault (hp : ¬IsPrivate f) {fault : Tag.Fault}
    (hr : Tag.read tag f.kind = .error (.fault fault)) :
    checkField f tag = ⟨[.invalidTag f.name fault], .ok [.invalidTag f.name]⟩ := by
  unfold checkField
  rw [if_pos (isExported_of_not_isPrivate hp)]
  dsimp only
  rw [readTag_result, hr]

theorem readTag_of_ok {k : Kind} {text : String} {c : Constraint}
    (h : Tag.read (.text text) (some k) = .ok c) :
    readTag (.text text) (some k) = ⟨[.parsed text k c.family], .ok c⟩ := by
  unfold readTag
  rw [h]

theorem checkField_of_read (hp : ¬IsPrivate f) {k : Kind} {text : String} {c : Constraint}
    (hk : f.kind = some k) (hr : Tag.read (.text text) f.kind = .ok c) :
    checkField f (.text text) =
      ⟨[.parsed text k c.family], checkValue c k f.name f.value⟩ := by
  rw [hk] at hr
  unfold checkField
  rw [if_pos (isExported_of_not_isPrivate hp), hk, readTag_of_ok hr]

theorem leaves_of_checkField (h : (checkField f tag).result = .ok block) :
    ∃ e, (checkField f tag).events = [e] ∧ Leaves f tag block e := by
  obtain ⟨hs, hb⟩ := checkField_eq_ok_iff.mp h
  by_cases hp : IsPrivate f
  · obtain rfl := (block_iff_of_isPrivate hp).mp hb
    rw [checkField_eq_of_isPrivate hp]
    exact ⟨_, rfl, .unexported hp⟩
  have hr := reading hp tag
  cases ht : Tag.read tag f.kind <;> rw [ht] at hr
  case ok c =>
    cases hr with
    | constraint hc _ =>
      have hv := isOfValue_of_constrains hp hc hb
      obtain ⟨hk, text, rfl, hd⟩ := hc
      rw [checkField_of_read hp hk ht]
      exact ⟨_, rfl, .parsed hp hk rfl hd hb hv⟩
  case error e =>
    cases hr with
    | fault hn _ =>
      obtain rfl := (block_iff_of_not_constrains hp hn).mp hb
      rw [checkField_of_fault hp ht]
      exact ⟨_, rfl, .invalid hp hn ht⟩
    | tooLong hd | unshown hd => exact absurd (.unread hd) (hs _)

theorem Leaves.announces (h : Leaves f tag block e) :
    List.Forall₂ Announces ([e].filter fun e => e.level == .warning) (block.filter isOfTag) := by
  cases h with
  | unexported _ => exact .cons (.unexported f.name) .nil
  | @invalid fault _ _ _ => exact .cons (.invalidTag f.name fault) .nil
  | parsed _ _ _ _ _ hv =>
    have hn : block.filter isOfTag = [] := by
      rw [List.filter_eq_nil_iff]
      intro x hx
      rcases hv x hx with hc | hc <;> simp [isOfTag, hc]
    rw [hn]
    exact .nil

theorem Leaves.level_ne_info (h : Leaves f tag block e) : e.level ≠ .info := by
  intro hi
  cases h <;> cases hi

theorem leavesEach_of_checkFields (h : (checkFields (fs.map .ok)).result = .ok (names, found)) :
    ∃ rows, LeavesEach fs rows ∧ (checkFields (fs.map .ok)).events = rows.map Prod.snd ∧
      names = (tagged fs).map Field.name ∧ found = (rows.map Prod.fst).flatten := by
  unfold LeavesEach
  induction fs generalizing names found with
  | nil =>
    cases h
    exact ⟨[], .nil, rfl, rfl, rfl⟩
  | cons f fs ih =>
    rw [List.map_cons] at h ⊢
    cases ht : f.tag with
    | none =>
      rw [checkFields_skip ht] at h ⊢
      rw [tagged_cons_of_none ht]
      exact ih h
    | some tag =>
      rw [checkFields_of_some ht, Traversal.bind_eq_ok_iff] at h
      obtain ⟨block, hb, h⟩ := h
      obtain ⟨⟨names, found⟩, hr, h⟩ := Traversal.map_eq_ok_iff.mp h
      cases h
      obtain ⟨e, he, hl⟩ := leaves_of_checkField hb
      obtain ⟨rows, hrows, hs, rfl, rfl⟩ := ih hr
      rw [checkFields_step ht, Traced.bind_ok _ hb, Traced.bind_ok _ hr, he, hs,
        tagged_cons_of_some ht]
      refine ⟨(block, e) :: rows, .cons ⟨tag, ht, hl⟩ hrows, ?_, rfl, rfl⟩
      exact congrArg (e :: ·) (List.append_nil _)

theorem LeavesEach.announces (h : LeavesEach fs rows) :
    List.Forall₂ Announces ((rows.map Prod.snd).filter fun e => e.level == .warning)
      ((rows.map Prod.fst).flatten.filter isOfTag) := by
  unfold LeavesEach at h
  generalize tagged fs = fields at h
  induction h with
  | nil => exact .nil
  | @cons f row _ rows hf _ ih =>
    obtain ⟨tag, -, hl⟩ := hf
    rw [List.map_cons, List.map_cons, List.flatten_cons, List.filter_append,
      ← List.singleton_append, List.filter_append]
    exact List.rel_append hl.announces ih

theorem LeavesEach.level_ne_info (h : LeavesEach fs rows) : ∀ row ∈ rows, row.2.level ≠ .info := by
  intro row hr
  obtain ⟨f, -, tag, -, hl⟩ := Traversal.exists_mem_left h row hr
  exact hl.level_ne_info

theorem sourceOf?_withLog (v : Validator) (b : Bool) (record : Value) (s : Option Schema) :
    (v.withLog b).sourceOf? record s = v.sourceOf? record s := by
  cases s with
  | none => cases record <;> rfl
  | some s => rfl

theorem exists_presents (hr : IsRecord record s) (h : (v.validateWith record s).result = .ok r) :
    ∃ source fs, v.sourceOf? record s = some source ∧ source.fields = fs.map .ok ∧
      v.Presents record s fs := by
  obtain ⟨hd, -⟩ := validateWith_eq_ok_iff.mp h
  cases hr with
  | record t held shown =>
    have hs : v.sourceOf? (.record t held shown) none =
        some (.record (t.fieldsOf held v.config.tagKey)) := rfl
    obtain ⟨names, found, warnings, hc, -⟩ := validateWith_of_ok hs h
    obtain ⟨-, fs, -, hf, -⟩ := checkFields_eq_ok_iff.mp hc
    exact ⟨_, fs, hs, hf, (fieldsOf_eq_map_ok_iff hd).mp hf⟩
  | mapping form es schema =>
    have hs : v.sourceOf? (.mapping form es) (some schema) =
        some (.mapping (schema.fieldsOf es)) := rfl
    obtain ⟨names, found, warnings, hc, -⟩ := validateWith_of_ok hs h
    obtain ⟨-, fs, -, hf, -⟩ := checkFields_eq_ok_iff.mp hc
    exact ⟨_, fs, hs, hf, fieldsOfSchema_eq_map_ok_iff.mp hf⟩

theorem mirrors_of_isRecord (hr : IsRecord record s)
    (h : (v.validateWith record s).result = .ok r) :
    ∃ log, v.Mirrors record s r log ∧
      ∀ b, (v.withLog b).validateWith record s = ⟨log ++ infos b r, .ok r⟩ := by
  obtain ⟨source, fs, hs, hf, hp⟩ := exists_presents hr h
  obtain ⟨names, found, warnings, hc, hw, he⟩ := validateWith_of_ok hs h
  rw [he] at h
  obtain rfl := Except.ok.inj h
  rw [hf] at hc
  obtain ⟨rows, hl, hev, rfl, rfl⟩ := leavesEach_of_checkFields hc
  have hm : v.Mirrors record s (Validator.report record s ((tagged fs).map Field.name)
      (rows.map Prod.fst).flatten warnings) _ :=
    .checked hr hp hl (lookup_checkedFields record s _) (List.map_map ..) rfl
  refine ⟨_, hm, fun b => ?_⟩
  -- The walk and the warnings do not read the configuration's word on events; the last step does.
  have hsb := (sourceOf?_withLog v b record s).trans hs
  have hn : (((tagged fs).map Field.name).map Value.text).length =
      ((tagged fs).map Field.name).length := List.length_map _
  rw [validateWith_of_source hsb, hf, Traced.bind_ok _ hc, Traced.bind_ok _ hw, hev,
    List.append_assoc, hn]
  rfl

theorem exists_mirrors (h : (v.validateWith record s).result = .ok r) :
    ∃ log, v.Mirrors record s r log ∧
      ∀ b, (v.withLog b).validateWith record s = ⟨log ++ infos b r, .ok r⟩ := by
  by_cases hr : IsRecord record s
  · exact mirrors_of_isRecord hr h
  · rw [validateWith_of_not_isRecord hr] at h
    obtain rfl := Except.ok.inj h
    exact ⟨_, .rejected hr, fun b => validateWith_of_not_isRecord hr⟩

theorem Mirrors.announces (h : v.Mirrors record s r log) :
    List.Forall₂ Announces (log.filter fun e => e.level == .warning)
      (r.violations.toList.filter isOfTag) := by
  cases h with
  | rejected _ => exact .nil
  | checked _ _ hl _ _ hv =>
    have hc (n m : Nat) :
        ([Event.checked record.typeName n m].filter fun e => e.level == .warning) = [] := rfl
    rw [hv, List.filter_append, hc, List.append_nil]
    exact hl.announces

theorem Mirrors.level_ne_info (h : v.Mirrors record s r log) : ∀ e ∈ log, e.level ≠ .info := by
  cases h with
  | rejected _ =>
    intro e he
    rw [List.mem_singleton.mp he]
    exact nofun
  | checked _ _ hl _ _ _ =>
    intro e he
    rcases List.mem_append.mp he with he | he
    · obtain ⟨row, hr, rfl⟩ := List.mem_map.mp he
      exact hl.level_ne_info row hr
    · rw [List.mem_singleton.mp he]
      exact nofun

end Log

def mixedSchema : Schema :=
  ⟨"S", [⟨"_p", some .string, some "min:1"⟩, ⟨"u", some .string, none⟩,
    ⟨"b", some .integer, some "max"⟩, ⟨"c", some .integerList, some "min:5"⟩], none⟩

def mixedRecord : Value := .mapping .plain [(.text "c", .list [.int 3, .int 7])]

def mixedReport : Report :=
  ⟨⟨[.unexported "_p", .invalidTag "b",
      .failed "c" "the number is less than the lower bound"]⟩, [],
    [(.text "record_type", .text "dict"), (.text "schema", .text "S"),
      (.text "checked_fields", .list [.text "_p", .text "b", .text "c"])]⟩

end FieldGuard.Validator
