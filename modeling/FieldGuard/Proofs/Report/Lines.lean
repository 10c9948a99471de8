import FieldGuard.Proofs.Report.Transport
import FieldGuard.Proofs.Validation.Wording

/-!
Reports line by line. The messages of a report stand on a line each, and so do the violations in its
text, exactly as long as no violation shows a field name that holds a line feed.
-/

namespace FieldGuard

namespace Text

def lines (s : String) : List String := (s.toList.splitOn '\n').map String.ofList

variable {s : String} {ls : List String}

theorem lines_of_not_mem (h : '\n' ∉ s.toList) : lines s = [s] := by
  rw [lines, List.splitOn_eq_singleton h, List.map_singleton, String.ofList_toList]

theorem lines_append (s t : String) : lines (s ++ "\n" ++ t) = lines s ++ lines t := by
  have ht : (s ++ "\n" ++ t).toList = s.toList ++ '\n' :: t.toList := by
    simp [String.toList_append]
  rw [lines, ht, List.splitOn_append_cons_self, List.map_append]
  rfl

theorem newline_not_mem_of_mem_lines {l : String} (h : l ∈ lines s) : '\n' ∉ l.toList := by
  obtain ⟨cs, hc, rfl⟩ := List.mem_map.mp h
  rw [String.toList_ofList]
  exact not_mem_of_mem_splitOn hc

theorem lines_intercalate (h : ls ≠ []) : lines ("\n".intercalate ls) = ls.flatMap lines := by
  induction ls with
  | nil => exact absurd rfl h
  | cons l ls ih =>
    cases ls with
    | nil => rw [String.intercalate_singleton, List.flatMap_singleton]
    | cons m ls =>
      have hn : m :: ls ≠ [] := List.cons_ne_nil m ls
      rw [String.intercalate_cons_of_ne_nil hn, lines_append, ih hn, ← List.flatMap_cons]

theorem flatMap_lines (h : ∀ l ∈ ls, '\n' ∉ l.toList) : ls.flatMap lines = ls := by
  induction ls with
  | nil => rfl
  | cons l ls ih =>
    rw [List.forall_mem_cons] at h
    rw [List.flatMap_cons, lines_of_not_mem h.1, ih h.2]
    rfl

theorem lines_intercalate_eq_iff (h : ls ≠ []) :
    lines ("\n".intercalate ls) = ls ↔ ∀ l ∈ ls, '\n' ∉ l.toList := by
  constructor
  · intro he l hl
    rw [← he] at hl
    exact newline_not_mem_of_mem_lines hl
  · intro hl
    rw [lines_intercalate h, flatMap_lines hl]

end Text

namespace Violation

variable {x : Violation} {name detail : String}

theorem newline_mem_wrongField_iff (hd : '\n' ∉ detail.toList) :
    '\n' ∈ (wrongField name detail).toList ↔ '\n' ∈ name.toList := by
  have hw : '\n' ∉ "wrong field ".toList := by decide
  have hc : '\n' ∉ ": ".toList := by decide
  simp only [wrongField, String.toList_append, List.mem_append, hw, hc, hd, or_false, false_or]

theorem newline_mem_message_iff (h : Validator.Concerns name x) :
    '\n' ∈ x.message.toList ↔ x.IsOfValue ∧ '\n' ∈ x.field.toList := by
  cases h with
  | notRecord | unexported | invalidTag => simp [IsOfValue, notRecord, unexported, invalidTag]
  | value hf hm hd hc => rw [hm, newline_mem_wrongField_iff hd, hf, and_iff_right hc]

theorem newline_mem_label_iff (x : Violation) :
    '\n' ∈ (Report.label x).toList ↔ '\n' ∈ x.field.toList := by
  rw [Report.label]
  by_cases hf : x.field = ""
  · rw [hf]
    decide
  · rw [if_neg (by simpa using hf)]

theorem newline_not_mem_code (c : ViolationCode) : '\n' ∉ c.text.toList := by
  cases c <;> decide

theorem newline_mem_line_iff (h : Validator.Concerns name x) :
    '\n' ∈ (Report.line x).toList ↔ '\n' ∈ x.field.toList := by
  have ho : '\n' ∉ " [".toList := by decide
  have hc : '\n' ∉ "]: ".toList := by decide
  simp only [Report.line, String.toList_append, List.mem_append, newline_mem_label_iff,
    newline_mem_message_iff h, ho, hc, newline_not_mem_code, or_false, or_iff_left_iff_imp]
  exact And.right

end Violation

namespace Report

variable {r : Report}

/-- The text lists the violations of a report on a line each, right behind its header. What follows
them is parted from them by an empty line. -/
def ListsLines (r : Report) (text : String) : Prop :=
  ∃ header rest, r.header = .ok header ∧
    Text.lines text =
      header :: r.violations.toList.map (fun x => "  - " ++ line x) ++ rest ∧
    (rest = [] ∨ rest.head? = some "")

theorem newline_not_mem_repr (n : Nat) : '\n' ∉ n.repr.toList := by
  intro h
  rw [Nat.toList_repr] at h
  exact absurd (Nat.isDigit_of_mem_toDigits (by decide) (by decide) h) (by decide)

theorem newline_not_mem_plural {noun : String} (h : '\n' ∉ noun.toList) (n : Nat) :
    '\n' ∉ (plural noun n).toList := by
  have hs : '\n' ∉ "s".toList := by decide
  rw [plural]
  split_ifs
  · exact h
  · simp only [String.toList_append, List.mem_append, h, hs, or_self, not_false_eq_true]

theorem exists_header (hv : r.violations.toList ≠ []) :
    ∃ header, r.header = .ok header ∧ '\n' ∉ header.toList := by
  have hf : r.isValid = false := by
    rw [← Bool.not_eq_true, isValid_iff]
    exact hv
  refine ⟨_, by rw [header, hf]; rfl, ?_⟩
  have h₁ : '\n' ∉ "Validation failed: ".toList := by decide
  have h₂ : '\n' ∉ " ".toList := by decide
  have h₃ : '\n' ∉ " in ".toList := by decide
  have h₄ : '\n' ∉ "violation".toList := by decide
  have h₅ : '\n' ∉ "field".toList := by decide
  simp only [String.toList_append, List.mem_append, newline_not_mem_repr,
    newline_not_mem_plural h₄, newline_not_mem_plural h₅, h₁, h₂, h₃, or_self, not_false_eq_true]

theorem block_cases (title : String) (ls : List String) :
    block title ls = [] ∨ ∃ more, block title ls = "" :: more := by
  rw [block]
  split_ifs
  · exact .inl rfl
  · exact .inr ⟨_, rfl⟩

theorem blocks_cases (title title' : String) (ls ls' : List String) :
    let rest := block title ls ++ block title' ls'
    rest = [] ∨ ∃ more, rest = "" :: more := by
  dsimp only
  rcases block_cases title ls with h | ⟨more, h⟩
  · rw [h, List.nil_append]
    exact block_cases title' ls'
  · rw [h]
    exact .inr ⟨_, rfl⟩

variable [DepthLimit]

theorem exists_lines (hc : ∃ ls, r.contextLines = .ok ls) (hv : r.violations.toList ≠ []) :
    ∃ header rest, r.header = .ok header ∧ '\n' ∉ header.toList ∧
      r.lines = .ok (header :: r.violations.toList.map (fun x => "  - " ++ line x) ++ rest) ∧
      (rest = [] ∨ ∃ more, rest = "" :: more) := by
  obtain ⟨header, hh, hn⟩ := exists_header hv
  obtain ⟨ls, hl⟩ := hc
  have hr : r.lines = .ok (header :: r.violations.toList.map (fun x => "  - " ++ line x) ++
      (block "Warnings:" (r.warnings.map fun w => "  - " ++ w) ++ block "Context:" ls)) := by
    rw [lines, hh, hl, ← List.append_assoc]
    rfl
  exact ⟨header, _, hh, hn, hr, blocks_cases "Warnings:" "Context:" _ _⟩

theorem listsLines_iff {text : String} (hc : ∃ ls, r.contextLines = .ok ls)
    (hv : r.violations.toList ≠ []) (ht : r.text = .ok text) :
    r.ListsLines text ↔ ∀ x ∈ r.violations.toList, '\n' ∉ (line x).toList := by
  have hb : '\n' ∉ "  - ".toList := by decide
  constructor
  · rintro ⟨header, rest, -, hl, -⟩ x hx hn
    have hm : "  - " ++ line x ∈ Text.lines text := by
      rw [hl]
      exact List.mem_append_left _ (List.mem_cons_of_mem _ (List.mem_map.mpr ⟨x, hx, rfl⟩))
    apply Text.newline_not_mem_of_mem_lines hm
    rw [String.toList_append]
    exact List.mem_append_right _ hn
  · intro h
    obtain ⟨header, rest, hh, hn, hl, hr⟩ := exists_lines hc hv
    have hx : ∀ l ∈ header :: r.violations.toList.map (fun x => "  - " ++ line x),
        '\n' ∉ l.toList := by
      rw [List.forall_mem_cons, List.forall_mem_map]
      refine ⟨hn, fun x hx => ?_⟩
      rw [String.toList_append, List.mem_append, not_or]
      exact ⟨hb, h x hx⟩
    refine ⟨header, rest.flatMap Text.lines, hh, ?_, ?_⟩
    · rw [Report.text, hl, Except.map, Except.ok.injEq] at ht
      rw [← ht, Text.lines_intercalate (by simp), List.flatMap_append, Text.flatMap_lines hx]
    · rcases hr with rfl | ⟨more, rfl⟩
      · exact .inl rfl
      · exact .inr rfl

theorem exists_text (hc : ∃ ls, r.contextLines = .ok ls) (hv : r.violations.toList ≠ []) :
    ∃ text, r.text = .ok text := by
  obtain ⟨header, rest, -, -, hl, -⟩ := exists_lines hc hv
  exact ⟨_, Traversal.map_eq_ok_iff.mpr ⟨_, hl, rfl⟩⟩

end Report

namespace Validator

section Reports

variable [Host] {v : Validator} {record : Value} {ref : Option SchemaRef} {s : Option Schema}
  {r : Report}

theorem exists_contextLines (h : v.Describes record s r) : ∃ ls, r.contextLines = .ok ls := by
  cases h with
  | rejected _ => exact ⟨_, rfl⟩
  | checked _ _ _ _ => cases s <;> exact ⟨_, rfl⟩

theorem concerns_of_describes (h : v.Describes record s r) :
    ∀ x ∈ r.violations.toList, Concerns x.field x ∧
      ∀ names : List String, Value.lookup r.context "checked_fields" =
        some (.list (names.map .text)) → x.field ∈ names := by
  intro x hx
  cases h with
  | rejected _ =>
    rw [List.mem_singleton.mp hx]
    exact ⟨.notRecord, nofun⟩
  | @checked fs blocks _ _ _ hb _ =>
    obtain ⟨block, hm, hx⟩ := List.mem_flatten.mp hx
    obtain ⟨f, hf, tag, -, hb⟩ := Traversal.exists_mem_left hb block hm
    have hc := concerns_of_block hb x hx
    rw [hc.field_eq]
    refine ⟨hc, fun names hn => ?_⟩
    rw [lookup_checkedFields, Option.some.injEq, Value.list.injEq] at hn
    have hft : Value.text f.name ∈ names.map .text := by
      rw [← hn]
      exact List.mem_map.mpr ⟨f, hf, rfl⟩
    obtain ⟨name, hm, he⟩ := List.mem_map.mp hft
    rwa [← Value.text.inj he]

theorem lines_iff (h : (v.validate record ref).result = .ok r) (hv : r.violations.toList ≠ []) :
    (Text.lines r.violations.text = r.errors ↔
      ∀ x ∈ r.violations.toList, x.IsOfValue → '\n' ∉ x.field.toList) ∧
    (∃ text, r.text = .ok text ∧
      (r.ListsLines text ↔ ∀ x ∈ r.violations.toList, '\n' ∉ x.field.toList)) ∧
    ∀ names : List String, Value.lookup r.context "checked_fields" =
      some (.list (names.map .text)) → ∀ x ∈ r.violations.toList, x.field ∈ names := by
  obtain ⟨s, hd⟩ := exists_describes h
  have hc := concerns_of_describes hd
  refine ⟨?_, ?_, fun names hn x hx => (hc x hx).2 names hn⟩
  · have hm : r.violations.messages ≠ [] := by simpa [Violations.messages] using hv
    rw [Violations.text, Report.errors, Text.lines_intercalate_eq_iff hm, Violations.messages,
      List.forall_mem_map]
    refine forall₂_congr fun x hx => ?_
    rw [Violation.newline_mem_message_iff (hc x hx).1, not_and]
  · have hls := exists_contextLines hd
    obtain ⟨text, ht⟩ := Report.exists_text hls hv
    refine ⟨text, ht, ?_⟩
    rw [Report.listsLines_iff hls hv ht]
    refine forall₂_congr fun x hx => ?_
    rw [Violation.newline_mem_line_iff (hc x hx).1]

end Reports

def brokenSchema : Schema :=
  ⟨"S", [⟨"_a\nb", some .string, some "len:1"⟩, ⟨"c", some .integerList, some "min:5"⟩], none⟩

def brokenRecord : Value := .mapping .plain [(.text "c", .list [.int 3, .int 7, .int 4])]

def brokenReport : Report :=
  ⟨⟨[.unexported "_a\nb", .failed "c" "the number is less than the lower bound",
      .failed "c" "the number is less than the lower bound"]⟩, [],
    [(.text "record_type", .text "dict"), (.text "schema", .text "S"),
      (.text "checked_fields", .list [.text "_a\nb", .text "c"])]⟩

theorem lines_iff_broken :
    (default.validate brokenRecord (some (.schema brokenSchema))).result = .ok brokenReport ∧
      brokenReport.violations.toList ≠ [] ∧
      Text.lines brokenReport.violations.text = brokenReport.errors ∧
      ∃ text, brokenReport.text = .ok text ∧ ¬brokenReport.ListsLines text := by
  have h : (default.validate brokenRecord (some (.schema brokenSchema))).result =
      .ok brokenReport := rfl
  have hv : brokenReport.violations.toList ≠ [] := List.cons_ne_nil _ _
  obtain ⟨text, ht, hl⟩ := (lines_iff h hv).2.1
  refine ⟨h, hv, (lines_iff h hv).1.mpr (by decide), text, ht, fun hlist => ?_⟩
  exact absurd (hl.mp hlist _ List.mem_cons_self) (by decide)

def newlineDocument : Value :=
  .keyed [("name", .text "S"), ("fields", .list [.keyed
    [("name", .text "a\nb"), ("kind", .text "int"), ("validate", .text "min:1")]])]

def newlineSchema : Schema := ⟨"S", [⟨"a\nb", some .integer, some "min:1"⟩], none⟩

def newlineReport : Report :=
  ⟨⟨[.missing "a\nb"]⟩, [], [(.text "record_type", .text "dict"), (.text "schema", .text "S"),
    (.text "checked_fields", .list [.text "a\nb"])]⟩

theorem lines_ne_errors :
    Schema.ofDocument newlineDocument = .ok newlineSchema ∧
      (default.validate (.mapping .plain []) (some (.schema newlineSchema))).result =
        .ok newlineReport ∧
      newlineReport.violations.toList ≠ [] ∧
      Text.lines newlineReport.violations.text ≠ newlineReport.errors ∧
      ∀ text, newlineReport.text = .ok text → ¬newlineReport.ListsLines text := by
  have hv : newlineReport.violations.toList ≠ [] := List.cons_ne_nil _ _
  refine ⟨rfl, rfl, hv, fun he => ?_, fun text ht hl => ?_⟩
  · have hm : (Violation.missing "a\nb").message ∈ Text.lines newlineReport.violations.text := by
      rw [he]
      exact List.mem_singleton_self _
    exact absurd (Text.newline_not_mem_of_mem_lines hm) (by decide)
  · rw [Report.listsLines_iff ⟨_, rfl⟩ hv ht] at hl
    exact absurd (hl _ List.mem_cons_self) (by decide)

end Validator

end FieldGuard
