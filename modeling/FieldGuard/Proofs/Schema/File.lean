import FieldGuard.Host
import FieldGuard.Proofs.Json.Reading
import FieldGuard.Proofs.Schema.Reading
import FieldGuard.Proofs.Text.Utf8
import FieldGuard.Schema.File
import Mathlib.Data.List.Permutation

/-!
Schemas loaded from files. The bytes of a file give a schema or a fault, unless they are not UTF-8,
write a number with too many digits, open too many arrays and objects, or the checker of documents
stops with an error of its own.
-/

namespace FieldGuard.Schema

open String (utf8EncodeChar)
open Json (HoldsRun opens)
open Text (unifyLineEnds)

section LineEnds

variable {ds cs : List Char} (hn : '\n' ∉ ds)
include hn

theorem eq_nil_of_prefix_newline (h : ds <+: '\n' :: cs) : ds = [] := by
  cases ds with
  | nil => rfl
  | cons d ds =>
    obtain ⟨rfl, -⟩ := List.cons_prefix_cons.mp h
    exact absurd List.mem_cons_self hn

theorem prefix_of_unifyLineEnds (h : ds <+: unifyLineEnds cs) : ds <+: cs := by
  fun_induction unifyLineEnds cs generalizing ds with
  | case1 => exact h
  | case2 rest _ | case3 rest _ _ =>
    rw [eq_nil_of_prefix_newline hn h]
    exact List.nil_prefix
  | case4 c rest _ _ ih =>
    cases ds with
    | nil => exact List.nil_prefix
    | cons d ds =>
      obtain ⟨rfl, ht⟩ := List.cons_prefix_cons.mp h
      exact List.cons_prefix_cons.mpr ⟨rfl, ih (fun hm => hn (List.mem_cons_of_mem _ hm)) ht⟩

theorem infix_of_unifyLineEnds (h : ds <:+: unifyLineEnds cs) : ds <:+: cs := by
  fun_induction unifyLineEnds cs with
  | case1 => exact h
  | case2 rest ih =>
    obtain h | h := List.infix_cons_iff.mp h
    · rw [eq_nil_of_prefix_newline hn h]
      exact List.nil_infix
    · exact List.infix_cons (List.infix_cons (ih h))
  | case3 rest _ ih =>
    obtain h | h := List.infix_cons_iff.mp h
    · rw [eq_nil_of_prefix_newline hn h]
      exact List.nil_infix
    · exact List.infix_cons (ih h)
  | case4 c rest hc hr ih =>
    obtain h | h := List.infix_cons_iff.mp h
    · have he : unifyLineEnds (c :: rest) = c :: unifyLineEnds rest := by
        rw [unifyLineEnds]
        all_goals assumption
      exact (prefix_of_unifyLineEnds hn (he ▸ h)).isInfix
    · exact List.infix_cons (ih h)

end LineEnds

theorem holdsRun_of_unifyLineEnds {cs : List Char} {n : Nat} (h : HoldsRun (unifyLineEnds cs) n) :
    HoldsRun cs n := by
  obtain ⟨ds, hd, hds, hl⟩ := h
  refine ⟨ds, infix_of_unifyLineEnds (fun hm => ?_) hd, hds, hl⟩
  cases hds _ hm

theorem opens_unifyLineEnds (cs : List Char) : opens (unifyLineEnds cs) = opens cs := by
  rw [opens, opens]
  fun_induction unifyLineEnds cs with
  | case1 => rfl
  | case2 rest ih | case3 rest _ ih =>
    rw [List.countP_cons_of_neg (by decide), ih]
    repeat rw [List.countP_cons_of_neg (by decide)]
  | case4 c rest _ _ ih => rw [List.countP_cons, List.countP_cons, ih]

section Loading

variable [DepthLimit] [StandIns] [Document.Checker]

theorem result_load_some (file : String) (bytes : List UInt8) :
    (load file (some bytes)).result = ofBytes file bytes := by
  rw [load]
  cases h : ofBytes file bytes with
  | error e => rw [Traced.bind_error _ rfl]
  | ok s => rw [Traced.bind_ok _ rfl]; rfl

def jsonOf (cs : List Char) : Except Json.Error Value :=
  Json.read (DepthLimit.limit .reading) (unifyLineEnds cs)

inductive Outcome (file : String) (bytes : List UInt8) : Except LoadError Schema → Prop
  | loaded {cs : List Char} {v : Value} {s : Schema} (hb : bytes = cs.flatMap utf8EncodeChar)
      (hr : jsonOf cs = .ok v) (hd : ofDocument v = .ok s) : Outcome file bytes (.ok s)
  | invalid {cs : List Char} {v : Value} {f : SchemaFault} (hb : bytes = cs.flatMap utf8EncodeChar)
      (hr : jsonOf cs = .ok v) (hd : ofDocument v = .error (.fault f)) :
      Outcome file bytes (.error (.fault f))
  | notJson {cs : List Char} {e : Json.Error} (hb : bytes = cs.flatMap utf8EncodeChar)
      (hr : jsonOf cs = .error e) (hn : ∀ x, e ≠ .numeral x) (hd : ∀ kind, e ≠ .tooDeep kind) :
      Outcome file bytes (.error (.fault (.notJson file e.message)))
  | tooLong {cs : List Char} {n : Nat} (hb : bytes = cs.flatMap utf8EncodeChar)
      (hr : jsonOf cs = .error (.numeral (.tooManyDigits n))) (hn : Numeral.digitLimit < n)
      (hrun : HoldsRun cs n) : Outcome file bytes (.error (.numeral (.tooManyDigits n)))
  | tooDeep {cs : List Char} {kind : Json.Nest} (hb : bytes = cs.flatMap utf8EncodeChar)
      (hr : jsonOf cs = .error (.tooDeep kind)) (ho : DepthLimit.limit .reading < opens cs) :
      Outcome file bytes (.error (.tooDeep kind))
  | unchecked {cs : List Char} {v : Value} {e : TextError} (hb : bytes = cs.flatMap utf8EncodeChar)
      (hr : jsonOf cs = .ok v)
      (hc : Document.Checker.check Document.schemaFormat v = .error (.failed e)) :
      Outcome file bytes (.error (.text e))
  | notUtf8 {e : Text.Utf8.Error} (hb : ∀ cs : List Char, bytes ≠ cs.flatMap utf8EncodeChar) :
      Outcome file bytes (.error (.encoding e))

section Outcome

variable {file : String} {bytes : List UInt8} {cs : List Char}

theorem ofBytes_of_utf8 (h : bytes = cs.flatMap utf8EncodeChar) : ofBytes file bytes =
    match jsonOf cs with
    | .ok v => match ofDocument v with
      | .ok s => .ok s
      | .error (.fault f) => .error (.fault f)
      | .error (.text e) => .error (.text e)
    | .error (.numeral e) => .error (.numeral e)
    | .error (.tooDeep kind) => .error (.tooDeep kind)
    | .error e => .error (.fault (.notJson file e.message)) := by
  rw [ofBytes, documentOfBytes, Text.Utf8.decode_eq_ok_iff.mpr h, jsonOf]
  dsimp only
  generalize Json.read (DepthLimit.limit .reading) (unifyLineEnds cs) = r
  cases r with
  | error e => cases e <;> rfl
  | ok v =>
    dsimp only [bind, Except.bind]
    cases ofDocument v with
    | ok s => rfl
    | error e => cases e <;> rfl

theorem outcome_load (file : String) (bytes : List UInt8) :
    Outcome file bytes (load file (some bytes)).result := by
  rw [result_load_some]
  cases hd : Text.Utf8.decode bytes with
  | error e =>
    have he : ofBytes file bytes = .error (.encoding e) := by
      rw [ofBytes, documentOfBytes, hd]
      rfl
    rw [he]
    refine .notUtf8 fun cs hb => ?_
    rw [Text.Utf8.decode_eq_ok_iff.mpr hb] at hd
    cases hd
  | ok cs =>
    have hb := Text.Utf8.decode_eq_ok_iff.mp hd
    rw [ofBytes_of_utf8 hb]
    obtain ⟨v, hr⟩ | ⟨n, hr, hrun, hn⟩ | ⟨kind, hr, ho⟩ | ⟨e, hr, hn, hd⟩ :=
      Json.read_cases (DepthLimit.limit .reading) (unifyLineEnds cs) <;>
    rw [← jsonOf] at hr <;> rw [hr]
    · dsimp only
      cases hs : ofDocument v with
      | ok s => exact .loaded hb hr hs
      | error e =>
        cases e with
        | fault f => exact .invalid hb hr hs
        | text e => exact .unchecked hb hr (ofDocument_eq_text_iff.mp hs)
    · exact .tooLong hb hr hn (holdsRun_of_unifyLineEnds hrun)
    · exact .tooDeep hb hr (opens_unifyLineEnds cs ▸ ho)
    · cases e with
      | numeral x => exact absurd rfl (hn x)
      | tooDeep kind => exact absurd rfl (hd kind)
      | _ => exact .notJson hb hr hn hd

def ReturnsOrReports (r : Except LoadError Schema) : Prop :=
  (∃ s, r = .ok s) ∨ ∃ f, r = .error (.fault f)

/-- The characters of a file can be read, and what they write be checked, to the end. -/
structure IsReadable (cs : List Char) : Prop where
  numerals : ∀ e, jsonOf cs ≠ .error (.numeral e)
  nesting : ∀ kind, jsonOf cs ≠ .error (.tooDeep kind)
  checked : ∀ v, jsonOf cs = .ok v →
    ∀ e, Document.Checker.check Document.schemaFormat v ≠ .error (.failed e)

theorem isReadable_of_ok {v : Value} (hr : jsonOf cs = .ok v)
    (hc : ∀ e, ofDocument v ≠ .error (.text e)) : IsReadable cs where
  numerals e he := by
    rw [hr] at he
    cases he
  nesting kind hk := by
    rw [hr] at hk
    cases hk
  checked w hw e he := by
    rw [hr] at hw
    cases hw
    exact hc e (ofDocument_eq_text_iff.mpr he)

theorem isReadable_of_error {e : Json.Error} (hr : jsonOf cs = .error e)
    (hn : ∀ x, e ≠ .numeral x) (hd : ∀ kind, e ≠ .tooDeep kind) : IsReadable cs where
  numerals x hx := hn x (Except.error.inj (hr.symm.trans hx))
  nesting kind hk := hd kind (Except.error.inj (hr.symm.trans hk))
  checked v hv := by
    rw [hr] at hv
    cases hv

theorem Outcome.returnsOrReports_iff {r : Except LoadError Schema} (ho : Outcome file bytes r) :
    ReturnsOrReports r ↔
      ∃ cs : List Char, bytes = cs.flatMap utf8EncodeChar ∧ IsReadable cs := by
  have hne {e : LoadError} (he : ∀ f, e ≠ .fault f) :
      ¬ReturnsOrReports (.error e : Except LoadError Schema) := by
    rintro (⟨s, h⟩ | ⟨f, h⟩)
    · cases h
    · exact he f (Except.error.inj h)
  cases ho with
  | loaded hb hr hd =>
    refine iff_of_true (.inl ⟨_, rfl⟩) ⟨_, hb, isReadable_of_ok hr fun e he => ?_⟩
    cases hd.symm.trans he
  | invalid hb hr hd =>
    refine iff_of_true (.inr ⟨_, rfl⟩) ⟨_, hb, isReadable_of_ok hr fun e he => ?_⟩
    cases hd.symm.trans he
  | notJson hb hr hn hd =>
    exact iff_of_true (.inr ⟨_, rfl⟩) ⟨_, hb, isReadable_of_error hr hn hd⟩
  | tooLong hb hr =>
    refine iff_of_false (hne nofun) ?_
    rintro ⟨cs', hb', h⟩
    exact h.numerals _ (Text.Utf8.flatMap_encode_injective (hb'.symm.trans hb) ▸ hr)
  | tooDeep hb hr =>
    refine iff_of_false (hne nofun) ?_
    rintro ⟨cs', hb', h⟩
    exact h.nesting _ (Text.Utf8.flatMap_encode_injective (hb'.symm.trans hb) ▸ hr)
  | unchecked hb hr hc =>
    refine iff_of_false (hne nofun) ?_
    rintro ⟨cs', hb', h⟩
    exact h.checked _ (Text.Utf8.flatMap_encode_injective (hb'.symm.trans hb) ▸ hr) _ hc
  | notUtf8 hb =>
    refine iff_of_false (hne nofun) ?_
    rintro ⟨cs', hb', -⟩
    exact hb cs' hb'

theorem isReadable_of_le (hn : ∀ n, HoldsRun cs n → n ≤ Numeral.digitLimit)
    (ho : opens cs ≤ DepthLimit.limit .reading)
    (hc : ∀ v, jsonOf cs = .ok v →
      ∀ e, Document.Checker.check Document.schemaFormat v ≠ .error (.failed e)) :
    IsReadable cs := by
  obtain ⟨v, hr⟩ | ⟨n, -, hrun, hl⟩ | ⟨kind, -, hl⟩ | ⟨e, hr, hx, hd⟩ :=
    Json.read_cases (DepthLimit.limit .reading) (unifyLineEnds cs)
  · refine ⟨fun e he => ?_, fun kind hk => ?_, hc⟩
    · cases hr.symm.trans he
    · cases hr.symm.trans hk
  · exact absurd hl (Nat.not_lt.mpr (hn n (holdsRun_of_unifyLineEnds hrun)))
  · rw [opens_unifyLineEnds] at hl
    exact absurd hl (Nat.not_lt.mpr ho)
  · exact isReadable_of_error hr hx hd

theorem load_of_areDigits {ds : List Char} (h : Numeral.AreDigits ds) (hz : ds.head? ≠ some '0')
    (hl : Numeral.digitLimit < ds.length) (file : String) :
    (load file (some (ds.flatMap utf8EncodeChar))).result =
      .error (.numeral (.tooManyDigits ds.length)) := by
  have hr : '\r' ∉ ds := fun hm => by cases h.2 _ hm
  rw [result_load_some, ofBytes_of_utf8 rfl, jsonOf, Text.unifyLineEnds_of_not_mem hr,
    Json.read_of_areDigits h hz hl]

theorem load_brackets {n : Nat} (h : DepthLimit.limit .reading < n) (file : String) :
    (load file (some ((List.replicate n '[').flatMap utf8EncodeChar))).result =
      .error (.tooDeep .array) := by
  have hr : '\r' ∉ List.replicate n '[' := fun hm => nomatch List.eq_of_mem_replicate hm
  rw [result_load_some, ofBytes_of_utf8 rfl, jsonOf, Text.unifyLineEnds_of_not_mem hr,
    Json.read_brackets h]

end Outcome

theorem load_returns_or_reports (file : String) (bytes : List UInt8) :
    Outcome file bytes (load file (some bytes)).result ∧
    (ReturnsOrReports (load file (some bytes)).result ↔
      ∃ cs : List Char, bytes = cs.flatMap utf8EncodeChar ∧ IsReadable cs) ∧
    (∀ cs : List Char, bytes = cs.flatMap utf8EncodeChar →
      (∀ n, HoldsRun cs n → n ≤ Numeral.digitLimit) → opens cs ≤ DepthLimit.limit .reading →
      (∀ v, jsonOf cs = .ok v →
        ∀ e, Document.Checker.check Document.schemaFormat v ≠ .error (.failed e)) →
      ReturnsOrReports (load file (some bytes)).result) ∧
    ((∃ e, (load file (some bytes)).result = .error (.encoding e)) ↔
      ∀ cs : List Char, bytes ≠ cs.flatMap utf8EncodeChar) ∧
    (∀ n, DepthLimit.limit .reading < n →
      (load file (some ((List.replicate n '[').flatMap utf8EncodeChar))).result =
        .error (.tooDeep .array)) ∧
    ∀ ds, Numeral.AreDigits ds → ds.head? ≠ some '0' → Numeral.digitLimit < ds.length →
      (load file (some (ds.flatMap utf8EncodeChar))).result =
        .error (.numeral (.tooManyDigits ds.length)) := by
  have ho := outcome_load file bytes
  refine ⟨ho, ho.returnsOrReports_iff, fun cs hb hn hl hc => ?_, ?_,
    fun n hn => load_brackets hn file, fun ds h hz hl => load_of_areDigits h hz hl file⟩
  · exact ho.returnsOrReports_iff.mpr ⟨cs, hb, isReadable_of_le hn hl hc⟩
  · constructor
    · rintro ⟨e, he⟩
      rw [he] at ho
      cases ho with
      | notUtf8 hb => exact hb
    · intro hb
      generalize (load file (some bytes)).result = r at ho
      cases ho with
      | notUtf8 _ => exact ⟨_, rfl⟩
      | loaded h | invalid h | notJson h | tooLong h | tooDeep h | unchecked h =>
        exact absurd h (hb _)

end Loading

def emptySchemaText : List Char := "\x7b\"name\": \"S\", \"fields\": []\x7d".toList

def emptySchemaDocument : Value := .keyed [("name", .text "S"), ("fields", .list [])]

theorem jsonOf_emptySchemaText : jsonOf emptySchemaText = .ok emptySchemaDocument := by
  cbv

theorem load_emptySchemaText :
    (load "s.json" (some (emptySchemaText.flatMap utf8EncodeChar))).result =
      .ok ⟨"S", [], none⟩ := by
  rw [result_load_some, ofBytes_of_utf8 rfl, jsonOf_emptySchemaText]
  rfl

theorem areDigits_ones : Numeral.AreDigits (List.replicate 4301 '1') := by
  constructor
  · rw [Ne, List.replicate_eq_nil_iff]
    decide
  · intro d hd
    rw [List.eq_of_mem_replicate hd]
    rfl

theorem load_returns_or_reports_emptySchema :
    ((∀ n, HoldsRun emptySchemaText n → n ≤ Numeral.digitLimit) ∧
      opens emptySchemaText ≤ DepthLimit.limit .reading ∧
      (∀ v, jsonOf emptySchemaText = .ok v →
        ∀ e, Document.Checker.check Document.schemaFormat v ≠ .error (.failed e)) ∧
      ReturnsOrReports
        (load "s.json" (some (emptySchemaText.flatMap utf8EncodeChar))).result) ∧
    (load "s.json" (some (emptySchemaText.flatMap utf8EncodeChar))).result =
      .ok ⟨"S", [], none⟩ ∧
    (DepthLimit.limit .reading < 1000 ∧
      (load "s.json" (some ((List.replicate 1000 '[').flatMap utf8EncodeChar))).result =
        .error (.tooDeep .array)) ∧
    Numeral.AreDigits (List.replicate 4301 '1') ∧
    (List.replicate 4301 '1').head? ≠ some '0' ∧
    Numeral.digitLimit < (List.replicate 4301 '1').length ∧
    (load "s.json" (some ((List.replicate 4301 '1').flatMap utf8EncodeChar))).result =
      .error (.numeral (.tooManyDigits (List.replicate 4301 '1').length)) := by
  have hrun : ∀ n, HoldsRun emptySchemaText n → n ≤ Numeral.digitLimit := by
    rintro n ⟨ds, hd, -, rfl⟩
    exact Nat.le_trans hd.length_le (by decide)
  have ho : opens emptySchemaText ≤ DepthLimit.limit .reading := by decide
  have hc : ∀ v, jsonOf emptySchemaText = .ok v →
      ∀ e, Document.Checker.check Document.schemaFormat v ≠ .error (.failed e) := by
    rintro v hv e he
    rw [jsonOf_emptySchemaText] at hv
    cases hv
    cases he
  have hn : DepthLimit.limit .reading < 1000 := by decide
  have hz : (List.replicate 4301 '1').head? ≠ some '0' := by
    rw [List.head?_replicate]
    decide
  have hl : Numeral.digitLimit < (List.replicate 4301 '1').length := by
    rw [List.length_replicate]
    decide
  obtain ⟨-, -, hr, -, hb, hd⟩ :=
    load_returns_or_reports "s.json" (emptySchemaText.flatMap utf8EncodeChar)
  exact ⟨⟨hrun, ho, hc, hr emptySchemaText rfl hrun ho hc⟩, load_emptySchemaText,
    ⟨hn, hb 1000 hn⟩, areDigits_ones, hz, hl, hd _ areDigits_ones hz hl⟩

theorem load_invalidStart_ne_fault :
    (∀ s, (load "s.json" (some [0xff])).result ≠ .ok s) ∧
      ∀ f, (load "s.json" (some [0xff])).result ≠ .error (.fault f) := by
  have hd : Text.Utf8.decode [0xff] = .error ⟨0xff, 0, 1, .invalidStart⟩ := by
    rw [Text.Utf8.decode, Text.Utf8.decodeFrom]
    rfl
  have h : (load "s.json" (some [0xff])).result =
      .error (.encoding ⟨0xff, 0, 1, .invalidStart⟩) := by
    rw [result_load_some, ofBytes, documentOfBytes, hd]
    rfl
  refine ⟨fun s hs => ?_, fun f hf => ?_⟩
  · rw [h] at hs
    cases hs
  · rw [h] at hf
    cases hf

end FieldGuard.Schema
