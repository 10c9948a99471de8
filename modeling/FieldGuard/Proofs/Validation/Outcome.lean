import FieldGuard.Proofs.Record.Resolution
import FieldGuard.Proofs.Schema.Document
import FieldGuard.Proofs.Validation.Report

namespace FieldGuard.Validator

open Numeral (digitCount digitLimit)

variable {v : Validator} {record : Value} {ref : Option SchemaRef} {s : Option Schema}

section Reports

variable [Host]

theorem exists_error_iff (hr : v.Resolves ref s) :
    (∃ e, (v.validate record ref).result = .error e) ↔ ∃ e, v.Defect record s e := by
  rw [validate_of_resolves hr]
  constructor
  · rintro ⟨e, h⟩
    exact ⟨e, defect_of_validateWith h⟩
  · rintro ⟨e, hd⟩
    cases h : (v.validateWith record s).result with
    | error e' => exact ⟨e', rfl⟩
    | ok report => exact absurd hd ((validateWith_eq_ok_iff.mp h).1 e)

end Reports

def boundedSchema : Schema :=
  ⟨"S", [⟨"a", some .integer, some "min:5"⟩, ⟨"b", some .stringList, some "in:xy"⟩], none⟩

def boundedRecord : Value :=
  .mapping .plain [(.text "b", .list [.text "x", .text "z"]), (.text "a", .int 3),
    (.text "c", .null)]

def boundedReport : Report :=
  ⟨⟨[.failed "a" "the number is less than the lower bound",
      .failed "b" "the string is not in the list"]⟩,
    ["undeclared keys ignored: c"],
    [(.text "record_type", .text "dict"), (.text "schema", .text "S"),
      (.text "checked_fields", .list [.text "a", .text "b"])]⟩

def listOfList : FieldDecl Value :=
  ⟨"x", .type (.applied (.native "list" false) [.list [.type "int"]]), none, []⟩

def listOfListType : RecordType Value := (Chain.ofRecords "A" [[listOfList]]).toType

theorem isFixed_listOfList : ∀ d ∈ [listOfList],
    d.hint.IsFixed (.applied (.native "list" false) [.list [.type "int"]]) := by
  intro d hd
  rw [List.mem_singleton.mp hd]
  exact TypeHint.IsListOf.native.isFixed_list

theorem resolution_listOfListType : listOfListType.resolution =
    .ok [("x", .applied (.native "list" false) [.list [.type "int"]])] :=
  Chain.resolution_of_isFixed rfl (by simp) isFixed_listOfList

theorem fields_listOfListType : listOfListType.fields = [listOfList] := by
  apply Chain.fields_toType_of_nodup rfl
  · simp
  · intro d hd
    rw [List.mem_singleton.mp hd]
    rfl

theorem hintDefect_listOfListType : listOfListType.HintDefect (.unhashable "list") := by
  have hd : listOfList ∈ listOfListType.fields := by
    rw [fields_listOfListType]
    exact List.mem_singleton_self _
  exact .unhashable hd (.resolved resolution_listOfListType rfl) (.item rfl rfl)

def listOfListRecord : Value :=
  .record listOfListType [("x", .int 1)] ⟨.ok "A(x=1)", .ok "A(x=1)"⟩

section Failures

variable [Host]

theorem not_defect_noKind {schema : Schema} (h : ∀ g ∈ schema.fields, ∃ k, g.kind = some k) :
    ¬v.Defect record (some schema) (.field .noKind) := by
  intro hd
  cases hd with
  | noKind hg hk =>
    obtain ⟨k, hg⟩ := h _ hg
    rw [hk] at hg
    cases hg
  | tag _ _ hd =>
    cases hd with
    | unread hu => cases hu

theorem exists_error_checkField_iff {f : Field} {tag : Value} :
    (∃ e, (checkField f tag).result = .error e) ↔ ∃ e, TagDefect f tag e := by
  constructor
  · rintro ⟨e, h⟩
    exact ⟨e, tagDefect_of_checkField h⟩
  · rintro ⟨e, hd⟩
    cases h : (checkField f tag).result with
    | error e => exact ⟨e, rfl⟩
    | ok block => exact absurd hd ((checkField_eq_ok_iff.mp h).1 e)

theorem checkField_text_eq_error_iff {f : Field} {k : Kind} {text : String} (hp : ¬IsPrivate f)
    (hk : f.kind = some k) :
    (∃ e, (checkField f (.text text)).result = .error e) ↔
      (∃ t, Tag.Examines k text t ∧ digitLimit < digitCount t) ∨
        ∃ fault, TagDefect f (.text text) (.encoding fault) := by
  rw [exists_error_checkField_iff]
  constructor
  · rintro ⟨e, hd⟩
    cases hd with
    | unread hu =>
      cases hu with
      | tooLong _ hk' ht hl =>
        obtain rfl := Option.some.inj (hk'.symm.trans hk)
        exact .inl ⟨_, ht, hl⟩
      | unshown _ ht _ => cases ht
    | unencoded hp hc hn hv hm hs hf => exact .inr ⟨_, .unencoded hp hc hn hv hm hs hf⟩
  · rintro (⟨t, ht, hl⟩ | ⟨fault, hd⟩)
    · exact ⟨_, .unread (.tooLong hp hk ht hl)⟩
    · exact ⟨_, hd⟩

theorem checkField_of_not_constrains {f : Field} {text : String} (hp : ¬IsPrivate f)
    (hl : ∀ k, f.kind = some k → ∀ t, Tag.Examines k text t → digitCount t ≤ digitLimit)
    (hn : ∀ k c, ¬Constrains f (.text text) k c) :
    (checkField f (.text text)).result = .ok [.invalidTag f.name] :=
  checkField_eq_ok_iff.mpr
    ⟨not_tagDefect_of_not_constrains hn (not_unread_of_text hl), .invalid hp hn⟩

theorem checkField_of_not_parsed {f : Field} {k : Kind} {text : String} (hp : ¬IsPrivate f)
    (hk : f.kind = some k) (hl : ∀ t, Tag.Examines k text t → digitCount t ≤ digitLimit)
    (hn : ∀ c, Tag.parse text k ≠ .ok c) :
    (checkField f (.text text)).result = .ok [.invalidTag f.name] := by
  apply checkField_of_not_constrains hp
  · intro k' hk'
    obtain rfl := Option.some.inj (hk'.symm.trans hk)
    exact hl
  · rintro k' c ⟨hk', s, hs, hd⟩
    cases hs
    obtain rfl := Option.some.inj (hk'.symm.trans hk)
    exact hn c (Tag.parse_eq_ok_iff.mpr ⟨hd, hl⟩)

theorem checkField_of_kind_none {f : Field} (hp : ¬IsPrivate f) (hk : f.kind = none)
    (text : String) : (checkField f (.text text)).result = .ok [.invalidTag f.name] := by
  have hn : ∀ k, f.kind ≠ some k := by simp [hk]
  exact checkField_of_not_constrains hp (fun k hk' => absurd hk' (hn k))
    fun k c hc => hn k hc.1

end Failures

def tagDocument (tag : String) : Value :=
  .keyed [("name", .text "S"), ("fields", .list [.keyed
    [("name", .text "a"), ("kind", .text "int"), ("validate", .text tag)]])]

def tagSchema (tag : String) : Schema := ⟨"S", [⟨"a", some .integer, some tag⟩], none⟩

def ones (n : Nat) : List Char := List.replicate n '1'

def minimumTag (n : Nat) : String := "min:" ++ String.ofList (ones n)

theorem areDigits_ones {n : Nat} (h : 0 < n) : Numeral.AreDigits (ones n) := by
  constructor
  · intro he
    rw [ones, List.replicate_eq_nil_iff] at he
    omega
  · intro c hc
    rw [List.eq_of_mem_replicate hc]
    rfl

theorem digitCount_ones (n : Nat) : digitCount (ones n) = n := by
  rw [ones, digitCount, List.countP_replicate, if_pos (by decide)]

theorem examines_minimumTag {n : Nat} (h : 0 < n) (k : Kind) :
    Tag.Examines k (minimumTag n) (ones n) := by
  have hd := areDigits_ones h
  have hp : Tag.HasParts (minimumTag n) .minimum [ones n] := by
    refine ⟨?_, fun t ht hc => ?_, hd.1⟩
    · have hs : (String.ofList (ones n)).toList = ones n := String.toList_ofList
      rw [minimumTag, String.toList_append, hs, List.intercalate_singleton]
      rfl
    · rw [List.mem_singleton.mp ht] at hc
      exact absurd (hd.2 _ hc) (by decide)
  have hi : Numeral.IsInteger (ones n) := ⟨_, .unsigned hd⟩
  rw [hp.examines_iff]
  simp [Tag.integerTokens, hi]

theorem defect_minimumTag {n : Nat} (h : digitLimit < n) :
    default.Defect (.mapping .plain []) (some (tagSchema (minimumTag n)))
      (.numeral (.tooManyDigits n)) := by
  have hs : SchemaField.Shows ⟨"a", some .integer, some (minimumTag n)⟩ []
      ⟨"a", some .integer, some (.text (minimumTag n)), none⟩ :=
    ⟨rfl, ⟨.integer, rfl, rfl⟩, rfl, rfl⟩
  have hp : ¬IsPrivate ⟨"a", some .integer, some (.text (minimumTag n)), none⟩ := by
    simp [IsPrivate]
  have ht : TagDefect ⟨"a", some .integer, some (.text (minimumTag n)), none⟩
      (.text (minimumTag n)) (.numeral (.tooManyDigits (digitCount (ones n)))) :=
    .unread (.tooLong hp rfl (examines_minimumTag (by omega) .integer)
      (by rwa [digitCount_ones]))
  rw [digitCount_ones] at ht
  exact .tag (.mapping (List.mem_singleton_self _) hs) rfl ht

end FieldGuard.Validator
