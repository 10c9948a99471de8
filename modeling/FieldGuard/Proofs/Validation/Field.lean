import FieldGuard.Proofs.Constraint.Failure
import FieldGuard.Proofs.Text.StandIn
import FieldGuard.Proofs.Value.Display
import FieldGuard.Validation

namespace FieldGuard.Validator

open Numeral (digitCount digitLimit)

variable {f : Field} {tag : Value} {k : Kind} {c : Constraint} {block : List Violation}
  {e : Failure}

def IsPrivate (f : Field) : Prop := f.name.toList.head? = some '_'

def Constrains (f : Field) (tag : Value) (k : Kind) (c : Constraint) : Prop :=
  f.kind = some k ∧ ∃ s, tag = .text s ∧ Tag.Denotes k s c.row

inductive Block (f : Field) (tag : Value) : List Violation → Prop
  | unexported (h : IsPrivate f) : Block f tag [.unexported f.name]
  | invalid (hp : ¬IsPrivate f) (h : ∀ k c, ¬Constrains f tag k c) :
      Block f tag [.invalidTag f.name]
  | missing {k : Kind} {c : Constraint} (hp : ¬IsPrivate f) (h : Constrains f tag k c)
      (hv : f.value = none) : Block f tag [.missing f.name]
  | mismatch {k : Kind} {c : Constraint} {v : Value} (hp : ¬IsPrivate f)
      (h : Constrains f tag k c) (hv : f.value = some v) (hm : ∀ els, ¬k.Holds v els) :
      Block f tag [.mismatch f.name k.text]
  | checked {k : Kind} {c : Constraint} {v : Value} {els : Elements} {vs : List Violation}
      (hp : ¬IsPrivate f) (h : Constrains f tag k c) (hv : f.value = some v)
      (hm : k.Holds v els) (hf : c.Finds f.name els vs) : Block f tag vs

theorem isExported_eq_false_iff : f.isExported = false ↔ IsPrivate f :=
  Field.isExportedName_iff f.name

theorem isExported_of_not_isPrivate (h : ¬IsPrivate f) : f.isExported = true := by
  rw [← isExported_eq_false_iff] at h
  exact Bool.not_eq_false _ ▸ h

theorem constrains_unique {k' : Kind} {c' : Constraint} (h : Constrains f tag k c)
    (h' : Constrains f tag k' c') : k' = k ∧ c' = c := by
  obtain ⟨hk, s, rfl, hd⟩ := h
  obtain ⟨hk', s', hs, hd'⟩ := h'
  cases hs
  obtain rfl : k' = k := Option.some.inj (hk'.symm.trans hk)
  exact ⟨rfl, Tag.row_injective (Tag.denotes_unique hd' hd)⟩

theorem block_iff_of_isPrivate (h : IsPrivate f) :
    Block f tag block ↔ block = [.unexported f.name] := by
  constructor
  · intro hb
    cases hb with
    | unexported _ => rfl
    | invalid hp | missing hp | mismatch hp | checked hp => exact absurd h hp
  · rintro rfl
    exact .unexported h

theorem block_iff_of_not_constrains (hp : ¬IsPrivate f) (hn : ∀ k c, ¬Constrains f tag k c) :
    Block f tag block ↔ block = [.invalidTag f.name] := by
  constructor
  · intro hb
    cases hb with
    | unexported h => exact absurd h hp
    | invalid _ _ => rfl
    | missing _ h | mismatch _ h | checked _ h => exact absurd h (hn _ _)
  · rintro rfl
    exact .invalid hp hn

variable [Host]

inductive Unread (f : Field) : Value → Failure → Prop
  | tooLong {k : Kind} {s : String} {t : List Char} (hp : ¬IsPrivate f) (hk : f.kind = some k)
      (ht : Tag.Examines k s t) (hl : digitLimit < digitCount t) :
      Unread f (.text s) (.numeral (.tooManyDigits (digitCount t)))
  | unshown {tag : Value} {e : TextError} (hp : ¬IsPrivate f) (ht : tag.text? = none)
      (h : tag.Undisplayed (DepthLimit.limit .tagText) e) : Unread f tag (.text e)

/-- What keeps a tagged field from being checked: its tag cannot be read, or the length of a string
is wanted that cannot be encoded. -/
inductive TagDefect (f : Field) (tag : Value) : Failure → Prop
  | unread {e : Failure} (h : Unread f tag e) : TagDefect f tag e
  | unencoded {k : Kind} {c : Constraint} {v : Value} {ss : List String} {s : String}
      {fault : Text.EncodeFault} (hp : ¬IsPrivate f) (h : Constrains f tag k c)
      (hc : c.family ≠ .membership) (hv : f.value = some v) (hm : k.Holds v (.strings ss))
      (hs : s ∈ ss) (hf : Text.Unencodable s fault) : TagDefect f tag (.encoding fault)

theorem unmeasured?_eq_some {els : Elements} {fault : Text.EncodeFault}
    (h : c.unmeasured? els = some fault) : c.family ≠ .membership ∧
      ∃ ss s, els = .strings ss ∧ s ∈ ss ∧ Text.Unencodable s fault := by
  cases els with
  | integers ns => cases h
  | strings ss =>
    rw [Constraint.unmeasured?] at h
    split_ifs at h with hc
    obtain ⟨s, hs, hf⟩ := List.exists_of_findSome?_eq_some h
    exact ⟨hc, ss, s, rfl, hs, Text.encodeFault?_eq_some_iff.mp hf⟩

theorem exists_unmeasured? {ss : List String} {s : String} {fault : Text.EncodeFault}
    (hc : c.family ≠ .membership) (hs : s ∈ ss) (hf : Text.Unencodable s fault) :
    ∃ fault, c.unmeasured? (.strings ss) = some fault := by
  rw [Constraint.unmeasured?, if_neg hc, ← Option.isSome_iff_exists, List.findSome?_isSome_iff]
  exact ⟨s, hs, by rw [Text.encodeFault?_of_unencodable hf]; rfl⟩

theorem checkValue_of_not_holds {v : Value} (hm : ∀ els, ¬k.Holds v els) (c : Constraint)
    (field : String) : checkValue c k field (some v) = .ok [.mismatch field k.text] := by
  rw [checkValue, Kind.elements?_eq_none_iff.mpr hm]

theorem checkValue_of_holds {v : Value} {els : Elements} (hm : k.Holds v els) (c : Constraint)
    (field : String) : checkValue c k field (some v) = match c.unmeasured? els with
      | some fault => .error (.encoding fault)
      | none => (c.check field els).mapError .numeral := by
  cases hu : c.unmeasured? els <;> simp [checkValue, Kind.elements?_eq_some_iff.mpr hm, hu]

theorem reads_of_constrains (hp : ¬IsPrivate f) (hc : Constrains f tag k c)
    (hs : ∀ e, ¬Unread f tag e) {v : Value} {els : Elements} (hm : k.Holds v els) :
    ∀ ns, els = .integers ns → ∃ allowed, c.integers = .ok allowed ∧ c.Reads allowed := by
  rintro ns rfl
  obtain ⟨hk, s, rfl, hd⟩ := hc
  refine Constraint.reads_of_denotes hd (fun t ht => ?_) hm.isString
  by_contra hl
  exact hs _ (.tooLong hp hk ht (by omega))

theorem not_tagDefect_of_measured (hc : Constrains f tag k c) (hs : ∀ e, ¬Unread f tag e)
    (h : ∀ v els, f.value = some v → k.Holds v els → c.unmeasured? els = none) (e : Failure) :
    ¬TagDefect f tag e := by
  intro hd
  cases hd with
  | unread hu => exact hs e hu
  | unencoded _ hc' hn hv hm hs hf =>
    obtain ⟨rfl, rfl⟩ := constrains_unique hc hc'
    obtain ⟨fault, hu⟩ := exists_unmeasured? hn hs hf
    rw [h _ _ hv hm] at hu
    cases hu

theorem unmeasured?_eq_none (hp : ¬IsPrivate f) (hc : Constrains f tag k c)
    (h : ∀ e, ¬TagDefect f tag e) {v : Value} {els : Elements} (hv : f.value = some v)
    (hm : k.Holds v els) : c.unmeasured? els = none := by
  rw [Option.eq_none_iff_forall_ne_some]
  intro fault hu
  obtain ⟨hn, ss, s, rfl, hs, hf⟩ := unmeasured?_eq_some hu
  exact h _ (.unencoded hp hc hn hv hm hs hf)

theorem checkValue_eq_ok_iff (hp : ¬IsPrivate f) (hc : Constrains f tag k c)
    (hs : ∀ e, ¬Unread f tag e) : checkValue c k f.name f.value = .ok block ↔
      (∀ e, ¬TagDefect f tag e) ∧ Block f tag block := by
  constructor
  · intro h
    cases hv : f.value with
    | none =>
      rw [hv] at h
      cases h
      exact ⟨not_tagDefect_of_measured hc hs (by simp [hv]), .missing hp hc hv⟩
    | some v =>
      rw [hv] at h
      by_cases hm : ∃ els, k.Holds v els
      · obtain ⟨els, hm⟩ := hm
        rw [checkValue_of_holds hm] at h
        split at h
        · cases h
        · next hu =>
          have hf := (Constraint.check_eq_ok_iff (reads_of_constrains hp hc hs hm)).mp
            (Traversal.mapError_eq_ok_iff.mp h)
          refine ⟨not_tagDefect_of_measured hc hs fun w els' hw hels => ?_,
            .checked hp hc hv hm hf⟩
          rw [hv, Option.some_inj] at hw
          rw [← hw, ← Kind.elements?_eq_some_iff, Kind.elements?_eq_some_iff.mpr hm,
            Option.some_inj] at hels
          exact hels ▸ hu
      · have hn := not_exists.mp hm
        rw [checkValue_of_not_holds hn] at h
        cases h
        refine ⟨not_tagDefect_of_measured hc hs fun w els hw hels => ?_, .mismatch hp hc hv hn⟩
        rw [hv, Option.some_inj] at hw
        exact absurd (hw ▸ hels) (hn els)
  · rintro ⟨hd, h⟩
    cases h with
    | unexported h => exact absurd h hp
    | invalid _ h => exact absurd hc (h k c)
    | missing _ _ hv =>
      rw [hv]
      rfl
    | mismatch _ h hv hm =>
      obtain ⟨rfl, rfl⟩ := constrains_unique hc h
      rw [hv, checkValue_of_not_holds hm]
    | checked _ h hv hm hf =>
      obtain ⟨rfl, rfl⟩ := constrains_unique hc h
      rw [hv, checkValue_of_holds hm, unmeasured?_eq_none hp hc hd hv hm]
      exact Traversal.mapError_eq_ok_iff.mpr
        ((Constraint.check_eq_ok_iff (reads_of_constrains hp hc hs hm)).mpr hf)

theorem tagDefect_of_checkValue (hp : ¬IsPrivate f) (hc : Constrains f tag k c)
    (hs : ∀ e, ¬Unread f tag e) (h : checkValue c k f.name f.value = .error e) :
    TagDefect f tag e := by
  cases hv : f.value with
  | none =>
    rw [hv] at h
    cases h
  | some v =>
    rw [hv] at h
    by_cases hm : ∃ els, k.Holds v els
    · obtain ⟨els, hm⟩ := hm
      rw [checkValue_of_holds hm] at h
      split at h
      · next hu =>
        cases h
        obtain ⟨hn, ss, s, rfl, hs, hf⟩ := unmeasured?_eq_some hu
        exact .unencoded hp hc hn hv hm hs hf
      · obtain ⟨found, hf⟩ := @Constraint.exists_check c f.name els
          (reads_of_constrains hp hc hs hm)
        rw [hf] at h
        cases h
    · rw [checkValue_of_not_holds (not_exists.mp hm)] at h
      cases h

theorem checkField_eq_of_isPrivate (h : IsPrivate f) (tag : Value) :
    checkField f tag = ⟨[.unexported f.name], .ok [.unexported f.name]⟩ := by
  rw [checkField, isExported_eq_false_iff.mpr h]
  rfl

theorem checkField_of_isPrivate (h : IsPrivate f) (tag : Value) :
    (checkField f tag).result = .ok [.unexported f.name] := by
  rw [checkField_eq_of_isPrivate h]

theorem readTag_result (tag : Value) (k : Option Kind) :
    (readTag tag k).result = Tag.read tag k := by
  unfold readTag
  split <;> simp_all [Traced.of]

theorem checkField_of_not_isPrivate (hp : ¬IsPrivate f) (tag : Value) :
    (checkField f tag).result = match Tag.read tag f.kind, f.kind with
      | .error (.fault _), _ => .ok [.invalidTag f.name]
      | .error (.numeral e), _ => .error (.numeral e)
      | .error (.text e), _ => .error (.text e)
      | .ok _, none => .ok []
      | .ok c, some kind => checkValue c kind f.name f.value := by
  unfold checkField
  rw [if_pos (isExported_of_not_isPrivate hp)]
  dsimp only
  rw [readTag_result]
  split <;> simp_all

inductive Reading (f : Field) (tag : Value) : Except Tag.Error Constraint → Prop
  | constraint {k : Kind} {c : Constraint} (hc : Constrains f tag k c)
      (hs : ∀ e, ¬Unread f tag e) : Reading f tag (.ok c)
  | fault {fault : Tag.Fault} (hn : ∀ k c, ¬Constrains f tag k c)
      (hs : ∀ e, ¬Unread f tag e) : Reading f tag (.error (.fault fault))
  | tooLong {fault : Numeral.Error} (h : Unread f tag (.numeral fault)) :
      Reading f tag (.error (.numeral fault))
  | unshown {fault : TextError} (h : Unread f tag (.text fault)) :
      Reading f tag (.error (.text fault))

theorem not_unread_of_text {s : String} (hl : ∀ k, f.kind = some k → ∀ t,
    Tag.Examines k s t → digitCount t ≤ digitLimit) (e : Failure) : ¬Unread f (.text s) e := by
  intro h
  cases h with
  | tooLong hp hk ht hlong => exact absurd (hl _ hk _ ht) (by omega)
  | unshown hp ht h => cases ht

theorem read_of_display (ht : tag.text? = none) {s : String}
    (hd : tag.display (DepthLimit.limit .tagText) = .ok s)
    (kind : Option Kind) : Tag.read tag kind = .error (.fault ⟨s, .notText⟩) := by
  unfold Tag.read
  split
  · cases ht
  · rw [hd]

theorem read_of_display_error (ht : tag.text? = none) {fault : TextError}
    (hd : tag.display (DepthLimit.limit .tagText) = .error fault) (kind : Option Kind) :
    Tag.read tag kind = .error (.text fault) := by
  unfold Tag.read
  split
  · cases ht
  · rw [hd]

theorem reading_of_not_text (hp : ¬IsPrivate f) (ht : tag.text? = none) :
    Reading f tag (Tag.read tag f.kind) := by
  have hn : ∀ k c, ¬Constrains f tag k c := by
    rintro k c ⟨-, s, rfl, -⟩
    cases ht
  cases hd : tag.display (DepthLimit.limit .tagText) with
  | error e =>
    rw [read_of_display_error ht hd]
    exact .unshown (.unshown hp ht (Value.undisplayed_of_display hd))
  | ok s =>
    rw [read_of_display ht hd]
    refine .fault hn fun e he => ?_
    cases he with
    | tooLong hp hk ht' hl => cases ht
    | unshown hp ht' h =>
      obtain ⟨e', he'⟩ := Value.display_of_undisplayed h
      rw [hd] at he'
      cases he'

theorem reading (hp : ¬IsPrivate f) (tag : Value) : Reading f tag (Tag.read tag f.kind) := by
  cases ht : tag.text? with
  | none => exact reading_of_not_text hp ht
  | some s =>
    obtain rfl := Value.text?_eq_some_iff.mp ht
    cases hk : f.kind with
    | none =>
      have hn : ∀ k, f.kind ≠ some k := by simp [hk]
      exact .fault (fun k c hc => hn k hc.1)
        (not_unread_of_text fun k hk' => absurd hk' (hn k))
    | some k =>
      have hs (hl : ∀ t, Tag.Examines k s t → digitCount t ≤ digitLimit) :
          ∀ e, ¬Unread f (.text s) e := by
        apply not_unread_of_text
        intro k' hk'
        rw [hk] at hk'
        cases hk'
        exact hl
      have hp' := Tag.parses s k
      rw [Tag.read_text]
      cases hr : Tag.parse s k <;> rw [hr] at hp'
      case ok c =>
        cases hp' with
        | accepted hd hl => exact .constraint ⟨hk, s, rfl, hd⟩ (hs hl)
      case error e =>
        cases hp' with
        | tooLong ht hl => exact .tooLong (.tooLong hp hk ht hl)
        | refused hn hl =>
          refine .fault ?_ (hs hl)
          rintro k' c ⟨hk', s', hs', hd⟩
          cases hs'
          rw [hk] at hk'
          cases hk'
          exact hn c.row hd

theorem not_tagDefect_of_isPrivate (h : IsPrivate f) (e : Failure) : ¬TagDefect f tag e := by
  rintro (⟨hp | hp⟩ | hp) <;> exact hp h

theorem not_tagDefect_of_not_constrains (hn : ∀ k c, ¬Constrains f tag k c)
    (hs : ∀ e, ¬Unread f tag e) (e : Failure) : ¬TagDefect f tag e := by
  rintro (hu | ⟨-, hc, -⟩)
  · exact hs e hu
  · exact hn _ _ hc

theorem checkField_eq_ok_iff :
    (checkField f tag).result = .ok block ↔ (∀ e, ¬TagDefect f tag e) ∧ Block f tag block := by
  by_cases hp : IsPrivate f
  · rw [checkField_of_isPrivate hp, block_iff_of_isPrivate hp, Except.ok.injEq,
      and_iff_right (not_tagDefect_of_isPrivate hp), eq_comm]
  have hr := reading hp tag
  rw [checkField_of_not_isPrivate hp]
  cases ht : Tag.read tag f.kind <;> rw [ht] at hr
  case ok c =>
    cases hr with
    | constraint hc hs =>
      rw [← checkValue_eq_ok_iff hp hc hs, hc.1]
  case error e =>
    cases hr with
    | fault hn hs =>
      rw [and_iff_right (not_tagDefect_of_not_constrains hn hs), block_iff_of_not_constrains hp hn,
        Except.ok.injEq, eq_comm]
    | tooLong h | unshown h =>
      constructor
      · intro he
        cases he
      · rintro ⟨hs, -⟩
        exact absurd (.unread h) (hs _)

theorem tagDefect_of_checkField (h : (checkField f tag).result = .error e) :
    TagDefect f tag e := by
  by_cases hp : IsPrivate f
  · rw [checkField_of_isPrivate hp] at h
    cases h
  have hr := reading hp tag
  rw [checkField_of_not_isPrivate hp] at h
  cases ht : Tag.read tag f.kind <;> rw [ht] at hr h
  case ok c =>
    cases hr with
    | constraint hc hs =>
      rw [hc.1] at h
      exact tagDefect_of_checkValue hp hc hs h
  case error e =>
    cases hr with
    | fault _ _ => cases h
    | tooLong hd | unshown hd =>
      cases h
      exact .unread hd

end FieldGuard.Validator
