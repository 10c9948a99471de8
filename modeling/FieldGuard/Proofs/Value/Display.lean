import FieldGuard.Proofs.Traversal
import FieldGuard.Value.Literal

namespace FieldGuard.Value

inductive Unshown : Nat → Value → TextError → Prop
  | deep (v : Value) : Unshown 0 v .tooDeep
  | int {room : Nat} {n : Int} (h : Numeral.limit ≤ n.natAbs) :
      Unshown (room + 1) (.int n) .tooLarge
  | list {room : Nat} {items : List Value} {v : Value} {e : TextError} (hm : v ∈ items)
      (h : Unshown room v e) : Unshown (room + 1) (.list items) e
  | tuple {room : Nat} {items : List Value} {v : Value} {e : TextError} (hm : v ∈ items)
      (h : Unshown room v e) : Unshown (room + 1) (.tuple items) e
  | deepSet {items : List Value} (hn : items ≠ []) : Unshown 1 (.set items) .tooDeep
  | set {room : Nat} {items : List Value} {v : Value} {e : TextError} (hm : v ∈ items)
      (h : Unshown room v e) : Unshown (room + 2) (.set items) e
  | key {room : Nat} {es : List (Value × Value)} {entry : Value × Value} {e : TextError}
      (hm : entry ∈ es) (h : Unshown room entry.1 e) : Unshown (room + 1) (.mapping .plain es) e
  | value {room : Nat} {es : List (Value × Value)} {entry : Value × Value} {e : TextError}
      (hm : entry ∈ es) (h : Unshown room entry.2 e) : Unshown (room + 1) (.mapping .plain es) e
  | view {room : Nat} {es : List (Value × Value)} {e : TextError}
      (h : Unshown room (.mapping .plain es) e) : Unshown (room + 1) (.mapping .view es) e
  | ordered {room : Nat} {es : List (Value × Value)} {e : TextError} (hn : es ≠ [])
      (h : Unshown room (.list (es.map fun entry => .tuple [entry.1, entry.2])) e) :
      Unshown (room + 1) (.mapping .ordered es) e
  | opaqueOf {room : Nat} {typeName : String} {shown : Shown} {e : TextError}
      (h : shown.inside = .error e) : Unshown (room + 1) (.opaqueOf typeName shown) e
  | record {room : Nat} {t : RecordType Value} {held : List (String × Value)} {shown : Shown}
      {e : TextError} (h : shown.inside = .error e) : Unshown (room + 1) (.record t held shown) e

def hasOwnText : Value → Bool
  | .text _ | .mapping .view _ | .opaqueOf _ _ | .record _ _ _ => true
  | _ => false

inductive Undisplayed (room : Nat) : Value → TextError → Prop
  | inside {v : Value} {e : TextError} (hv : v.hasOwnText = false) (h : Unshown room v e) :
      Undisplayed room v e
  | view {es : List (Value × Value)} {e : TextError}
      (h : Unshown (room - 1) (.mapping .plain es) e) : Undisplayed room (.mapping .view es) e
  | opaqueOf {typeName : String} {shown : Shown} {e : TextError} (h : shown.alone = .error e) :
      Undisplayed room (.opaqueOf typeName shown) e
  | record {t : RecordType Value} {held : List (String × Value)} {shown : Shown} {e : TextError}
      (h : shown.alone = .error e) : Undisplayed room (.record t held shown) e

variable {room : Nat} {v : Value} {e : TextError}

theorem intText_eq_error_iff (n : Int) (e : TextError) :
    intText n = .error e ↔ Numeral.limit ≤ n.natAbs ∧ e = .tooLarge := by
  unfold intText Numeral.write
  generalize Numeral.limit = l
  by_cases hn : n.natAbs < l
  · simp [hn, Nat.not_le.mpr hn]
  · simp [hn, Nat.not_lt.mp hn, eq_comm]

def entryLiteral (room : Nat) (entry : Value × Value) : Except TextError String := do
  return entryText (← literal room entry.1, ← literal room entry.2)

theorem literal_list (room : Nat) (items : List Value) :
    literal (room + 1) (.list items) = (items.mapM (literal room)).map listText := rfl

theorem literal_tuple (room : Nat) (items : List Value) :
    literal (room + 1) (.tuple items) = (items.mapM (literal room)).map tupleText := rfl

theorem literal_set (room : Nat) {items : List Value} (h : items ≠ []) :
    literal (room + 2) (.set items) = (items.mapM (literal room)).map braced := by
  obtain ⟨v, vs, rfl⟩ := List.exists_cons_of_ne_nil h
  rfl

theorem literal_plain (room : Nat) (es : List (Value × Value)) :
    literal (room + 1) (.mapping .plain es) = (es.mapM (entryLiteral room)).map braced := rfl

theorem literal_view (room : Nat) (es : List (Value × Value)) :
    literal (room + 1) (.mapping .view es) =
      (literal room (.mapping .plain es)).map fun s => "mappingproxy(" ++ s ++ ")" := rfl

theorem literal_ordered (room : Nat) {es : List (Value × Value)} (h : es ≠ []) :
    literal (room + 1) (.mapping .ordered es) =
      (literal room (.list (es.map fun entry => .tuple [entry.1, entry.2]))).map fun s =>
        "OrderedDict(" ++ s ++ ")" := by
  obtain ⟨entry, es, rfl⟩ := List.exists_cons_of_ne_nil h
  rfl

theorem entryLiteral_eq_error {entry : Value × Value} (h : entryLiteral room entry = .error e) :
    literal room entry.1 = .error e ∨ literal room entry.2 = .error e := by
  unfold entryLiteral at h
  cases hk : literal room entry.1 with
  | error e' =>
    rw [hk] at h
    cases h
    exact .inl rfl
  | ok s =>
    rw [hk] at h
    exact .inr (Traversal.map_eq_error_iff.mp h)

theorem exists_entryLiteral_eq_error {entry : Value × Value}
    (h : (∃ e, literal room entry.1 = .error e) ∨ ∃ e, literal room entry.2 = .error e) :
    ∃ e, entryLiteral room entry = .error e := by
  unfold entryLiteral
  cases hk : literal room entry.1 with
  | error e => exact ⟨e, rfl⟩
  | ok s =>
    rw [hk] at h
    obtain ⟨e, h⟩ | ⟨e, h⟩ := h
    · cases h
    · exact ⟨e, by rw [h]; rfl⟩

theorem unshown_of_literal (h : literal room v = .error e) : Unshown room v e := by
  -- A set is shown through a list, so its items are two calls further down.
  induction room using Nat.strongRecOn generalizing v e with
  | ind room ih =>
    cases room with
    | zero =>
      cases h
      exact .deep v
    | succ room =>
      have hi := @ih room (Nat.lt_succ_self _)
      have items {vs : List Value} {f : List String → String}
          (h : (vs.mapM (literal room)).map f = .error e) : ∃ w ∈ vs, Unshown room w e := by
        obtain ⟨w, hm, hw⟩ := Traversal.exists_of_mapM_eq_error (Traversal.map_eq_error_iff.mp h)
        exact ⟨w, hm, hi hw⟩
      cases v with
      | null | bool _ | float _ | text _ | bytes _ | recordType _ => cases h
      | int n =>
        obtain ⟨hl, rfl⟩ := (intText_eq_error_iff n e).mp h
        exact .int hl
      | list vs =>
        rw [literal_list] at h
        obtain ⟨w, hm, hw⟩ := items h
        exact .list hm hw
      | tuple vs =>
        rw [literal_tuple] at h
        obtain ⟨w, hm, hw⟩ := items h
        exact .tuple hm hw
      | set vs =>
        by_cases hn : vs = []
        · cases hn
          cases h
        · cases room with
          | zero =>
            obtain ⟨w, ws, rfl⟩ := List.exists_cons_of_ne_nil hn
            cases h
            exact .deepSet hn
          | succ room =>
            rw [literal_set room hn] at h
            obtain ⟨w, hm, hw⟩ :=
              Traversal.exists_of_mapM_eq_error (Traversal.map_eq_error_iff.mp h)
            exact .set hm (ih room (by omega) hw)
      | mapping form es =>
        cases form with
        | plain =>
          rw [literal_plain] at h
          obtain ⟨entry, hm, he⟩ :=
            Traversal.exists_of_mapM_eq_error (Traversal.map_eq_error_iff.mp h)
          rcases entryLiteral_eq_error he with he | he
          · exact .key hm (hi he)
          · exact .value hm (hi he)
        | view =>
          rw [literal_view, Traversal.map_eq_error_iff] at h
          exact .view (hi h)
        | ordered =>
          by_cases hn : es = []
          · cases hn
            cases h
          · rw [literal_ordered room hn, Traversal.map_eq_error_iff] at h
            exact .ordered hn (hi h)
      | opaqueOf typeName shown => exact .opaqueOf h
      | record t held shown => exact .record h

theorem literal_of_unshown (h : Unshown room v e) : ∃ e, literal room v = .error e := by
  have items {room : Nat} {vs : List Value} {v : Value} (f : List String → String) (hm : v ∈ vs)
      (h : ∃ e, literal room v = .error e) : ∃ e, (vs.mapM (literal room)).map f = .error e :=
    Traversal.exists_map_eq_error f (Traversal.exists_mapM_eq_error hm h)
  induction h with
  | deep v => exact ⟨_, rfl⟩
  | @int room n h => exact ⟨.tooLarge, (intText_eq_error_iff n _).mpr ⟨h, rfl⟩⟩
  | list hm _ ih =>
    rw [literal_list]
    exact items listText hm ih
  | tuple hm _ ih =>
    rw [literal_tuple]
    exact items tupleText hm ih
  | deepSet hn =>
    obtain ⟨w, ws, rfl⟩ := List.exists_cons_of_ne_nil hn
    exact ⟨_, rfl⟩
  | set hm _ ih =>
    rw [literal_set _ (List.ne_nil_of_mem hm)]
    exact items braced hm ih
  | key hm _ ih =>
    rw [literal_plain]
    exact Traversal.exists_map_eq_error _
      (Traversal.exists_mapM_eq_error hm (exists_entryLiteral_eq_error (.inl ih)))
  | value hm _ ih =>
    rw [literal_plain]
    exact Traversal.exists_map_eq_error _
      (Traversal.exists_mapM_eq_error hm (exists_entryLiteral_eq_error (.inr ih)))
  | view _ ih =>
    rw [literal_view]
    exact Traversal.exists_map_eq_error _ ih
  | ordered hn _ ih =>
    rw [literal_ordered _ hn]
    exact Traversal.exists_map_eq_error _ ih
  | opaqueOf h | record h => exact ⟨_, h⟩

theorem display_of_not_hasOwnText (h : v.hasOwnText = false) (room : Nat) :
    v.display room = literal room v := by
  cases v with
  | text | opaqueOf | record => cases h
  | mapping form es =>
    cases form with
    | view => cases h
    | plain | ordered => rfl
  | _ => rfl

theorem undisplayed_of_display (h : v.display room = .error e) : Undisplayed room v e := by
  cases hv : v.hasOwnText with
  | false =>
    rw [display_of_not_hasOwnText hv] at h
    exact .inside hv (unshown_of_literal h)
  | true =>
    cases v with
    | text s => cases h
    | opaqueOf typeName shown => exact .opaqueOf h
    | record t held shown => exact .record h
    | mapping form es =>
      cases form with
      | view => exact .view (unshown_of_literal h)
      | plain | ordered => cases hv
    | _ => cases hv

theorem display_of_undisplayed (h : Undisplayed room v e) : ∃ e, v.display room = .error e := by
  cases h with
  | inside hv h =>
    rw [display_of_not_hasOwnText hv]
    exact literal_of_unshown h
  | view h => exact literal_of_unshown h
  | opaqueOf h | record h => exact ⟨e, h⟩

end FieldGuard.Value
