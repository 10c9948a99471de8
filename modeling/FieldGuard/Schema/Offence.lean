import FieldGuard.Schema.Format

/-!
A checker of documents that gathers everything that is wrong and reports the offence nearest to the
root.
-/

namespace FieldGuard.Document

def Step.precedes : Step → Step → Bool
  | .key a, .key b => decide (a < b)
  | .index i, .index j => decide (i < j)
  | .index _, .key _ => true
  | .key _, .index _ => false

def Path.precedes : Path → Path → Bool
  | [], [] => false
  | [], _ :: _ => true
  | _ :: _, [] => false
  | a :: p, b :: q => if a = b then precedes p q else a.precedes b

structure Offence where
  path : Path
  message : String
  deriving DecidableEq, Repr

abbrev Offences := Except TextError (List Offence)

def both (x y : Offences) : Offences := do return (← x) ++ (← y)

def wrongType (room : Nat) (path : Path) (v : Value) (expected : String) : Offences := do
  return [⟨path, (← v.literal room) ++ " is not of type '" ++ expected ++ "'"⟩]

def requiredOffences (path : Path) (es : Entries Value Value) (names : List String) :
    List Offence :=
  (names.filter fun name => !(Value.lookup es name).isSome).map fun name =>
    ⟨path, Text.quoted name ++ " is a required property"⟩

def sortedByText (keys : List (String × Value)) : List Value :=
  (keys.mergeSort fun a b => decide (a.1 ≤ b.1)).map Prod.snd

def unexpectedOffences (room : Nat) (path : Path) (es : Entries Value Value)
    (properties : List (String × Format)) : Offences :=
  match es.keys.filter fun k => !properties.any fun p => k.isText p.1 with
  | [] => .ok []
  | extras => do
    let keyed ← extras.mapM fun k => return (← k.display room, k)
    let shown ← (sortedByText keyed).mapM (Value.literal room)
    return [⟨path, "Additional properties are not allowed (" ++ ", ".intercalate shown ++
      (if extras.length = 1 then " was" else " were") ++ " unexpected)"⟩]

def itemOffences (check : Path → Value → Offences) (path : Path) (i : Nat) : List Value → Offences
  | [] => .ok []
  | v :: vs => both (check (path ++ [.index i]) v) (itemOffences check path (i + 1) vs)

mutual

def offences (room : Nat) : Format → Path → Value → Offences
  | .text nonempty, path, .text s =>
    .ok (if nonempty && s.isEmpty then [⟨path, "'' should be non-empty"⟩] else [])
  | .text _, path, v => wrongType room path v "string"
  | .list item, path, .list items => itemOffences (offences room item) path 0 items
  | .list _, path, v => wrongType room path v "array"
  | .object properties required, path, v =>
    match v.writableEntries? with
    | some es =>
      both (propertyOffences room properties path es) <|
        both (.ok (requiredOffences path es required)) (unexpectedOffences room path es properties)
    | none => wrongType room path v "object"

def propertyOffences (room : Nat) :
    List (String × Format) → Path → Entries Value Value → Offences
  | [], _, _ => .ok []
  | (name, f) :: properties, path, es =>
    both
      (match Value.lookup es name with
        | some v => offences room f (path ++ [.key name]) v
        | none => .ok [])
      (propertyOffences room properties path es)

end

/-- Shorter paths come first, and of paths of one length the greatest. -/
def Offence.outranks (a b : Offence) : Bool :=
  decide (a.path.length < b.path.length) ||
    (a.path.length == b.path.length && Path.precedes b.path a.path)

def worst (first : Offence) (others : List Offence) : Offence :=
  others.foldl (fun best next => if next.outranks best then next else best) first

def checkWithin (room : Nat) (f : Format) (v : Value) : Except Breach Unit :=
  match offences room f [] v with
  | .ok [] => .ok ()
  | .ok (o :: os) => .error (.broken (worst o os).path (worst o os).message)
  | .error e => .error (.failed e)

variable {room : Nat} {path : Path}

theorem both_eq_nil_iff {x y : Offences} : both x y = .ok [] ↔ x = .ok [] ∧ y = .ok [] := by
  cases x with
  | error e => simp [both, bind, Except.bind]
  | ok xs =>
    cases y with
    | error e => simp [both, bind, Except.bind]
    | ok ys => simp [both, bind, Except.bind, pure, Except.pure]

theorem wrongType_ne_nil (v : Value) (expected : String) :
    wrongType room path v expected ≠ .ok [] := by
  rw [wrongType]
  cases v.literal room <;> simp [bind, Except.bind, pure, Except.pure]

theorem itemOffences_eq_nil_iff {check : Path → Value → Offences} {accepts : Value → Bool}
    (h : ∀ path v, check path v = .ok [] ↔ accepts v = true) (i : Nat) (vs : List Value) :
    itemOffences check path i vs = .ok [] ↔ vs.all accepts = true := by
  induction vs generalizing i with
  | nil => simp [itemOffences]
  | cons v vs ih => simp [itemOffences, both_eq_nil_iff, h, ih]

theorem requiredOffences_eq_nil_iff (es : Entries Value Value) (names : List String) :
    requiredOffences path es names = [] ↔
      names.all (fun name => (Value.lookup es name).isSome) = true := by
  simp [requiredOffences, Option.isSome_iff_ne_none]

theorem unexpectedOffences_eq_nil_iff (es : Entries Value Value)
    (properties : List (String × Format)) :
    unexpectedOffences room path es properties = .ok [] ↔
      es.keys.all (fun k => properties.any fun p => k.isText p.1) = true := by
  have hf : (es.keys.filter fun k => !properties.any fun p => k.isText p.1) = [] ↔
      es.keys.all (fun k => properties.any fun p => k.isText p.1) = true := by
    rw [List.filter_eq_nil_iff, List.all_eq_true]
    simp only [Bool.not_eq_true', Bool.not_eq_false]
  rw [unexpectedOffences, ← hf]
  split
  · next h => simp [h]
  · next h =>
    refine ⟨fun he => ?_, fun hn => absurd hn h⟩
    -- Whatever is unexpected is an offence, unless its texts cannot be made.
    simp only [bind, Except.bind, pure, Except.pure] at he
    split at he
    · cases he
    · split at he <;> cases he

mutual

theorem offences_eq_nil_iff (f : Format) (path : Path) (v : Value) :
    offences room f path v = .ok [] ↔ f.accepts v = true := by
  match f with
  | .text nonempty =>
    cases v with
    | text s => cases nonempty <;> cases hs : s.isEmpty <;> simp [offences, Format.accepts, hs]
    | _ => simpa [offences, Format.accepts] using wrongType_ne_nil _ _
  | .list item =>
    cases v with
    | list items =>
      rw [offences, Format.accepts]
      exact itemOffences_eq_nil_iff (offences_eq_nil_iff item) 0 items
    | _ => simpa [offences, Format.accepts] using wrongType_ne_nil _ _
  | .object properties required =>
    rw [offences, Format.accepts]
    cases v.writableEntries? with
    | none => simpa using wrongType_ne_nil _ _
    | some es =>
      simp only [both_eq_nil_iff, propertyOffences_eq_nil_iff properties, Except.ok.injEq,
        requiredOffences_eq_nil_iff, unexpectedOffences_eq_nil_iff, Bool.and_eq_true, and_assoc]

theorem propertyOffences_eq_nil_iff (properties : List (String × Format)) (path : Path)
    (es : Entries Value Value) :
    propertyOffences room properties path es = .ok [] ↔
      Format.acceptsEach properties es = true := by
  match properties with
  | [] => simp [propertyOffences, Format.acceptsEach]
  | (name, f) :: properties =>
    rw [propertyOffences, Format.acceptsEach, both_eq_nil_iff,
      propertyOffences_eq_nil_iff properties, Bool.and_eq_true]
    cases Value.lookup es name with
    | none => simp
    | some v => simp [offences_eq_nil_iff f]

end

theorem checkWithin_eq_ok_iff (f : Format) (v : Value) :
    checkWithin room f v = .ok () ↔ f.accepts v = true := by
  rw [← @offences_eq_nil_iff room f [] v, checkWithin]
  split <;> simp_all

abbrev Checker.gathering (room : Nat) : Checker where
  check := checkWithin room
  check_eq_ok_iff := checkWithin_eq_ok_iff

end FieldGuard.Document
