import FieldGuard.Schema.Document

namespace FieldGuard

structure Registry where
  schemas : Entries String Schema
  deriving DecidableEq, Repr

namespace Registry

def empty : Registry := ⟨[]⟩

def names (r : Registry) : List String := r.schemas.keys

def size (r : Registry) : Nat := r.schemas.length

def get? (r : Registry) (name : String) : Option Schema := r.schemas.lookup name

def contains (r : Registry) (name : String) : Bool := (r.get? name).isSome

inductive Error where
  | unknown (name : String)
  | unhashable (typeName : String)
  deriving DecidableEq, Repr

def Error.message : Error → String
  | .unknown name => Text.quoted ("No schema registered under " ++ Text.quoted name)
  | .unhashable typeName => "unhashable type: '" ++ typeName ++ "'"

def get (r : Registry) (name : String) : Except Error Schema :=
  match r.get? name with
  | some s => .ok s
  | none => .error (.unknown name)

def put (r : Registry) (s : Schema) : Registry := ⟨r.schemas.put (· == ·) s.name s⟩

def register (r : Registry) (s : Schema) (replace : Bool) : Except SchemaFault Registry :=
  if r.contains s.name && !replace then .error (.alreadyRegistered s.name)
  else .ok (r.put s)

def unregister (r : Registry) (name : String) : Registry :=
  ⟨r.schemas.filter fun e => e.1 != name⟩

def containsValue (r : Registry) (v : Value) : Except Error Bool :=
  match v.unhashable? with
  | some typeName => .error (.unhashable typeName)
  | none => .ok (v.text?.any r.contains)

theorem get?_put (r : Registry) (s : Schema) (name : String) :
    (r.put s).get? name = if s.name = name then some s else r.get? name := by
  simp only [get?, put, Entries.lookup_put, beq_iff_eq, eq_comm (a := name)]

theorem get?_unregister (r : Registry) (name other : String) :
    (r.unregister name).get? other = if name = other then none else r.get? other := by
  obtain ⟨es⟩ := r
  simp only [get?, unregister]
  induction es with
  | nil => simp
  | cons e es ih =>
    obtain ⟨key, s⟩ := e
    by_cases hk : key = name
    · subst hk
      rw [List.filter_cons_of_neg (by simp), ih]
      by_cases h : key = other
      · simp [h]
      · simp [h, List.lookup_cons, beq_eq_false_iff_ne.mpr (Ne.symm h)]
    · rw [List.filter_cons_of_pos (by simpa using hk)]
      simp only [List.lookup_cons, ih]
      by_cases h : other = key
      · simp [h, Ne.symm hk]
      · simp [beq_eq_false_iff_ne.mpr h]

end Registry

end FieldGuard
