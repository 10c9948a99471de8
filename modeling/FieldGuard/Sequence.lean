namespace FieldGuard.Sequence

inductive Error where
  | outOfRange
  | unfit
  | zeroStep
  deriving DecidableEq, Repr

def Error.message : Error → String
  | .outOfRange => "list index out of range"
  | .unfit => "cannot fit 'int' into an index-sized integer"
  | .zeroStep => "slice step cannot be zero"

structure Bounds where
  start : Option Int
  stop : Option Int
  step : Option Int
  deriving DecidableEq, Repr

variable {α : Type}

def missing (i : Int) : Error :=
  if -9223372036854775808 ≤ i ∧ i < 9223372036854775808 then .outOfRange else .unfit

def get (xs : List α) (i : Int) : Except Error α :=
  let place := if i < 0 then i + xs.length else i
  if place < 0 then .error (missing i)
  else match xs[place.toNat]? with
    | some x => .ok x
    | none => .error (missing i)

def clamp (length low high : Int) (bound : Int) : Int :=
  max low (min high (if bound < 0 then bound + length else bound))

def count (start stop step : Int) : Nat :=
  (if 0 < step then (stop - start + step - 1) / step
    else (start - stop - step - 1) / (-step)).toNat

def positions (start stop step : Int) : List Int :=
  (List.range (count start stop step)).map fun (k : Nat) => start + step * k

def slice (xs : List α) (bounds : Bounds) : Except Error (List α) :=
  let length : Int := xs.length
  let step := bounds.step.getD 1
  if step = 0 then .error .zeroStep
  else
    let (low, high) := if 0 < step then (0, length) else (-1, length - 1)
    let start := (bounds.start.map (clamp length low high)).getD (if 0 < step then low else high)
    let stop := (bounds.stop.map (clamp length low high)).getD (if 0 < step then high else low)
    .ok ((positions start stop step).filterMap fun i => xs[i.toNat]?)

theorem get_ofNat {xs : List α} {i : Nat} (h : i < xs.length) : get xs i = .ok xs[i] := by
  simp [get, show ¬(i : Int) < 0 by omega, h]

theorem get_neg {xs : List α} {i : Int} (h : i < 0) (hi : 0 ≤ i + xs.length) :
    get xs i = get xs (i + xs.length) := by
  have hn : ¬i + (xs.length : Int) < 0 := by omega
  have hl : (i + (xs.length : Int)).toNat < xs.length := by omega
  simp [get, h, hn, hl]

theorem get_eq_error {xs : List α} {i : Int} (h : i < -xs.length ∨ xs.length ≤ i) :
    get xs i = .error (missing i) := by
  rw [get]
  rcases h with h | h
  · simp [show i < 0 by omega, show i + (xs.length : Int) < 0 by omega]
  · simp [show ¬i < 0 by omega, show xs.length ≤ i.toNat by omega]

example : get [0] 9223372036854775808 = .error .unfit := rfl
example : slice [0, 1, 2, 3, 4] ⟨none, none, some (-2)⟩ = .ok [4, 2, 0] := rfl
example : slice [0, 1, 2, 3, 4] ⟨some (-4), some 100, some 2⟩ = .ok [1, 3] := rfl

end FieldGuard.Sequence
