import FieldGuard.TypeHint.Operator

namespace FieldGuard.TypeHint.Meaning

def numbers (start stop step : Int) : List Meaning :=
  if Sequence.count start stop step ≤ sizeLimit then
    (Sequence.positions start stop step).map .integer
  else []

def iterate (m : Meaning) : Except Fault (List Meaning × Option Fault) := do
  match m with
  | .text s => return (characters s, Option.none)
  | .iterator _ ms fault => return (ms, fault)
  | .range start stop step => return (numbers start stop step, Option.none)
  | .applied (.native origin _) ms => return ([.applied (.native origin true) ms], Option.none)
  | .applied (.generic "Callable") _ | .union _ _ | .annotated _ _ => throw .unresolved
  | .applied _ _ => return ([.applied (.form "Unpack") [← checkType false m]], Option.none)
  | .typeVariable .types _ => return ([.applied (.form "Unpack") [m]], Option.none)
  | .other name =>
    if Library.hasAttribute name "__iter__" || name = "object" then return ([], Option.none)
    throw .unresolved
  | m =>
    match items? m with
    | Option.some ms => return (ms, Option.none)
    | Option.none => throw .unresolved

def itemsOf (m : Meaning) : Except Fault (List Meaning) := do
  match ← iterate m with
  | (ms, Option.none) => return ms
  | (_, Option.some fault) => throw fault

def checkKey (m : Meaning) : Except Fault Unit :=
  if m.unhashable?.isSome then .error .unresolved else .ok ()

def checkKeys (ms : List Meaning) : Except Fault Unit := ms.forM checkKey

def setOf (frozen : Bool) (ms : List Meaning) : Result := do
  checkKeys ms
  return .set frozen (distinct ms)

def dictOf (pairs : List (Meaning × Meaning)) : Result := do
  checkKeys (pairs.map Prod.fst)
  return .dict (mergeEntries [] pairs)

def pairsOf (m : Meaning) : Except Fault (List (Meaning × Meaning)) := do
  match m with
  | .dict es => return es
  | m =>
    (← itemsOf m).mapM fun pair => do
      match ← itemsOf pair with
      | [k, v] => return (k, v)
      | ms =>
        throw (.raised .value ("dictionary update sequence element #0 has length " ++
          ms.length.repr ++ "; 2 is required"))

def isKeyed : Meaning → Bool
  | .set _ _ | .dict _ => true
  | _ => false

def byteChar (b : UInt8) : Char := Char.ofNat b.toNat

def contains (container m : Meaning) : Except Fault Bool :=
  match container, m with
  | .text t, .text s => .ok (Text.occursIn s.toList t.toList)
  | .text _, _ => .error .unresolved
  | .bytes bs, .bytes found => .ok (Text.occursIn (found.map byteChar) (bs.map byteChar))
  | .bytes bs, m =>
    match m.integer? with
    | Option.some n =>
      if 0 ≤ n && n < 256 then .ok (bs.contains (UInt8.ofNat n.toNat))
      else .error (.raised .value "byte must be in range(0, 256)")
    | Option.none => .error .unresolved
  | .iterator _ ms fault, m =>
    if ms.any (same m) then .ok true
    else match fault with
      | Option.some f => .error f
      | Option.none => .ok false
  | container, m => do
    let ms ← itemsOf container
    if isKeyed container && m.unhashable?.isSome then throw .unresolved
    return ms.any (same m)

def compare (c : Comparison) (l r : Meaning) : Except Fault Bool :=
  match c with
  | .equal => .ok (same l r)
  | .unequal => .ok (!same l r)
  | .less => less l r
  | .atMost => atMost l r
  | .greater => less r l
  | .atLeast => atMost r l
  | .identical => .ok (identical l r)
  | .distinct => .ok (!identical l r)
  | .within => contains r l
  | .outside => (contains r l).map not

end FieldGuard.TypeHint.Meaning
