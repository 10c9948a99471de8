import FieldGuard.Text.Occurs
import FieldGuard.TypeHint.Application

/-!
Operators. Integers are exact. Of a calculation with other numbers only the type is kept, and
whether it divides by zero.
-/

namespace FieldGuard.TypeHint.Meaning

def refused : Result := .error .unresolved

def divisionFault (message : String) : Result := .error (.raised .division message)

def bitLimit : Nat := 0x100000

def sizeLimit : Nat := 0x100000

def bitwise (f : Bool → Bool → Bool) (a b : Int) : Int :=
  let width := max (a.natAbs.log2) (b.natAbs.log2) + 2
  let modulus : Int := Nat.pow 2 width
  let bits := (List.range width).map fun i =>
    if f ((a % modulus).toNat.testBit i) ((b % modulus).toNat.testBit i) then Nat.pow 2 i else 0
  let n : Int := (bits.foldl (· + ·) 0 : Nat)
  if 2 * n < modulus then n else n - modulus

def integerPower (a b : Int) : Result :=
  if b < 0 then
    if a = 0 then divisionFault "0.0 cannot be raised to a negative power"
    else .ok (.other "float")
  else if a.natAbs ≤ 1 ∨ (a.natAbs.log2 + 1) * b.toNat ≤ bitLimit then
    .ok (.integer (Int.pow a b.toNat))
  else .ok (.other "int")

def shift (left : Bool) (a b : Int) : Result :=
  if b < 0 then .error (.raised .value "negative shift count")
  else if left then
    if b ≤ bitLimit then .ok (.integer (a * Nat.pow 2 b.toNat)) else .ok (.other "int")
  else if b ≤ bitLimit then .ok (.integer (Int.fdiv a (Nat.pow 2 b.toNat)))
  else .ok (.integer (if a < 0 then -1 else 0))

def integerOperation (o : Binary) (a b : Int) : Result :=
  match o with
  | .add => .ok (.integer (a + b))
  | .subtract => .ok (.integer (a - b))
  | .multiply => .ok (.integer (a * b))
  | .divide => if b = 0 then divisionFault "division by zero" else .ok (.other "float")
  | .floorDivide =>
    if b = 0 then divisionFault "integer division or modulo by zero"
    else .ok (.integer (Int.fdiv a b))
  | .remainder =>
    if b = 0 then divisionFault "integer modulo by zero" else .ok (.integer (Int.fmod a b))
  | .power => integerPower a b
  | .shiftLeft => shift true a b
  | .shiftRight => shift false a b
  | .both => .ok (.integer (bitwise (· && ·) a b))
  | .alternative => .ok (.integer (bitwise (· || ·) a b))
  | .exclusive => .ok (.integer (bitwise (· != ·) a b))
  | .matrix => refused

def truthOperation? (o : Binary) (a b : Bool) : Option Bool :=
  match o with
  | .both => Option.some (a && b)
  | .alternative => Option.some (a || b)
  | .exclusive => Option.some (a != b)
  | _ => Option.none

def numberRank? (m : Meaning) : Option Nat :=
  if (m.integer?).isSome || m.typeName == "int" then Option.some 0
  else if m.typeName = "float" then Option.some 1
  else if m.typeName = "complex" then Option.some 2
  else Option.none

def isZero (m : Meaning) : Bool := (m.number?).any (Binary64.sameNumber (.inl 0))

def realOperation (o : Binary) (rank : Nat) (l r : Meaning) : Result :=
  let name := if rank = 0 then "int" else if rank = 1 then "float" else "complex"
  match o with
  | .add | .subtract | .multiply => .ok (.other name)
  | .divide =>
    if isZero r then
      divisionFault (if rank = 2 then "complex division by zero" else "float division by zero")
    else .ok (.other (if rank = 2 then "complex" else "float"))
  | .floorDivide =>
    if rank = 2 then refused
    else if isZero r then divisionFault "float floor division by zero" else .ok (.other name)
  | .remainder =>
    if rank = 2 then refused
    else if isZero r then divisionFault "float modulo" else .ok (.other name)
  | .power =>
    if isZero l && rank == 1 && (r.number?).any (Binary64.less · (.inl 0)) then
      divisionFault "0.0 cannot be raised to a negative power"
    else .ok (.other name)
  | _ => if rank = 0 then .ok (.other name) else refused

def times (n : Int) (size : Nat) (repeated : Nat → Meaning) (typeName : String) : Meaning :=
  if n.toNat * size ≤ sizeLimit then repeated n.toNat else .other typeName

def repeated {α : Type} (n : Nat) (xs : List α) : List α := (List.replicate n xs).flatten

def multiplied? (m : Meaning) (n : Int) : Option Meaning :=
  match m with
  | .list xs => Option.some (times n xs.length (fun k => .list (repeated k xs)) "list")
  | .tuple xs => Option.some (times n xs.length (fun k => .tuple (repeated k xs)) "tuple")
  | .text s =>
    Option.some (times n s.length (fun k => .text (String.ofList (repeated k s.toList))) "str")
  | .bytes bs => Option.some (times n bs.length (fun k => .bytes (repeated k bs)) "bytes")
  | _ => Option.none

def mergeEntries (es fs : List (Meaning × Meaning)) : List (Meaning × Meaning) :=
  fs.foldl (fun found e => Entries.put same e.1 e.2 found) es

def setOperation? (o : Binary) (xs ys : List Meaning) : Option (List Meaning) :=
  let without (xs ys : List Meaning) := xs.filter fun x => !ys.any (same x)
  match o with
  | .alternative => Option.some (distinct (xs ++ ys))
  | .both => Option.some (xs.filter fun x => ys.any (same x))
  | .subtract => Option.some (without xs ys)
  | .exclusive => Option.some (without xs ys ++ without ys xs)
  | _ => Option.none

def formatValues : Meaning → List Meaning
  | .tuple ms => ms
  | m => [m]

def fill : List Char → List Meaning → Except Fault (List Char)
  | '%' :: '%' :: cs, ms => return '%' :: (← fill cs ms)
  | '%' :: 's' :: cs, m :: ms => return (shown m).toList ++ (← fill cs ms)
  | '%' :: 'r' :: cs, m :: ms => return (written m).toList ++ (← fill cs ms)
  | '%' :: 'd' :: cs, m :: ms =>
    match m.integer? with
    | Option.some n => return Numeral.decimal n ++ (← fill cs ms)
    | Option.none => throw .unresolved
  | '%' :: _, _ => throw .unresolved
  | c :: cs, ms => return c :: (← fill cs ms)
  | [], [] => return []
  | [], _ => throw .unresolved

def collectionOperation (o : Binary) (l r : Meaning) : Result :=
  match o, l, r with
  | .add, .list xs, .list ys => .ok (.list (xs ++ ys))
  | .add, .tuple xs, .tuple ys => .ok (.tuple (xs ++ ys))
  | .add, .text s, .text t => .ok (.text (s ++ t))
  | .add, .bytes s, .bytes t => .ok (.bytes (s ++ t))
  | .alternative, .dict es, .dict fs => .ok (.dict (mergeEntries es fs))
  | .remainder, .text s, m =>
    (fill s.toList (formatValues m)).map fun cs => .text (String.ofList cs)
  | o, .set frozen xs, .set _ ys =>
    match setOperation? o xs ys with
    | Option.some items => .ok (.set frozen items)
    | Option.none => refused
  | .multiply, m, n =>
    match n.integer?.bind (multiplied? m), m.integer?.bind (multiplied? n) with
    | Option.some product, _ | Option.none, Option.some product => .ok product
    | Option.none, Option.none => refused
  | _, _, _ => refused

def arithmetic (o : Binary) (l r : Meaning) : Result :=
  match l, r with
  | .bool a, .bool b =>
    match truthOperation? o a b with
    | Option.some c => .ok (.bool c)
    | Option.none => integerOperation o (if a then 1 else 0) (if b then 1 else 0)
  | l, r =>
    match l.integer?, r.integer? with
    | Option.some a, Option.some b => integerOperation o a b
    | _, _ =>
      match numberRank? l, numberRank? r with
      | Option.some i, Option.some k => realOperation o (max i k) l r
      | _, _ => collectionOperation o l r

def binary (o : Binary) (l r : Meaning) : Result :=
  if o = .alternative then (alternative? l r).getD (arithmetic o l r) else arithmetic o l r

def unary (o : Unary) (m : Meaning) : Result :=
  match o with
  | .negation => .ok (.bool !m.truth)
  | o =>
    match m.integer?, m with
    | Option.some n, _ =>
      match o with
      | .plus => .ok (.integer n)
      | .minus => .ok (.integer (-n))
      | _ => .ok (.integer (-n - 1))
    | Option.none, .float (.finite negative k e) =>
      if o = .plus then .ok m
      else if o = .minus then .ok (.float (.finite (!negative) k e))
      else refused
    | Option.none, m =>
      if (numberRank? m).isSome && o != .invert then .ok m else refused

def items? : Meaning → Option (List Meaning)
  | .list ms | .tuple ms | .set _ ms => Option.some ms
  | .dict es => Option.some (es.map Prod.fst)
  | .bytes bs => Option.some (octets bs)
  | .range start stop step => Option.some ((Sequence.positions start stop step).map .integer)
  | _ => Option.none

def identical (l r : Meaning) : Bool :=
  typeName l == typeName r && same l r &&
    match l with
    | .list _ | .set _ _ | .dict _ | .slice _ _ _ | .range _ _ _ | .union true _ => false
    | .applied (.native _ _) _ | .method _ _ => false
    | _ => true

mutual

def less? : Meaning → Meaning → Option Bool
  | .text s, .text t => Option.some (decide (s < t))
  | .bytes s, .bytes t => Option.some (decide (s.map UInt8.toNat < t.map UInt8.toNat))
  | .list xs, .list ys => lessAll? xs ys
  | .tuple xs, .tuple ys => lessAll? xs ys
  | .set _ xs, .set _ ys => Option.some (xs.length < ys.length && within xs ys)
  | l, r =>
    match l.number?, r.number? with
    | Option.some a, Option.some b => Option.some (Binary64.less a b)
    | _, _ => Option.none

def lessAll? : List Meaning → List Meaning → Option Bool
  | [], ys => Option.some (!ys.isEmpty)
  | _ :: _, [] => Option.some false
  | x :: xs, y :: ys => if same x y then lessAll? xs ys else less? x y

end

def less (l r : Meaning) : Except Fault Bool :=
  match less? l r with
  | Option.some b => .ok b
  | Option.none =>
    if (numberRank? l).any (· < 2) && (numberRank? r).any (· < 2) then .ok false
    else .error .unresolved

def atMost (l r : Meaning) : Except Fault Bool := return (← less l r) || same l r

end FieldGuard.TypeHint.Meaning
