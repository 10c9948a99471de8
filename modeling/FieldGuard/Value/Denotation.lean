import FieldGuard.Value.Basic

namespace FieldGuard.Value

mutual

def meaning : Value → TypeHint.Meaning
  | .null => .none
  | .bool b => .bool b
  | .int n => .integer n
  | .float x => .float x
  | .text s => .text s
  | .bytes bs => .bytes bs
  | .list items => .list (meanings items)
  | .tuple items => .tuple (meanings items)
  | .set items => .set false (meanings items)
  | .mapping _ es => .dict (entryMeanings es)
  | .opaqueOf name _ => .other name
  | .recordType t => .type (t.module ++ "." ++ t.name)
  | .record t _ _ => .other (t.module ++ "." ++ t.name)

def meanings : List Value → List TypeHint.Meaning
  | [] => []
  | v :: vs => v.meaning :: meanings vs

def entryMeanings : List (Value × Value) → List (TypeHint.Meaning × TypeHint.Meaning)
  | [] => []
  | (k, v) :: es => (k.meaning, v.meaning) :: entryMeanings es

end

end FieldGuard.Value
