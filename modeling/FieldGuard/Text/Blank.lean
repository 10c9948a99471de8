import FieldGuard.Text.Range

/-!
White space in the sense of Unicode's bidirectional classes `WS`, `B` and `S` together with the
category of space separators, and the operation that cuts it from both ends of a text.
-/

namespace FieldGuard.Text

def blankTable : RangeTable :=
  [(0x09, 0x0d), (0x1c, 0x20), (0x85, 0x85), (0xa0, 0xa0), (0x1680, 0x1680), (0x2000, 0x200a),
    (0x2028, 0x2029), (0x202f, 0x202f), (0x205f, 0x205f), (0x3000, 0x3000)]

def isBlank (c : Char) : Bool := blankTable.holds c

def strip (cs : List Char) : List Char :=
  ((cs.dropWhile isBlank).reverse.dropWhile isBlank).reverse

end FieldGuard.Text
