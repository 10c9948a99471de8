namespace FieldGuard.Text

/-- The capital spelling of a character, where it consists of letters `A` to `Z`. Every other
character is kept: its capital spelling holds a character that no such name has. -/
def capital (c : Char) : List Char :=
  if 'a'.toNat ≤ c.toNat ∧ c.toNat ≤ 'z'.toNat then [Char.ofNat (c.toNat - 32)]
  else match c.toNat with
    | 0xdf => ['S', 'S']
    | 0x131 => ['I']
    | 0x17f => ['S']
    | 0xfb00 => ['F', 'F']
    | 0xfb01 => ['F', 'I']
    | 0xfb02 => ['F', 'L']
    | 0xfb03 => ['F', 'F', 'I']
    | 0xfb04 => ['F', 'F', 'L']
    | 0xfb05 => ['S', 'T']
    | 0xfb06 => ['S', 'T']
    | _ => [c]

def upper (cs : List Char) : List Char := cs.flatMap capital

example : upper "List_ﬅıſ".toList = "LIST_STIS".toList := by decide

end FieldGuard.Text
