import FieldGuard.Text.Hex
import FieldGuard.Text.Printable

namespace FieldGuard.Text

def quoteOf (cs : List Char) : Char :=
  if cs.contains '\'' && !cs.contains '"' then '"' else '\''

def escape (quote c : Char) : List Char :=
  if c = quote ∨ c = '\\' then ['\\', c]
  else if c = '\n' then ['\\', 'n']
  else if c = '\r' then ['\\', 'r']
  else if c = '\t' then ['\\', 't']
  else if isPrintable c then [c]
  else if c.toNat < 0x100 then '\\' :: 'x' :: hex 2 c.toNat
  else if c.toNat < 0x10000 then '\\' :: 'u' :: hex 4 c.toNat
  else '\\' :: 'U' :: hex 8 c.toNat

def quoteChars (cs : List Char) : List Char :=
  let quote := quoteOf cs
  quote :: cs.flatMap (escape quote) ++ [quote]

def quoted (s : String) : String := String.ofList (quoteChars s.toList)

def escapeByte (quote : Char) (b : UInt8) : List Char :=
  if 0x80 ≤ b.toNat then '\\' :: 'x' :: hex 2 b.toNat
  else escape quote (Char.ofNat b.toNat)

def quotedBytes (bs : List UInt8) : String :=
  let quote := quoteOf (bs.map fun b => Char.ofNat b.toNat)
  String.ofList ('b' :: quote :: bs.flatMap (escapeByte quote) ++ [quote])

example : quoted "it's" = "\"it's\"" := by decide
example : quoted "a\"b'c\n\x7f" = "'a\"b\\'c\\n\\x7f'" := by decide

end FieldGuard.Text
