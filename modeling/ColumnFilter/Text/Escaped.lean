import ColumnFilter.Text.Invisible

/-! # Escaped texts

A text between double quotes in which every character can be seen. Quotes,
backslashes and the usual controls have short escapes, and any other character
that does not show is given by its code point.
-/

namespace ColumnFilter.Text.Escaped

def needsCode (c : Char) : Bool :=
  decide (c.toNat < 0x20) || c.toNat == 0x7F || isInvisible c

def encodeChar (c : Char) : List Char :=
  if c = '\x00' then ['\\', '0']
  else if c = '\t' then ['\\', 't']
  else if c = '\n' then ['\\', 'n']
  else if c = '\r' then ['\\', 'r']
  else if c = '"' then ['\\', '"']
  else if c = '\\' then ['\\', '\\']
  else if needsCode c then '\\' :: 'u' :: '\x7b' :: Nat.toDigits 16 c.toNat ++ ['\x7d']
  else [c]

def write (s : String) : String :=
  String.ofList ('"' :: s.toList.flatMap encodeChar ++ ['"'])

end ColumnFilter.Text.Escaped
