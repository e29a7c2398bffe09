/-!
Quoted texts in messages: between double quotes, with a backslash before quotes and backslashes,
letters for the common controls, and the code point of what cannot be seen.
-/

namespace ShortLinks.Text

/-- Ranges of characters that cannot be seen on their own: controls, format characters, combining
marks and private use. -/
def unseenRanges : List (Nat × Nat) :=
  [(0x00, 0x1F), (0x7F, 0x9F), (0xAD, 0xAD), (0x300, 0x36F), (0x200B, 0x200F), (0x2028, 0x202E),
    (0x2060, 0x206F), (0xE000, 0xF8FF), (0xFE00, 0xFE0F), (0xFEFF, 0xFEFF), (0xFFF0, 0xFFFB),
    (0xE0000, 0x10FFFF)]

/-- Can the character not be seen on its own? -/
def isUnseen (c : Char) : Bool := unseenRanges.any fun r => r.1 ≤ c.toNat && c.toNat ≤ r.2

/-- What stands for a character between quotes. -/
def quoteChar (c : Char) : List Char :=
  if c = '"' then ['\\', '"']
  else if c = '\\' then ['\\', '\\']
  else if c = '\n' then ['\\', 'n']
  else if c = '\r' then ['\\', 'r']
  else if c = '\t' then ['\\', 't']
  else if c = '\x00' then ['\\', '0']
  else if isUnseen c then ['\\', 'u', '\x7b'] ++ Nat.toDigits 16 c.toNat ++ ['\x7d']
  else [c]

/-- The text between quotes. -/
def quoted (s : String) : String :=
  String.ofList ('"' :: (s.toList.flatMap quoteChar ++ ['"']))

end ShortLinks.Text
