import ShortLinks.Json.Basic

/-!
JSON text, compact. Inside a string the quote, the backslash and the control characters below
U+0020 are escaped, five of the latter by a letter; every other character stands for itself.
-/

namespace ShortLinks.Json

/-- A hexadecimal digit in lower case. -/
def hexDigit (n : Nat) : Char := Nat.digitChar (n % 16)

/-- What stands for one character between the quotes of a string. -/
def escape (c : Char) : List Char :=
  if c = '"' then ['\\', '"']
  else if c = '\\' then ['\\', '\\']
  else if c = '\x08' then ['\\', 'b']
  else if c = '\x0c' then ['\\', 'f']
  else if c = '\n' then ['\\', 'n']
  else if c = '\r' then ['\\', 'r']
  else if c = '\t' then ['\\', 't']
  else if c.toNat < 0x20 then
    ['\\', 'u', '0', '0', hexDigit (c.toNat / 16), hexDigit c.toNat]
  else [c]

/-- A string literal with its quotes. -/
def Literal.render : Literal → List Char
  | .whole s => '"' :: (s.toList.flatMap escape ++ ['"'])
  | .torn source => '"' :: (source ++ ['"'])

mutual

/-- The compact text of a value. -/
def render : Json → List Char
  | .null => ['n', 'u', 'l', 'l']
  | .bool true => ['t', 'r', 'u', 'e']
  | .bool false => ['f', 'a', 'l', 's', 'e']
  | .natural n => Nat.toDigits 10 n
  | .number source => source
  | .string s => s.render
  | .array [] => ['[', ']']
  | .array (item :: rest) => '[' :: (render item ++ renderItems rest)
  | .object [] => ['\x7b', '\x7d']
  | .object (member :: rest) => '\x7b' :: (renderMember member ++ renderMembers rest)

/-- The items after the first one, up to the closing bracket. -/
def renderItems : List Json → List Char
  | [] => [']']
  | item :: rest => ',' :: (render item ++ renderItems rest)

/-- A name and its value. -/
def renderMember : Literal × Json → List Char
  | (name, value) => name.render ++ ':' :: render value

/-- The members after the first one, up to the closing brace. -/
def renderMembers : List (Literal × Json) → List Char
  | [] => ['\x7d']
  | member :: rest => ',' :: (renderMember member ++ renderMembers rest)

end

/-- The compact text of a value, as a string. -/
def compact (j : Json) : String := String.ofList j.render

end ShortLinks.Json
