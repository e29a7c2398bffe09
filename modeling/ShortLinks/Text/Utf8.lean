/-!
Reading bytes as UTF-8. `parts` cuts any bytes into characters and stretches that belong to none,
each of the latter as long as it could have begun a character; a text is read where there is no
such stretch.
-/

namespace ShortLinks.Text.Utf8

/-- The ranges in which the other bytes of a character lie; `none` for a byte that begins no
character. -/
def tailRanges? (b : UInt8) : Option (List (UInt8 × UInt8)) :=
  let other : UInt8 × UInt8 := (0x80, 0xBF)
  if b < 0x80 then some []
  else if b < 0xC2 then none
  else if b < 0xE0 then some [other]
  else if b = 0xE0 then some [(0xA0, 0xBF), other]
  else if b = 0xED then some [(0x80, 0x9F), other]
  else if b < 0xF0 then some [other, other]
  else if b = 0xF0 then some [(0x90, 0xBF), other, other]
  else if b < 0xF4 then some [other, other, other]
  else if b = 0xF4 then some [(0x80, 0x8F), other, other]
  else none

/-- How many bytes at the start lie in the ranges. -/
def fitting : List (UInt8 × UInt8) → List UInt8 → Nat
  | (low, high) :: ranges, b :: rest =>
      if low ≤ b && b ≤ high then fitting ranges rest + 1 else 0
  | _, _ => 0

/-- The code point of the bytes of a character. -/
def codePoint (first : UInt8) (tail : List UInt8) : Nat :=
  let head := first.toNat % match tail.length with | 0 => 128 | 1 => 32 | 2 => 16 | _ => 8
  tail.foldl (fun n b => n * 64 + b.toNat % 64) head

/-- A piece of bytes: a character, or bytes that belong to none. -/
inductive Part where
  | char (c : Char) (size : Nat)
  /-- So many bytes begin a character that does not go on. -/
  | invalid (size : Nat)
  /-- The bytes end within a character. -/
  | truncated (size : Nat)

/-- The number of bytes of a piece. -/
def Part.size : Part → Nat
  | .char _ size => size
  | .invalid size => size
  | .truncated size => size

/-- The character that a piece is. -/
def Part.char? : Part → Option Char
  | .char c _ => some c
  | _ => none

/-- The piece at the start of some bytes. -/
def firstPart (b : UInt8) (rest : List UInt8) : Part :=
  match tailRanges? b with
  | none => .invalid 1
  | some ranges =>
      let n := fitting ranges rest
      if n = ranges.length then .char (Char.ofNat (codePoint b (rest.take n))) (n + 1)
      else if n = rest.length then .truncated (n + 1)
      else .invalid (n + 1)

/-- The pieces of some bytes. -/
def parts : List UInt8 → List Part
  | [] => []
  | b :: rest => firstPart b rest :: parts (rest.drop ((firstPart b rest).size - 1))
termination_by bytes => bytes.length
decreasing_by simp only [List.length_drop, List.length_cons]; omega

/-- The text of some bytes, with a replacement character for each piece that is none. -/
def lossy (bytes : List UInt8) : List Char :=
  (parts bytes).map fun part => part.char?.getD '\uFFFD'

/-- The text of some bytes. -/
def text? (bytes : List UInt8) : Option (List Char) :=
  (parts bytes).mapM Part.char?

/-- What is said of the first piece that is no character, at this index or behind it. -/
def complaint (index : Nat) : List Part → String
  | [] => ""
  | .char _ size :: rest => complaint (index + size) rest
  | .invalid size :: _ => s!"invalid utf-8 sequence of {size} bytes from index {index}"
  | .truncated _ :: _ => s!"incomplete utf-8 byte sequence from index {index}"

end ShortLinks.Text.Utf8
