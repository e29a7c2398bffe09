/-!
Cutting and trimming texts.
-/

namespace ShortLinks.Text

/-- The parts of a text between separators; there is one more of them than separators. -/
def cut (isSeparator : Char → Bool) : List Char → List (List Char)
  | [] => [[]]
  | c :: rest =>
      if isSeparator c then [] :: cut isSeparator rest
      else match cut isSeparator rest with
        | [] => [[c]]
        | part :: others => (c :: part) :: others

/-- The characters of white space. -/
def isBlank (c : Char) : Bool :=
  let n := c.toNat
  (0x09 ≤ n && n ≤ 0x0D) || n = 0x20 || n = 0x85 || n = 0xA0 || n = 0x1680
    || (0x2000 ≤ n && n ≤ 0x200A) || n = 0x2028 || n = 0x2029 || n = 0x202F || n = 0x205F
    || n = 0x3000

/-- The text without the characters of one class at its ends. -/
def trimBoth (isEdge : Char → Bool) (cs : List Char) : List Char :=
  ((cs.dropWhile isEdge).reverse.dropWhile isEdge).reverse

/-- The lines of a text, without the white space at their ends. -/
def lines (cs : List Char) : List (List Char) := (cut (· = '\n') cs).map (trimBoth isBlank)

end ShortLinks.Text
