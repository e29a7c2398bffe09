/-!
Lower case, as far as ASCII letters can tell. Of all letters beyond ASCII only two have an ASCII
letter in their lower-case form: the Kelvin sign, and the capital I with a dot, which becomes an
`i` and a combining dot. Every other letter beyond ASCII is left as it is.
-/

namespace ShortLinks.Text

/-- The lower-case form of a character. -/
def lowerChar (c : Char) : List Char :=
  if c = '\u212a' then ['k']
  else if c = '\u0130' then ['i', '\u0307']
  else [c.toLower]

/-- The lower-case form of a text. -/
def lower (cs : List Char) : List Char := cs.flatMap lowerChar

/-- Does the text hold the word as a part? -/
def holds (word : List Char) : List Char → Bool
  | [] => word.isEmpty
  | c :: rest => word.isPrefixOf (c :: rest) || holds word rest

end ShortLinks.Text
