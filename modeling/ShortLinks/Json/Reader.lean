import ShortLinks.Json.Basic
import ShortLinks.Text.Digits

/-!
Reading JSON text. The grammar is that of RFC 8259: four blank characters, no byte order mark,
nothing after the value, and no raw control character inside a string. `parse?` gives the value
of a whole text.
-/

namespace ShortLinks.Json

/-- The characters that may stand between tokens. -/
def isBlank (c : Char) : Bool := c = ' ' || c = '\n' || c = '\t' || c = '\r'

/-- The text after the blanks at its start. -/
def skipBlank (cs : List Char) : List Char := cs.dropWhile isBlank

/-- The number that four hexadecimal digits write. -/
def hexQuad? (a b c d : Char) : Option Nat := Text.natural? 16 [a, b, c, d]

/-! ### Strings -/

/-- One step of a string literal: a character, or a number written by a `\u` escape. -/
inductive Piece where
  | char (c : Char)
  | unit (n : Nat)

/-- The character that a one-letter escape stands for. -/
def letterEscape? : Char → Option Char
  | '"' => some '"'
  | '\\' => some '\\'
  | '/' => some '/'
  | 'b' => some '\x08'
  | 'f' => some '\x0c'
  | 'n' => some '\n'
  | 'r' => some '\r'
  | 't' => some '\t'
  | _ => none

/-- The pieces up to the closing quote, and what follows it. -/
def pieces? : List Char → Option (List Piece × List Char)
  | [] => none
  | '"' :: rest => some ([], rest)
  | '\\' :: 'u' :: a :: b :: c :: d :: rest => do
      let n ← hexQuad? a b c d
      let (ps, after) ← pieces? rest
      return (.unit n :: ps, after)
  | '\\' :: e :: rest => do
      let c ← letterEscape? e
      let (ps, after) ← pieces? rest
      return (.char c :: ps, after)
  | c :: rest =>
      if c.toNat < 0x20 ∨ c = '\\' then none
      else do
        let (ps, after) ← pieces? rest
        return (.char c :: ps, after)

/-- Is the number the first half of a surrogate pair? -/
def isHighSurrogate (n : Nat) : Bool := 0xD800 ≤ n && n < 0xDC00

/-- Is the number the second half of a surrogate pair? -/
def isLowSurrogate (n : Nat) : Bool := 0xDC00 ≤ n && n < 0xE000

/-- The text of a run of pieces, with surrogate pairs joined; `none` if a half stands alone. -/
def assemble? : List Piece → Option (List Char)
  | [] => some []
  | .char c :: rest => (assemble? rest).map (c :: ·)
  | .unit hi :: .unit lo :: rest =>
      if isHighSurrogate hi then
        if isLowSurrogate lo then
          (assemble? rest).map (Char.ofNat (0x10000 + (hi - 0xD800) * 0x400 + (lo - 0xDC00)) :: ·)
        else none
      else if isLowSurrogate hi then none
      else (assemble? (.unit lo :: rest)).map (Char.ofNat hi :: ·)
  | .unit n :: rest =>
      if isHighSurrogate n || isLowSurrogate n then none
      else (assemble? rest).map (Char.ofNat n :: ·)

/-- A string literal after its opening quote, and what follows it. -/
def literal? (cs : List Char) : Option (Literal × List Char) := do
  let (ps, after) ← pieces? cs
  match assemble? ps with
  | some text => return (.whole (String.ofList text), after)
  | none => return (.torn (cs.take (cs.length - after.length - 1)), after)

/-! ### Numbers -/

/-- The digits at the start, and what follows them. -/
def digits (cs : List Char) : List Char × List Char := cs.span Char.isDigit

/-- The whole part of a number: a zero alone, or digits that do not start with one. -/
def wholePart? (cs : List Char) : Option (List Char × List Char) :=
  match cs with
  | '0' :: rest => if rest.head?.any Char.isDigit then none else some (['0'], rest)
  | _ => match digits cs with
    | ([], _) => none
    | found => some found

/-- A part that is opened by a mark and then needs a digit: a fraction or an exponent. -/
def markedDigits? (mark : List Char) (cs : List Char) : Option (List Char × List Char) :=
  match digits cs with
  | ([], _) => none
  | (ds, rest) => some (mark ++ ds, rest)

/-- The fraction at the start, empty if there is none. -/
def fraction? : List Char → Option (List Char × List Char)
  | '.' :: rest => markedDigits? ['.'] rest
  | cs => some ([], cs)

/-- The exponent at the start, empty if there is none. -/
def exponent? : List Char → Option (List Char × List Char)
  | e :: sign :: rest =>
      if e = 'e' ∨ e = 'E' then
        if sign = '+' ∨ sign = '-' then markedDigits? [e, sign] rest
        else markedDigits? [e] (sign :: rest)
      else some ([], e :: sign :: rest)
  | [e] => if e = 'e' ∨ e = 'E' then none else some ([], [e])
  | [] => some ([], [])

/-- A number, and what follows it. -/
def number? (cs : List Char) : Option (Json × List Char) := do
  let (sign, unsigned) := match cs with
    | '-' :: rest => (['-'], rest)
    | _ => ([], cs)
  let (whole, r₁) ← wholePart? unsigned
  let (fraction, r₂) ← fraction? r₁
  let (exponent, rest) ← exponent? r₂
  if sign.isEmpty && fraction.isEmpty && exponent.isEmpty then
    return (.natural (Text.ofDigits 10 whole), rest)
  else return (.number (sign ++ whole ++ fraction ++ exponent), rest)

/-! ### Values -/

mutual

/-- The value at the start, which may have blanks before it, and what follows it. The first
argument bounds the depth of the recursion; the length of the text is enough. -/
def value? : Nat → List Char → Option (Json × List Char)
  | 0, _ => none
  | fuel + 1, cs =>
      match skipBlank cs with
      | 'n' :: 'u' :: 'l' :: 'l' :: rest => some (.null, rest)
      | 't' :: 'r' :: 'u' :: 'e' :: rest => some (.bool true, rest)
      | 'f' :: 'a' :: 'l' :: 's' :: 'e' :: rest => some (.bool false, rest)
      | '"' :: rest => (literal? rest).map fun r => (.string r.1, r.2)
      | '[' :: rest =>
          match skipBlank rest with
          | ']' :: after => some (.array [], after)
          | _ => (items? fuel rest).map fun r => (.array r.1, r.2)
      | '\x7b' :: rest =>
          match skipBlank rest with
          | '\x7d' :: after => some (.object [], after)
          | _ => (members? fuel rest).map fun r => (.object r.1, r.2)
      | unmarked => number? unmarked

/-- The items up to the closing bracket, and what follows it. -/
def items? : Nat → List Char → Option (List Json × List Char)
  | 0, _ => none
  | fuel + 1, cs => do
      let (item, rest) ← value? fuel cs
      match skipBlank rest with
      | ']' :: after => return ([item], after)
      | ',' :: more =>
          let (others, after) ← items? fuel more
          return (item :: others, after)
      | _ => none

/-- The members up to the closing brace, and what follows it. -/
def members? : Nat → List Char → Option (List (Literal × Json) × List Char)
  | 0, _ => none
  | fuel + 1, cs => do
      let '"' :: inside := skipBlank cs | none
      let (name, rest) ← literal? inside
      let ':' :: rest := skipBlank rest | none
      let (value, rest) ← value? fuel rest
      match skipBlank rest with
      | '\x7d' :: after => return ([(name, value)], after)
      | ',' :: more =>
          let (others, after) ← members? fuel more
          return ((name, value) :: others, after)
      | _ => none

end

/-- The value of a text that holds nothing else. -/
def parse? (text : String) : Option Json := do
  let cs := text.toList
  let (value, rest) ← value? (2 * cs.length + 2) cs
  if (skipBlank rest).isEmpty then return value else none

end ShortLinks.Json
