import ShortLinks.Text.Digits

/-!
The four kinds of TOML strings: with escapes between double quotes, as they stand between single
quotes, and each of them over several lines between triple quotes. Every reader starts behind the
opening quotes and gives the characters of the string and what follows its closing quotes.
-/

namespace ShortLinks.Toml

/-- The characters that may stand in a comment or in a string of one line. -/
def isPlain (c : Char) : Bool := c = '\t' || (0x20 ≤ c.toNat && c.toNat ≠ 0x7F)

/-- The blanks within a line. -/
def isBlank (c : Char) : Bool := c = ' ' || c = '\t'

/-- The character that a one-letter escape stands for. -/
def letterEscape? : Char → Option Char
  | '"' => some '"'
  | '\\' => some '\\'
  | 'b' => some '\x08'
  | 'e' => some '\x1b'
  | 'f' => some '\x0c'
  | 'n' => some '\n'
  | 'r' => some '\r'
  | 't' => some '\t'
  | _ => none

/-- The character of a code point that is written in hexadecimal digits. -/
def codeEscape? (digits : List Char) : Option Char :=
  (Text.natural? 16 digits).bind fun n => if n.isValidChar then some (Char.ofNat n) else none

/-- A string with escapes on one line. -/
def basic? : List Char → Option (List Char × List Char)
  | [] => none
  | '"' :: rest => some ([], rest)
  | '\\' :: 'x' :: a :: b :: rest => do
      let c ← codeEscape? [a, b]
      (basic? rest).map fun r => (c :: r.1, r.2)
  | '\\' :: 'u' :: a :: b :: c :: d :: rest => do
      let found ← codeEscape? [a, b, c, d]
      (basic? rest).map fun r => (found :: r.1, r.2)
  | '\\' :: 'U' :: a :: b :: c :: d :: e :: f :: g :: h :: rest => do
      let found ← codeEscape? [a, b, c, d, e, f, g, h]
      (basic? rest).map fun r => (found :: r.1, r.2)
  | '\\' :: letter :: rest => do
      let c ← letterEscape? letter
      (basic? rest).map fun r => (c :: r.1, r.2)
  | c :: rest =>
      if isPlain c && c ≠ '\\' then (basic? rest).map fun r => (c :: r.1, r.2) else none

/-- Do only blanks stand before the end of the line? -/
def endsLine (cs : List Char) : Bool := (cs.dropWhile isBlank).head? = some '\n'

/-- A string with escapes over several lines. A backslash at the end of a line takes the end of
the line and all blanks and empty lines behind it out of the string; `skipping` says that this is
under way. -/
def basicLines? (skipping : Bool) : List Char → Option (List Char × List Char)
  | [] => none
  | '"' :: '"' :: '"' :: '"' :: '"' :: rest => some (['"', '"'], rest)
  | '"' :: '"' :: '"' :: '"' :: rest => some (['"'], rest)
  | '"' :: '"' :: '"' :: rest => some ([], rest)
  | '\\' :: 'x' :: a :: b :: rest => do
      let c ← codeEscape? [a, b]
      (basicLines? false rest).map fun r => (c :: r.1, r.2)
  | '\\' :: 'u' :: a :: b :: c :: d :: rest => do
      let found ← codeEscape? [a, b, c, d]
      (basicLines? false rest).map fun r => (found :: r.1, r.2)
  | '\\' :: 'U' :: a :: b :: c :: d :: e :: f :: g :: h :: rest => do
      let found ← codeEscape? [a, b, c, d, e, f, g, h]
      (basicLines? false rest).map fun r => (found :: r.1, r.2)
  | '\\' :: letter :: rest =>
      if endsLine (letter :: rest) then basicLines? true (letter :: rest)
      else do
        let c ← letterEscape? letter
        (basicLines? false rest).map fun r => (c :: r.1, r.2)
  | c :: rest =>
      if skipping && (isBlank c || c = '\n') then basicLines? true rest
      else if (isPlain c || c = '\n') && c ≠ '\\' then
        (basicLines? false rest).map fun r => (c :: r.1, r.2)
      else none

/-- A string without escapes on one line. -/
def literal? : List Char → Option (List Char × List Char)
  | [] => none
  | '\'' :: rest => some ([], rest)
  | c :: rest => if isPlain c then (literal? rest).map fun r => (c :: r.1, r.2) else none

/-- A string without escapes over several lines. -/
def literalLines? : List Char → Option (List Char × List Char)
  | [] => none
  | '\'' :: '\'' :: '\'' :: '\'' :: '\'' :: rest => some (['\'', '\''], rest)
  | '\'' :: '\'' :: '\'' :: '\'' :: rest => some (['\''], rest)
  | '\'' :: '\'' :: '\'' :: rest => some ([], rest)
  | c :: rest =>
      if isPlain c || c = '\n' then (literalLines? rest).map fun r => (c :: r.1, r.2) else none

/-- The text behind triple quotes without the end of a line that stands there. -/
def withoutFirstEnd : List Char → List Char
  | '\n' :: rest => rest
  | cs => cs

/-- A string of any kind, from its opening quotes on. -/
def string? : List Char → Option (List Char × List Char)
  | '"' :: '"' :: '"' :: rest => basicLines? false (withoutFirstEnd rest)
  | '\'' :: '\'' :: '\'' :: rest => literalLines? (withoutFirstEnd rest)
  | '"' :: rest => basic? rest
  | '\'' :: rest => literal? rest
  | _ => none

end ShortLinks.Toml
