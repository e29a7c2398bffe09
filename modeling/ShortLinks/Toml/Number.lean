import ShortLinks.Number.DecimalText
import ShortLinks.Text.Cut

/-!
TOML numbers. Digits may be parted by single underscores; decimal numbers do not start with a
zero, and an integer has 64 bits.
-/

namespace ShortLinks.Toml

/-- The digits of a text in which single underscores may stand between digits. -/
def digits? (isDigit : Char → Bool) (cs : List Char) : Option (List Char) :=
  let parts := Text.cut (· = '_') cs
  if parts.all fun part => !part.isEmpty && part.all isDigit then some parts.flatten else none

/-- The digits of a whole decimal number, which has a zero at its start only if it is zero. -/
def whole? (cs : List Char) : Option (List Char) :=
  if cs.head? = some '0' && cs.length ≠ 1 then none else digits? Char.isDigit cs

/-- Is the number one of 64 bits with a sign? -/
def isInt64 (n : Int) : Bool := -(Int.pow 2 63) ≤ n && n < Int.pow 2 63

/-- The integer that a word writes. -/
def integer? (word : List Char) : Option Int :=
  let ofBase (base : Nat) (cs : List Char) : Option Int :=
    (digits? (Text.isDigitOf base) cs).map fun ds => (Text.ofDigits base ds : Int)
  let n? := match word with
    | '0' :: 'x' :: rest => ofBase 16 rest
    | '0' :: 'o' :: rest => ofBase 8 rest
    | '0' :: 'b' :: rest => ofBase 2 rest
    | _ =>
        let (negative, unsigned) := Binary64.signed word
        (whole? unsigned).map fun ds =>
          let n : Int := Text.ofDigits 10 ds
          if negative then -n else n
  n?.filter isInt64

/-- Is the character the mark of an exponent? -/
def isExponentMark (c : Char) : Bool := c = 'e' || c = 'E'

/-- The fraction at the start of what follows a whole number: with its point, or empty. -/
def fraction? (cs : List Char) : Option (List Char × List Char) :=
  match cs with
  | '.' :: rest =>
      let (written, after) := rest.span fun c => !isExponentMark c
      (digits? Char.isDigit written).map fun ds => ('.' :: ds, after)
  | _ => some ([], cs)

/-- The exponent that ends a number: with its mark, or empty. -/
def exponent? : List Char → Option (List Char)
  | [] => some []
  | mark :: rest =>
      let sign := rest.takeWhile fun c => c = '+' || c = '-'
      if isExponentMark mark && sign.length ≤ 1 then
        (digits? Char.isDigit (rest.drop sign.length)).map fun ds => mark :: sign ++ ds
      else none

/-- The binary number that a word writes: with a fraction or an exponent, and infinite only by
name. -/
def float? (word : List Char) : Option Binary64 := do
  let (negative, unsigned) := Binary64.signed word
  if unsigned = ['i', 'n', 'f'] then return .infinite negative
  if unsigned = ['n', 'a', 'n'] then return .notANumber
  let (written, rest) := unsigned.span fun c => c ≠ '.' && !isExponentMark c
  let whole ← whole? written
  let (fraction, rest) ← fraction? rest
  let exponent ← exponent? rest
  if fraction.isEmpty && exponent.isEmpty then none
  match ← Binary64.ofDigits? negative (whole ++ fraction ++ exponent) with
  | .finite sign magnitude => return .finite sign magnitude
  | _ => none

end ShortLinks.Toml
