import ShortLinks.Number.Binary64
import ShortLinks.Text.Digits

/-!
Binary floating-point numbers as decimal texts. `Binary64.text` writes the fewest digits that are
read back as the same number, with a point where one is needed and never with an exponent;
`Binary64.ofText?` reads digits with an optional point and exponent.
-/

namespace ShortLinks.Binary64

/-! ### Writing -/

/-- The exponent of the greatest power of ten that is not above a positive number. -/
def decimalExponent (x : Rat) : Int :=
  if 1 ≤ x then (digitCount x.floor.toNat : Int) - 1
  else
    let low : Int := -(digitCount (1 / x).floor.toNat : Int)
    if (10 : Rat) ^ (low + 1) ≤ x then low + 1 else low

/-- The decimal of so many digits that is read back as the magnitude, if one of its two neighbours
is; of both the closer one, of two equally close ones the greater. -/
def shortened? (x : Rat) (count : Nat) : Option (Nat × Int) :=
  let exponent := decimalExponent x + 1 - (count : Int)
  let unit := (10 : Rat) ^ exponent
  let low := (x / unit).floor
  let lowFits := nearest ((low : Rat) * unit) = x
  let highFits := nearest ((low + 1 : Rat) * unit) = x
  let lowCloser := x - (low : Rat) * unit < (low + 1 : Rat) * unit - x
  if highFits ∧ ¬ (lowFits ∧ lowCloser) then some ((low + 1).toNat, exponent)
  else if lowFits then some (low.toNat, exponent)
  else none

/-- The shortest decimal that is read back as a positive magnitude: seventeen digits are always
enough. -/
def shortest (x : Rat) : Nat × Int :=
  ((List.range 17).findSome? fun n => shortened? x (n + 1)).getD (0, 0)

/-- The decimal `digits * 10 ^ exponent` with a point where it has a fraction. -/
def positional (digits : Nat) (exponent : Int) : List Char :=
  let zeros (n : Nat) : List Char := List.replicate n '0'
  let written := Nat.toDigits 10 digits
  if 0 ≤ exponent then written ++ zeros exponent.toNat
  else
    let places := (-exponent).toNat
    let padded := zeros (places + 1 - written.length) ++ written
    let split := padded.length - places
    let fraction := ((padded.drop split).reverse.dropWhile (· = '0')).reverse
    padded.take split ++ if fraction.isEmpty then [] else '.' :: fraction

/-- The text of a number. -/
def text : Binary64 → String
  | .finite negative magnitude =>
      let unsigned :=
        if magnitude = 0 then ['0']
        else
          let decimal := shortest magnitude
          positional decimal.1 decimal.2
      String.ofList (if negative then '-' :: unsigned else unsigned)
  | .infinite negative => if negative then "-inf" else "inf"
  | .notANumber => "NaN"

/-! ### Reading -/

/-- A sign at the start, true for a minus, and what follows it. -/
def signed : List Char → Bool × List Char
  | '-' :: rest => (true, rest)
  | '+' :: rest => (false, rest)
  | cs => (false, cs)

/-- The exponent that a text is, which may be empty for none. -/
def exponent? : List Char → Option Int
  | [] => some 0
  | mark :: cs =>
      if mark = 'e' ∨ mark = 'E' then
        let (negative, digits) := signed cs
        (Text.natural? 10 digits).map fun size => if negative then -(size : Int) else (size : Int)
      else none

/-- An unsigned number written with digits: some before or behind a point, and an exponent. -/
def ofDigits? (negative : Bool) (cs : List Char) : Option Binary64 := do
  let (whole, rest) := cs.span Char.isDigit
  let (fraction, rest) := match rest with
    | '.' :: behind => behind.span Char.isDigit
    | _ => ([], rest)
  if whole.isEmpty && fraction.isEmpty then none
  else
    let exponent ← exponent? rest
    let digits := Text.ofDigits 10 (whole ++ fraction)
    return ofDecimal negative digits (exponent - (fraction.length : Int))

/-- The number that a text writes. The words for numbers beyond the finite ones are read in either
case. -/
def ofText? (cs : List Char) : Option Binary64 :=
  let (negative, unsigned) := signed cs
  let word := String.ofList (unsigned.map Char.toLower)
  if word = "inf" ∨ word = "infinity" then some (.infinite negative)
  else if word = "nan" then some .notANumber
  else ofDigits? negative unsigned

end ShortLinks.Binary64
