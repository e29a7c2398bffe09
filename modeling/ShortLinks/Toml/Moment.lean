import ShortLinks.Text.Digits

/-!
Dates and times of TOML documents. A moment is read into its normal form: a capital `T` between
date and time, a fraction without zeros at its end and with nine places at most, a capital `Z` or
an offset with a sign.
-/

namespace ShortLinks.Toml

/-- The number of exactly two digits at the start, below a bound, with its digits. -/
def two? (bound : Nat) : List Char → Option (Nat × List Char × List Char)
  | a :: b :: rest => do
      let n ← if a.isDigit && b.isDigit then Text.natural? 10 [a, b] else none
      if n < bound then return (n, [a, b], rest) else none
  | _ => none

/-- The number of days of a month. -/
def daysOf (year month : Nat) : Nat :=
  if month = 2 then
    if year % 4 = 0 ∧ (year % 100 ≠ 0 ∨ year % 400 = 0) then 29 else 28
  else if month = 4 ∨ month = 6 ∨ month = 9 ∨ month = 11 then 30
  else 31

/-- A date at the start, in normal form. -/
def date? : List Char → Option (List Char × List Char)
  | a :: b :: c :: d :: '-' :: rest => do
      let year ← if [a, b, c, d].all Char.isDigit then Text.natural? 10 [a, b, c, d] else none
      let (month, monthDigits, rest) ← two? 13 rest
      let '-' :: rest := rest | none
      let (day, dayDigits, rest) ← two? 32 rest
      if 1 ≤ month ∧ 1 ≤ day ∧ day ≤ daysOf year month then
        return ([a, b, c, d, '-'] ++ monthDigits ++ ['-'] ++ dayDigits, rest)
      else none
  | _ => none

/-- The fraction of a second at the start, in normal form. -/
def secondFraction? : List Char → Option (List Char × List Char)
  | '.' :: rest =>
      let (digits, after) := rest.span Char.isDigit
      let kept := ((digits.take 9).reverse.dropWhile (· = '0')).reverse
      if digits.isEmpty then none
      else some (if kept.isEmpty then [] else '.' :: kept, after)
  | cs => some ([], cs)

/-- A time of day at the start, in normal form. The seconds may be left out. -/
def time? (cs : List Char) : Option (List Char × List Char) := do
  let (_, hour, rest) ← two? 24 cs
  let ':' :: rest := rest | none
  let (_, minute, rest) ← two? 60 rest
  let upTo := hour ++ [':'] ++ minute
  match rest with
  | ':' :: rest =>
      let (_, second, rest) ← two? 61 rest
      let (fraction, rest) ← secondFraction? rest
      return (upTo ++ [':'] ++ second ++ fraction, rest)
  | _ => return (upTo, rest)

/-- The offset that ends a moment, in normal form. -/
def offset? : List Char → Option (List Char)
  | [] => some []
  | ['Z'] | ['z'] => some ['Z']
  | sign :: rest => do
      let (hourNumber, hour, rest) ← two? 24 rest
      let ':' :: rest := rest | none
      let (minuteNumber, minute, rest) ← two? 60 rest
      let shown := if hourNumber = 0 ∧ minuteNumber = 0 then '+' else sign
      if (sign = '+' || sign = '-') && rest.isEmpty then
        return shown :: hour ++ [':'] ++ minute
      else none

/-- The moment that a word writes, in normal form. -/
def moment? (word : List Char) : Option (List Char) :=
  match date? word with
  | some (date, []) => some date
  | some (date, separator :: rest) => do
      let (time, rest) ← time? rest
      let offset ← offset? rest
      if separator = 'T' || separator = 't' || separator = ' ' then
        return date ++ ['T'] ++ time ++ offset
      else none
  | none =>
      match time? word with
      | some (time, []) => some time
      | _ => none

end ShortLinks.Toml
