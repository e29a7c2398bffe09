/-!
The ASCII form of labels: the ASCII characters of a label, a hyphen, and then, for each other
character in the order of code points, a number that says where it belongs. The numbers have
digits of base 36 with the least one first, and a digit below its threshold ends its number.
-/

namespace ShortLinks.Url.Punycode

/-- The value of a digit. -/
def digit? (c : Char) : Option Nat :=
  if 'a' ≤ c ∧ c ≤ 'z' then some (c.toNat - 'a'.toNat)
  else if c.isDigit then some (c.toNat - '0'.toNat + 26)
  else none

/-- The threshold of the digit at a place, counted in steps of 36. -/
def threshold (bias place : Nat) : Nat := min 26 (max 1 (place - bias))

/-- The bias after `halvings` more divisions of a distance. The first argument bounds their
number. -/
def settleBias : Nat → Nat → Nat → Nat
  | 0, bias, _ => bias
  | fuel + 1, bias, distance =>
      if distance > 455 then settleBias fuel (bias + 36) (distance / 35)
      else bias + 36 * distance / (distance + 38)

/-- The bias for the next number, from the distance just read and the number of characters. -/
def nextBias (distance count : Nat) (isFirst : Bool) : Nat :=
  let halved := if isFirst then distance / 700 else distance / 2
  settleBias 32 0 (halved + halved / count)

/-- What has been decoded. -/
structure Progress where
  output : List Char
  /-- The code point and the position at which the last character was put in. -/
  code : Nat := 128
  index : Nat := 0
  bias : Nat := 72
  isFirst : Bool := true
  /-- The number that is being read, the weight of its next digit, and the place of that digit. -/
  distance : Nat := 0
  weight : Nat := 1
  place : Nat := 36

/-- The progress after a number that has been read to its end. -/
def Progress.insert? (p : Progress) : Option Progress :=
  let count := p.output.length + 1
  let total := p.index + p.distance
  let code := p.code + total / count
  if code.isValidChar then
    some {
      output := p.output.insertIdx (total % count) (Char.ofNat code)
      code
      index := total % count + 1
      bias := nextBias p.distance count p.isFirst
      isFirst := false }
  else none

/-- What a number must stay below, and the weights of its digits as well. -/
def bound : Nat := 0x100000000

/-- What the numbers make of a progress. -/
def decodeFrom? (p : Progress) : List Char → Option (List Char)
  | [] => if p.place = 36 then some p.output else none
  | c :: rest => do
      let value ← digit? c
      let limit := threshold p.bias p.place
      let read := { p with distance := p.distance + value * p.weight }
      let next := p.weight * (36 - limit)
      if bound ≤ read.index + read.distance then none
      else if value < limit then decodeFrom? (← read.insert?) rest
      else if bound ≤ next then none
      else decodeFrom? { read with weight := next, place := p.place + 36 } rest

/-- The ASCII characters of an ASCII form, and the numbers behind the last hyphen. A hyphen at the
beginning parts nothing. -/
def formParts (form : List Char) : List Char × List Char :=
  let numbers := (form.reverse.takeWhile (· ≠ '-')).reverse
  let plain := form.take (form.length - numbers.length - 1)
  if plain.isEmpty then ([], form) else (plain, numbers)

/-- The label of an ASCII form in lower case. -/
def decode? (form : List Char) : Option (List Char) :=
  let (plain, numbers) := formParts form
  if plain.all fun c => c.toNat < 128 then decodeFrom? { output := plain } numbers else none

end ShortLinks.Url.Punycode
