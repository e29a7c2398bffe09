/-!
Binary floating-point numbers of 64 bits. A finite number is a sign and a magnitude; `nearest`
takes a magnitude to the closest one that a number can have, where 53 binary digits fit and the
last of them stands for 2^-1074 at the least.
-/

namespace ShortLinks

/-- A binary floating-point number of 64 bits. -/
inductive Binary64 where
  | finite (negative : Bool) (magnitude : Rat)
  | infinite (negative : Bool)
  | notANumber
deriving DecidableEq, Inhabited

namespace Binary64

/-- The exponent of the greatest power of two that is not above a positive number. -/
def binaryExponent (x : Rat) : Int :=
  let guess : Int := (x.num.natAbs.log2 : Int) - (x.den.log2 : Int)
  if (2 : Rat) ^ guess ≤ x then guess else guess - 1

/-- The distance between neighbouring magnitudes at a positive number. -/
def spacing (x : Rat) : Rat := (2 : Rat) ^ max (binaryExponent x - 52) (-1074)

/-- The closest whole number; a half goes to the even neighbour. -/
def closestEven (x : Rat) : Int :=
  let low := x.floor
  let rest := x - low
  if rest < 1 / 2 ∨ (rest = 1 / 2 ∧ low % 2 = 0) then low else low + 1

/-- The closest magnitude, of two equally close ones that with an even last binary digit. -/
def nearest (x : Rat) : Rat :=
  if x = 0 then 0 else (closestEven (x / spacing x) : Rat) * spacing x

/-- The number of decimal digits of a natural number. -/
def digitCount (n : Nat) : Nat := (Nat.toDigits 10 n).length

/-- The number closest to `digits * 10 ^ exponent`. Far outside the range of finite numbers the
power is not formed. -/
def ofDecimal (negative : Bool) (digits : Nat) (exponent : Int) : Binary64 :=
  let size := (digitCount digits : Int) + exponent
  if digits = 0 ∨ size < -330 then .finite negative 0
  else if 310 < size then .infinite negative
  else
    let x := nearest ((digits : Rat) * (10 : Rat) ^ exponent)
    if x < (2 : Rat) ^ (1024 : Int) then .finite negative x else .infinite negative

/-- Is the number other than zero? -/
def isNonzero : Binary64 → Bool
  | .finite _ magnitude => magnitude ≠ 0
  | _ => true

/-- The closest natural number below `bound`; a half goes up. -/
def toNatural (bound : Nat) : Binary64 → Nat
  | .finite false magnitude => min (bound - 1) (magnitude + 1 / 2).floor.toNat
  | .infinite false => bound - 1
  | _ => 0

end Binary64

end ShortLinks
