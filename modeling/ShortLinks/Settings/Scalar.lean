import ShortLinks.Number.DecimalText
import ShortLinks.Text.Digits
import ShortLinks.Text.Lower
import ShortLinks.Text.Quoted

/-!
Single values as settings files and variables give them, and what they stand for where a setting
of a certain kind is wanted. A text stands for a number or a truth value if it writes one, and
the other way round every value has a text.
-/

namespace ShortLinks

/-- A single value of a setting. -/
inductive Scalar where
  | bool (b : Bool)
  /-- An integer of 64 bits. -/
  | integer (n : Int)
  | float (x : Binary64)
  | text (s : String)
deriving DecidableEq, Inhabited

namespace Scalar

/-- The text of a truth value. -/
def boolText (b : Bool) : String := if b then "true" else "false"

/-- The value as a text. -/
def asText : Scalar → String
  | .bool b => boolText b
  | .integer n => toString n
  | .float x => x.text
  | .text s => s

/-- The truth value of a word, in any case. -/
def wordBool? (s : String) : Option Bool :=
  let word := String.ofList (Text.lower s.toList)
  if ["true", "on", "yes"].contains word then some true
  else if ["false", "off", "no"].contains word then some false
  else none

/-- The value as a truth value: numbers other than zero are true. -/
def asBool? : Scalar → Option Bool
  | .bool b => some b
  | .integer n => some (n ≠ 0)
  | .float x => some x.isNonzero
  | .text s => if s = "1" then some true else if s = "0" then some false else wordBool? s

/-- The natural number below `bound` that decimal digits write, with or without a plus sign. -/
def writtenNatural? (bound : Nat) (s : String) : Option Nat :=
  let digits := match s.toList with
    | '+' :: rest => rest
    | cs => cs
  (Text.natural? 10 digits).filter (· < bound)

/-- The value as a natural number of 64 bits: a truth value counts as one or zero, and a number
with a fraction goes to the closest one. -/
def asNatural? : Scalar → Option Nat
  | .bool b => some b.toNat
  | .integer n => if 0 ≤ n then some n.toNat else none
  | .float x => some (x.toNatural (Nat.pow 2 64))
  | .text s => ((wordBool? s).map Bool.toNat).or (writtenNatural? (Nat.pow 2 64) s)

/-- What a message calls the value. -/
def described : Scalar → String
  | .bool b => s!"boolean `{boolText b}`"
  | .integer n => s!"64-bit integer `{n}`"
  | .float x => s!"floating point `{x.text}`"
  | .text s => "string " ++ Text.quoted s

/-! ### Values of variables -/

/-- The integer of 64 bits that a text writes, with or without a sign. -/
def writtenInteger? (cs : List Char) : Option Int :=
  let (negative, digits) := Binary64.signed cs
  ((Text.natural? 10 digits).map fun n => if negative then -(n : Int) else (n : Int)).filter
    fun n => -(Int.pow 2 63) ≤ n && n < Int.pow 2 63

/-- The value that the text of a variable gives: a truth value, an integer, another number, or
else the text itself. -/
def ofVariable (s : String) : Scalar :=
  let word := String.ofList (Text.lower s.toList)
  if word = "true" then .bool true
  else if word = "false" then .bool false
  else match writtenInteger? s.toList with
    | some n => .integer n
    | none => match Binary64.ofText? s.toList with
      | some x => .float x
      | none => .text s

end Scalar

end ShortLinks
