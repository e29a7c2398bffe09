/-!
Calendar dates of days, which are counted from the first of January 1970. The count is moved to
the first of March of the year 0, so that a leap day is the last day of its year, and split into
periods of 400 years, which all have the same number of days.
-/

namespace ShortLinks.Logging

/-- A calendar date. -/
structure Date where
  year : Nat
  month : Nat
  day : Nat
deriving DecidableEq, Inhabited

namespace Date

/-- The date of a day. -/
def ofDay (count : Nat) : Date :=
  let days := count + 719468
  let period := days / 146097
  let inPeriod := days % 146097
  let years := (inPeriod - inPeriod / 1460 + inPeriod / 36524 - inPeriod / 146096) / 365
  let inYear := inPeriod - (365 * years + years / 4 - years / 100)
  let fromMarch := (5 * inYear + 2) / 153
  let month := if fromMarch < 10 then fromMarch + 3 else fromMarch - 9
  { year := period * 400 + years + if month ≤ 2 then 1 else 0
    month
    day := inYear - (153 * fromMarch + 2) / 5 + 1 }

/-- A number with zeros before it, up to a number of places. -/
def padded (places n : Nat) : String :=
  let digits := Nat.toDigits 10 n
  String.ofList (List.replicate (places - digits.length) '0' ++ digits)

/-- Year, month and day with hyphens between them. -/
def text (d : Date) : String := s!"{padded 4 d.year}-{padded 2 d.month}-{padded 2 d.day}"

example : (ofDay 0).text = "1970-01-01" := by decide +kernel
example : (ofDay 19782).text = "2024-02-29" := by decide +kernel
example : (ofDay 19783).text = "2024-03-01" := by decide +kernel

end Date

end ShortLinks.Logging
