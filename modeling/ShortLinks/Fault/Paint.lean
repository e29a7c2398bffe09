import ShortLinks.Fault.Basic

/-!
The two-line report of a fault in terminal colours. A text that itself holds the sequence that
ends a colour would end the colour around it too; `paint` sets its colour again after each.
-/

namespace ShortLinks

/-- The sequence that ends every colour. -/
def colourReset : String := "\x1b[0m"

/-- The text between the sequence for the colour `code` and the one that ends it. -/
def paint (code : String) (text : String) : String :=
  let start := s!"\x1b[{code}m"
  start ++ (colourReset ++ start).intercalate (text.splitOn colourReset) ++ colourReset

namespace Fault

/-- The report in colours: mark bold red, code yellow, heading red, text white. -/
def colouredReport (f : Fault) : String :=
  paint "1;31" "[ERROR]" ++ " " ++ paint "33" f.kind.code ++ " " ++ paint "31" f.kind.title
    ++ "\n  " ++ paint "37" f.message

end Fault

end ShortLinks
