import ShortLinks.Settings.Load
import ShortLinks.Text.Letter

/-!
Files of variables: a name, an equals sign and a value on each line. A file adds to an
environment the variables that it does not have yet, line by line, up to the first line that is
not well formed. Values may be quoted, and may take in other variables.
-/

namespace ShortLinks.VariablesFile

/-! ### Lines

A quoted value may go on over the ends of lines, so the lines of a file are joined first, and
comments behind white space are cut off. -/

/-- Where in a line the reading of lines is. -/
inductive Spot where
  | bare
  | afterBlank
  | escape
  | strong
  | strongEscape
  | weak
  | weakEscape
  | comment
deriving DecidableEq

/-- The spot behind a character. -/
def Spot.next (spot : Spot) (c : Char) : Spot :=
  let opening : Spot :=
    if c = '\\' then .escape else if c = '"' then .weak else if c = '\'' then .strong else .bare
  match spot with
  | .bare => if Text.isBlank c && c ≠ '\n' && c ≠ '\r' then .afterBlank else opening
  | .afterBlank => if c = '#' then .comment else opening
  | .escape => .bare
  | .weak => if c = '\\' then .weakEscape else if c = '"' then .bare else .weak
  | .weakEscape => .weak
  | .strong => if c = '\\' then .strongEscape else if c = '\'' then .bare else .strong
  | .strongEscape => .strong
  | .comment => .comment

/-- The part of a line before its comment, and the spot at its end. -/
def beforeComment (spot : Spot) : List Char → List Char × Spot
  | [] => ([], spot)
  | c :: rest =>
      if spot.next c = .comment then ([], .comment)
      else
        let (kept, last) := beforeComment (spot.next c) rest
        (c :: kept, last)

/-- The text with its lines apart, each with its end. -/
def rawLines : List Char → List (List Char)
  | [] => []
  | c :: rest =>
      if c = '\n' then [c] :: rawLines rest
      else match rawLines rest with
        | [] => [[c]]
        | line :: others => (c :: line) :: others

/-- The first character that is no white space. -/
def firstSeen (cs : List Char) : Option Char := (cs.dropWhile Text.isBlank).head?

/-- A line without its end. -/
def withoutEnd (line : List Char) : List Char :=
  let reversed := line.reverse
  match reversed with
  | '\n' :: '\r' :: rest => rest.reverse
  | '\n' :: rest => rest.reverse
  | _ => line

/-- The lines in which every quote is closed, joined of raw ones; `none` stands for an end of the
text within a quote. The first two arguments are what has been joined so far and the spot at its
end. -/
def joined (before : List Char) (spot : Spot) : List (List Char) → List (Option (List Char))
  | [] => if spot = .bare then [] else [none]
  | line :: rest =>
      if firstSeen (before ++ line) = some '#' then some [] :: joined [] .bare rest
      else
        let (kept, last) := beforeComment spot line
        if last = .comment then some (before ++ kept) :: joined [] .bare rest
        else if last = .bare then some (withoutEnd (before ++ line)) :: joined [] .bare rest
        else joined (before ++ line) last rest

/-! ### Values -/

/-- What has been read of a value. -/
structure Reading where
  output : List Char := []
  strong : Bool := false
  weak : Bool := false
  escaped : Bool := false
  /-- A blank has ended the value; only a comment may follow. -/
  ended : Bool := false
  /-- The name of a variable that is being read, and whether it stands in braces. -/
  name : Option (List Char × Bool) := none

/-- The reading with the variable taken in whose name has been read. -/
def Reading.withValue (valueOf : String → String) (r : Reading) : Reading :=
  match r.name with
  | some (name, _) =>
      { r with output := r.output ++ (valueOf (String.ofList name)).toList, name := none }
  | none => r

/-- The reading with one more character of the value. -/
def Reading.push (r : Reading) (c : Char) : Reading := { r with output := r.output ++ [c] }

/-- The reading behind a character of a name or behind the one that ends it. A name without braces
ends at the first character that is no letter or digit, and that character is taken as it is,
whatever it would mean elsewhere. -/
def Reading.inName (valueOf : String → String) (r : Reading) (name : List Char) (braced : Bool)
    (c : Char) : Reading :=
  if Text.isLetterOrDigit c then { r with name := some (name ++ [c], braced) }
  else if braced then
    if c = '\x7d' then r.withValue valueOf else { r with name := some (name ++ [c], true) }
  else if c = '\x7b' && name.isEmpty then { r with name := some ([], true) }
  else
    let taken := r.withValue valueOf
    if c = '$' then { taken with name := some ([], false) } else taken.push c

/-- The reading behind a character outside of names and strong quotes. -/
def Reading.plainly (r : Reading) (c : Char) : Reading :=
  if c = '$' then { r with name := some ([], false) }
  else if c = '\\' then { r with escaped := true }
  else if c = '"' then { r with weak := !r.weak }
  else if r.weak then r.push c
  else if c = '\'' then { r with strong := true }
  else if c = ' ' || c = '\t' then { r with ended := true }
  else r.push c

/-- What a character behind a backslash stands for. -/
def escape? (c : Char) : Option Char :=
  if ['\\', '\'', '"', '$', ' '].contains c then some c
  else if c = 'n' then some '\n'
  else none

/-- The value of a reading that has come to its end. -/
def Reading.finish? (valueOf : String → String) (r : Reading) : Option (List Char) :=
  let inBraces := r.name.any (·.2)
  if inBraces || r.strong || r.weak then none else some (r.withValue valueOf).output

/-- The value of the rest of a line. -/
def Reading.value? (valueOf : String → String) (r : Reading) : List Char → Option (List Char)
  | [] => r.finish? valueOf
  | c :: rest =>
      if r.ended then
        if c = ' ' || c = '\t' then Reading.value? valueOf r rest
        else if c = '#' then r.finish? valueOf
        else none
      else if r.escaped then
        match escape? c with
        | some found => Reading.value? valueOf { r.push found with escaped := false } rest
        | none => none
      else if r.strong then
        if c = '\'' then Reading.value? valueOf { r with strong := false } rest
        else Reading.value? valueOf (r.push c) rest
      else
        match r.name with
        | some (name, braced) => Reading.value? valueOf (r.inName valueOf name braced c) rest
        | none => Reading.value? valueOf (r.plainly c) rest

/-! ### Assignments -/

/-- The characters of the names of variables, behind the first one. -/
def isNameChar (c : Char) : Bool := c.isAlphanum || c = '_' || c = '.'

/-- The name at the start, and what follows it without white space. -/
def name? (cs : List Char) : Option (List Char × List Char) :=
  if cs.head?.any fun c => c.isAlpha || c = '_' then
    let (name, rest) := cs.span isNameChar
    some (name, rest.dropWhile Text.isBlank)
  else none

/-- The name that a line gives a value, and what follows the equals sign. The word `export` may
stand before the name. -/
def target? (cs : List Char) : Option (List Char × List Char) :=
  match name? cs with
  | some (name, '=' :: rest) => some (name, rest)
  | some (name, rest) =>
      if name = "export".toList then
        match name? rest with
        | some (exported, '=' :: rest) => some (exported, rest)
        | _ => none
      else none
  | none => none

/-- The text without white space at its end. -/
def trimEnd (cs : List Char) : List Char := (cs.reverse.dropWhile Text.isBlank).reverse

/-- What a line gives: nothing, if it is empty or a comment, or a name with its value. -/
def assignment? (valueOf : String → String) (line : List Char) :
    Option (Option (String × String)) :=
  let cs := (trimEnd line).dropWhile Text.isBlank
  if cs.isEmpty || cs.head? = some '#' then some none
  else do
    let (name, rest) ← target? cs
    let written := rest.dropWhile Text.isBlank
    let value ← if written.head? = some '#' then some []
      else Reading.value? valueOf {} written
    return some (String.ofList name, String.ofList value)

/-! ### Files -/

/-- An environment, with the values that lines have given whether or not they were taken over. -/
structure Progress where
  environment : Variables
  given : Variables := []

/-- The value of a variable: that of the environment, else the latest one that a line has given. -/
def Progress.valueOf (p : Progress) (name : String) : String :=
  ((p.environment.lookup name).or (p.given.lookup name)).getD ""

/-- The environment after the lines of a file. -/
def addLines (p : Progress) : List (Option (List Char)) → Variables
  | [] => p.environment
  | none :: _ => p.environment
  | some line :: rest =>
      match assignment? p.valueOf line with
      | none => p.environment
      | some none => addLines p rest
      | some (some (name, value)) =>
          let known := (p.environment.lookup name).isSome
          let environment := if known then p.environment else p.environment ++ [(name, value)]
          addLines ⟨environment, (name, value) :: p.given⟩ rest

/-- The name of the file. -/
def fileName : String := ".env"

/-- The directory of a name and all directories above it, from the inside out. The first argument
bounds their number. -/
def upwards : Nat → String → List String
  | 0, _ => []
  | fuel + 1, dir => dir :: if dir.isEmpty then [] else upwards fuel (Disk.parentName dir)

/-- The file in the current directory, or else in the closest directory above it that has one. -/
def find? (disk : Disk) : Option Content :=
  (upwards (disk.here.length + 1) disk.here).findSome? fun dir =>
    match disk.entry? (dir ++ "/" ++ fileName) with
    | some (.file content) => some content
    | _ => none

/-- The characters of a content; of bytes that are no text only the lines before the first one that
is none. -/
def readable : Content → List Char
  | .text s => s.toList
  | .binary bytes =>
      let cs := (Text.Utf8.parts bytes).map Text.Utf8.Part.char?
      let intact := (cs.takeWhile Option.isSome).filterMap id
      (intact.reverse.dropWhile (· ≠ '\n')).reverse

/-- An environment with the variables of the file added to it. -/
def addTo (environment : Variables) (disk : Disk) : Variables :=
  match find? disk with
  | none => environment
  | some content =>
      let cs := readable content
      let cs := if cs.head? = some '\uFEFF' then cs.drop 1 else cs
      addLines ⟨environment, []⟩ (joined [] .bare (rawLines cs))

end ShortLinks.VariablesFile
