import ShortLinks.Toml.Basic
import ShortLinks.Toml.Moment
import ShortLinks.Toml.Number
import ShortLinks.Toml.Text

/-!
Reading TOML documents. A document is a sequence of lines: headers, which choose the table that
the following lines fill, and values under keys. `Toml.document?` gives the entries of the whole
document, or `none` if it breaks the grammar or contradicts itself.
-/

namespace ShortLinks.Toml

/-! ### Between the values -/

/-- The text after blanks, ends of lines and comments; `inComment` says that one is under way. -/
def skipLines? (inComment : Bool) : List Char → Option (List Char)
  | [] => some []
  | c :: rest =>
      if c = '\n' then skipLines? false rest
      else if inComment then if isPlain c then skipLines? true rest else none
      else if isBlank c then skipLines? false rest
      else if c = '#' then skipLines? true rest
      else some (c :: rest)

/-- What follows the end of a line, before which only blanks and a comment may stand. -/
def endLine? (cs : List Char) : Option (List Char) :=
  match cs.dropWhile isBlank with
  | [] => some []
  | '\n' :: rest => some rest
  | '#' :: rest =>
      let (comment, after) := rest.span (· ≠ '\n')
      if comment.all isPlain then some (after.drop 1) else none
  | _ => none

/-! ### Keys -/

/-- The characters of names without quotes. -/
def isBare (c : Char) : Bool := c.isAlphanum || c = '_' || c = '-'

/-- A name at the start: bare, or a string of one line. -/
def name? (cs : List Char) : Option (String × List Char) :=
  let found := match cs with
    | '"' :: rest => basic? rest
    | '\'' :: rest => literal? rest
    | _ =>
        let (bare, rest) := cs.span isBare
        if bare.isEmpty then none else some (bare, rest)
  found.map fun r => (String.ofList r.1, r.2)

/-- The names of a key, which dots part, up to the end mark, and what follows the mark. The first
argument bounds the number of names; the length of the text is enough. -/
def key? (endMark : Char) : Nat → List Char → Option (List String × List Char)
  | 0, _ => none
  | fuel + 1, cs => do
      let (name, rest) ← name? (cs.dropWhile isBlank)
      match rest.dropWhile isBlank with
      | '.' :: more =>
          let (others, after) ← key? endMark fuel more
          return (name :: others, after)
      | mark :: after => if mark = endMark then return ([name], after) else none
      | [] => none

/-! ### Values -/

/-- The characters of numbers, moments and the words for truth values. -/
def isWordChar (c : Char) : Bool := isBare c || c = '+' || c = '.' || c = ':'

/-- The word at the start; a blank may stand in it between a date and a time. -/
def word (cs : List Char) : List Char × List Char :=
  let (first, rest) := cs.span isWordChar
  match date? first, rest with
  | some (_, []), ' ' :: d :: more =>
      if d.isDigit then
        let (second, after) := (d :: more).span isWordChar
        (first ++ ' ' :: second, after)
      else (first, rest)
  | _, _ => (first, rest)

/-- The value of a word. -/
def ofWord? (w : List Char) : Option Toml :=
  if w = ['t', 'r', 'u', 'e'] then some (.bool true)
  else if w = ['f', 'a', 'l', 's', 'e'] then some (.bool false)
  else match integer? w with
    | some n => some (.integer n)
    | none => match float? w with
      | some x => some (.float x)
      | none => (moment? w).map fun m => .moment (String.ofList m)

mutual

/-- The value at the start, and what follows it. The first argument bounds the depth of the
recursion; twice the length of the text is enough. -/
def value? : Nat → List Char → Option (Toml × List Char)
  | 0, _ => none
  | fuel + 1, cs =>
      match cs with
      | '[' :: rest => (items? fuel rest).map fun r => (.array r.1, r.2)
      | '\x7b' :: rest => (members? fuel [] rest).map fun r => (.table .inBraces r.1, r.2)
      | '"' :: _ | '\'' :: _ => (string? cs).map fun r => (.text (String.ofList r.1), r.2)
      | _ =>
          let (w, rest) := word cs
          (ofWord? w).map fun v => (v, rest)

/-- The items up to the closing bracket, and what follows it. -/
def items? : Nat → List Char → Option (List Toml × List Char)
  | 0, _ => none
  | fuel + 1, cs => do
      match ← skipLines? false cs with
      | ']' :: after => return ([], after)
      | start =>
          let (item, rest) ← value? fuel start
          match ← skipLines? false rest with
          | ']' :: after => return ([item], after)
          | ',' :: more =>
              let (others, after) ← items? fuel more
              return (item :: others, after)
          | _ => none

/-- The entries up to the closing brace, with those before them, and what follows the brace. -/
def members? : Nat → Entries → List Char → Option (Entries × List Char)
  | 0, _, _ => none
  | fuel + 1, before, cs => do
      match ← skipLines? false cs with
      | '\x7d' :: after => return (before, after)
      | start =>
          let (key, rest) ← key? '=' fuel start
          let (value, rest) ← value? fuel (rest.dropWhile isBlank)
          let entries ← assign? value key before
          match ← skipLines? false rest with
          | '\x7d' :: after => return (entries, after)
          | ',' :: more => members? fuel entries more
          | _ => none

end

/-! ### Documents -/

/-- What has been read of a document: its entries, and the table that the last header named. -/
structure Progress where
  entries : Entries := []
  current : List String := []

/-- One header or one value at the start of a line that is not empty, and what follows the end of
the line. -/
def line? (p : Progress) (cs : List Char) : Option (Progress × List Char) := do
  let fuel := 2 * cs.length + 2
  match cs with
  | '[' :: '[' :: rest =>
      let (path, rest) ← key? ']' fuel rest
      let ']' :: rest := rest | none
      return (⟨← appendTable? path p.entries, path⟩, ← endLine? rest)
  | '[' :: rest =>
      let (path, rest) ← key? ']' fuel rest
      return (⟨← openTable? path p.entries, path⟩, ← endLine? rest)
  | _ =>
      let (key, rest) ← key? '=' fuel cs
      let (value, rest) ← value? fuel (rest.dropWhile isBlank)
      let entries ← within? (assign? value key) p.current p.entries
      return (⟨entries, p.current⟩, ← endLine? rest)

/-- The lines of a document. The first argument bounds their number; the length of the text is
enough. -/
def lines? : Nat → Progress → List Char → Option Entries
  | 0, _, _ => none
  | fuel + 1, p, cs => do
      match ← skipLines? false cs with
      | [] => return p.entries
      | start =>
          let (next, rest) ← line? p start
          lines? fuel next rest

/-- A text with each pair of a carriage return and a line feed as one end of a line. -/
def unifyEnds : List Char → List Char
  | '\r' :: '\n' :: rest => '\n' :: unifyEnds rest
  | c :: rest => c :: unifyEnds rest
  | [] => []

/-- The entries of a document. -/
def document? (text : List Char) : Option Entries :=
  let cs := unifyEnds text
  lines? (cs.length + 1) {} cs

end ShortLinks.Toml
