import ShortLinks.Url.Percent
import ShortLinks.Text.Cut

/-!
The path of an address. It is cut into segments at slashes, each segment is percent-encoded, and
the segments for "here" and "one up" are carried out while walking from left to right. `resolve`
gives the written path that results.
-/

namespace ShortLinks.Url

open Text (cut)

/-- The characters that are escaped in a path: controls, all beyond ASCII, and a few marks. -/
def isPathEscaped (c : Char) : Bool :=
  c.toNat ≤ 0x20 || 0x7E < c.toNat || "\"<>`#?\x7b\x7d".toList.contains c

/-- A segment that stands for "here", also with its dot escaped. -/
def isHere (segment : List Char) : Bool :=
  segment.map Char.toLower ∈ [['.'], ['%', '2', 'e']]

/-- A segment that stands for "one up", also with its dots escaped. -/
def isUp (segment : List Char) : Bool :=
  segment.map Char.toLower ∈
    [['.', '.'], ['.', '%', '2', 'e'], ['%', '2', 'e', '.'], ['%', '2', 'e', '%', '2', 'e']]

/-- A drive letter at the start of a segment, followed by its end or a backslash. No step up
leaves such a segment. -/
def opensDrive : List Char → Bool
  | [letter, mark] => letter.isAlpha && (mark = ':' || mark = '|')
  | letter :: mark :: '\\' :: _ => letter.isAlpha && (mark = ':' || mark = '|')
  | _ => false

/-- A segment that is a drive letter and nothing else. -/
def isDrive (segment : List Char) : Bool := segment.length = 2 && opensDrive segment

/-- The directory one up, where a directory is the list of its segments from the last one. -/
def stepUp : List (List Char) → List (List Char)
  | [] => []
  | segment :: outer => if opensDrive segment then segment :: outer else outer

/-- The walk over the encoded segments, from a directory given by its segments from the last one;
the answer is the directory and the file name where it ends. -/
def walk : List (List Char) → List (List Char) → List (List Char) × List Char
  | dir, [] => (dir, [])
  | dir, [last] =>
      if isUp last then (stepUp dir, [])
      else if isHere last then (dir, [])
      else (dir, last)
  | dir, segment :: rest =>
      if isUp segment then walk (stepUp dir) rest
      else if isHere segment then walk dir rest
      else walk (segment :: dir) rest

/-- A directory and a file name, written with a slash before the first segment and after each
directory. -/
def written (dir : List (List Char)) (file : List Char) : List Char :=
  '/' :: (dir.reverse.flatMap (· ++ ['/']) ++ file)

/-- The written path of segments that follow the first slash. -/
def resolve (segments : List (List Char)) : List Char :=
  let (dir, file) := walk [] (segments.map (percentEncode isPathEscaped))
  written dir file

/-- Does a drive letter take the place right after the first slash at some point of the walk? -/
def entersDrive : List (List Char) → List (List Char) → Bool
  | _, [] => false
  | dir, segment :: rest =>
      if isUp segment then entersDrive (stepUp dir) rest
      else if isHere segment then entersDrive dir rest
      else (dir.isEmpty && isDrive segment) || entersDrive (segment :: dir) rest

end ShortLinks.Url
