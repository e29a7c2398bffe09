import ShortLinks.Url.Host
import ShortLinks.Url.Path

/-!
Absolute addresses: scheme, authority, path, query and fragment, read as web browsers read them.
`hostedPath?` gives the written path of an address that names a host.
-/

namespace ShortLinks.Url

open Text (cut ofDigits)

/-- The three families of schemes, which differ in what may stand for a slash and a host. -/
inductive Family where
  /-- Schemes of network protocols: always a host, and a backslash is a slash. -/
  | network
  /-- Files: the host may be missing. -/
  | file
  /-- Every other scheme. -/
  | other
deriving DecidableEq

/-- The family of a scheme in lower case. -/
def familyOf (scheme : List Char) : Family :=
  if ["http", "https", "ws", "wss", "ftp"].any fun name => scheme = name.toList then .network
  else if scheme = "file".toList then .file
  else .other

/-- Is the character a separator of segments? -/
def Family.isSlash (family : Family) (c : Char) : Bool :=
  c = '/' || (c = '\\' && family ≠ .other)

/-- The text that is read: without controls and blanks at its ends, nor tabs and line ends. -/
def cleaned (text : List Char) : List Char :=
  let isEdge (c : Char) : Bool := c ≤ ' '
  (Text.trimBoth isEdge text).filter fun c => c ≠ '\t' && c ≠ '\n' && c ≠ '\r'

/-- The characters of a scheme. -/
def isSchemeChar (c : Char) : Bool := c.isAlphanum || c = '+' || c = '-' || c = '.'

/-- The scheme in lower case and what follows its colon. -/
def scheme? (cs : List Char) : Option (List Char × List Char) :=
  match cs.span isSchemeChar with
  | (first :: more, ':' :: rest) =>
      if first.isAlpha then some ((first :: more).map Char.toLower, rest) else none
  | _ => none

/-- What follows the user information: the text after the last `@` of the authority. -/
def afterUserInfo (family : Family) (cs : List Char) : List Char :=
  let inAuthority (c : Char) : Bool := !(family.isSlash c || c = '?' || c = '#')
  let (authority, rest) := cs.span inAuthority
  (authority.reverse.takeWhile (· ≠ '@')).reverse ++ rest

/-- The host at the start, up to a colon outside brackets or the end of the authority. -/
def splitHost (family : Family) : Bool → List Char → List Char × List Char
  | _, [] => ([], [])
  | bracketed, c :: rest =>
      if (c = ':' && !bracketed) || family.isSlash c || c = '?' || c = '#' then ([], c :: rest)
      else
        let inside := if c = '[' then true else if c = ']' then false else bracketed
        let (host, after) := splitHost family inside rest
        (c :: host, after)

/-- What follows the port, if there is one: digits for a number below 65536. -/
def afterPort? : List Char → Option (List Char)
  | ':' :: cs =>
      let (digits, rest) := cs.span Char.isDigit
      let isEnd (c : Char) : Bool := c = '/' || c = '\\' || c = '?' || c = '#'
      if ofDigits 10 digits < 65536 && rest.head?.all isEnd then some rest else none
  | cs => some cs

/-- The segments of the path at the start, without its first separator. -/
def segments (family : Family) (cs : List Char) : List (List Char) :=
  let path := cs.takeWhile fun c => c ≠ '?' && c ≠ '#'
  match path with
  | c :: rest => cut family.isSlash (if family.isSlash c then rest else path)
  | [] => [[]]

/-- The path of what follows a host. Outside the special families a path may be empty. -/
def pathAfterHost (family : Family) (cs : List Char) : List Char :=
  if family = .other && cs.head?.all (fun c => c = '?' || c = '#') then []
  else resolve (segments family cs)

/-- The path of an address whose authority starts here; `none` if it is malformed or has no
host. -/
def authorityPath? (family : Family) (cs : List Char) : Option (List Char) := do
  let (host, rest) := splitHost family false (afterUserInfo family cs)
  let rest ← afterPort? rest
  let known := match family with
    | .other => isOpaqueHost host
    | _ => isHost host
  if known then return pathAfterHost family rest else none

/-- The path of a file address with a host other than this machine. -/
def filePath? (cs : List Char) : Option (List Char) := do
  let (host, rest) := cs.span fun c => !(Family.file.isSlash c || c = '?' || c = '#')
  let encoded := (segments .file rest).map (percentEncode isPathEscaped)
  if isDrive host || !isHost host || isLocalhost host || entersDrive [] encoded then none
  else return '/' :: (resolve (segments .file rest)).dropWhile (· = '/')

/-- The written path of an absolute address that names a host. -/
def hostedPath? (text : List Char) : Option (List Char) := do
  let (scheme, rest) ← scheme? (cleaned text)
  match familyOf scheme with
  | .network => authorityPath? .network (rest.dropWhile Family.network.isSlash)
  | .file =>
      match rest with
      | a :: b :: inner =>
          if Family.file.isSlash a && Family.file.isSlash b then filePath? inner else none
      | _ => none
  | .other =>
      match rest with
      | '/' :: '/' :: inner => authorityPath? .other inner
      | _ => none

end ShortLinks.Url
