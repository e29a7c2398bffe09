import ShortLinks.Text.Cut
import ShortLinks.Url.Domain.Composition
import ShortLinks.Url.Domain.Direction
import ShortLinks.Url.Domain.Joining
import ShortLinks.Url.Domain.Mapping
import ShortLinks.Url.Domain.Punycode

/-!
Domains. What a domain is written with is replaced character by character and composed, and what
comes of it must be well formed: it holds none of the ASCII characters that part an address, a label
in ASCII form stands for one that could have been written as it is, no label begins with a mark,
joiners stand only where they join, and all labels fit into one direction each. The rules and tables
are those of Unicode 17 for domains, for lookup: neither the length of a domain nor the place of
hyphens in it is restricted.
-/

namespace ShortLinks.Url.Domain

/-- ASCII characters that no domain may hold. -/
def isForbidden (c : Char) : Bool :=
  c.toNat ≤ 0x20 || c = '\x7f' || "%#/:<>?@[\\]^|".toList.contains c

/-- A text after all replacements. -/
def rewritten? (text : List Char) : Option (List Char) := do
  let characters ← text.mapM mapped?
  return composed characters.flatten

/-! ### Labels -/

/-- The mark of labels in ASCII form. -/
def asciiMark : List Char := ['x', 'n', '-', '-']

/-- The characters of the longest ASCII form that is read, without its mark. -/
def longestForm : Nat := 2000

/-- The characters of the longest label beyond ASCII that is written in ASCII form. -/
def longestLabel : Nat := 1000

/-- Does a text stay within ASCII? -/
def isAscii (text : List Char) : Bool := text.all (·.toNat < 128)

/-- The label that a label in ASCII form, without its mark, stands for. -/
def decoded? (form : List Char) : Option (List Char) := do
  let label ← if form.length ≤ longestForm then Punycode.decode? form else none
  if !isAscii label && !asciiMark.isPrefixOf label && rewritten? label = some label then
    return label
  else none

/-- The label that a label stands for. -/
def meant? (label : List Char) : Option (List Char) :=
  if asciiMark.isPrefixOf label then decoded? (label.drop asciiMark.length) else some label

/-- Is a label well formed by itself? -/
def isLabel (label : List Char) : Bool :=
  !label.head?.any isMark && joinersFit [] label
    && (isAscii label || label.length ≤ longestLabel)

/-- The domain after all replacements, if it is well formed. -/
def normalise? (domain : List Char) : Option (List Char) := do
  let whole ← rewritten? domain
  let labels ← (Text.cut (· = '.') whole).mapM meant?
  if !whole.any isForbidden && labels.all isLabel && directionsFit labels then return whole
  else none

end ShortLinks.Url.Domain
