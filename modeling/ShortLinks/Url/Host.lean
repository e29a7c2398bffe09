import ShortLinks.Url.Percent
import ShortLinks.Text.Digits
import ShortLinks.Text.Utf8
import ShortLinks.Url.Domain
import ShortLinks.Url.Path

/-!
The hosts that an address may name: numeric addresses of both families, domains and, for schemes
without rules of their own, opaque names. Only whether a host is well formed matters here.
-/

namespace ShortLinks.Url

open Text (cut isDigitOf ofDigits)

/-! ### Numeric addresses with dots -/

/-- A part of a dotted address: hexadecimal after `0x`, octal after `0`, else decimal. -/
def dottedPart? (cs : List Char) : Option Nat :=
  let (base, digits) := match cs with
    | '0' :: 'x' :: rest => (16, rest)
    | '0' :: 'X' :: rest => (16, rest)
    | '0' :: d :: rest => (8, d :: rest)
    | _ => (10, cs)
  if cs.isEmpty then none
  else if digits.all (isDigitOf base) then some (ofDigits base digits) else none

/-- The parts of a domain, without the empty one after a final dot. -/
def dottedParts (domain : List Char) : List (List Char) :=
  let parts := cut (· = '.') domain
  if parts.length > 1 && parts.getLast? = some [] then parts.dropLast else parts

/-- Does the domain end in a number, so that all of it must be a dotted address? -/
def endsInNumber (domain : List Char) : Bool :=
  match (dottedParts domain).getLast? with
  | some last => (!last.isEmpty && last.all Char.isDigit) || (dottedPart? last).isSome
  | none => false

/-- A dotted address: at most four parts, each but the last below 256, and the last one small
enough for the bytes that are left to it. -/
def isDottedAddress (domain : List Char) : Bool :=
  let parts := dottedParts domain
  match parts.mapM dottedPart? with
  | some numbers =>
      parts.length ≤ 4 && numbers.dropLast.all (· < 256)
        && numbers.getLast?.any (· < Nat.pow 256 (5 - numbers.length))
  | none => false

/-! ### Numeric addresses with colons -/

/-- A decimal byte without a leading zero. -/
def isDecimalByte (cs : List Char) : Bool :=
  !cs.isEmpty && cs.all Char.isDigit && ofDigits 10 cs < 256
    && (cs.length = 1 || cs.head? ≠ some '0')

/-- Four decimal bytes with dots between them. -/
def isDottedQuad (cs : List Char) : Bool :=
  let parts := cut (· = '.') cs
  parts.length = 4 && parts.all isDecimalByte

/-- A group of one to four hexadecimal digits. -/
def isHexGroup (cs : List Char) : Bool :=
  !cs.isEmpty && cs.length ≤ 4 && cs.all (isDigitOf 16)

/-- The number of 16-bit words that a run of groups stands for; the last group may be a dotted
quad if `quad` is set. -/
def wordCount? (quad : Bool) : List (List Char) → Option Nat
  | [] => some 0
  | [last] => if isHexGroup last then some 1 else if quad && isDottedQuad last then some 2 else none
  | group :: rest => if isHexGroup group then (wordCount? quad rest).map (· + 1) else none

/-- The text before and after the first double colon. -/
def splitAtGap? : List Char → Option (List Char × List Char)
  | ':' :: ':' :: rest => some ([], rest)
  | c :: rest => (splitAtGap? rest).map fun p => (c :: p.1, p.2)
  | [] => none

/-- The groups of one side of a gap; an empty side has none. -/
def groups (cs : List Char) : List (List Char) := if cs.isEmpty then [] else cut (· = ':') cs

/-- An address of eight words; one double colon stands for the words that are missing. -/
def isColonAddress (cs : List Char) : Bool :=
  match splitAtGap? cs with
  | none => wordCount? true (groups cs) = some 8
  | some (before, after) =>
      match wordCount? false (groups before), wordCount? true (groups after) with
      | some m, some n => m + n ≤ 7
      | _, _ => false

/-- An address in brackets, the opening one taken off. -/
def isBracketed (inside : List Char) : Bool :=
  inside.getLast? = some ']' && isColonAddress inside.dropLast

/-! ### Names -/

/-- A host of a scheme without rules of its own. -/
def isOpaqueHost (host : List Char) : Bool :=
  match host with
  | '[' :: inside => isBracketed inside
  | _ => !host.isEmpty
      && host.all fun c => !("\x00\t\n\r #/:<>?@[\\]^|".toList.contains c)

/-- The domain that a host names, in its ASCII-mapped form, if it is well formed. -/
def domainOf? (host : List Char) : Option (List Char) := do
  let domain ← Domain.normalise? (← Text.Utf8.text? (percentDecode host))
  if domain.isEmpty then none else return domain

/-- A host of a scheme whose hosts are numeric addresses or domains. -/
def isHost (host : List Char) : Bool :=
  match host with
  | '[' :: inside => isBracketed inside
  | _ => match domainOf? host with
    | some domain => !endsInNumber domain || isDottedAddress domain
    | none => false

/-- Does the host name this machine? -/
def isLocalhost (host : List Char) : Bool := domainOf? host = some "localhost".toList

end ShortLinks.Url
