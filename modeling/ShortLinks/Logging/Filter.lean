import ShortLinks.Text.Cut
import ShortLinks.Text.Digits
import ShortLinks.Text.Letter

/-!
Filters of log lines. A filter is a list of directives that commas part; a directive names a part
of the program, a span with fields in brackets, or both, and behind an equals sign the level from
which on its lines are written. A level may also stand alone.
-/

namespace ShortLinks

/-- The levels of log lines, from none to all. -/
inductive LogLevel where
  | off
  | error
  | warn
  | info
  | debug
  | trace
deriving DecidableEq, Inhabited

namespace LogLevel

/-- The name of a level. -/
def name : LogLevel → String
  | .off => "off"
  | .error => "error"
  | .warn => "warn"
  | .info => "info"
  | .debug => "debug"
  | .trace => "trace"

/-- All levels, in the order of the numbers that also name them. -/
def all : List LogLevel := [.off, .error, .warn, .info, .debug, .trace]

/-- The level of a number. -/
def ofNumber? (cs : List Char) : Option LogLevel :=
  let digits := match cs with
    | '+' :: rest => rest
    | _ => cs
  (Text.natural? 10 digits).bind fun n => all[n]?

/-- The level of a number or of a name, in any case of its letters; no name means errors. -/
def ofText? (cs : List Char) : Option LogLevel :=
  if cs.isEmpty then some .error
  else (ofNumber? cs).or (all.find? fun level => level.name.toList = cs.map Char.toLower)

end LogLevel

/-- Why a filter is refused. -/
inductive FilterFailure where
  /-- A level that there is not. -/
  | level
  /-- A directive that is not well formed. -/
  | directive
deriving DecidableEq, Inhabited

/-- The message of a failure. -/
def FilterFailure.text : FilterFailure → String
  | .level =>
      "error parsing level filter: expected one of "
        ++ ", ".intercalate (LogLevel.all.map fun level => "\"" ++ level.name ++ "\"")
        ++ ", or a number 0-5"
  | .directive => "invalid filter directive"

namespace LogFilter

/-- How far a directive has been read. -/
inductive Phase where
  | start
  /-- Within a name, which may be that of a level. -/
  | name
  | span
  /-- Within a field of a span; `isEmpty` until it has a character. -/
  | field (isEmpty : Bool)
  | afterFields
  | afterSpan

/-- Can a directive begin with a name that begins with this character? -/
def startsName (c : Char) : Bool := c = '-' || c = ':' || c = '_' || Text.isLetterOrDigit c

/-- Where the level of a directive begins, counted from `index`; `none` if it has no equals
sign. -/
def levelStart? (phase : Phase) (index : Nat) :
    List Char → Except FilterFailure (Option Nat)
  | [] =>
      match phase with
      | .name | .afterSpan => .ok none
      | _ => .error .directive
  | c :: rest =>
      match phase with
      | .start =>
          if c = '[' then levelStart? .span (index + 1) rest
          else if startsName c then levelStart? .name (index + 1) rest
          else .error .directive
      | .name =>
          if c = '=' then .ok (some (index + 1))
          else if c = '[' then levelStart? .span (index + 1) rest
          else levelStart? .name (index + 1) rest
      | .span =>
          if c = ']' then levelStart? .afterSpan (index + 1) rest
          else if c = '\x7b' then levelStart? (.field true) (index + 1) rest
          else levelStart? .span (index + 1) rest
      | .field isEmpty =>
          if c ≠ '\x7d' then levelStart? (.field false) (index + 1) rest
          else if isEmpty then .error .directive
          else levelStart? .afterFields (index + 1) rest
      | .afterFields =>
          if c = ']' then levelStart? .afterSpan (index + 1) rest else .error .directive
      | .afterSpan => if c = '=' then .ok (some (index + 1)) else .error .directive

/-- The level of a directive. White space at its ends is no part of its form, but the place where
its level begins is counted without that at the start and then looked up with it. An empty level
and none at all let every line through. -/
def directiveLevel (written : List Char) : Except FilterFailure LogLevel := do
  let trimmed := Text.trimBoth Text.isBlank written
  match ← levelStart? .start 0 trimmed with
  | none => return (LogLevel.ofText? written).getD .trace
  | some start =>
      match written.drop start with
      | [] => return .trace
      | level =>
          match LogLevel.ofText? level with
          | some found => return found
          | none => throw .level

/-- The levels of the directives of a filter; empty directives are passed over. -/
def levels (text : String) : Except FilterFailure (List LogLevel) :=
  ((Text.cut (· = ',') text.toList).filter (!·.isEmpty)).mapM directiveLevel

end LogFilter

end ShortLinks
