import ShortLinks.Disk.Basic
import ShortLinks.Settings.Reading
import ShortLinks.Text.Utf8
import ShortLinks.Toml.Document

/-!
Loading the settings: a settings file, which may be missing, and over it the variables of the
environment whose names begin with `TU__`. In the name of a variable two underscores part the
names on the way to a setting, and case does not matter.
-/

namespace ShortLinks

/-- The variables of an environment in their order, with distinct names. -/
abbrev Variables := List (String × String)

/-- How the names of variables begin that are meant for the settings, in lower case. -/
def variablePrefix : List Char := ['t', 'u', '_', '_']

/-- A name with a dot for every two underscores. -/
def dotted : List Char → List Char
  | '_' :: '_' :: rest => '.' :: dotted rest
  | c :: rest => c :: dotted rest
  | [] => []

/-- The entry of a variable that is meant for the settings. -/
def settingOf? (v : String × String) : Option (String × SettingTree) :=
  let name := Text.lower v.1.toList
  if variablePrefix.isPrefixOf name then
    some (String.ofList (dotted (name.drop variablePrefix.length)),
      .scalar (Scalar.ofVariable v.2) .environment)
  else none

/-- The characters of a content; a byte order mark at its start is no part of it. -/
def Content.chars (content : Content) : List Char :=
  let cs := match content with
    | .text s => s.toList
    | .binary bytes => Text.Utf8.lossy bytes
  if cs.head? = some '\uFEFF' then cs.drop 1 else cs

namespace Settings

/-- The name of the settings file. -/
def defaultPath : String := "config.toml"

/-- The entries of a settings file; without a file there are none. -/
def fileEntries (path : String) (disk : Disk) : Except SettingsFailure SettingTree.Entries :=
  match disk.find path with
  | .ok (.file content) =>
      match Toml.document? content.chars with
      | some entries => .ok (SettingTree.ofTomlEntries (.file path) entries)
      | none => .error (.malformed path)
  | _ => .ok []

/-- The settings of a file and an environment. -/
def load (path : String) (environment : Variables) (disk : Disk) :
    Except SettingsFailure Settings := do
  let ofFile ← fileEntries path disk
  let tree := SettingTree.addSource ofFile (.table [])
  (SettingTree.addSource (environment.filterMap settingOf?) tree).readSettings

end Settings

end ShortLinks
