import ShortLinks.Fault.Basic
import ShortLinks.Text.Cut
import ShortLinks.Text.Quoted
import ShortLinks.Text.Utf8
import ShortLinks.Url.Percent

/-!
Addresses of databases. The scheme or the ending of the address names the kind of database; the
address of a file database is a path, percent-encoded, with options behind a question mark.
-/

namespace ShortLinks

/-- The kinds of databases. -/
inductive DatabaseKind where
  | sqlite
  | mysql
  | postgres
deriving DecidableEq

namespace DatabaseKind

/-- The name of a kind. -/
def name : DatabaseKind → String
  | .sqlite => "sqlite"
  | .mysql => "mysql"
  | .postgres => "postgres"

/-- The fault of an address whose kind cannot be told. -/
def unknownAddress (url : String) : Fault :=
  ⟨.databaseConfig, s!"无法从 URL 推断数据库类型: {url}. "
    ++ "支持的 URL 格式: sqlite://, mysql://, mariadb://, postgres://"⟩

/-- Does the text begin with this one? -/
def begins (start text : String) : Bool := start.toList.isPrefixOf text.toList

/-- Does the text end with this one? -/
def ends (ending text : String) : Bool := ending.toList.isSuffixOf text.toList

/-- The kind of database that an address names: a file if it says so or ends like one, else a
server by its scheme. -/
def ofUrl (url : String) : Except Fault DatabaseKind :=
  if begins "sqlite:" url || ends ".db" url || ends ".sqlite" url then .ok .sqlite
  else if begins "mysql://" url || begins "mariadb://" url then .ok .mysql
  else if begins "postgres://" url || begins "postgresql://" url then .ok .postgres
  else .error (unknownAddress url)

end DatabaseKind

/-- Limits of the pool of connections. -/
structure PoolSettings where
  maxConnections : Nat
  timeoutSeconds : Nat
deriving DecidableEq

/-- The limits that are used: at least one connection and one second. -/
def PoolSettings.clamped (maxConnections timeoutSeconds : Nat) : PoolSettings :=
  ⟨max maxConnections 1, max timeoutSeconds 1⟩

/-- What the address of a file database asks for. -/
structure FileDatabaseOptions where
  /-- The path of the file. -/
  path : String
  inMemory : Bool := false
  readOnly : Bool := false
  vfs : Option String := none

namespace FileDatabaseOptions

/-- The fault of an address that cannot be read. -/
def malformed (reason : String) : Fault :=
  ⟨.databaseConfig, s!"SQLite URL 解析失败: error with configuration: {reason}"⟩

/-- The text without all copies of a mark at its start. -/
def trimStart (mark : List Char) (cs : List Char) : List Char :=
  go cs.length cs
where
  /-- The same for a text of at most this length. -/
  go : Nat → List Char → List Char
    | 0, cs => cs
    | fuel + 1, cs =>
        if !mark.isEmpty && mark.isPrefixOf cs then go fuel (cs.drop mark.length) else cs

/-- A name or a value of the options: a plus is a blank, and escapes are resolved. -/
def formText (cs : List Char) : String :=
  let spaced := cs.map fun c => if c = '+' then ' ' else c
  String.ofList (Text.Utf8.lossy (Url.percentDecode spaced))

/-- The names and values of a text of options. -/
def formPairs (cs : List Char) : List (String × String) :=
  ((Text.cut (· = '&') cs).filter (!·.isEmpty)).map fun item =>
    let (name, value) := item.span (· ≠ '=')
    (formText name, formText (value.drop 1))

/-- The options after one more name and value. -/
def withOption (o : FileDatabaseOptions) (option : String × String) :
    Except Fault FileDatabaseOptions :=
  let (name, value) := option
  let unknownValue := malformed s!"unknown value {Text.quoted value} for `{name}`"
  if name = "mode" then
    if value = "ro" then .ok { o with readOnly := true }
    else if value = "rw" ∨ value = "rwc" then .ok o
    else if value = "memory" then .ok { o with inMemory := true }
    else .error unknownValue
  else if name = "cache" then
    if value = "private" ∨ value = "shared" then .ok o else .error unknownValue
  else if name = "immutable" then
    if value ∈ ["true", "1", "false", "0"] then .ok o else .error unknownValue
  else if name = "vfs" then .ok { o with vfs := some value }
  else .error (malformed s!"unknown query parameter `{name}` while parsing connection URL")

/-- The options of an address. -/
def ofUrl (url : String) : Except Fault FileDatabaseOptions := do
  let text := trimStart "sqlite:".toList (trimStart "sqlite://".toList url.toList)
  let (base, options) := text.span (· ≠ '?')
  let start : FileDatabaseOptions ←
    if base = ":memory:".toList then .ok { path := "", inMemory := true }
    else
      let bytes := Url.percentDecode base
      match Text.Utf8.text? bytes with
      | some path => .ok { path := String.ofList path }
      | none => .error (malformed (Text.Utf8.complaint 0 (Text.Utf8.parts bytes)))
  (formPairs (options.drop 1)).foldlM withOption start

end FileDatabaseOptions

end ShortLinks
