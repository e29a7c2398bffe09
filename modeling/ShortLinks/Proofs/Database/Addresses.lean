import Mathlib.Data.List.Infix
import ShortLinks.Keeper.Choice

/-!
Which kind of database an address stands for.

* `ends_append_iff` — an ending cannot reach across a slash, so what stands before the last slash of
  the scheme does not matter.
* `ofUrl_file`, `ServerScheme.ofUrl_append` — the kind of an address with a scheme: a server is
  taken for a file if the rest of its address ends like the name of one.
* `openAsFile_cases`, `openServer_ne_openAsFile` — an address that is opened as that of a file gives
  a database of that kind, or a fault that no server gives, whatever the servers answer.
* `server_kind_iff` — so an address of a server leads to the server exactly if it does not end like
  the name of a file.
-/

namespace ShortLinks

namespace DatabaseKind

variable {start ending text rest : String}

theorem begins_iff : begins start text = true ↔ start.toList <+: text.toList :=
  List.isPrefixOf_iff_prefix

theorem ends_iff : ends ending text = true ↔ ending.toList <:+ text.toList :=
  List.isSuffixOf_iff_suffix

theorem begins_append (start rest : String) : begins start (start ++ rest) = true := by
  rw [begins_iff, String.toList_append]
  exact List.prefix_append _ _

/-- An ending without slashes cannot reach across a slash. -/
theorem ends_append_iff {before : List Char} (slash : start.toList = before ++ ['/'])
    (within : '/' ∉ ending.toList) : ends ending (start ++ rest) = ends ending rest := by
  rw [Bool.eq_iff_iff, ends_iff, ends_iff, String.toList_append]
  constructor
  · intro atEnd
    have both := List.suffix_or_suffix_of_suffix atEnd (List.suffix_append _ _)
    rcases both with inRest | ⟨more, longer⟩
    · exact inRest
    · -- What the ending has more than the rest is an ending of the start.
      rw [← longer, List.suffix_append_inj_of_length_eq rfl, slash, List.suffix_concat_iff] at atEnd
      obtain ⟨rfl | ⟨front, rfl, -⟩, -⟩ := atEnd
      · rw [← longer, List.nil_append]
      · have inside : '/' ∈ ending.toList := by
          rw [← longer]
          simp
        exact absurd inside within
  · intro inRest
    exact inRest.trans (List.suffix_append _ _)

/-- The text ends like the name of a file. -/
def NamesFile (text : String) : Prop := ends ".db" text = true ∨ ends ".sqlite" text = true

instance : DecidablePred NamesFile := fun _ => instDecidableOr

theorem name_injective {kind other : DatabaseKind} (same : kind.name = other.name) :
    kind = other := by
  cases kind <;> cases other <;> first | rfl | exact absurd same (by decide)

/-- The address of a file is the address of a file, whatever follows. -/
theorem ofUrl_file (rest : String) : ofUrl ("sqlite:" ++ rest) = .ok .sqlite := by
  rw [ofUrl, begins_append]
  rfl

end DatabaseKind

/-! ### Schemes of servers -/

/-- The schemes that stand for a server. -/
inductive ServerScheme where
  | mysql
  | mariadb
  | postgres
  | postgresql
deriving DecidableEq

namespace ServerScheme

open DatabaseKind

/-- What an address with the scheme starts with. -/
def start : ServerScheme → String
  | mysql => "mysql://"
  | mariadb => "mariadb://"
  | postgres => "postgres://"
  | postgresql => "postgresql://"

/-- The kind of the server. -/
def kind : ServerScheme → DatabaseKind
  | mysql | mariadb => .mysql
  | postgres | postgresql => .postgres

variable (scheme : ServerScheme) (rest : String)

theorem kind_ne_sqlite : scheme.kind ≠ .sqlite := by
  cases scheme <;> nofun

theorem start_slash : ∃ before, scheme.start.toList = before ++ ['/'] := by
  cases scheme with
  | mysql => exact ⟨"mysql:/".toList, rfl⟩
  | mariadb => exact ⟨"mariadb:/".toList, rfl⟩
  | postgres => exact ⟨"postgres:/".toList, rfl⟩
  | postgresql => exact ⟨"postgresql:/".toList, rfl⟩

theorem begins_file : begins "sqlite:" (scheme.start ++ rest) = false := by
  rw [begins, String.toList_append]
  cases scheme <;> rfl

/-- The name of a file is looked for behind the scheme. -/
theorem namesFile_append : NamesFile (scheme.start ++ rest) ↔ NamesFile rest := by
  obtain ⟨before, slash⟩ := scheme.start_slash
  rw [NamesFile, NamesFile, ends_append_iff slash (by decide), ends_append_iff slash (by decide)]

/-- **The kind of an address of a server**: it is a file if the address ends like the name of
one. -/
theorem ofUrl_append :
    ofUrl (scheme.start ++ rest) = .ok (if NamesFile rest then .sqlite else scheme.kind) := by
  by_cases names : NamesFile rest
  · rw [if_pos names]
    have namesWhole := (scheme.namesFile_append rest).mpr names
    rw [ofUrl, begins_file, Bool.false_or, if_pos (by rwa [Bool.or_eq_true])]
  · rw [if_neg names]
    have noWhole := mt (scheme.namesFile_append rest).mp names
    rw [ofUrl, begins_file, Bool.false_or, if_neg (by rwa [Bool.or_eq_true])]
    simp only [begins, String.toList_append]
    cases scheme <;> rfl

end ServerScheme

/-! ### Opening an address as a file -/

/-- A fault of an address that is read and opened as that of a file. -/
def IsFileFault (fault : Fault) : Prop :=
  ∃ reason, fault = FileDatabaseOptions.malformed reason ∨ fault = Backend.cannotOpen reason

namespace FileDatabaseOptions

theorem isFileFault_malformed (reason : String) : IsFileFault (malformed reason) :=
  ⟨reason, .inl rfl⟩

theorem withOption_fault {options : FileDatabaseOptions} {option : String × String} {fault : Fault}
    (refused : options.withOption option = .error fault) : IsFileFault fault := by
  unfold withOption at refused
  grind [isFileFault_malformed]

theorem foldlM_withOption_fault {options : FileDatabaseOptions} {pairs : List (String × String)}
    {fault : Fault} (refused : pairs.foldlM withOption options = .error fault) :
    IsFileFault fault := by
  induction pairs generalizing options with
  | nil => cases refused
  | cons pair pairs ih =>
      rw [List.foldlM_cons] at refused
      cases read : options.withOption pair with
      | error first =>
          rw [read] at refused
          cases refused
          exact withOption_fault read
      | ok next =>
          rw [read] at refused
          exact ih refused

theorem ofUrl_fault {url : String} {fault : Fault} (refused : ofUrl url = .error fault) :
    IsFileFault fault := by
  unfold ofUrl at refused
  dsimp only at refused
  generalize formPairs _ = pairs at refused
  split at refused
  · exact foldlM_withOption_fault refused
  split at refused
  · exact foldlM_withOption_fault refused
  · cases refused
    exact isFileFault_malformed _

end FileDatabaseOptions

namespace Backend

variable (around : Surroundings)

/-- A file is opened as a database, or refused with a reason. -/
theorem openFile_cases (reads : ReadOrder) (options : FileDatabaseOptions) (disk : Disk) :
    (∃ reason, openFile reads options disk = .error (cannotOpen reason)) ∨
      ∃ keeper home after, keeper.backend = DatabaseKind.sqlite.name ∧
        openFile reads options disk = .ok (.database keeper home, after) := by
  unfold openFile
  dsimp only
  split
  · exact .inl ⟨_, rfl⟩
  split
  · exact .inl ⟨_, rfl⟩
  split
  · exact .inr ⟨_, _, _, rfl, rfl⟩
  split
  · exact .inl ⟨_, rfl⟩
  split
  · split
    · exact .inl ⟨_, rfl⟩
    · exact .inr ⟨_, _, _, rfl, rfl⟩
  · exact .inl ⟨_, rfl⟩
  · exact .inr ⟨_, _, _, rfl, rfl⟩
  · split
    · exact .inl ⟨_, rfl⟩
    · exact .inr ⟨_, _, _, rfl, rfl⟩

theorem openAsFile_cases (url : String) (disk : Disk) :
    (∃ fault, IsFileFault fault ∧ openAsFile around url disk = .error fault) ∨
      ∃ keeper home after, keeper.backend = DatabaseKind.sqlite.name ∧
        openAsFile around url disk = .ok (.database keeper home, after) := by
  unfold openAsFile
  cases read : FileDatabaseOptions.ofUrl url with
  | error fault => exact .inl ⟨fault, FileDatabaseOptions.ofUrl_fault read, rfl⟩
  | ok options =>
      rcases openFile_cases around.reads options disk with ⟨reason, refused⟩ | opened
      · exact .inl ⟨cannotOpen reason, ⟨reason, .inr rfl⟩, refused⟩
      · exact .inr opened

/-! ### Asking a server -/

/-- A fault of a missing connection names the kind of database: the name ends at the first blank. -/
theorem cannotConnect_name {name other reason more : String} (whole : ' ' ∉ name.toList)
    (whole' : ' ' ∉ other.toList) (same : cannotConnect name reason = cannotConnect other more) :
    name = other := by
  have named {name : String} (whole : ' ' ∉ name.toList) (reason : String) :
      ((cannotConnect name reason).message.toList.drop 6).takeWhile (· ≠ ' ') = name.toList := by
    have text : (cannotConnect name reason).message
        = "无法连接到 " ++ name ++ " 数据库: " ++ reason := rfl
    have start : "无法连接到 ".toList.length = 6 := rfl
    simp only [text, String.toList_append, List.append_assoc]
    rw [← start, List.drop_left, List.takeWhile_append_of_pos]
    · simp
    · intro c mem
      simpa using ne_of_mem_of_not_mem mem whole
  rw [← String.toList_inj, ← named whole reason, ← named whole' more, same]

variable {kind : DatabaseKind}

theorem not_isFileFault_cannotConnect (server : kind ≠ .sqlite) (reason : String) :
    ¬ IsFileFault (cannotConnect kind.name.toUpper reason) := by
  rintro ⟨more, same | same⟩
  · cases congrArg Fault.kind same
  · have named : kind.name.toUpper = "SQLite" := by
      refine cannotConnect_name ?_ (by decide) same
      cases kind <;> decide +kernel
    cases kind with
    | sqlite => exact server rfl
    | mysql => exact absurd named (by decide +kernel)
    | postgres => exact absurd named (by decide +kernel)

theorem not_isFileFault_cannotPrepare (reason : String) : ¬ IsFileFault (cannotPrepare reason) := by
  rintro ⟨more, same | same⟩ <;> cases congrArg Fault.kind same

/-- Whatever a server answers, it is not what comes of opening the address as that of a file. -/
theorem openServer_ne_openAsFile (server : kind ≠ .sqlite) (url : String) (disk : Disk) :
    openServer around kind url disk ≠ openAsFile around url disk := by
  intro same
  unfold openServer at same
  rcases openAsFile_cases around url disk with
    ⟨fault, isFile, refused⟩ | ⟨keeper, home, after, name, opened⟩
  · rw [refused] at same
    split at same
    · cases same
      exact not_isFileFault_cannotConnect server _ isFile
    · cases same
      exact not_isFileFault_cannotPrepare _ isFile
    · cases same
  · rw [opened] at same
    split at same
    · cases same
    · cases same
    · cases same
      exact server (DatabaseKind.name_injective name)

theorem openDatabase_eq {url : String} (given : url.isEmpty = false) (disk : Disk) :
    openDatabase around url disk = (DatabaseKind.ofUrl url).bind fun kind =>
      if kind = .sqlite then openAsFile around url disk
      else openServer around kind url disk := by
  rw [openDatabase, if_neg (by simp [given])]
  cases DatabaseKind.ofUrl url with
  | error fault => rfl
  | ok kind => cases kind <;> rfl

/-- What is opened under any address is a database. -/
theorem of_openDatabase {url : String} {disk : Disk} {opened : Backend × Disk}
    (ok : openDatabase around url disk = .ok opened) :
    ∃ keeper home after, opened = (.database keeper home, after) := by
  cases given : url.isEmpty with
  | true =>
      rw [openDatabase, if_pos given] at ok
      cases ok
  | false =>
      rw [openDatabase_eq around given] at ok
      cases found : DatabaseKind.ofUrl url with
      | error fault =>
          rw [found] at ok
          cases ok
      | ok kind =>
          rw [found, Except.bind] at ok
          split at ok
          · rcases openAsFile_cases around url disk with
              ⟨fault, -, refused⟩ | ⟨keeper, home, after, -, file⟩
            · rw [refused] at ok
              cases ok
            · rw [file] at ok
              cases ok
              exact ⟨keeper, home, after, rfl⟩
          · unfold openServer at ok
            split at ok
            · cases ok
            · cases ok
            · cases ok
              exact ⟨_, _, _, rfl⟩

theorem openDatabase_server (scheme : ServerScheme) (rest : String) (disk : Disk) :
    openDatabase around (scheme.start ++ rest) disk =
      if DatabaseKind.NamesFile rest then openAsFile around (scheme.start ++ rest) disk
      else openServer around scheme.kind (scheme.start ++ rest) disk := by
  have given : (scheme.start ++ rest).isEmpty = false := by
    cases scheme <;> simp [ServerScheme.start]
  rw [openDatabase_eq around given, scheme.ofUrl_append]
  by_cases names : DatabaseKind.NamesFile rest
  · rw [if_pos names, if_pos names]
    rfl
  · rw [if_neg names, if_neg names, Except.bind, if_neg scheme.kind_ne_sqlite]

/-- What an address with this scheme leads to, with this rest behind the scheme. -/
structure LeadsByScheme (scheme : ServerScheme) (rest : String) : Prop where
  kind_iff : DatabaseKind.ofUrl (scheme.start ++ rest) = .ok scheme.kind ↔
    ¬ DatabaseKind.NamesFile rest
  /-- Otherwise it is taken for a file. -/
  file_iff : DatabaseKind.ofUrl (scheme.start ++ rest) = .ok .sqlite ↔ DatabaseKind.NamesFile rest
  /-- Whatever the servers answer, the answer of this one is what comes of it, -/
  sought_iff : ∀ around disk, openDatabase around (scheme.start ++ rest) disk
      = openServer around scheme.kind (scheme.start ++ rest) disk ↔
    ¬ DatabaseKind.NamesFile rest
  /-- or else the address is opened as that of a file. -/
  opened_iff : ∀ around disk, openDatabase around (scheme.start ++ rest) disk
      = openAsFile around (scheme.start ++ rest) disk ↔
    DatabaseKind.NamesFile rest

theorem leadsByScheme (scheme : ServerScheme) (rest : String) : LeadsByScheme scheme rest := by
  have kinds : DatabaseKind.sqlite ≠ scheme.kind := scheme.kind_ne_sqlite.symm
  have answers (around : Surroundings) (disk : Disk) :
      openAsFile around (scheme.start ++ rest) disk
        ≠ openServer around scheme.kind (scheme.start ++ rest) disk :=
    (openServer_ne_openAsFile around scheme.kind_ne_sqlite _ disk).symm
  constructor
  case kind_iff =>
    rw [scheme.ofUrl_append, Except.ok.injEq]
    exact kinds.ite_eq_right_iff
  case file_iff =>
    rw [scheme.ofUrl_append, Except.ok.injEq]
    exact kinds.ite_eq_left_iff
  case sought_iff =>
    intro around disk
    rw [openDatabase_server]
    exact (answers around disk).ite_eq_right_iff
  case opened_iff =>
    intro around disk
    rw [openDatabase_server]
    exact (answers around disk).ite_eq_left_iff

/-- **An address of a server leads to the server** exactly if it does not end like the name of a
file; an address of a file always leads to a file. -/
theorem server_kind_iff (rest : String) :
    DatabaseKind.ofUrl ("sqlite:" ++ rest) = .ok .sqlite ∧
      ∀ scheme : ServerScheme, LeadsByScheme scheme rest :=
  ⟨DatabaseKind.ofUrl_file rest, fun scheme => leadsByScheme scheme rest⟩

/-- A disk with the directories that the address below names if it is read as a path. -/
def lookalikeDisk : Disk :=
  (({} : Disk).put "/mysql:" .directory).put "/mysql:/u:p@h" .directory

/-- The address of a database on a server whose name ends like that of a file: though the server has
the database, it is made as a file in those directories. -/
theorem dottedName_misread :
    DatabaseKind.ofUrl "mysql://u:p@h/links.db" = .ok .sqlite ∧
      (openDatabase { ask := fun _ _ => .opened {} } "mysql://u:p@h/links.db"
          lookalikeDisk).toOption.map
          (fun opened => (Keeper.name opened, opened.2.entries.keys))
        = some ("sqlite", ["/mysql:", "/mysql:/u:p@h", "/mysql:/u:p@h/links.db",
            "/mysql:/u:p@h/links.db-shm", "/mysql:/u:p@h/links.db-wal"]) := by
  refine ⟨rfl, ?_⟩
  decide +kernel

end Backend

end ShortLinks
