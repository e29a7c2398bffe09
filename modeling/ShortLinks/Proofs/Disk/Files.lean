import ShortLinks.Disk.Basic

/-!
What the calls on files do to a disk.

* `SameTree` — two disks with the same directories. Paths lead to the same places on both, and
  writing a file changes no directory.
* `appendText_ok`, `replace_ok` — what adding to a file and replacing it by a draft did, if that
  went well. `eq_replaced` is the disk as a whole.
* `Holds` — the text that a path holds, a missing file holding none. `Holds.eq_of_readText` and
  `Holds.eq_empty_of_readText` say what reading gives, `Holds.appendText` and `holds_of_replace`
  what the two ways of writing leave.
* `Apart` — paths to different places. What a path holds survives writing at the other one.
-/

namespace ShortLinks

namespace Disk

/-! ### Places -/

/-- Two disks with the same directories, which refuse the same calls. -/
structure SameTree (d e : Disk) : Prop where
  here : e.here = d.here
  refuses : e.refuses = d.refuses
  directories : ∀ name, e.entry? name = some .directory ↔ d.entry? name = some .directory

variable {d e f : Disk} {path other dir name : String}

theorem SameTree.refl (d : Disk) : SameTree d d := ⟨rfl, rfl, fun _ => .rfl⟩

theorem SameTree.symm (tree : SameTree d e) : SameTree e d :=
  ⟨tree.here.symm, tree.refuses.symm, fun name => (tree.directories name).symm⟩

theorem SameTree.trans (first : SameTree d e) (second : SameTree e f) : SameTree d f :=
  ⟨second.here.trans first.here, second.refuses.trans first.refuses,
    fun name => (second.directories name).trans (first.directories name)⟩

theorem SameTree.enter_ok (tree : SameTree d e) {inner : String}
    (entered : d.enter dir name = .ok inner) : e.enter dir name = .ok inner := by
  unfold enter at entered ⊢
  split at entered
  · next h => rw [if_pos h]; exact entered
  next notHere =>
  split at entered
  · next h => rw [if_neg notHere, if_pos h]; exact entered
  next notParent =>
  split at entered
  · cases entered
  next fits =>
  rw [if_neg notHere, if_neg notParent, if_neg fits]
  split at entered
  · next found =>
      rw [(tree.directories _).mpr found]
      exact entered
  · cases entered
  · cases entered

theorem SameTree.lastPlace_ok (tree : SameTree d e) {place : Place}
    (found : d.lastPlace dir name = .ok place) : e.lastPlace dir name = .ok place := by
  unfold lastPlace at found ⊢
  split at found
  · next special =>
      rw [if_pos special]
      cases entered : d.enter dir name with
      | error failure =>
          rw [entered] at found
          cases found
      | ok inner =>
          rw [tree.enter_ok entered, ← entered]
          exact found
  · next plain =>
      rw [if_neg plain]
      exact found

theorem SameTree.placeFrom_ok (tree : SameTree d e) {names : List String} {place : Place}
    (found : d.placeFrom dir names = .ok place) : e.placeFrom dir names = .ok place := by
  induction names generalizing dir with
  | nil => exact found
  | cons name rest ih =>
      cases rest with
      | nil => exact tree.lastPlace_ok found
      | cons next rest =>
          rw [placeFrom] at found ⊢
          split at found
          · next blank =>
              rw [if_pos blank]
              cases last : d.lastPlace dir name with
              | error failure =>
                  rw [last] at found
                  cases found
              | ok inner =>
                  rw [tree.lastPlace_ok last, ← last]
                  exact found
          · next more =>
              rw [if_neg more]
              cases entered : d.enter dir name with
              | error failure =>
                  rw [entered] at found
                  cases found
              | ok inner =>
                  rw [entered] at found
                  rw [tree.enter_ok entered]
                  exact ih found
          all_goals simp

/-- A path leads to the same place on disks with the same directories. -/
theorem SameTree.place_ok (tree : SameTree d e) {place : Place} (found : d.place path = .ok place) :
    e.place path = .ok place := by
  unfold Disk.place at found ⊢
  rw [tree.here]
  split at found
  · cases found
  next given =>
  split at found
  · cases found
  next noNul =>
  split at found
  · cases found
  next fits =>
  rw [if_neg given, if_neg noNul, if_neg fits]
  exact tree.placeFrom_ok found

theorem SameTree.place_ok_iff (tree : SameTree d e) {place : Place} :
    e.place path = .ok place ↔ d.place path = .ok place :=
  ⟨tree.symm.place_ok, tree.place_ok⟩

/-! ### Entries -/

@[simp] theorem entry?_root (d : Disk) : d.entry? "" = some .directory := rfl

theorem entry?_eq (d : Disk) (given : name ≠ "") : d.entry? name = d.entries[name]? := by
  simp [ entry?, given]

/-- A name that stands for no directory is not the root. -/
theorem ne_root (plain : d.entry? name ≠ some .directory) : name ≠ "" := by
  rintro rfl
  exact plain rfl

theorem entry?_put (given : name ≠ "") (entry : Entry) (other : String) :
    Disk.entry? (d.put name entry) other = if other = name then some entry else d.entry? other := by
  by_cases root : other = ""
  · subst root
    simp [Ne.symm given]
  · by_cases same : other = name
    · subst same
      simp [entry?_eq _ root, put]
    · simp [entry?_eq _ root, put, same, Std.ExtTreeMap.getElem?_insert, Ne.symm same]

/-- A file in the place of no directory changes no directory. -/
theorem sameTree_put (plain : d.entry? name ≠ some .directory) (content : Content) :
    SameTree d (d.put name (.file content)) where
  here := rfl
  refuses := rfl
  directories other := by
    rw [entry?_put (ne_root plain)]
    by_cases same : other = name
    · subst same
      simp [plain]
    · simp [same]

/-! ### Calls that went well -/

theorem fileName_ok_iff : d.fileName path = .ok name ↔
    d.place path = .ok ⟨name, false⟩ ∧ d.entry? name ≠ some .directory := by
  unfold fileName
  cases found : d.place path with
  | error failure => simp [bind, Except.bind]
  | ok place =>
      obtain ⟨at_, onlyDirectory⟩ := place
      simp only [bind, Except.bind]
      cases entry : d.entry? at_ with
      | none => cases onlyDirectory <;> grind
      | some e => cases e <;> cases onlyDirectory <;> grind

theorem of_unlessRefused {α : Type} {call : DiskCall} {result : Except IoFailure α} {value : α}
    (answered : d.unlessRefused call result = .ok value) :
    d.refuses call = none ∧ result = .ok value := by
  unfold unlessRefused at answered
  cases refused : d.refuses call with
  | some failure =>
      rw [refused] at answered
      cases answered
  | none =>
      rw [refused] at answered
      exact ⟨rfl, answered⟩

theorem of_bind_ok {α β : Type} {first : Except IoFailure α} {next : α → Except IoFailure β}
    {value : β} (answered : first >>= next = .ok value) :
    ∃ found, first = .ok found ∧ next found = .ok value := by
  cases first with
  | error failure => cases answered
  | ok found => exact ⟨found, rfl, answered⟩

variable {text : String}

theorem appendText_ok (answered : d.appendText path text = .ok e) :
    ∃ name, d.fileName path = .ok name ∧
      e = d.put name (.file ((contentOf (d.entry? name)).append text)) := by
  obtain ⟨-, answered⟩ := of_unlessRefused answered
  obtain ⟨name, found, answered⟩ := of_bind_ok answered
  cases answered
  exact ⟨name, found, rfl⟩

theorem writeText_ok (answered : d.writeText path text = .ok e) :
    ∃ name, d.fileName path = .ok name ∧ e = d.put name (.file (.text text)) := by
  obtain ⟨-, answered⟩ := of_unlessRefused answered
  obtain ⟨name, found, answered⟩ := of_bind_ok answered
  cases answered
  exact ⟨name, found, rfl⟩

theorem rename_ok {source target : String} (answered : d.rename source target = .ok e) :
    ∃ (place : Place) (name : String) (moved : Entry), d.place source = .ok place ∧
      d.fileName target = .ok name ∧ d.entry? place.name = some moved ∧
      e = { d with entries := (d.entries.erase place.name).insert name moved } := by
  obtain ⟨-, answered⟩ := of_unlessRefused answered
  obtain ⟨place, placed, answered⟩ := of_bind_ok answered
  obtain ⟨name, named, answered⟩ := of_bind_ok answered
  cases stands : d.entry? place.name with
  | none =>
      rw [stands] at answered
      cases answered
  | some moved =>
      rw [stands] at answered
      cases answered
      exact ⟨place, name, moved, placed, named, stands, rfl⟩

theorem SameTree.fileName_ok_iff (tree : SameTree d e) :
    e.fileName path = .ok name ↔ d.fileName path = .ok name := by
  rw [Disk.fileName_ok_iff, Disk.fileName_ok_iff, tree.place_ok_iff, ne_eq, ne_eq,
    tree.directories name]

/-- The disk after a draft with this text was written at one name and took its place at another
one. -/
def replaced (d : Disk) (source target text : String) : Disk :=
  { d with entries := (d.entries.erase source).insert target (.file (.text text)) }

section Replaced

variable {source target : String}

theorem entry?_replaced (plainSource : d.entry? source ≠ some .directory)
    (plainTarget : d.entry? target ≠ some .directory) (text name : String) :
    Disk.entry? (d.replaced source target text) name
      = if name = target then some (.file (.text text))
        else if name = source then none else d.entry? name := by
  by_cases root : name = ""
  · subst root
    simp [Ne.symm (ne_root plainSource), Ne.symm (ne_root plainTarget)]
  · simp only [entry?_eq _ root, replaced]
    grind

theorem sameTree_replaced (plainSource : d.entry? source ≠ some .directory)
    (plainTarget : d.entry? target ≠ some .directory) (text : String) :
    SameTree d (d.replaced source target text) where
  here := rfl
  refuses := rfl
  directories name := by
    rw [entry?_replaced plainSource plainTarget text]
    by_cases atTarget : name = target
    · subst atTarget
      simp [plainTarget]
    · by_cases atSource : name = source
      · subst atSource
        simp [atTarget, plainSource]
      · simp [atTarget, atSource]

/-- Of two drafts that take one place, the later one counts. -/
theorem replaced_replaced (source target first text : String) :
    (d.replaced source target first).replaced source target text
      = d.replaced source target text := by
  simp only [replaced, mk.injEq, and_self, and_true]
  refine Std.ExtTreeMap.ext_getElem? fun {name} => ?_
  grind

/-- Writing a draft that then takes its place, if both go well. -/
theorem eq_replaced {draft : String} {drafted : Disk}
    (written : d.writeText draft text = .ok drafted) (renamed : drafted.rename draft path = .ok e) :
    ∃ source target, d.fileName draft = .ok source ∧ d.fileName path = .ok target ∧
      e = d.replaced source target text := by
  obtain ⟨source, sourceName, rfl⟩ := writeText_ok written
  obtain ⟨place, target, moved, placed, targetName, stands, rfl⟩ := rename_ok renamed
  have plain := (fileName_ok_iff.mp sourceName).2
  have tree := sameTree_put plain (.text text)
  rw [tree.fileName_ok_iff] at targetName
  rw [tree.place_ok_iff, (fileName_ok_iff.mp sourceName).1] at placed
  cases placed
  obtain rfl : Entry.file (.text text) = moved := by
    simpa [entry?_put (ne_root plain)] using stands
  refine ⟨source, target, sourceName, targetName, ?_⟩
  simp only [replaced, put, mk.injEq, and_self, and_true]
  refine Std.ExtTreeMap.ext_getElem? fun {name} => ?_
  grind

end Replaced

/-- Writing a draft that then takes its place changes these two files and nothing else. -/
theorem replace_ok {draft : String} {drafted : Disk}
    (written : d.writeText draft text = .ok drafted) (renamed : drafted.rename draft path = .ok e) :
    ∃ source target, d.fileName draft = .ok source ∧ d.fileName path = .ok target ∧
      SameTree d e ∧ e.entry? target = some (.file (.text text)) ∧
      ∀ name, name ≠ source → name ≠ target → e.entry? name = d.entry? name := by
  obtain ⟨source, target, sourceName, targetName, rfl⟩ := eq_replaced written renamed
  have plainSource := (fileName_ok_iff.mp sourceName).2
  have plainTarget := (fileName_ok_iff.mp targetName).2
  have entries := entry?_replaced plainSource plainTarget text
  refine ⟨source, target, sourceName, targetName, sameTree_replaced plainSource plainTarget text,
    by simp [entries], ?_⟩
  intro name notSource notTarget
  simp [entries, notSource, notTarget]

/-! ### What a path holds -/

/-- A path holds a text; where there is no file it holds none. -/
inductive Holds (d : Disk) (path : String) : String → Prop where
  | missing (absent : ∀ place, d.place path = .ok place → d.entry? place.name = none) :
      Holds d path ""
  | present {place : Place} {text : String} (placed : d.place path = .ok place)
      (stands : d.entry? place.name = some (.file (.text text))) : Holds d path text

/-- Two paths that do not lead to one place. -/
def Apart (d : Disk) (path other : String) : Prop :=
  ∀ place beside, d.place path = .ok place → d.place other = .ok beside → place.name ≠ beside.name

theorem Apart.symm (apart : d.Apart path other) : d.Apart other path :=
  fun place beside placed placedBeside => (apart beside place placedBeside placed).symm

theorem SameTree.apart (tree : SameTree d e) (apart : d.Apart path other) : e.Apart path other :=
  fun place beside placed placedBeside =>
    apart place beside (tree.place_ok_iff.mp placed) (tree.place_ok_iff.mp placedBeside)

/-- What a path holds is settled by the directories and the entry at its place. -/
theorem Holds.of_same (holds : d.Holds path text) (tree : SameTree d e)
    (same : ∀ place, d.place path = .ok place → e.entry? place.name = d.entry? place.name) :
    e.Holds path text := by
  cases holds with
  | missing absent =>
      refine .missing fun place placed => ?_
      rw [tree.place_ok_iff] at placed
      rw [same place placed, absent place placed]
  | present placed stands => exact .present (tree.place_ok placed) ((same _ placed).trans stands)

/-! ### Reading -/

theorem find_of_place {place : Place} (placed : d.place path = .ok place) : d.find path =
    match d.entry? place.name with
    | none => .error .noEntry
    | some .directory => .ok .directory
    | some found => if place.onlyDirectory then .error .notDirectory else .ok found := by
  rw [find, placed]
  rfl

theorem find_of_failure {failure : IoFailure} (unplaced : d.place path = .error failure) :
    d.find path = .error failure := by
  rw [find, unplaced]
  rfl

/-- A path at which nothing is found holds nothing. -/
theorem holds_of_missing (missing : d.find path = .error .noEntry) : d.Holds path "" := by
  refine .missing fun place placed => ?_
  rw [find_of_place placed] at missing
  cases entry : d.entry? place.name with
  | none => rfl
  | some found =>
      rw [entry] at missing
      cases found <;> cases onlyDirectory : place.onlyDirectory <;>
        simp [onlyDirectory, IoFailure.noEntry, IoFailure.notDirectory] at missing

/-- What is found at a path that holds a text. -/
theorem Holds.find_cases (holds : d.Holds path text) :
    (text = "" ∧ ∃ failure, d.find path = .error failure) ∨
      d.find path = .error .notDirectory ∨ d.find path = .ok (.file (.text text)) := by
  cases holds with
  | missing absent =>
      refine .inl ⟨rfl, ?_⟩
      cases placed : d.place path with
      | error failure => exact ⟨failure, find_of_failure placed⟩
      | ok place => exact ⟨.noEntry, by rw [find_of_place placed, absent place placed]⟩
  | @present place text placed stands =>
      rw [find_of_place placed, stands]
      cases place.onlyDirectory <;> simp

/-- Reading gives what a path holds. -/
theorem Holds.eq_of_readText (holds : d.Holds path text) {read : String}
    (answered : d.readText path = .ok read) : read = text := by
  obtain ⟨-, answered⟩ := of_unlessRefused answered
  rcases holds.find_cases with ⟨-, failure, found⟩ | found | found
  · rw [found] at answered
    cases answered
  · rw [found] at answered
    cases answered
  · rw [found] at answered
    cases answered
    rfl

/-- What reading does not find is not there. -/
theorem Holds.eq_empty_of_readText (holds : d.Holds path text)
    (honest : d.refuses (.read path) ≠ some .noEntry)
    (answered : d.readText path = .error .noEntry) : text = "" := by
  unfold readText unlessRefused at answered
  split at answered
  · next failure refused =>
      cases answered
      exact absurd refused honest
  · rcases holds.find_cases with ⟨blank, -⟩ | found | found
    · exact blank
    · rw [found] at answered
      simp [IoFailure.noEntry, IoFailure.notDirectory] at answered
    · rw [found] at answered
      cases answered

/-! ### Writing -/

/-- What is added to a file is read behind what was read before. -/
theorem readText_appendText {more : String} (read : d.readText path = .ok text)
    (answered : d.appendText path more = .ok e) : e.readText path = .ok (text ++ more) := by
  obtain ⟨unrefused, found⟩ := of_unlessRefused read
  obtain ⟨name, named, rfl⟩ := appendText_ok answered
  obtain ⟨placed, plain⟩ := fileName_ok_iff.mp named
  rw [find_of_place placed] at found
  cases stands : d.entry? name with
  | none =>
      rw [stands] at found
      cases found
  | some entry =>
      rw [stands] at found
      cases entry with
      | directory => exact absurd stands plain
      | database tables => cases found
      | file content =>
          cases content with
          | binary bytes => cases found
          | text standing =>
              cases found
              have tree := sameTree_put plain (.text (text ++ more))
              change (d.put name (.file (.text (text ++ more)))).readText path = _
              rw [readText, unlessRefused, tree.refuses, unrefused,
                find_of_place (tree.place_ok placed), entry?_put (ne_root plain), if_pos rfl]
              rfl

theorem Holds.appendText (holds : d.Holds path text) {more : String}
    (answered : d.appendText path more = .ok e) : e.Holds path (text ++ more) := by
  obtain ⟨name, named, rfl⟩ := appendText_ok answered
  obtain ⟨placed, plain⟩ := fileName_ok_iff.mp named
  have content : (contentOf (d.entry? name)).append more = .text (text ++ more) := by
    cases holds with
    | missing absent =>
        rw [absent _ placed]
        rfl
    | present placedThere stands =>
        rw [placed] at placedThere
        cases placedThere
        rw [stands]
        rfl
  rw [content]
  exact .present ((sameTree_put plain _).place_ok placed) (by simp [entry?_put (ne_root plain)])

theorem sameTree_of_appendText {more : String} (answered : d.appendText path more = .ok e) :
    SameTree d e := by
  obtain ⟨name, named, rfl⟩ := appendText_ok answered
  exact sameTree_put (fileName_ok_iff.mp named).2 _

theorem Holds.appendText_of_apart (holds : d.Holds other text) (apart : d.Apart path other)
    {more : String} (answered : d.appendText path more = .ok e) : e.Holds other text := by
  have tree := sameTree_of_appendText answered
  obtain ⟨name, named, rfl⟩ := appendText_ok answered
  obtain ⟨placed, plain⟩ := fileName_ok_iff.mp named
  refine holds.of_same tree fun beside placedBeside => ?_
  rw [entry?_put (ne_root plain), if_neg (apart _ _ placed placedBeside).symm]

variable {draft : String} {drafted : Disk}

theorem holds_of_replace (written : d.writeText draft text = .ok drafted)
    (renamed : drafted.rename draft path = .ok e) : e.Holds path text := by
  obtain ⟨-, target, -, targetName, tree, stands, -⟩ := replace_ok written renamed
  exact .present (tree.place_ok (fileName_ok_iff.mp targetName).1) stands

theorem sameTree_of_replace (written : d.writeText draft text = .ok drafted)
    (renamed : drafted.rename draft path = .ok e) : SameTree d e := by
  obtain ⟨-, -, -, -, tree, -⟩ := replace_ok written renamed
  exact tree

theorem Holds.replace_of_apart {kept : String} (holds : d.Holds other kept)
    (apartDraft : d.Apart draft other) (apart : d.Apart path other)
    (written : d.writeText draft text = .ok drafted) (renamed : drafted.rename draft path = .ok e) :
    e.Holds other kept := by
  obtain ⟨source, target, sourceName, targetName, tree, -, same⟩ := replace_ok written renamed
  refine holds.of_same tree fun beside placed => same _ ?_ ?_
  · exact (apartDraft _ _ (fileName_ok_iff.mp sourceName).1 placed).symm
  · exact (apart _ _ (fileName_ok_iff.mp targetName).1 placed).symm

/-! ### Disks that refuse nothing -/

/-- The system refuses no call for reasons of its own. -/
def Willing (d : Disk) : Prop := ∀ call, d.refuses call = none

/-- A file may be written at a path. -/
def Writable (d : Disk) (path : String) : Prop := ∃ name, d.fileName path = .ok name

theorem SameTree.willing (tree : SameTree d e) (willing : d.Willing) : e.Willing :=
  fun call => (congrFun tree.refuses call).trans (willing call)

theorem SameTree.writable (tree : SameTree d e) (writable : d.Writable path) : e.Writable path :=
  writable.imp fun _ named => tree.fileName_ok_iff.mpr named

theorem Willing.unlessRefused {α : Type} (willing : d.Willing) (call : DiskCall)
    (result : Except IoFailure α) : d.unlessRefused call result = result := by
  rw [Disk.unlessRefused, willing call]

theorem Writable.appendText (writable : d.Writable path) (willing : d.Willing) (more : String) :
    ∃ e, d.appendText path more = .ok e := by
  obtain ⟨name, named⟩ := writable
  exact ⟨_, by rw [Disk.appendText, willing.unlessRefused, named]; rfl⟩

theorem Writable.writeText (writable : d.Writable path) (willing : d.Willing) (text : String) :
    ∃ e, d.writeText path text = .ok e := by
  obtain ⟨name, named⟩ := writable
  exact ⟨_, by rw [Disk.writeText, willing.unlessRefused, named]; rfl⟩

/-- A draft that was written can take its place. -/
theorem Writable.rename (writable : d.Writable path) (willing : d.Willing)
    (written : d.writeText draft text = .ok drafted) : ∃ e, drafted.rename draft path = .ok e := by
  obtain ⟨source, sourceName, rfl⟩ := writeText_ok written
  obtain ⟨placed, plain⟩ := fileName_ok_iff.mp sourceName
  have tree := sameTree_put plain (.text text)
  obtain ⟨target, targetName⟩ := tree.writable writable
  have stands :
      Disk.entry? (d.put source (.file (.text text))) source = some (.file (.text text)) := by
    simp [entry?_put (ne_root plain)]
  rw [Disk.rename, (tree.willing willing).unlessRefused, tree.place_ok placed, targetName]
  simp only [bind, Except.bind, stands]
  exact ⟨_, rfl⟩

/-- Reading a path that may be written gives what it holds. -/
theorem Holds.readText_of_writable (holds : d.Holds path text) (willing : d.Willing)
    (writable : d.Writable path) :
    d.readText path = .ok text ∨ d.readText path = .error .noEntry ∧ text = "" := by
  obtain ⟨name, named⟩ := writable
  obtain ⟨placed, -⟩ := fileName_ok_iff.mp named
  rw [Disk.readText, willing.unlessRefused, find_of_place placed]
  cases holds with
  | missing absent => exact .inr ⟨by rw [absent _ placed], rfl⟩
  | present placedThere stands =>
      rw [placed] at placedThere
      cases placedThere
      exact .inl (by rw [stands]; rfl)

end Disk

end ShortLinks
