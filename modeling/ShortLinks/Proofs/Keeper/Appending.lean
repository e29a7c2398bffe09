import ShortLinks.Proofs.Disk.Files
import ShortLinks.Proofs.Json.Fused
import ShortLinks.Proofs.Keeper.Indexed
import ShortLinks.Proofs.Keeper.Records

/-!
Adding links to a file of any text.

* `Closed` — a text whose last line is blank, so that a line may follow.
* `readRecords_of_closed`, `exists_readRecords_of_open` — behind a closed text all added records are
  read. Otherwise the first of them and the last line of the text become one line that is no record.
* `appended_exactly_iff` — after a keeper was opened on a file, saving adds exactly the links that
  it reports as stored, if it reports any, exactly when the text was closed.
-/

namespace ShortLinks

open LinkMap (entriesOf)

/-- What an insertion stored. -/
def Inserted.stored {α : Type} : Inserted α → List α
  | .created record => [record]
  | .existing _ => []

namespace FileKeeper

/-- Nothing but blanks stands behind the last line break of a text. -/
def Closed (text : String) : Prop := ∀ c ∈ Text.openLine text.toList, Text.isBlank c = true

instance (text : String) : Decidable (Closed text) :=
  List.decidableBAll _ (Text.openLine text.toList)

variable {α : Type} {toJson : α → Json} {ofJson? : Json → Option α}

/-- One line holds a record at most. -/
theorem readRecords_line {line : String} (single : '\n' ∉ line.toList) :
    readRecords ofJson? line =
      ((Json.parse? (String.ofList (Text.trimBoth Text.isBlank line.toList))).bind
        ofJson?).toList := by
  rw [readRecords, Text.lines_eq_singleton single]
  cases answer : (Json.parse? (String.ofList (Text.trimBoth Text.isBlank line.toList))).bind ofJson?
    <;> simp [answer]

/-- The records of a text are those of its whole lines and those of its open line, to which more
may be added. -/
theorem exists_wholeLines (ofJson? : Json → Option α) (text : String) : ∃ before : List α,
    ∀ more : String, readRecords ofJson? (text ++ more)
      = before ++ readRecords ofJson? (String.ofList (Text.openLine text.toList) ++ more) := by
  have cases := Text.openLine_cases text.toList
  generalize Text.openLine text.toList = line at cases ⊢
  rcases cases with single | ⟨before, parts⟩
  · refine ⟨[], fun more => ?_⟩
    rw [List.nil_append, ← single, String.ofList_toList]
  · refine ⟨readRecords ofJson? (String.ofList before), fun more => ?_⟩
    have whole : text ++ more = String.ofList before ++ "\n" ++ (String.ofList line ++ more) := by
      apply String.toList_inj.mp
      simp [parts]
    rw [whole, readRecords_append]

/-- An added record on the open line of a text. -/
theorem readRecords_openLine (lined : Lined toJson ofJson?) {line : List Char}
    (single : '\n' ∉ line) (item : α) :
    readRecords ofJson? (String.ofList line ++ (toJson item).compact)
      = ((Json.parse? (String.ofList (Text.trimBoth Text.isBlank
          (line ++ (toJson item).render)))).bind ofJson?).toList := by
  have none : '\n' ∉ (String.ofList line ++ (toJson item).compact).toList := by
    simp [Json.compact, single, lined.newline_notMem item]
  rw [readRecords_line none]
  simp [Json.compact]

theorem readRecords_concat (text : String) (item : α) (items : List α)
    (lined : Lined toJson ofJson?) :
    readRecords ofJson? (text ++ encodeLines toJson (item :: items))
      = readRecords ofJson? (text ++ (toJson item).compact) ++ items := by
  have parts : text ++ encodeLines toJson (item :: items)
      = text ++ (toJson item).compact ++ "\n" ++ encodeLines toJson items := by
    rw [encodeLines_cons]
    simp [String.append_assoc]
  rw [parts, readRecords_append, readRecords_encodeLines lined]

/-- Behind a closed text all added records are read. -/
theorem readRecords_of_closed (lined : Lined toJson ofJson?) {text : String}
    (closed : Closed text) (items : List α) :
    readRecords ofJson? (text ++ encodeLines toJson items) = readRecords ofJson? text ++ items := by
  cases items with
  | nil => simp
  | cons item items =>
      obtain ⟨before, whole⟩ := exists_wholeLines ofJson? text
      have single := Text.newline_notMem_openLine text.toList
      have blank : readRecords ofJson? (String.ofList (Text.openLine text.toList)) = [] := by
        have trimmed : Text.trimBoth Text.isBlank (Text.openLine text.toList) = [] := by
          have all := Text.trimBoth_of_blank closed []
          rwa [List.append_nil] at all
        rw [readRecords_line (by simpa using single), String.toList_ofList, trimmed]
        rfl
      have added : readRecords ofJson?
          (String.ofList (Text.openLine text.toList) ++ (toJson item).compact) = [item] := by
        rw [readRecords_openLine lined single, Text.trimBoth_of_blank closed]
        have alone := readRecords_openLine lined (List.not_mem_nil (a := '\n')) item
        rw [List.nil_append] at alone
        rw [← alone]
        simpa using readRecords_compact lined item
      have old := whole ""
      rw [String.append_empty, String.append_empty, blank, List.append_nil] at old
      rw [readRecords_concat _ _ _ lined, whole, added, old, List.append_assoc,
        List.singleton_append]

theorem isBlank_eq_false {c : Char} (visible : Text.isBlank c = false) :
    Json.isBlank c = false := by
  rw [Bool.eq_false_iff] at visible ⊢
  intro blank
  simp only [Json.isBlank, Bool.or_eq_true, decide_eq_true_eq] at blank
  rcases blank with ((rfl | rfl) | rfl) | rfl <;> exact visible (by decide)

/-- Behind another text the first added link is lost, and so is what the open line held. -/
theorem exists_readRecords_of_open {text : String} (open_ : ¬ Closed text) :
    ∃ before last : List Link, readRecords Link.ofJson? text = before ++ last ∧
      ∀ (own : Link) (more : List Link),
        readRecords Link.ofJson? (text ++ encodeLines Link.toJson (own :: more))
          = before ++ more := by
  obtain ⟨before, whole⟩ := exists_wholeLines Link.ofJson? text
  have old := whole ""
  rw [String.append_empty, String.append_empty] at old
  refine ⟨before, _, old, fun own more => ?_⟩
  have single := Text.newline_notMem_openLine text.toList
  have spoilt : readRecords Link.ofJson?
      (String.ofList (Text.openLine text.toList) ++ (Link.toJson own).compact) = [] := by
    obtain ⟨inside, ends⟩ := Link.lined.exists_render own
    obtain ⟨members, written, simple⟩ := own.exists_members
    have visibleBrace : Text.isBlank '\x7d' = false := by decide
    obtain ⟨c, front, visible, trimmed⟩ :=
      Text.trimBoth_append open_ ('\x7b' :: inside) visibleBrace
    rw [List.cons_append, ← ends, written] at trimmed
    have named : "correlation_id".toList = 'c' :: "orrelation_id".toList := rfl
    have spoilt := Json.parse?_eq_none simple named (isBlank_eq_false visible) front
    rw [readRecords_openLine Link.lined single, written, trimmed, spoilt]
    rfl
  rw [readRecords_concat _ _ _ Link.lined, whole, spoilt, List.append_nil]

/-- **Adding links whose keys are free** adds them to what is read exactly when there are none or
the text was closed. -/
theorem linkMapOf_appended_iff {text : String} {created : List Link}
    (free : ∀ own ∈ created, (linkMapOf (readRecords Link.ofJson? text))[own.key]? = none)
    (distinct : (created.map Link.key).Nodup) :
    linkMapOf (readRecords Link.ofJson? (text ++ encodeLines Link.toJson created))
        = LinkMap.insertAll (linkMapOf (readRecords Link.ofJson? text)) (entriesOf created) ↔
      created = [] ∨ Closed text := by
  have table (records : List Link) : linkMapOf records = LinkMap.insertAll ∅ (entriesOf records) :=
    linkMapOf_append [] records
  constructor
  · intro exact_
    by_contra neither
    obtain ⟨some_, open_⟩ := not_or.mp neither
    obtain ⟨own, more, rfl⟩ := List.exists_cons_of_ne_nil some_
    obtain ⟨before, last, old, lost⟩ := exists_readRecords_of_open open_
    have own_free := free own List.mem_cons_self
    rw [List.map_cons, List.nodup_cons] at distinct
    -- The first link must be read, but neither an old line nor a later one holds its key.
    have reads : (linkMapOf (before ++ more))[own.key]? = some own := by
      rw [← lost own more, exact_]
      have keys : ((entriesOf (own :: more)).map (·.1)).Nodup := by
        simpa [entriesOf, Function.comp_def] using distinct
      have first : (own.key, own) ∈ entriesOf (own :: more) := List.mem_cons_self
      exact LinkMap.getElem?_insertAll_of_mem keys first
    rw [table] at reads
    rcases LinkMap.of_getElem?_insertAll reads with none | mem
    · simp at none
    · obtain ⟨link, linkMem, same⟩ := List.mem_map.mp mem
      obtain rfl := (Prod.mk.inj same).2
      rcases List.mem_append.mp linkMem with inBefore | inMore
      · rw [table, old] at own_free
        refine LinkMap.getElem?_insertAll_ne_none ?_ own_free
        simp only [entriesOf, List.map_map, List.mem_map]
        exact ⟨link, List.mem_append_left _ inBefore, rfl⟩
      · exact distinct.1 (List.mem_map_of_mem inMore)
  · rintro (rfl | closed)
    · rw [encodeLines_nil, String.append_empty]
      rfl
    · rw [readRecords_of_closed Link.lined closed, linkMapOf_append]
      rfl

/-! ### Files -/

variable {path text : String} {disk after : Disk}

theorem readLinks_of_text (read : disk.readText path = .ok text) :
    readLinks path disk = .ok (linkMapOf (readRecords Link.ofJson? text)) := by
  simp only [readLinks, readFile, read]
  rfl

theorem readLinks_of_appendRecords {created : List Link} (read : disk.readText path = .ok text)
    (answered : appendRecords Link.toJson path created disk = .ok after) :
    readLinks path after
      = .ok (linkMapOf (readRecords Link.ofJson? (text ++ encodeLines Link.toJson created))) := by
  unfold appendRecords at answered
  split at answered
  · next none =>
      obtain rfl := List.isEmpty_iff.mp none
      cases answered
      rw [encodeLines_nil, String.append_empty]
      exact readLinks_of_text read
  · split at answered
    · next added =>
        cases answered
        exact readLinks_of_text (Disk.readText_appendText read added)
    · cases answered

/-- A keeper that is opened has the links that the file reads as. -/
theorem links_of_opened {linksPath usersPath : String} {k : FileKeeper}
    (opened : ofPaths linksPath usersPath disk = .ok k)
    (read : disk.readText linksPath = .ok text) : k.linksPath = linksPath ∧
      k.links = .ofMap (linkMapOf (readRecords Link.ofJson? text)) := by
  unfold ofPaths at opened
  split at opened
  · cases opened
  · rw [readLinks_of_text read] at opened
    cases users : readUsers usersPath disk with
    | error fault =>
        simp only [bind, Except.bind, users] at opened
        cases opened
    | ok table =>
        simp only [bind, Except.bind, users] at opened
        cases opened
        exact ⟨rfl, rfl⟩

section Calls

variable {k : FileKeeper} {s : FileKeeper × Disk}

/-- A save that succeeds adds the line of what it stored, whose key was free. -/
theorem appends_of_save (sound : k.links.Sound) {fresh key : String} {link : Link}
    {inserted : Inserted Link} (answered : save fresh key link (k, disk) = (.ok inserted, s)) :
    appendRecords Link.toJson k.linksPath inserted.stored disk = .ok s.2 ∧
      ∀ own ∈ inserted.stored, k.links.byKey[own.key]? = none := by
  have step := sound.insertion (fun _ => fresh) (key, link)
  simp only [save] at answered
  generalize k.links.insert fresh key link = result at step answered
  cases step with
  | refused stored inWay =>
      obtain ⟨answer, rfl⟩ := Prod.mk.inj answered
      cases answer
      exact ⟨rfl, by simp [Inserted.stored]⟩
  | stored free unled =>
      dsimp only at answered
      cases attempt : appendRecords Link.toJson k.linksPath
          [LinkIndex.entryLink (fun _ => fresh) (key, link)] disk with
      | error fault =>
          rw [attempt] at answered
          cases (Prod.mk.inj answered).1
      | ok after =>
          rw [attempt] at answered
          obtain ⟨answer, rfl⟩ := Prod.mk.inj answered
          cases answer
          exact ⟨attempt, by simpa [Inserted.stored] using free⟩

/-- A batch that succeeds adds the lines of what it reports as stored, whose keys were free. -/
theorem appends_of_saveBatch (sound : k.links.Sound) {fresh : String → String} {batch : LinkMap}
    {report : BatchReport} (answered : saveBatch fresh batch (k, disk) = (.ok report, s)) :
    let created := LinkIndex.reported fresh batch.toList report
    appendRecords Link.toJson k.linksPath created disk = .ok s.2 ∧
      (∀ own ∈ created, k.links.byKey[own.key]? = none) ∧ (created.map Link.key).Nodup := by
  have creates := LinkIndex.insertEntries_creates fresh (LinkMap.keys_nodup batch) sound
  simp only [saveBatch] at answered
  split at answered
  · next blank =>
      obtain ⟨answer, rfl⟩ := Prod.mk.inj answered
      cases answer
      have nothing : LinkIndex.reported fresh batch.toList {} = [] := by
        rw [Std.ExtTreeMap.isEmpty_iff.mp blank]
        rfl
      simp [nothing, appendRecords]
  · generalize result : k.links.insertBatch fresh batch = r at answered
    rw [← LinkIndex.insertBatch, result] at creates
    cases attempt : appendRecords Link.toJson k.linksPath r.created disk with
    | error fault =>
        rw [attempt] at answered
        cases (Prod.mk.inj answered).1
    | ok after =>
        rw [attempt] at answered
        obtain ⟨answer, rfl⟩ := Prod.mk.inj answered
        cases answer
        rw [creates.stored] at attempt
        exact ⟨attempt, creates.stored ▸ creates.free, creates.stored ▸ creates.distinct⟩

end Calls

/-- **Saving into a file of any text.** Whatever stood in the file that a keeper was opened on, a
save that succeeds adds exactly the links that it reports as stored to what is read, exactly when it
reports none or the text was closed. -/
theorem appended_exactly_iff {linksPath usersPath : String} {k : FileKeeper}
    (opened : ofPaths linksPath usersPath disk = .ok k)
    (read : disk.readText linksPath = .ok text) :
    (∀ {fresh key : String} {link : Link} {inserted : Inserted Link} {s : FileKeeper × Disk},
      save fresh key link (k, disk) = (.ok inserted, s) →
        (readLinks linksPath s.2 = .ok (LinkMap.insertAll
            (linkMapOf (readRecords Link.ofJson? text)) (entriesOf inserted.stored)) ↔
          inserted.stored = [] ∨ Closed text)) ∧
    (∀ {fresh : String → String} {batch : LinkMap} {report : BatchReport} {s : FileKeeper × Disk},
      saveBatch fresh batch (k, disk) = (.ok report, s) →
        (readLinks linksPath s.2 = .ok (LinkMap.insertAll
            (linkMapOf (readRecords Link.ofJson? text))
            (entriesOf (LinkIndex.reported fresh batch.toList report))) ↔
          LinkIndex.reported fresh batch.toList report = [] ∨ Closed text)) := by
  obtain ⟨rfl, links⟩ := links_of_opened opened read
  have keyed := keyed_linkMapOf (readRecords Link.ofJson? text)
  have byKey : k.links.byKey = linkMapOf (readRecords Link.ofJson? text) := by
    rw [links]
    exact LinkIndex.byKey_ofList (.refl _)
  have sound : k.links.Sound := by
    rw [links]
    exact LinkIndex.sound_ofList keyed (.refl _)
  constructor
  · intro fresh key link inserted s answered
    obtain ⟨appended, free⟩ := appends_of_save sound answered
    have distinct : (inserted.stored.map Link.key).Nodup := by
      cases inserted <;> simp [Inserted.stored]
    rw [readLinks_of_appendRecords read appended, Except.ok.injEq,
      linkMapOf_appended_iff (byKey ▸ free) distinct]
  · intro fresh batch report s answered
    obtain ⟨appended, free, distinct⟩ := appends_of_saveBatch sound answered
    rw [readLinks_of_appendRecords read appended, Except.ok.injEq,
      linkMapOf_appended_iff (byKey ▸ free) distinct]

/-- A link that stands in a file, and its text without a line break behind it. -/
def standingLink : Link := { id := "1", shortUrl := "a", originalUrl := "u1" }

/-- The text of that link, as it might be written by hand. -/
def openText : String :=
  "\x7b\"correlation_id\":\"1\",\"short_url\":\"a\",\"original_url\":\"u1\"\x7d"

/-- A disk with that text in the file of the links. -/
def openDisk : Disk := ({} : Disk).put "/links" (.file (.text openText))

theorem openDisk_readText : openDisk.readText "/links" = .ok openText := by
  have named : ({} : Disk).fileName "/links" = .ok "/links" := by decide +kernel
  obtain ⟨placed, plain⟩ := Disk.fileName_ok_iff.mp named
  have placedAfter := (Disk.sameTree_put plain (.text openText)).place_ok placed
  change (({} : Disk).put "/links" (.file (.text openText))).readText "/links" = _
  rw [Disk.readText, Disk.find_of_place placedAfter, Disk.entry?_put (Disk.ne_root plain),
    if_pos rfl]
  rfl

theorem readRecords_openText : readRecords Link.ofJson? openText = [standingLink] := by
  decide +kernel

theorem openDisk_opened : ofPaths "/links" "/users" openDisk
    = .ok ⟨"/links", "/users", .ofMap (linkMapOf [standingLink]), {}⟩ := by
  have missing : openDisk.readText "/users" = .error .noEntry := by decide +kernel
  have users : readUsers "/users" openDisk = .ok ∅ := by
    simp only [readUsers, readFile, missing]
    rfl
  have named : ¬ "/links".isEmpty = true := by decide
  rw [ofPaths, if_neg named, readLinks_of_text openDisk_readText, users, readRecords_openText]
  rfl

/-- What is given to be saved into that file, and what is stored for it. -/
def givenLink : Link := { shortUrl := "", originalUrl := "u2" }

/-- The link that the save reports as stored. -/
def savedLink : Link := { id := "2", shortUrl := "b", originalUrl := "u2" }

/-- The save succeeds, and its line is added to the file. -/
theorem openDisk_save : ∃ (index : LinkIndex) (after : Disk),
    save "2" "b" givenLink (⟨"/links", "/users", .ofMap (linkMapOf [standingLink]), {}⟩, openDisk)
        = (.ok (.created savedLink), ⟨"/links", "/users", index, {}⟩, after) ∧
      appendRecords Link.toJson "/links" [savedLink] openDisk = .ok after := by
  have inserted : ((LinkIndex.ofMap (linkMapOf [standingLink])).insert "2" "b" givenLink).1
      = .created savedLink := by decide +kernel
  have writable : openDisk.Writable "/links" := ⟨"/links", by decide +kernel⟩
  obtain ⟨after, added⟩ := writable.appendText (fun _ => rfl) (encodeLines Link.toJson [savedLink])
  have appended : appendRecords Link.toJson "/links" [savedLink] openDisk = .ok after := by
    simp only [appendRecords, List.isEmpty_cons, added]
    rfl
  cases insertion : (LinkIndex.ofMap (linkMapOf [standingLink])).insert "2" "b" givenLink with
  | mk outcome index =>
      rw [insertion] at inserted
      obtain rfl : outcome = .created savedLink := inserted
      exact ⟨index, after, by simp only [save, insertion, appended], appended⟩

theorem appended_exactly_iff_openText : openDisk.readText "/links" = .ok openText ∧
    ¬ Closed openText ∧ ∃ (k : FileKeeper) (s : FileKeeper × Disk),
      ofPaths "/links" "/users" openDisk = .ok k ∧
        save "2" "b" givenLink (k, openDisk) = (.ok (.created savedLink), s) ∧
        readLinks "/links" s.2 ≠ .ok (LinkMap.insertAll
          (linkMapOf (readRecords Link.ofJson? openText)) (entriesOf [savedLink])) := by
  have open_ : ¬ Closed openText := by decide +kernel
  obtain ⟨index, after, saved, -⟩ := openDisk_save
  refine ⟨openDisk_readText, open_, _, _, openDisk_opened, saved, fun exact_ => ?_⟩
  rcases ((appended_exactly_iff openDisk_opened openDisk_readText).1 saved).mp exact_
    with none | closed
  · cases none
  · exact open_ closed

/-- The save is reported as stored, and afterwards neither link is read. -/
theorem openText_loses : ∃ (k : FileKeeper) (s : FileKeeper × Disk),
    ofPaths "/links" "/users" openDisk = .ok k ∧
      readLinks "/links" openDisk = .ok (linkMapOf [standingLink]) ∧
      save "2" "b" givenLink (k, openDisk) = (.ok (.created savedLink), s) ∧
      readLinks "/links" s.2 = .ok ∅ ∧
      readLinks "/links" s.2
        ≠ .ok (LinkMap.insertAll (linkMapOf [standingLink]) (entriesOf [savedLink])) := by
  have before := readLinks_of_text openDisk_readText
  rw [readRecords_openText] at before
  obtain ⟨index, after, saved, appended⟩ := openDisk_save
  have spoilt :
      readRecords Link.ofJson? (openText ++ encodeLines Link.toJson [savedLink]) = [] := by
    decide +kernel
  have lost := readLinks_of_appendRecords openDisk_readText appended
  rw [spoilt] at lost
  refine ⟨_, _, openDisk_opened, before, saved, lost, fun same => ?_⟩
  rw [lost] at same
  have stands : (LinkMap.insertAll (linkMapOf [standingLink])
      (entriesOf [savedLink]))[savedLink.key]? ≠ none :=
    LinkMap.getElem?_insertAll_ne_none List.mem_cons_self
  rw [← Except.ok.inj same] at stands
  exact stands rfl

end FileKeeper

end ShortLinks
