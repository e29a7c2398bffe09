import ShortLinks.Proofs.Keeper.Records

/-!
Records that are written line by line and read back.

* `lines_encodeLines` — the lines of what is written are the texts of the records, one for each and
  in their order, and a blank behind the last line break.
* `Lossless`, `Lined.lossless` — such records come back as they were, and no line is skipped.
* `records_lossless` — so do links and users, whatever texts their fields hold.
-/

namespace ShortLinks

open FileKeeper (encodeLine encodeLines readRecords readFile)

variable {α : Type} {toJson : α → Json} {ofJson? : Json → Option α}

/-- Each record takes one line, and nothing is trimmed off it. -/
theorem FileKeeper.lines_encodeLines (lined : Lined toJson ofJson?) (items : List α) :
    Text.lines (encodeLines toJson items).toList
      = items.map (fun item => (toJson item).render) ++ [[]] := by
  induction items with
  | nil => rfl
  | cons item items ih =>
      have parts : (encodeLines toJson (item :: items)).toList
          = (toJson item).compact.toList ++ '\n' :: (encodeLines toJson items).toList := by
        simp [encodeLines_cons]
      rw [parts, Text.lines_append, FileKeeper.lines_compact lined, ih]
      rfl

/-- Records that come back from what is written for them. -/
structure Lossless (toJson : α → Json) (ofJson? : Json → Option α) : Prop where
  /-- What is written is read back, with all records and in their order. -/
  reads : ∀ items, readRecords ofJson? (encodeLines toJson items) = items
  /-- So it is from a file. -/
  readsFile : ∀ (items : List α) (path : String) (disk : Disk),
    disk.readText path = .ok (encodeLines toJson items) → readFile ofJson? path disk = .ok items
  /-- Each record takes one line: its only line break is the one that ends it. -/
  oneLine : ∀ item, ∃ line, encodeLine (toJson item) = line ++ "\n" ∧ '\n' ∉ line.toList
  /-- These are the lines that the reader finds, and no others but blank ones. -/
  lines : ∀ items, (Text.lines (encodeLines toJson items).toList).filter (· ≠ [])
    = items.map fun item => (toJson item).render
  /-- From each of them it reads the record. -/
  noneSkipped : ∀ item,
    (Json.parse? (String.ofList (toJson item).render)).bind ofJson? = some item
  /-- What is written for some records and then for more is read as all of them. -/
  append : ∀ items more,
    readRecords ofJson? (encodeLines toJson items ++ encodeLines toJson more) = items ++ more

theorem Lined.lossless (lined : Lined toJson ofJson?) : Lossless toJson ofJson? where
  reads := FileKeeper.readRecords_encodeLines lined
  readsFile := by
    intro items path disk read
    simp only [readFile, read]
    rw [FileKeeper.readRecords_encodeLines lined]
  oneLine item := ⟨(toJson item).compact, rfl, by
    rw [Json.compact, String.toList_ofList]
    exact lined.newline_notMem item⟩
  lines := by
    intro items
    have written : ∀ line ∈ items.map (fun item => (toJson item).render), line ≠ [] := by
      intro line mem
      obtain ⟨item, -, rfl⟩ := List.mem_map.mp mem
      obtain ⟨inside, ends⟩ := lined.exists_render item
      rw [ends]
      exact List.cons_ne_nil _ _
    rw [FileKeeper.lines_encodeLines lined, List.filter_append,
      List.filter_eq_self.mpr fun line mem => decide_eq_true (written line mem)]
    simp
  noneSkipped := by
    intro item
    have parsed := lined.parse?_compact item
    rw [Json.compact] at parsed
    rw [parsed, Option.bind_some, lined.back]
  append := by
    intro items more
    rw [← FileKeeper.encodeLines_append, FileKeeper.readRecords_encodeLines lined]

/-- **Links and users are written without loss**, whatever their texts hold. -/
theorem records_lossless :
    Lossless Link.toJson Link.ofJson? ∧ Lossless User.toJson User.ofJson? :=
  ⟨Link.lined.lossless, User.lined.lossless⟩

end ShortLinks
