import ShortLinks.Keeper.File
import ShortLinks.Proofs.Json.RoundTrip
import ShortLinks.Proofs.Keeper.LinkIndex
import ShortLinks.Proofs.Text.Lines

/-!
The lines of records.

* `Lined` — records that are written as objects of simple members and read back from them. Links
  and users are such records.
* `readRecords_append` — a line break parts what is read: the records before it and those behind it.
* `readRecords_encodeLines` — the lines of records are read back, whatever stands in their texts.
* `linkMapOf_append`, `linkMapOf_sortedLinks` — the tables of records that were added at the end,
  and of records that were written anew.
-/

namespace ShortLinks

/-- Records that are written as objects of simple members, and read back from them. -/
structure Lined {α : Type} (toJson : α → Json) (ofJson? : Json → Option α) : Prop where
  written : ∀ item, ∃ (first : String × Json) (members : List (String × Json)),
    toJson item = .record (first :: members) ∧ ∀ m ∈ first :: members, m.2.Simple
  back : ∀ item, ofJson? (toJson item) = some item

section Lined

variable {α : Type} {toJson : α → Json} {ofJson? : Json → Option α}

theorem Lined.parse?_compact (lined : Lined toJson ofJson?) (item : α) :
    Json.parse? (toJson item).compact = some (toJson item) := by
  obtain ⟨first, members, written, simple⟩ := lined.written item
  rw [written, Json.parse?_compact simple]

theorem Lined.newline_notMem (lined : Lined toJson ofJson?) (item : α) :
    '\n' ∉ (toJson item).render := by
  obtain ⟨first, members, written, simple⟩ := lined.written item
  rw [written]
  exact Json.newline_notMem_render_record simple

theorem Lined.exists_render (lined : Lined toJson ofJson?) (item : α) :
    ∃ inside, (toJson item).render = '\x7b' :: (inside ++ ['\x7d']) := by
  obtain ⟨first, members, written, -⟩ := lined.written item
  rw [written]
  exact Json.exists_render_record first members

end Lined

/-- The record of a link begins with its identity. -/
theorem Link.exists_members (link : Link) : ∃ members : List (String × Json),
    link.toJson = .record (("correlation_id", .text link.id) :: members) ∧
      ∀ m ∈ ("correlation_id", Json.text link.id) :: members, m.2.Simple := by
  refine ⟨_, rfl, ?_⟩
  cases owner : link.owner <;> simp [Json.Simple.text, Json.Simple.bool, Json.Simple.null]

theorem Link.lined : Lined Link.toJson Link.ofJson? where
  written link := by
    obtain ⟨members, written, simple⟩ := link.exists_members
    exact ⟨_, members, written, simple⟩
  back := by
    intro link
    obtain ⟨id, shortUrl, originalUrl, owner, deleted⟩ := link
    cases owner <;> rfl

theorem User.lined : Lined User.toJson User.ofJson? where
  written user := ⟨_, _, rfl, by simp [Json.Simple.text]⟩
  back _ := rfl

namespace FileKeeper

variable {α : Type} {toJson : α → Json} {ofJson? : Json → Option α}

@[simp] theorem encodeLines_nil : encodeLines toJson [] = "" := rfl

theorem encodeLines_cons (item : α) (items : List α) :
    encodeLines toJson (item :: items)
      = (toJson item).compact ++ "\n" ++ encodeLines toJson items := by
  simp [encodeLines, encodeLine]

theorem encodeLines_append (items more : List α) :
    encodeLines toJson (items ++ more) = encodeLines toJson items ++ encodeLines toJson more := by
  simp [encodeLines]

/-- A line break parts what is read. -/
theorem readRecords_append (before after : String) :
    readRecords ofJson? (before ++ "\n" ++ after)
      = readRecords ofJson? before ++ readRecords ofJson? after := by
  simp [readRecords, Text.lines_append]

/-- What is written for a record is one line, and nothing is trimmed off it. -/
theorem lines_compact (lined : Lined toJson ofJson?) (item : α) :
    Text.lines (toJson item).compact.toList = [(toJson item).render] := by
  obtain ⟨inside, ends⟩ := lined.exists_render item
  rw [Json.compact, String.toList_ofList, Text.lines_eq_singleton (lined.newline_notMem item),
    ends, Text.trimBoth_of_ends (by decide) (by decide)]

/-- A record is read from the line that is written for it. -/
theorem readRecords_compact (lined : Lined toJson ofJson?) (item : α) :
    readRecords ofJson? (toJson item).compact = [item] := by
  have parsed := lined.parse?_compact item
  rw [Json.compact] at parsed
  simp [readRecords, lines_compact lined, parsed, lined.back]

theorem readRecords_encodeLines (lined : Lined toJson ofJson?) (items : List α) :
    readRecords ofJson? (encodeLines toJson items) = items := by
  induction items with
  | nil => rfl
  | cons item items ih =>
      rw [encodeLines_cons, readRecords_append, readRecords_compact lined, ih,
        List.singleton_append]

/-! ### Tables of records -/

theorem linkMapOf_append (records more : List Link) :
    linkMapOf (records ++ more)
      = LinkMap.insertAll (linkMapOf records) (more.map fun link => (link.key, link)) := by
  rw [linkMapOf, List.foldl_append, LinkMap.insertAll, List.foldl_map]
  rfl

theorem userMapOf_concat (records : List User) (user : User) :
    userMapOf (records ++ [user]) = (userMapOf records).insert user.email user := by
  rw [userMapOf, List.foldl_append]
  rfl

theorem values_eq_map_toList (links : LinkMap) : links.values = links.toList.map (·.2) := by
  -- The library relates the two below the quotient only.
  obtain ⟨⟨inner⟩⟩ := links
  induction inner using Quotient.inductionOn with
  | h tree =>
      change tree.inner.values = (Std.DTreeMap.Internal.Impl.Const.toList tree.inner).map (·.2)
      rw [Std.DTreeMap.Internal.Impl.values_eq_map_snd,
        Std.DTreeMap.Internal.Impl.Const.toList_eq_toListModel_map, List.map_map]
      rfl

/-- The links of an index, whose order is that of their short links, make up its table. -/
theorem linkMapOf_sortedLinks {index : LinkIndex} (keyed : LinkMap.Keyed index.byKey) :
    linkMapOf (sortedLinks index) = index.byKey := by
  have own : (index.byKey.toList.map (·.2)).map (fun link => (link.key, link))
      = index.byKey.toList := by
    rw [List.map_map]
    refine (List.map_congr_left fun entry mem => ?_).trans (List.map_id _)
    have found : index.byKey[entry.1]? = some entry.2 :=
      Std.ExtTreeMap.mem_toList_iff_getElem?_eq_some.mp mem
    simp [keyed entry.1 entry.2 found]
  have sorted : (sortedLinks index).Perm (index.byKey.toList.map (·.2)) := by
    rw [← values_eq_map_toList]
    exact List.mergeSort_perm _ _
  have order : ((sortedLinks index).map fun link => (link.key, link)).Perm index.byKey.toList :=
    own ▸ sorted.map _
  have table := linkMapOf_append [] (sortedLinks index)
  rw [List.nil_append] at table
  exact table.trans (LinkMap.insertAll_toList order)

end FileKeeper

end ShortLinks
