import ShortLinks.Proofs.Database.Copies

/-!
A batch that is judged by a part of the index.

* `Narrowed` — an index that knows of the old links only those in a scope, and those as their rows
  give them back; of the links that came in since it knows all.
* `Compared`, `Narrowed.compared` — an entry in scope is answered alike by the whole index and the
  part, unless a link is in its way that the part has lost: it is out of scope or comes back
  changed.
* `Narrowed.report_eq_iff` — so a batch is reported alike exactly when no lost link is in the way
  of an entry.
* `narrowed_rowsInTheWay` — the index of the rows in the way of a batch is such a part.
-/

namespace ShortLinks

namespace LinkIndex

/-- An index that knows of the old links only those in a scope, as their rows give them back. -/
structure Narrowed (old : LinkMap) (scope : Link → Prop) (full part : LinkIndex) : Prop where
  sound : full.Sound
  unique : LinkMap.UniqueUrls full.byKey
  part_sound : part.Sound
  kept : LinkMap.Within old full.byKey
  holds : ∀ (key : String) (link : Link), part.byKey[key]? = some link ↔
    (∃ before, old[key]? = some before ∧ scope before ∧ before.toRow.toLink = link) ∨
      old[key]? = none ∧ full.byKey[key]? = some link

/-- An old link that is out of scope or comes back changed. -/
def Lost (old : LinkMap) (scope : Link → Prop) (link : Link) : Prop :=
  old[link.key]? = some link ∧ (scope link → link.owner = some "")

/-- How two indexes answer to one link. -/
inductive Compared (old : LinkMap) (scope : Link → Prop) (full part : LinkIndex) (own : Link) :
    Inserted Link × LinkIndex → Inserted Link × LinkIndex → Prop where
  | lost {holder : Link} {answer : Inserted Link × LinkIndex} (lost : Lost old scope holder)
      (other : answer.1 ≠ .existing holder) :
      Compared old scope full part own (.existing holder, full) answer
  | refused {holder : Link} (known : ¬ Lost old scope holder) :
      Compared old scope full part own (.existing holder, full) (.existing holder, part)
  | stored (narrowed : Narrowed old scope (full.put (own.key, own)) (part.put (own.key, own))) :
      Compared old scope full part own (.created own, full.put (own.key, own))
        (.created own, part.put (own.key, own))

namespace Narrowed

variable {old : LinkMap} {scope : Link → Prop} {full part : LinkIndex} {own : Link}

/-- The whole index has a link to every address that the part has one to, under the same key. -/
theorem whole (narrowed : Narrowed old scope full part) {key : String} {link : Link}
    (found : part.byKey[key]? = some link) :
    ∃ twin, full.byKey[key]? = some twin ∧ twin.originalUrl = link.originalUrl := by
  rcases (narrowed.holds key link).mp found with ⟨before, present, -, rfl⟩ | ⟨-, present⟩
  · exact ⟨before, narrowed.kept key before present, rfl⟩
  · exact ⟨link, present, rfl⟩

theorem part_unique (narrowed : Narrowed old scope full part) :
    LinkMap.UniqueUrls part.byKey := by
  intro key other link twin found foundTwin same
  obtain ⟨first, present, url⟩ := narrowed.whole found
  obtain ⟨second, presentTwin, urlTwin⟩ := narrowed.whole foundTwin
  exact narrowed.unique key other first second present presentTwin
    (url.trans (same.trans urlTwin.symm))

theorem part_unled (narrowed : Narrowed old scope full part) {url : String}
    (unled : ¬ LinkMap.Leads full.byKey url) : ¬ LinkMap.Leads part.byKey url := by
  rintro ⟨key, link, found, rfl⟩
  obtain ⟨twin, present, same⟩ := narrowed.whole found
  exact unled ⟨key, twin, present, same⟩

theorem put (narrowed : Narrowed old scope full part) (free : full.byKey[own.key]? = none)
    (partFree : part.byKey[own.key]? = none)
    (unled : ¬ LinkMap.Leads full.byKey own.originalUrl) :
    Narrowed old scope (full.put (own.key, own)) (part.put (own.key, own)) where
  sound := narrowed.sound.put free
  unique := narrowed.unique.insert_iff.mpr fun other twin found url =>
    absurd ⟨other, twin, found, url⟩ unled
  part_sound := narrowed.part_sound.put partFree
  kept key link found := (byKey_put_eq_some_iff free).mpr (.inl (narrowed.kept key link found))
  holds key link := by
    rw [byKey_put_eq_some_iff free, byKey_put_eq_some_iff partFree, narrowed.holds]
    have new (same : key = own.key) : old[key]? = none := by
      refine Option.eq_none_iff_forall_ne_some.mpr fun before present => ?_
      rw [same] at present
      rw [narrowed.kept _ _ present] at free
      nomatch free
    grind

theorem compared (narrowed : Narrowed old scope full part)
    {whole answer : Inserted Link × LinkIndex} (wholeStep : Insertion full own whole)
    (partStep : Insertion part own answer) : Compared old scope full part own whole answer := by
  cases wholeStep with
  | stored free unled =>
      have partFree : part.byKey[own.key]? = none := by
        refine Option.eq_none_iff_forall_ne_some.mpr fun link found => ?_
        obtain ⟨twin, present, -⟩ := narrowed.whole found
        rw [free] at present
        nomatch present
      rw [partStep.eq_created partFree (narrowed.part_unled unled)]
      exact .stored (narrowed.put free partFree unled)
  | @refused holder stored inWay =>
      by_cases lost : Lost old scope holder
      · refine .lost lost fun same => ?_
        have present : part.byKey[holder.key]? = some holder := by
          cases partStep with
          | stored => nomatch same
          | refused stored => exact Inserted.existing.inj same ▸ stored
        rcases (narrowed.holds _ _).mp present with ⟨before, old, known, back⟩ | ⟨nowhere, -⟩
        · obtain rfl := Option.some.inj (lost.1.symm.trans old)
          exact toRow_toLink_eq_self_iff.mp back (lost.2 known)
        · rw [lost.1] at nowhere
          nomatch nowhere
      · have present : part.byKey[holder.key]? = some holder := by
          refine (narrowed.holds _ _).mpr ?_
          cases before : old[holder.key]? with
          | none => exact .inr ⟨rfl, stored⟩
          | some link =>
              obtain rfl := Option.some.inj (stored.symm.trans (narrowed.kept _ _ before))
              have known : scope holder ∧ holder.owner ≠ some "" := by
                by_contra neither
                exact lost ⟨before, fun known => not_not.mp fun named => neither ⟨known, named⟩⟩
              exact .inl ⟨holder, rfl, known.1, toRow_toLink_eq_self_iff.mpr known.2⟩
        rw [partStep.eq_existing narrowed.part_unique present
          (inWay.imp_right (And.imp_right narrowed.part_unled))]
        exact .refused lost

theorem skip_inj {report other : BatchReport} {skip : String × Link} :
    ({ report with skipped := skip :: report.skipped } : BatchReport)
        = { other with skipped := skip :: other.skipped } ↔ report = other := by
  cases report
  cases other
  simp

theorem count_inj {report other : BatchReport} :
    ({ report with inserted := report.inserted + 1 } : BatchReport)
        = { other with inserted := other.inserted + 1 } ↔ report = other := by
  cases report
  cases other
  simp

/-- **A batch is reported alike** exactly when no lost link is in the way of an entry, and then the
same links are stored. -/
theorem report_eq_iff (fresh : String → String) {entries : List (String × Link)}
    (distinct : (entries.map (·.1)).Nodup) (narrowed : Narrowed old scope full part) :
    ((part.insertEntries fresh entries).report = (full.insertEntries fresh entries).report ↔
        ∀ skip ∈ (full.insertEntries fresh entries).report.skipped, ¬ Lost old scope skip.2) ∧
      ((part.insertEntries fresh entries).report = (full.insertEntries fresh entries).report →
        (part.insertEntries fresh entries).created
          = (full.insertEntries fresh entries).created) := by
  induction entries generalizing full part with
  | nil => simp [insertEntries]
  | cons entry rest ih =>
      obtain ⟨key, link⟩ := entry
      rw [List.map_cons, List.nodup_cons] at distinct
      have compared := narrowed.compared (narrowed.sound.insertion fresh (key, link))
        (narrowed.part_sound.insertion fresh (key, link))
      have partSound := narrowed.part_sound.insert (fresh key) key link
      generalize wholeInserted : full.insert (fresh key) key link = whole at compared
      generalize partInserted : part.insert (fresh key) key link = answer at compared partSound
      cases compared with
      | @lost holder answer lost other =>
          have unlike : (part.insertEntries fresh ((key, link) :: rest)).report
              ≠ (full.insertEntries fresh ((key, link) :: rest)).report := by
            intro same
            have named := congrArg BatchReport.skipped same
            obtain ⟨outcome, after⟩ := answer
            cases outcome with
            | created stored =>
                -- The part stored the entry, so its report names only later ones.
                simp only [insertEntries, wholeInserted, partInserted] at named
                have later := (insertEntries_filed fresh distinct.2 partSound).order.subset
                refine distinct.1 (later ?_)
                rw [named]
                exact List.mem_cons_self
            | existing found =>
                simp only [insertEntries, wholeInserted, partInserted] at named
                obtain ⟨head, -⟩ := List.cons.inj named
                exact other (congrArg Inserted.existing (Prod.mk.inj head).2)
          refine ⟨iff_of_false unlike fun known => ?_, fun same => absurd same unlike⟩
          simp only [insertEntries, wholeInserted] at known
          exact known _ List.mem_cons_self lost
      | refused known =>
          obtain ⟨alike, created⟩ := ih distinct.2 narrowed
          simp only [insertEntries, wholeInserted, partInserted, skip_inj, List.forall_mem_cons,
            alike]
          exact ⟨(and_iff_right known).symm, fun all => created (alike.mpr all)⟩
      | stored narrowed =>
          obtain ⟨alike, created⟩ := ih distinct.2 narrowed
          simp only [insertEntries, wholeInserted, partInserted, count_inj, alike]
          exact ⟨trivial, fun all => congrArg _ (created (alike.mpr all))⟩

end Narrowed

end LinkIndex

namespace Copies

open DatabaseKeeper (InTheWay linkMapOf rowsInTheWay)

variable {links : List Link} {index : LinkIndex}

/-- The index of the rows in the way of a batch knows the links in its way. -/
theorem narrowed_rowsInTheWay (copies : Copies links index) (reads : ReadOrder)
    (fresh : String → String) (batch : LinkMap) :
    LinkIndex.Narrowed index.byKey (InTheWay batch.toList) index
      (.ofMap (linkMapOf (rowsInTheWay reads (links.map Link.toRow) fresh batch))) := by
  have agree : ∀ row ∈ rowsInTheWay reads (links.map Link.toRow) fresh batch,
      ∀ twin ∈ rowsInTheWay reads (links.map Link.toRow) fresh batch,
        row.key = twin.key → row = twin := by
    intro row mem twin twinMem same
    obtain ⟨link, stored, rfl⟩ := List.mem_map.mp (DatabaseKeeper.mem_rowsInTheWay.mp mem).1
    obtain ⟨other, otherStored, rfl⟩ :=
      List.mem_map.mp (DatabaseKeeper.mem_rowsInTheWay.mp twinMem).1
    rw [copies.eq_of_key stored otherStored same]
  have keyed :
      LinkMap.Keyed (linkMapOf (rowsInTheWay reads (links.map Link.toRow) fresh batch)) := by
    intro key link found
    obtain ⟨row, -, rfl, rfl⟩ := (DatabaseKeeper.getElem?_linkMapOf agree).mp found
    rfl
  refine ⟨copies.sound, copies.uniqueUrls, LinkIndex.sound_ofList keyed (.refl _),
    fun _ _ => id, fun key link => ?_⟩
  rw [LinkIndex.ofMap, LinkIndex.byKey_ofList (.refl _), DatabaseKeeper.getElem?_linkMapOf agree]
  constructor
  · rintro ⟨row, mem, rfl, rfl⟩
    obtain ⟨among, way⟩ := DatabaseKeeper.mem_rowsInTheWay.mp mem
    obtain ⟨before, stored, rfl⟩ := List.mem_map.mp among
    exact .inl ⟨before, copies.mem_iff.mp stored, way, rfl⟩
  · rintro (⟨before, found, way, rfl⟩ | ⟨nowhere, found⟩)
    · obtain ⟨stored, rfl⟩ := (copies.holds key before).mp found
      exact ⟨before.toRow,
        DatabaseKeeper.mem_rowsInTheWay.mpr ⟨List.mem_map_of_mem stored, way⟩, rfl, rfl⟩
    · rw [nowhere] at found
      nomatch found

end Copies

end ShortLinks
