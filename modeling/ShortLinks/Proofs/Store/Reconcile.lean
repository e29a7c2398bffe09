import ShortLinks.Proofs.Link.Table
import ShortLinks.Store

/-!
The two passes of a batch over the table in memory, entry by entry.

* `mergeEntries` — the optimistic merge keeps what stands in the table, lets in entries whose key
  and address are free, and leaves every other one out for a reason (`of_getElem?_mergeEntries`,
  `mergeEntries_covers`). It keeps addresses unique.
* `getElem?_reconcile` — correcting the table for the skipped entries brings in the links that
  stood in the way, and takes out exactly what is *withdrawn*. The order of the skipped entries
  matters only there.
-/

namespace ShortLinks

namespace Store

theorem leadsTo_iff {links : LinkMap} {url : String} :
    leadsTo links url = true ↔ LinkMap.Leads links url := by
  simp [leadsTo, LinkMap.Leads, List.any_eq_true, Std.ExtTreeMap.mem_toList_iff_getElem?_eq_some]

/-! ### The optimistic merge -/

/-- An entry comes in if its key and its address are free; otherwise nothing changes. -/
theorem mergeEntry_cases (links : LinkMap) (entry : String × Link) :
    (mergeEntry links entry = links ∧
        (links[entry.1]? ≠ none ∨ LinkMap.Leads links entry.2.originalUrl)) ∨
      (mergeEntry links entry = links.insert entry.1 entry.2 ∧
        links[entry.1]? = none ∧ ¬ LinkMap.Leads links entry.2.originalUrl) := by
  have taken_iff : links.contains entry.1 = true ↔ links[entry.1]? ≠ none := by
    rw [Std.ExtTreeMap.contains_eq_isSome_getElem?, Option.isSome_iff_ne_none]
  unfold mergeEntry
  split
  · next busy =>
      rw [Bool.or_eq_true, taken_iff, leadsTo_iff] at busy
      exact .inl ⟨rfl, busy⟩
  · next free =>
      rw [Bool.or_eq_true, taken_iff, leadsTo_iff, not_or, Classical.not_not] at free
      exact .inr ⟨rfl, free⟩

/-- What stands in the table stays. -/
theorem getElem?_mergeEntries_of_some {links : LinkMap} {entries : List (String × Link)}
    {key : String} {link : Link} (found : links[key]? = some link) :
    (mergeEntries links entries)[key]? = some link := by
  induction entries generalizing links with
  | nil => exact found
  | cons entry rest ih =>
      refine ih ?_
      rcases mergeEntry_cases links entry with ⟨same, -⟩ | ⟨more, free, -⟩
      · rwa [same]
      · have other : entry.1 ≠ key := by
          rintro rfl
          rw [free] at found
          cases found
        rw [more]
        simpa [Std.ExtTreeMap.getElem?_insert, other] using found

/-- What stands in the merged table was there before, or came in where key and address were
free. -/
theorem of_getElem?_mergeEntries {links : LinkMap} {entries : List (String × Link)}
    {key : String} {link : Link} (found : (mergeEntries links entries)[key]? = some link) :
    links[key]? = some link ∨
      links[key]? = none ∧ (key, link) ∈ entries ∧ ¬ LinkMap.Leads links link.originalUrl := by
  induction entries generalizing links with
  | nil => exact .inl found
  | cons entry rest ih =>
      rcases mergeEntry_cases links entry with ⟨same, -⟩ | ⟨more, free, unled⟩
      · rcases ih found with old | ⟨none_before, mem, unledBefore⟩
        · exact .inl (same ▸ old)
        · rw [same] at none_before unledBefore
          exact .inr ⟨none_before, List.mem_cons_of_mem _ mem, unledBefore⟩
      · by_cases own : entry.1 = key
        · subst own
          obtain rfl : entry.2 = link := by
            have came : (mergeEntry links entry)[entry.1]? = some entry.2 := by rw [more]; simp
            exact Option.some.inj ((getElem?_mergeEntries_of_some came).symm.trans found)
          exact .inr ⟨free, List.mem_cons_self, unled⟩
        · have elsewhere : (mergeEntry links entry)[key]? = links[key]? := by
            rw [more]
            simp [Std.ExtTreeMap.getElem?_insert, own]
          rcases ih found with old | ⟨none_before, mem, unledBefore⟩
          · exact .inl (elsewhere ▸ old)
          · refine .inr ⟨elsewhere ▸ none_before, List.mem_cons_of_mem _ mem, ?_⟩
            rintro ⟨other, twin, present, leads⟩
            have still : (mergeEntries links [entry])[other]? = some twin :=
              getElem?_mergeEntries_of_some present
            exact unledBefore ⟨other, twin, still, leads⟩

/-- An entry that does not come in finds its key taken or its address led to. -/
theorem mergeEntries_covers {links : LinkMap} {entries : List (String × Link)}
    {key : String} {link : Link} (mem : (key, link) ∈ entries) :
    (mergeEntries links entries)[key]? ≠ none ∨
      LinkMap.Leads (mergeEntries links entries) link.originalUrl := by
  induction entries generalizing links with
  | nil => cases mem
  | cons entry rest ih =>
      rcases List.mem_cons.mp mem with rfl | mem
      · rcases mergeEntry_cases links (key, link) with ⟨same, taken | led⟩ | ⟨more, -, -⟩
        · obtain ⟨there, found⟩ := Option.ne_none_iff_exists'.mp taken
          refine .inl fun none_after => ?_
          rw [getElem?_mergeEntries_of_some found] at none_after
          cases none_after
        · obtain ⟨other, twin, present, leads⟩ := led
          exact .inr ⟨other, twin, getElem?_mergeEntries_of_some present, leads⟩
        · have came : (mergeEntry links (key, link))[key]? = some link := by rw [more]; simp
          refine .inl fun none_after => ?_
          rw [show mergeEntries links ((key, link) :: rest)
            = mergeEntries (mergeEntry links (key, link)) rest from rfl,
            getElem?_mergeEntries_of_some came] at none_after
          cases none_after
      · exact ih mem

/-- The merge keeps addresses unique. -/
theorem uniqueUrls_mergeEntries {links : LinkMap} (unique : LinkMap.UniqueUrls links)
    (entries : List (String × Link)) : LinkMap.UniqueUrls (mergeEntries links entries) := by
  induction entries generalizing links with
  | nil => exact unique
  | cons entry rest ih =>
      refine ih ?_
      rcases mergeEntry_cases links entry with ⟨same, -⟩ | ⟨more, -, unled⟩
      · rwa [same]
      · rw [more]
        exact unique.insert_iff.mpr fun other twin found leads =>
          absurd ⟨other, twin, found, leads⟩ unled

/-! ### Reconciliation -/

/-- The keys under which the skipped entries name a link that stood in the way. -/
def named (skipped : List (String × Link)) : List String := skipped.map (·.2.key)

/-- Is this link under this key taken out when the table is corrected? That is so when an entry
of the batch under the key bears its identity and was skipped for a link under another key, and
no later skipped entry names a link under the key. -/
def Withdrawn (batch : LinkMap) : List (String × Link) → String → Link → Prop
  | [], _, _ => False
  | skip :: rest, key, link =>
      (skip.1 = key ∧ skip.2.key ≠ key ∧ batch[key]?.any (·.id = link.id) = true ∧
        key ∉ named rest) ∨
      Withdrawn batch rest key link

/-- Only an entry that was skipped is ever withdrawn. -/
theorem Withdrawn.requested {batch : LinkMap} {skipped : List (String × Link)} {key : String}
    {link : Link} (withdrawn : Withdrawn batch skipped key link) :
    key ∈ skipped.map (·.1) ∧ batch[key]?.any (·.id = link.id) = true := by
  induction skipped with
  | nil => cases withdrawn
  | cons skip rest ih =>
      rcases withdrawn with ⟨rfl, -, bears, -⟩ | later
      · exact ⟨List.mem_cons_self, bears⟩
      · exact (ih later).imp (List.mem_cons_of_mem _) id

/-- Under a key that no skipped entry names, a link goes exactly when the entry of the batch
under that key was skipped and bears its identity. -/
theorem withdrawn_iff_of_notMem {batch : LinkMap} {skipped : List (String × Link)} {key : String}
    (unnamed : key ∉ named skipped) (link : Link) :
    Withdrawn batch skipped key link ↔
      key ∈ skipped.map (·.1) ∧ batch[key]?.any (·.id = link.id) = true := by
  refine ⟨Withdrawn.requested, ?_⟩
  rintro ⟨requested, bears⟩
  induction skipped with
  | nil => cases requested
  | cons skip rest ih =>
      rw [named, List.map_cons, List.mem_cons, not_or] at unnamed
      rcases List.mem_cons.mp requested with rfl | later
      · exact .inl ⟨rfl, Ne.symm unnamed.1, bears, unnamed.2⟩
      · exact .inr (ih unnamed.2 later)

instance Withdrawn.decidable (batch : LinkMap) : ∀ (skipped : List (String × Link))
    (key : String) (link : Link), Decidable (Withdrawn batch skipped key link)
  | [], _, _ => inferInstanceAs (Decidable False)
  | skip :: rest, key, link =>
      letI := Withdrawn.decidable batch rest key link
      inferInstanceAs (Decidable
        ((skip.1 = key ∧ skip.2.key ≠ key ∧ batch[key]?.any (·.id = link.id) = true ∧
            key ∉ named rest) ∨
          Withdrawn batch rest key link))

theorem reconcile_cons (batch links : LinkMap) (skip : String × Link)
    (rest : List (String × Link)) : reconcile batch links (skip :: rest)
      = reconcile batch (reconcileEntry batch links skip) rest := by
  simp only [reconcile, List.foldl_cons]

/-- Of a skipped entry, the record under the requested key goes if the entry of the batch bears
its identity and the holder stands elsewhere; then the holder comes in. -/
theorem reconcileEntry_eq (batch links : LinkMap) (requested : String) (holder : Link) :
    reconcileEntry batch links (requested, holder)
      = (if requested ≠ holder.key &&
            links[requested]?.any (fun current => batch[requested]?.any (·.id = current.id)) then
          links.erase requested
        else links).insert holder.key holder := by
  cases mine : batch[requested]? with
  | none => simp [reconcileEntry, mine]
  | some mine =>
      cases current : links[requested]? with
      | none => simp [reconcileEntry, mine, current]
      | some current => simp [reconcileEntry, *]

/-- Under its own key the holder comes in. -/
theorem getElem?_reconcileEntry_self (batch links : LinkMap) (skip : String × Link) :
    (reconcileEntry batch links skip)[skip.2.key]? = some skip.2 := by
  simp [reconcileEntry]

/-- Under every other key what stood there stays, unless it was requested and is withdrawn. -/
theorem getElem?_reconcileEntry_of_ne (batch links : LinkMap) {skip : String × Link}
    {key : String} (other : skip.2.key ≠ key) (link : Link) :
    (reconcileEntry batch links skip)[key]? = some link ↔
      links[key]? = some link ∧
        ¬ (skip.1 = key ∧ batch[key]?.any (·.id = link.id) = true) := by
  obtain ⟨requested, holder⟩ := skip
  rw [reconcileEntry_eq]
  dsimp only at other ⊢
  generalize holder.key = target at other ⊢
  rw [Std.ExtTreeMap.getElem?_insert, if_neg (by simpa using other)]
  by_cases own : requested = key
  · subst own
    cases found : links[requested]? with
    | none => simp [found]
    | some current =>
      by_cases bears : batch[requested]?.any (·.id = current.id) = true
      · have goes : current = link → batch[requested]?.any (·.id = link.id) = true :=
          fun same => same ▸ bears
        simpa [Ne.symm other, bears] using goes
      · have stays : current = link → batch[requested]?.any (·.id = link.id) = false :=
          fun same => same ▸ Bool.eq_false_iff.mpr bears
        simpa [found, bears] using stays
  · split <;> simp [Std.ExtTreeMap.getElem?_erase, own]

/-- **The corrected table, entry by entry.** The holders are links of one table `stored`, and no
key was requested twice. -/
theorem getElem?_reconcile (batch : LinkMap) {stored : LinkMap} {skipped : List (String × Link)}
    (holders : ∀ skip ∈ skipped, stored[skip.2.key]? = some skip.2)
    (distinct : (skipped.map (·.1)).Nodup) (links : LinkMap) (key : String) (link : Link) :
    (reconcile batch links skipped)[key]? = some link ↔
      (if key ∈ named skipped then stored[key]? else links[key]?) = some link ∧
        ¬ Withdrawn batch skipped key link := by
  induction skipped generalizing links with
  | nil => simp [reconcile, named, Withdrawn]
  | cons skip rest ih =>
      rw [List.map_cons, List.nodup_cons] at distinct
      have present : stored[skip.2.key]? = some skip.2 := holders skip List.mem_cons_self
      have rest_holders : ∀ later ∈ rest, stored[later.2.key]? = some later.2 := fun later mem =>
        holders later (List.mem_cons_of_mem skip mem)
      rw [reconcile_cons, ih rest_holders distinct.2]
      have named_cons : key ∈ named (skip :: rest) ↔ key = skip.2.key ∨ key ∈ named rest :=
        List.mem_cons
      by_cases later : key ∈ named rest
      · -- A later entry goes over whatever this one does under the key.
        simp [named_cons, later, Withdrawn]
      · by_cases here : skip.2.key = key
        · -- The holder comes in under the key, and it is the stored link.
          have came : (reconcileEntry batch links skip)[key]? = stored[key]? := by
            rw [← here, present, getElem?_reconcileEntry_self]
          simp [named_cons, later, here, came, Withdrawn]
        · -- Neither this entry nor a later one names the key.
          have unnamed : key ∉ named (skip :: rest) := by simp [named_cons, Ne.symm here, later]
          simp only [later, unnamed, if_false]
          rw [getElem?_reconcileEntry_of_ne batch links here]
          simp [Withdrawn, here, later, not_or, and_assoc]

end Store

end ShortLinks
