import ShortLinks.Deletion.Sink
import ShortLinks.Proofs.Deletion.Marking
import ShortLinks.Proofs.Keeper.Restarts

/-!
Gathered deletions.

* `gathered_wishes` — the buffer asks for what the requests that were pushed into it ask for.
* `Additive` — a keeper that carries out deletions one after another as it carries them out
  together, whatever their order and repetition. The keeper in memory is one, and so is the keeper
  of two files on a disk in order: of two times that it writes its file anew, the later one counts.
* `Coalesces`, `coalescing_transparent` — over such a keeper, carrying out the buffer once leaves
  store and keeper as carrying out the requests one by one.
-/

namespace ShortLinks

/-! ### The buffer -/

/-- The buffer after requests that come one after the other. -/
def PendingBuffer.gathered (requests : List DeletionRequest) : PendingBuffer :=
  requests.foldl PendingBuffer.push {}

/-- The buffer asks for what the requests ask for. -/
theorem PendingBuffer.gathered_wishes (requests : List DeletionRequest) :
    SameWishes (gathered requests).requests requests := by
  intro pair
  rw [gathered, mem_foldl_push]
  simp

/-! ### Indexes -/

namespace LinkIndex

variable {index : LinkIndex} {requests other : List DeletionRequest}

theorem tombstone_congr (same : SameWishes requests other) :
    index.tombstone requests = index.tombstone other := by
  simp only [tombstone, LinkMap.tombstone_congr same]

theorem tombstone_append (index : LinkIndex) (first later : List DeletionRequest) :
    index.tombstone (first ++ later) = (((index.tombstone first).1.tombstone later).1,
      (index.tombstone first).2 || ((index.tombstone first).1.tombstone later).2) := by
  simp only [tombstone, LinkMap.tombstone_append]

end LinkIndex

/-! ### Keepers -/

/-- A keeper that, in these states, takes every list of deletions. What it does depends on what they
ask for alone, and one list after another does what both do together. -/
structure Additive {κ : Type} [Keeper κ] (Fit : κ → Prop) : Prop where
  taken : ∀ k, Fit k → ∀ requests, (Keeper.updateBatch requests k).1 = .ok ()
  fit : ∀ k, Fit k → ∀ requests, Fit (Keeper.updateBatch requests k).2
  nothing : ∀ k, Fit k → (Keeper.updateBatch [] k).2 = k
  congr : ∀ k, Fit k → ∀ requests other, SameWishes requests other →
    (Keeper.updateBatch requests k).2 = (Keeper.updateBatch other k).2
  append : ∀ k, Fit k → ∀ first later, (Keeper.updateBatch (first ++ later) k).2
    = (Keeper.updateBatch later (Keeper.updateBatch first k).2).2

theorem MemoryKeeper.additive : Additive fun _ : MemoryKeeper => True where
  taken _ _ _ := rfl
  fit _ _ _ := trivial
  nothing _ _ := rfl
  congr k _ requests other same :=
    congrArg (fun links : LinkIndex × Bool => ({ k with links := links.1 } : MemoryKeeper))
      (LinkIndex.tombstone_congr same)
  append k _ first later := by
    change MemoryKeeper.mk (k.links.tombstone (first ++ later)).1 k.users
      = ⟨((k.links.tombstone first).1.tombstone later).1, k.users⟩
    rw [LinkIndex.tombstone_append]

namespace FileKeeper

variable {s : FileKeeper × Disk} {source target : String}

/-- What deletions do to a keeper whose draft and links stand at these names. -/
def marked (source target : String) (requests : List DeletionRequest)
    (s : FileKeeper × Disk) : FileKeeper × Disk :=
  let (links, changed) := s.1.links.tombstone requests
  ({ s.1 with links := links },
    if changed then s.2.replaced source target (encodeLines Link.toJson (sortedLinks links))
    else s.2)

/-- Where the draft and the links of a keeper stand. -/
structure StandsAt (source target : String) (s : FileKeeper × Disk) : Prop where
  draft : s.2.fileName (draftPath s.1.linksPath) = .ok source
  links : s.2.fileName s.1.linksPath = .ok target

theorem Ready.standsAt (ready : Ready s) : ∃ source target, StandsAt source target s := by
  obtain ⟨source, draft⟩ := ready.draft
  obtain ⟨target, links⟩ := ready.links
  exact ⟨source, target, draft, links⟩

/-- On a disk in order, deletions write the file anew if they change anything. -/
theorem StandsAt.updateBatch_eq (stands : StandsAt source target s) (ready : Ready s)
    (requests : List DeletionRequest) :
    updateBatch requests s = (.ok (), marked source target requests s) := by
  obtain ⟨k, disk⟩ := s
  unfold updateBatch marked
  cases marking : k.links.tombstone requests with
  | mk index changed =>
      cases changed with
      | false =>
          have same : index = k.links := by
            simpa [marking] using LinkIndex.tombstone_eq_self (congrArg Prod.snd marking)
          simp [marking, same]
      | true =>
          simp [marking, writeAnew_eq ready.willing stands.draft stands.links]

theorem StandsAt.sameTree (stands : StandsAt source target s) (requests : List DeletionRequest) :
    s.2.SameTree (marked source target requests s).2 := by
  unfold marked
  dsimp only
  split
  · exact Disk.sameTree_replaced (Disk.fileName_ok_iff.mp stands.draft).2
      (Disk.fileName_ok_iff.mp stands.links).2 _
  · exact .refl s.2

theorem StandsAt.marked (stands : StandsAt source target s) (requests : List DeletionRequest) :
    StandsAt source target (marked source target requests s) where
  draft := (stands.sameTree requests).fileName_ok_iff.mpr stands.draft
  links := (stands.sameTree requests).fileName_ok_iff.mpr stands.links

theorem StandsAt.ready_marked (stands : StandsAt source target s) (ready : Ready s)
    (requests : List DeletionRequest) : Ready (FileKeeper.marked source target requests s) :=
  ready.of_sameTree (stands.sameTree requests)

/-- Deletions after others do what both do together: if the file is written anew twice, the later
time counts. -/
theorem marked_append (source target : String) (first later : List DeletionRequest)
    (s : FileKeeper × Disk) : marked source target (first ++ later) s
      = marked source target later (marked source target first s) := by
  obtain ⟨k, disk⟩ := s
  unfold marked
  rw [LinkIndex.tombstone_append]
  cases firstMarking : k.links.tombstone first with
  | mk index changed =>
      dsimp only
      cases laterMarking : index.tombstone later with
      | mk final changedAgain =>
          cases changedAgain with
          | true => cases changed <;> simp [Disk.replaced_replaced]
          | false =>
              have same : final = index := by
                simpa [laterMarking] using
                  LinkIndex.tombstone_eq_self (congrArg Prod.snd laterMarking)
              simp [same]

/-- The keeper of two files on a disk in order. -/
theorem additive : Additive Ready where
  taken s ready requests := ready.updateBatch requests
  fit := by
    intro s ready requests
    obtain ⟨source, target, stands⟩ := ready.standsAt
    change Ready (updateBatch requests s).2
    rw [stands.updateBatch_eq ready]
    exact stands.ready_marked ready requests
  nothing _ _ := rfl
  congr := by
    intro s ready requests other same
    change (updateBatch requests s).2 = (updateBatch other s).2
    simp only [updateBatch, LinkIndex.tombstone_congr same]
  append := by
    intro s ready first later
    obtain ⟨source, target, stands⟩ := ready.standsAt
    change (updateBatch (first ++ later) s).2 = (updateBatch later (updateBatch first s).2).2
    rw [stands.updateBatch_eq ready, stands.updateBatch_eq ready, marked_append,
      (stands.marked first).updateBatch_eq (stands.ready_marked ready first)]

end FileKeeper

/-! ### Stores -/

section Stores

variable {κ : Type} [Keeper κ] {Fit : κ → Prop} {s : Store × κ}

/-- Deletions over such a keeper mark the table of the store and are handed on. -/
theorem Additive.apply_eq (additive : Additive Fit) (fit : Fit s.2)
    (requests : List DeletionRequest) : DeletionSink.apply requests s
      = (.ok (), { s.1 with links := (LinkMap.tombstone s.1.links requests).1 },
          (Keeper.updateBatch requests s.2).2) := by
  obtain ⟨store, keeper⟩ := s
  simp only [DeletionSink.apply, Store.deleteLinks]
  split
  · next noKeys =>
      have blank := Store.pairs_of_noKeys noKeys
      have same : (Keeper.updateBatch requests keeper).2 = keeper :=
        (additive.congr keeper fit requests [] fun pair => by rw [blank]; rfl).trans
          (additive.nothing keeper fit)
      rw [same, LinkMap.tombstone, blank]
      rfl
  · have taken := additive.taken keeper fit requests
    cases answered : Keeper.updateBatch requests keeper with
    | mk answer after =>
        obtain rfl : answer = .ok () := by rw [← taken, answered]
        rfl

/-- Store and keeper after one more request. -/
def carriedOut {σ : Type} [DeletionSink σ] (s : σ) (request : DeletionRequest) : σ :=
  (DeletionSink.apply [request] s).2

/-- Is a request carried out? -/
def IsTaken {σ : Type} [DeletionSink σ] (s : σ) (request : DeletionRequest) : Prop :=
  (DeletionSink.apply [request] s).1 = .ok ()

/-- Carrying out all requests at once does what carrying them out one by one does, and both go
well. -/
structure Coalesces {σ : Type} [DeletionSink σ] (s : σ) (requests : List DeletionRequest) :
    Prop where
  oneByOne : Along carriedOut IsTaken s requests
  together : DeletionSink.apply (PendingBuffer.gathered requests).requests s
    = (.ok (), requests.foldl carriedOut s)

theorem Additive.foldl_carriedOut (additive : Additive Fit) (fit : Fit s.2)
    (requests : List DeletionRequest) :
    requests.foldl carriedOut s = (DeletionSink.apply requests s).2 := by
  induction requests generalizing s with
  | nil => rw [additive.apply_eq fit, additive.nothing _ fit]; rfl
  | cons first rest ih =>
      have joined : first :: rest = [first] ++ rest := rfl
      have step := additive.apply_eq fit [first]
      have fitAfter : Fit (carriedOut s first).2 := by
        rw [carriedOut, step]
        exact additive.fit s.2 fit [first]
      rw [List.foldl_cons, ih fitAfter, additive.apply_eq fitAfter, additive.apply_eq fit,
        carriedOut, step, joined, additive.append s.2 fit, LinkMap.tombstone_append]

/-- Over an additive keeper, gathering requests makes no difference. -/
theorem Additive.coalesces (additive : Additive Fit) (fit : Fit s.2)
    (requests : List DeletionRequest) : Coalesces s requests where
  oneByOne := by
    have stays (s : Store × κ) (request : DeletionRequest) (fit : Fit s.2) :
        Fit (carriedOut s request).2 := by
      rw [carriedOut, additive.apply_eq fit]
      exact additive.fit s.2 fit [request]
    have taken (s : Store × κ) (request : DeletionRequest) (fit : Fit s.2) :
        IsTaken s request := by
      rw [IsTaken, additive.apply_eq fit]
    exact along_of_step stays taken fit
  together := by
    have same := PendingBuffer.gathered_wishes requests
    rw [additive.foldl_carriedOut fit, additive.apply_eq fit, additive.apply_eq fit,
      additive.congr s.2 fit _ _ same, LinkMap.tombstone_congr same]

end Stores

/-- **Gathering deletions is transparent.** Requests are pushed into an empty buffer in order, and
the buffer is carried out once. This leaves the table of the store and all that the keeper holds, on
the disk too, exactly as carrying out the requests one after the other; the keeper is one in memory,
or one of two files on a disk in order. -/
theorem coalescing_transparent (requests : List DeletionRequest) :
    (∀ s : Store × MemoryKeeper, Coalesces s requests) ∧
      ∀ s : Store × (FileKeeper × Disk), FileKeeper.Ready s.2 → Coalesces s requests :=
  ⟨fun _ => MemoryKeeper.additive.coalesces trivial requests,
    fun _ ready => FileKeeper.additive.coalesces ready requests⟩

/-- Requests of two owners that take turns; one key comes twice. -/
def turnAbout : List DeletionRequest := [⟨"ann", ["a"]⟩, ⟨"bob", ["b"]⟩, ⟨"ann", ["c", "a"]⟩]

/-- A store over two files that are not there yet, on an empty disk. -/
def overFiles : Store × (FileKeeper × Disk) :=
  (⟨ownedAndAnonymous, ∅⟩, (⟨"/links", "/users", .ofMap ownedAndAnonymous, {}⟩, {}))

theorem coalescing_transparent_turnAbout :
    Coalesces ((⟨ownedAndAnonymous, ∅⟩, {}) : Store × MemoryKeeper) turnAbout ∧
      FileKeeper.Ready overFiles.2 ∧ Coalesces overFiles turnAbout := by
  have ready : FileKeeper.Ready overFiles.2 :=
    FileKeeper.newFiles_sample.2.of_sameTree (.refl _)
  obtain ⟨memory, files⟩ := coalescing_transparent turnAbout
  exact ⟨memory _, ready, files overFiles ready⟩

end ShortLinks
