import ShortLinks.Proofs.Disk.Drafts

/-!
Disks that differ in some files at most.

* `refusing`, `fileName_refusing` — which calls the system refuses has no part in where paths lead.
* `ChangesWithin` — two disks with the same directories that differ at given names at most. Adding
  to a file, writing it, and letting a draft take its place are such changes, and changes one after
  the other are.
* `ChangesWithin.at?_eq` — a path that leads to a file at none of these names leads to what it led
  to.
* `appended_ne` — a file that text was added to is not what stood there before.
-/

namespace ShortLinks

/-! ### Content -/

/-- Reading out bytes, from one of them on, in front of those that were read out before. -/
theorem length_toList_loop (bytes : ByteArray) (i : Nat) (read : List UInt8) :
    (ByteArray.toList.loop bytes i read).length = read.length + (bytes.size - i) := by
  fun_induction ByteArray.toList.loop bytes i read with
  | case1 i read inside ih =>
      rw [ih, List.length_cons]
      omega
  | case2 i read outside =>
      rw [List.length_reverse]
      omega

theorem Content.append_ne {text : String} (given : text ≠ "") (content : Content) :
    content.append text ≠ content := by
  cases content with
  | text standing =>
      intro same
      have length := congrArg String.length (Content.text.inj same)
      rw [String.length_append] at length
      have filled : text.length ≠ 0 := by simpa using given
      omega
  | binary bytes =>
      intro same
      have length := congrArg List.length (Content.binary.inj same)
      have size : text.toUTF8.toList.length = text.utf8ByteSize := by
        rw [ByteArray.toList, length_toList_loop, List.length_nil]
        simp
      rw [List.length_append, size] at length
      have filled : text.utf8ByteSize ≠ 0 := by simpa using given
      omega

namespace Disk

variable {d e f : Disk} {path name : String} {may : String → Prop}

/-- A file that text was added to is not what stood there before. -/
theorem appended_ne {text : String} (given : text ≠ "") (entry : Option Entry) :
    some (.file ((contentOf entry).append text)) ≠ entry := by
  rintro same
  cases entry with
  | none => cases same
  | some stands =>
      cases stands with
      | file content => exact content.append_ne given (Entry.file.inj (Option.some.inj same))
      | directory => cases same
      | database tables => cases same

/-! ### Refusals -/

/-- The disk while the system refuses these calls. -/
def refusing (d : Disk) (refuses : DiskCall → Option IoFailure) : Disk :=
  { d with refuses := refuses }

@[simp] theorem entry?_refusing (d : Disk) (refuses : DiskCall → Option IoFailure)
    (name : String) : Disk.entry? (d.refusing refuses) name = d.entry? name := rfl

theorem placeFrom_refusing (refuses : DiskCall → Option IoFailure) (dir : String)
    (names : List String) : (d.refusing refuses).placeFrom dir names = d.placeFrom dir names := by
  induction names generalizing dir with
  | nil => rfl
  | cons name rest ih =>
      cases rest with
      | nil => rfl
      | cons next others =>
          have entered : (d.refusing refuses).enter dir name = d.enter dir name := rfl
          have placed : (d.refusing refuses).lastPlace dir name = d.lastPlace dir name := rfl
          rw [placeFrom_cons (by simp), placeFrom_cons (by simp), placed, entered]
          simp only [ih]

theorem place_refusing (refuses : DiskCall → Option IoFailure) (path : String) :
    (d.refusing refuses).place path = d.place path := by
  unfold Disk.place
  simp only [placeFrom_refusing]
  rfl

theorem fileName_refusing (refuses : DiskCall → Option IoFailure) (path : String) :
    (d.refusing refuses).fileName path = d.fileName path := by
  unfold fileName
  simp only [place_refusing, entry?_refusing]

/-! ### Changes -/

/-- Another disk with the same directories, whose entries differ at these names at most. It may
refuse other calls. -/
structure ChangesWithin (may : String → Prop) (d e : Disk) : Prop where
  here : e.here = d.here
  directories : ∀ name, e.entry? name = some .directory ↔ d.entry? name = some .directory
  same : ∀ name, ¬ may name → e.entry? name = d.entry? name

theorem ChangesWithin.refl (may : String → Prop) (d : Disk) : ChangesWithin may d d :=
  ⟨rfl, fun _ => .rfl, fun _ _ => rfl⟩

theorem ChangesWithin.trans (first : ChangesWithin may d e) (later : ChangesWithin may e f) :
    ChangesWithin may d f where
  here := later.here.trans first.here
  directories name := (later.directories name).trans (first.directories name)
  same name outside := (later.same name outside).trans (first.same name outside)

theorem ChangesWithin.mono {more : String → Prop} (within : ChangesWithin may d e)
    (covers : ∀ name, may name → more name) : ChangesWithin more d e :=
  ⟨within.here, within.directories, fun name outside => within.same name (outside ∘ covers name)⟩

theorem changesWithin_refusing (may : String → Prop) (d : Disk)
    (refuses : DiskCall → Option IoFailure) : ChangesWithin may d (d.refusing refuses) :=
  ⟨rfl, fun _ => .rfl, fun _ _ => rfl⟩

/-- But for what the system refuses, the two have the same tree. -/
theorem ChangesWithin.sameTree (within : ChangesWithin may d e) :
    SameTree d (e.refusing d.refuses) :=
  ⟨within.here, rfl, within.directories⟩

theorem ChangesWithin.place_ok_iff (within : ChangesWithin may d e) {place : Place} :
    e.place path = .ok place ↔ d.place path = .ok place := by
  rw [← within.sameTree.place_ok_iff, place_refusing]

theorem ChangesWithin.fileName_ok_iff (within : ChangesWithin may d e) :
    e.fileName path = .ok name ↔ d.fileName path = .ok name := by
  rw [← within.sameTree.fileName_ok_iff, fileName_refusing]

theorem changesWithin_put (named : d.fileName path = .ok name) (mem : may name)
    (content : Content) : ChangesWithin may d (d.put name (.file content)) where
  here := rfl
  directories := (sameTree_put (Disk.fileName_ok_iff.mp named).2 content).directories
  same other outside := by
    rw [entry?_put (ne_root (Disk.fileName_ok_iff.mp named).2), if_neg]
    rintro rfl
    exact outside mem

theorem changesWithin_replaced {draft source target : String}
    (drafted : d.fileName draft = .ok source) (named : d.fileName path = .ok target)
    (memSource : may source) (memTarget : may target) (text : String) :
    ChangesWithin may d (d.replaced source target text) where
  here := rfl
  directories := (sameTree_replaced (Disk.fileName_ok_iff.mp drafted).2
    (Disk.fileName_ok_iff.mp named).2 text).directories
  same other outside := by
    rw [entry?_replaced (Disk.fileName_ok_iff.mp drafted).2 (Disk.fileName_ok_iff.mp named).2,
      if_neg, if_neg]
    · rintro rfl
      exact outside memSource
    · rintro rfl
      exact outside memTarget

/-! ### What a path leads to -/

/-- A path at which a file may be written leads to what stands at its name. -/
theorem at?_of_fileName (named : d.fileName path = .ok name) : d.at? path = d.entry? name := by
  obtain ⟨placed, plain⟩ := Disk.fileName_ok_iff.mp named
  rw [at?, find_of_place placed]
  cases stands : d.entry? name with
  | none => rfl
  | some entry => cases entry <;> rfl

/-- A file that is read may be written. -/
theorem writable_of_readText {text : String} (read : d.readText path = .ok text) :
    d.Writable path := by
  obtain ⟨-, read⟩ := of_unlessRefused read
  cases placed : d.place path with
  | error failure =>
      rw [find_of_failure placed] at read
      cases read
  | ok place =>
      obtain ⟨at_, onlyDirectory⟩ := place
      rw [find_of_place placed] at read
      refine ⟨at_, Disk.fileName_ok_iff.mpr ?_⟩
      rw [placed]
      cases stands : d.entry? at_ with
      | none =>
          rw [stands] at read
          cases read
      | some entry =>
          rw [stands] at read
          cases onlyDirectory <;> cases entry <;> simp_all

/-- A path at which no file may be written, or one that does not change, leads to what it led
to. -/
theorem ChangesWithin.at?_eq (within : ChangesWithin may d e)
    (free : ∀ name, d.fileName path = .ok name → ¬ may name) : e.at? path = d.at? path := by
  unfold at?
  cases placed : d.place path with
  | error failure =>
      cases placedAfter : e.place path with
      | error failureAfter =>
          rw [find_of_failure placed, find_of_failure placedAfter]
          rfl
      | ok place =>
          rw [within.place_ok_iff, placed] at placedAfter
          cases placedAfter
  | ok place =>
      obtain ⟨at_, onlyDirectory⟩ := place
      rw [find_of_place placed, find_of_place (within.place_ok_iff.mpr placed)]
      by_cases inside : may at_
      · have plainAfter := within.directories at_
        cases onlyDirectory with
        | true =>
            -- Only a directory could be reached by this path, and directories do not change.
            dsimp only
            generalize e.entry? at_ = after at plainAfter ⊢
            generalize d.entry? at_ = before at plainAfter ⊢
            grind [Except.toOption]
        | false =>
            have directory : d.entry? at_ = some .directory := by
              by_contra plain
              exact free at_ (Disk.fileName_ok_iff.mpr ⟨placed, plain⟩) inside
            rw [directory, plainAfter.mpr directory]
      · rw [within.same at_ inside]

end Disk

end ShortLinks
