import ShortLinks.Proofs.Link.Key
import ShortLinks.Proofs.Url.Plain

/-!
The spellings of a short link.

* `PlainLink` — a host of small letters, folders and a key of plain characters, with slashes to
  spare and whatever query or fragment follows. It can be written in full, as a path, or as its key
  alone.
* `keyOf_spellings` — every spelling names the same key. The address is read to its path, and from
  there on path and address are read alike.
-/

namespace ShortLinks

open Url (isNameChar isPathChar OpensTail webScheme)

/-- What a short link of plain names is made of. -/
structure PlainLink where
  /-- Is the scheme `https`, or else `http`? -/
  secure : Bool
  host : List Char
  /-- The names before the key, each with the number of extra slashes before it. -/
  folders : List (Nat × List Char)
  /-- The number of extra slashes before the key. -/
  extra : Nat
  key : List Char
  /-- The number of slashes at the end. -/
  atEnd : Nat
  /-- Query and fragment. -/
  tail : List Char
  host_ne : host ≠ []
  host_letters : ∀ c ∈ host, c.isLower = true
  folders_ne : ∀ folder ∈ folders, folder.2 ≠ []
  folders_plain : ∀ folder ∈ folders, ∀ c ∈ folder.2, isNameChar c = true
  key_ne : key ≠ []
  key_plain : ∀ c ∈ key, isNameChar c = true
  opensTail : OpensTail tail

namespace PlainLink

/-- Names, each behind a slash and some extra ones. -/
def slashed (names : List (Nat × List Char)) : List Char :=
  names.flatMap fun name => '/' :: (List.replicate name.1 '/' ++ name.2)

variable (l : PlainLink)

/-- The path: folders, key, and slashes. -/
def path : List Char :=
  slashed (l.folders ++ [(l.extra, l.key)]) ++ List.replicate l.atEnd '/'

/-- The short link as an address. -/
def inFull : String :=
  String.ofList (webScheme l.secure ++ "://".toList ++ l.host ++ l.path ++ l.tail)

/-- The short link as a path. -/
def asPath : String := String.ofList l.path

/-- The short link as a key. -/
def bare : String := String.ofList l.key

theorem path_eq : l.path = slashed l.folders ++ List.replicate l.extra '/' ++
    '/' :: (l.key ++ List.replicate l.atEnd '/') := by
  have slashes : '/' :: List.replicate l.extra '/' = List.replicate l.extra '/' ++ ['/'] := by
    rw [← List.replicate_succ, List.replicate_succ']
  simp only [path, slashed, List.flatMap_append, List.flatMap_singleton]
  rw [← List.cons_append, slashes]
  simp

theorem exists_path_eq_cons : ∃ rest, l.path = '/' :: rest := by
  unfold path slashed
  cases l.folders with
  | nil => exact ⟨_, rfl⟩
  | cons folder others => exact ⟨_, rfl⟩

theorem path_plain : ∀ c ∈ l.path, isPathChar c = true := by
  have name {cs : List Char} (plain : ∀ c ∈ cs, isNameChar c = true) :
      ∀ c ∈ cs, isPathChar c = true := fun c mem => by simp [isPathChar, plain c mem]
  have slashes {n : Nat} : ∀ c ∈ List.replicate n '/', isPathChar c = true := by
    intro c mem
    obtain rfl := List.eq_of_mem_replicate mem
    decide
  intro c mem
  rw [path_eq, List.mem_append, List.mem_append, List.mem_cons, List.mem_append] at mem
  rcases mem with (inFolders | extra) | rfl | inKey | atEnd
  · obtain ⟨folder, among, inside⟩ := List.mem_flatMap.mp inFolders
    rcases List.mem_cons.mp inside with rfl | inside
    · decide
    · rcases List.mem_append.mp inside with extra | inName
      · exact slashes c extra
      · exact name (l.folders_plain folder among) c inName
  · exact slashes c extra
  · decide
  · exact name l.key_plain c inKey
  · exact slashes c atEnd

theorem slash_notMem_key : '/' ∉ l.key := fun mem =>
  absurd (l.key_plain '/' mem) (by decide)

/-- Both spellings of a path end in the key. -/
theorem lastSegment_path : lastSegment (trimSlashes l.path) = l.key := by
  rw [path_eq]
  exact lastSegment_trimSlashes_append _ l.key_ne l.slash_notMem_key l.atEnd

/-- **Every spelling of a short link names its key**: the full address, whatever slashes it has to
spare and whatever query or fragment follows, the path, and the key alone. -/
theorem keyOf_spellings :
    keyOf l.inFull = l.bare ∧ keyOf l.asPath = l.bare ∧ keyOf l.bare = l.bare := by
  refine ⟨?_, ?_, ?_⟩
  · obtain ⟨rest, path⟩ := l.exists_path_eq_cons
    have plain : ∀ c ∈ rest, isPathChar c = true := fun c mem =>
      l.path_plain c (path ▸ List.mem_cons_of_mem _ mem)
    rw [keyOf, inFull, path, String.toList_ofList,
      Url.hostedPath?_of_plain l.host_ne l.host_letters plain l.opensTail, Option.getD_some, ← path,
      lastSegment_path, bare]
  · have noColon : ':' ∉ l.path := fun mem => absurd (l.path_plain ':' mem) (by decide)
    rw [asPath, keyOf_of_noColon (by rwa [String.toList_ofList]), String.toList_ofList,
      lastSegment_path, bare]
  · have noColon : ':' ∉ l.key := fun mem => absurd (l.key_plain ':' mem) (by decide)
    rw [bare, keyOf_eq_self_iff, String.toList_ofList]
    exact ⟨l.slash_notMem_key, Url.hostedPath?_eq_none_of_notMem noColon⟩

/-- A key in a folder, with slashes to spare, a query and a fragment. -/
def sample : PlainLink where
  secure := false
  host := "local".toList
  folders := [(0, "x".toList)]
  extra := 1
  key := "a_b-C".toList
  atEnd := 1
  tail := "?q=/no#way".toList
  host_ne := by decide
  host_letters := List.all_eq_true.mp (by decide)
  folders_ne := by decide
  folders_plain := List.forall_mem_singleton.mpr (List.all_eq_true.mp (by decide))
  key_ne := by decide
  key_plain := List.all_eq_true.mp (by decide)
  opensTail := fun _ mem => .inl (Option.some.inj mem).symm

theorem keyOf_spellings_sample :
    sample.inFull = "http://local/x//a_b-C/?q=/no#way" ∧ sample.asPath = "/x//a_b-C/" ∧
      keyOf "http://local/x//a_b-C/?q=/no#way" = "a_b-C" ∧ keyOf "/x//a_b-C/" = "a_b-C" := by
  have inFull : sample.inFull = "http://local/x//a_b-C/?q=/no#way" := by decide
  have asPath : sample.asPath = "/x//a_b-C/" := by decide
  have spellings := sample.keyOf_spellings
  rw [inFull, asPath] at spellings
  exact ⟨inFull, asPath, spellings.1, spellings.2.1⟩

end PlainLink

end ShortLinks
