import ShortLinks.Keeper.File
import ShortLinks.Proofs.Disk.Files
import ShortLinks.Proofs.Text.Lines

/-!
Where a draft stands.

* `length_placeFrom_lt` — a path with a longer last name leads further down, or to a longer name.
* `apart_draftPath` — so a draft never stands where the path leads that it is written for, whatever
  the path looks like.
* `apart_suffixes` — two suffixes that end differently keep a path's drafts apart.
* `apart_of_plain` — paths of plain names lead to different places if they are written differently.
* `at?`, `at?_put` — the entry that a path leads to, which a file at another place does not change.
-/

namespace ShortLinks

/-! ### Names -/

/-- A suffix without separators is a part of the last name. -/
theorem Text.cut_append_of_plain {isSeparator : Char → Bool} {suffix : List Char}
    (plain : ∀ c ∈ suffix, isSeparator c = false) (cs : List Char) :
    ∃ init last, cut isSeparator cs = init ++ [last] ∧
      cut isSeparator (cs ++ suffix) = init ++ [last ++ suffix] := by
  induction cs with
  | nil => exact ⟨[], [], rfl, cut_eq_singleton plain⟩
  | cons c rest ih =>
      obtain ⟨init, last, before, after⟩ := ih
      rw [List.cons_append, cut, cut, before, after]
      split
      · exact ⟨[] :: init, last, rfl, rfl⟩
      · cases init with
        | nil => exact ⟨[], c :: last, rfl, rfl⟩
        | cons first others => exact ⟨(c :: first) :: others, last, rfl, rfl⟩

namespace Disk

variable {d e : Disk} {path other dir name : String}

theorem names_append {suffix : String} (plain : '/' ∉ suffix.toList) (path : String) :
    ∃ init last, names path = init ++ [last] ∧
      names (path ++ suffix) = init ++ [last ++ suffix] := by
  have inside : ∀ c ∈ suffix.toList, decide (c = '/') = false := by
    intro c mem
    simpa using ne_of_mem_of_not_mem mem plain
  obtain ⟨init, last, before, after⟩ := Text.cut_append_of_plain inside path.toList
  refine ⟨init.map String.ofList, String.ofList last, ?_, ?_⟩
  · rw [names, before, List.map_append, List.map_singleton]
  · rw [names, String.toList_append, after, List.map_append, List.map_singleton,
      String.ofList_append, String.ofList_toList]

theorem startsWith_append (given : path ≠ "") (suffix : String) :
    (path ++ suffix).startsWith "/" = path.startsWith "/" := by
  rw [Bool.eq_iff_iff, String.startsWith_string_iff, String.startsWith_string_iff,
    String.toList_append]
  cases chars : path.toList with
  | nil => exact absurd (String.toList_eq_nil_iff.mp chars) given
  | cons c rest => simp

/-! ### Places -/

theorem length_parentName_le (name : String) : (parentName name).length ≤ name.length := by
  unfold parentName
  rw [String.length_ofList, List.length_reverse, List.length_drop]
  have shorter := (List.dropWhile_sublist (· ≠ '/') (l := name.toList.reverse)).length_le
  rw [List.length_reverse, String.length_toList] at shorter
  omega

/-- A name that does not stand for a directory by itself. -/
def PlainName (name : String) : Prop := name ≠ "" ∧ name ≠ "." ∧ name ≠ ".."

instance (name : String) : Decidable (PlainName name) := inferInstanceAs (Decidable (_ ∧ _ ∧ _))

theorem plainName_of_long (long : 3 ≤ name.length) : PlainName name := by
  refine ⟨?_, ?_, ?_⟩ <;> rintro rfl <;> exact absurd long (by decide)

/-- Plain names lead down. -/
theorem PlainName.of_enter {inner : String} (plain : PlainName name)
    (entered : d.enter dir name = .ok inner) : inner = dir ++ "/" ++ name := by
  obtain ⟨filled, notHere, notParent⟩ := plain
  unfold enter at entered
  rw [if_neg (by simp [filled, notHere]), if_neg notParent] at entered
  split at entered
  · cases entered
  · split at entered
    · exact (Except.ok.inj entered).symm
    · cases entered
    · cases entered

theorem PlainName.of_lastPlace {place : Place} (plain : PlainName name)
    (placed : d.lastPlace dir name = .ok place) : place.name = dir ++ "/" ++ name := by
  obtain ⟨filled, notHere, notParent⟩ := plain
  unfold lastPlace at placed
  rw [if_neg (by simp [filled, notHere, notParent])] at placed
  split at placed
  · cases placed
  · cases placed
    rfl

/-- Entering a name leads to its place. -/
theorem name_of_enter {inner : String} {place : Place} (entered : d.enter dir name = .ok inner)
    (placed : d.lastPlace dir name = .ok place) : place.name = inner := by
  by_cases special : name = "" ∨ name = "." ∨ name = ".."
  · rw [lastPlace, if_pos special, entered] at placed
    cases placed
    rfl
  · have plain : PlainName name := by simpa only [PlainName, not_or] using special
    rw [plain.of_lastPlace placed, plain.of_enter entered]

/-- The place of a name is not further down than the name says. -/
theorem length_lastPlace_le {place : Place} (placed : d.lastPlace dir name = .ok place) :
    place.name.length ≤ dir.length + 1 + name.length := by
  unfold lastPlace at placed
  split at placed
  · next special =>
      obtain ⟨inner, entered, rfl⟩ : ∃ inner, d.enter dir name = .ok inner ∧
          place = ⟨inner, true⟩ := by
        cases entered : d.enter dir name with
        | error failure =>
            rw [entered] at placed
            cases placed
        | ok inner =>
            rw [entered] at placed
            exact ⟨inner, rfl, (Except.ok.inj placed).symm⟩
      have parent := length_parentName_le dir
      unfold enter at entered
      rcases special with rfl | rfl | rfl <;> cases entered <;> dsimp only <;> omega
  · split at placed
    · cases placed
    · cases placed
      simp only [String.length_append, show "/".length = 1 from rfl, Nat.le_refl]

/-- More than one name: the first one is entered, unless nothing but slashes follow it. -/
theorem placeFrom_cons {rest : List String} (more : rest ≠ []) : d.placeFrom dir (name :: rest) =
    if rest.all (·.isEmpty) then
      (d.lastPlace dir name).map fun place => { place with onlyDirectory := true }
    else
      match d.enter dir name with
      | .ok inner => d.placeFrom inner rest
      | .error failure => .error failure :=
  placeFrom.eq_3 d dir name rest more

theorem of_placeFrom_cons {rest : List String} {place : Place} (more : rest ≠ [])
    (given : rest.all (·.isEmpty) = false) (placed : d.placeFrom dir (name :: rest) = .ok place) :
    ∃ inner, d.enter dir name = .ok inner ∧ d.placeFrom inner rest = .ok place := by
  rw [placeFrom_cons more, given, if_neg Bool.false_ne_true] at placed
  cases entered : d.enter dir name with
  | error failure =>
      rw [entered] at placed
      cases placed
  | ok inner =>
      rw [entered] at placed
      exact ⟨inner, rfl, placed⟩

/-- Slashes before a name make no difference. -/
theorem lastPlace_of_blank {init : List String} {last : String} {place : Place}
    (blank : init.all (·.isEmpty) = true) (given : last.isEmpty = false)
    (placed : d.placeFrom dir (init ++ [last]) = .ok place) : d.lastPlace dir last = .ok place := by
  induction init with
  | nil => exact placed
  | cons name rest ih =>
      rw [List.all_cons, Bool.and_eq_true, String.isEmpty_iff] at blank
      obtain ⟨rfl, blank⟩ := blank
      obtain ⟨inner, entered, placed⟩ := of_placeFrom_cons (by simp) (by simp [given]) placed
      obtain rfl : dir = inner := by simpa [enter] using entered
      exact ih blank placed

/-- A path whose last name is longer leads further down, or to a longer name. -/
theorem length_placeFrom_lt {suffix : String} (long : 3 ≤ suffix.length) {init : List String}
    {last : String} {place beside : Place} (placed : d.placeFrom dir (init ++ [last]) = .ok place)
    (placedBeside : d.placeFrom dir (init ++ [last ++ suffix]) = .ok beside) :
    place.name.length < beside.name.length := by
  have longLast : 3 ≤ (last ++ suffix).length := by
    rw [String.length_append]
    omega
  have given : (last ++ suffix).isEmpty = false := by
    rw [Bool.eq_false_iff]
    intro blank
    rw [String.isEmpty_iff.mp blank] at longLast
    simp at longLast
  induction init generalizing dir with
  | nil =>
      have bound := length_lastPlace_le placed
      rw [(plainName_of_long longLast).of_lastPlace placedBeside]
      simp only [String.length_append] at bound ⊢
      omega
  | cons name rest ih =>
      obtain ⟨inner, entered, placedBeside⟩ :=
        of_placeFrom_cons (by simp) (by simp [given]) placedBeside
      cases blank : (rest ++ [last]).all (·.isEmpty) with
      | false =>
          obtain ⟨inner', entered', placed⟩ := of_placeFrom_cons (by simp) blank placed
          obtain rfl : inner = inner' := Except.ok.inj (entered.symm.trans entered')
          exact ih placed placedBeside
      | true =>
          -- The path ends in slashes, so it leads to the directory that the other one enters.
          rw [List.cons_append, placeFrom_cons (by simp), if_pos blank] at placed
          rw [List.all_append, Bool.and_eq_true] at blank
          have down := lastPlace_of_blank blank.1 given placedBeside
          rw [(plainName_of_long longLast).of_lastPlace down]
          cases last_ : d.lastPlace dir name with
          | error failure =>
              rw [last_] at placed
              cases placed
          | ok found =>
              rw [last_] at placed
              cases placed
              rw [← name_of_enter entered last_]
              simp only [String.length_append]
              omega

/-- A path with a long suffix never leads to the place of the path. -/
theorem apart_append {suffix : String} (long : 3 ≤ suffix.length) (plain : '/' ∉ suffix.toList)
    (d : Disk) (path : String) : d.Apart path (path ++ suffix) := by
  intro place beside placed placedBeside same
  unfold Disk.place at placed placedBeside
  split at placed
  · cases placed
  next given =>
  split at placed
  · cases placed
  split at placed
  · cases placed
  split at placedBeside
  · cases placedBeside
  split at placedBeside
  · cases placedBeside
  split at placedBeside
  · cases placedBeside
  rw [startsWith_append (by simpa using given)] at placedBeside
  obtain ⟨init, last, names, namesBeside⟩ := names_append plain path
  rw [names] at placed
  rw [namesBeside] at placedBeside
  have shorter := length_placeFrom_lt long placed placedBeside
  rw [same] at shorter
  exact Nat.lt_irrefl _ shorter

/-- **A draft never stands in the place of the file that it is written for.** -/
theorem apart_draftPath (d : Disk) (path : String) : d.Apart path (FileKeeper.draftPath path) :=
  apart_append (by decide) (by decide) d path

/-- What a long suffix leads to ends in it, too. -/
theorem exists_name_placeFrom {suffix : String} (long : 3 ≤ suffix.length) {init : List String}
    {last : String} {place : Place}
    (placed : d.placeFrom dir (init ++ [last ++ suffix]) = .ok place) :
    ∃ up, place.name = up ++ suffix := by
  have named : PlainName (last ++ suffix) := plainName_of_long <| by
    rw [String.length_append]
    omega
  induction init generalizing dir with
  | nil =>
      refine ⟨dir ++ "/" ++ last, ?_⟩
      simp only [named.of_lastPlace placed, String.append_assoc]
  | cons name rest ih =>
      obtain ⟨inner, -, placed⟩ := of_placeFrom_cons (by simp) (by simp [named.1]) placed
      exact ih placed

theorem exists_name_append {suffix : String} (long : 3 ≤ suffix.length)
    (plain : '/' ∉ suffix.toList) {place : Place} (placed : d.place (path ++ suffix) = .ok place) :
    ∃ up, place.name = up ++ suffix := by
  unfold Disk.place at placed
  split at placed
  · cases placed
  split at placed
  · cases placed
  split at placed
  · cases placed
  obtain ⟨init, last, -, names⟩ := names_append plain path
  rw [names] at placed
  exact exists_name_placeFrom long placed

/-- Suffixes that end differently lead to different places. -/
theorem apart_suffixes {suffix beside : String} (long : 3 ≤ suffix.length)
    (longBeside : 3 ≤ beside.length) (plain : '/' ∉ suffix.toList)
    (plainBeside : '/' ∉ beside.toList)
    (differ : suffix.toList.getLast? ≠ beside.toList.getLast?) (d : Disk) (path : String) :
    d.Apart (path ++ suffix) (path ++ beside) := by
  intro place other placed placedOther same
  have ends {suffix : String} (long : 3 ≤ suffix.length) (up : String) :
      (up ++ suffix).toList.getLast? = suffix.toList.getLast? := by
    rw [String.toList_append, List.getLast?_append_of_ne_nil]
    intro blank
    rw [String.toList_eq_nil_iff.mp blank] at long
    exact absurd long (by decide)
  obtain ⟨up, name⟩ := exists_name_append long plain placed
  obtain ⟨upOther, nameOther⟩ := exists_name_append longBeside plainBeside placedOther
  rw [name, nameOther] at same
  rw [← ends long up, ← ends longBeside upOther, same] at differ
  exact differ rfl

/-! ### Plain paths -/

/-- The absolute name that names lead down to from a directory. -/
def below (dir : String) (names : List String) : String := dir ++ String.join (names.map ("/" ++ ·))

theorem below_cons (dir name : String) (rest : List String) :
    below dir (name :: rest) = below (dir ++ "/" ++ name) rest := by
  simp [below, String.join_cons, String.append_assoc]

theorem below_names (dir path : String) : below dir (names path) = dir ++ "/" ++ path := by
  have chars : (String.join ((names path).map ("/" ++ ·))).toList = '/' :: path.toList := by
    rw [← Text.flatMap_cut '/' path.toList, names]
    simp [String.toList_join, List.map_map, List.flatMap_def, Function.comp_def]
  rw [below, String.append_assoc, ← String.toList_inj, String.toList_append, chars]
  simp

theorem name_placeFrom_of_plain {list : List String} {place : Place} (given : list ≠ [])
    (plain : ∀ name ∈ list, PlainName name) (placed : d.placeFrom dir list = .ok place) :
    place.name = below dir list := by
  induction list generalizing dir with
  | nil => exact absurd rfl given
  | cons name rest ih =>
      obtain ⟨first, plainRest⟩ := List.forall_mem_cons.mp plain
      rw [below_cons]
      cases rest with
      | nil =>
          rw [first.of_lastPlace placed, below, List.map_nil, String.join_nil, String.append_empty]
      | cons next others =>
          have filled : (next :: others).all (·.isEmpty) = false := by
            simp [(plainRest next List.mem_cons_self).1]
          obtain ⟨inner, entered, placed⟩ := of_placeFrom_cons (by simp) filled placed
          rw [← first.of_enter entered]
          exact ih (by simp) plainRest placed

/-- A path of plain names, perhaps behind a slash. -/
def Plain (path : String) : Prop :=
  ∀ name ∈ if path.startsWith "/" then (names path).tail else names path, PlainName name

instance (path : String) : Decidable (Plain path) :=
  inferInstanceAs (Decidable (∀ name ∈ _, PlainName name))

/-- A plain path leads where it says. -/
theorem Plain.name_place {place : Place} (plain : Plain path) (placed : d.place path = .ok place) :
    place.name = if path.startsWith "/" then path else d.here ++ "/" ++ path := by
  unfold Disk.place at placed
  split at placed
  · cases placed
  split at placed
  · cases placed
  split at placed
  · cases placed
  have some_name (text : String) : names text ≠ [] := by
    rw [names, ne_eq, List.map_eq_nil_iff]
    exact Text.cut_ne_nil _
  unfold Plain at plain
  cases absolute : path.startsWith "/" with
  | false =>
      simp only [absolute, Bool.false_eq_true, if_false] at plain placed ⊢
      rw [name_placeFrom_of_plain (some_name path) plain placed, below_names]
  | true =>
      simp only [absolute, if_true] at plain placed ⊢
      obtain ⟨cs, chars⟩ : ∃ cs, path.toList = '/' :: cs := by
        obtain ⟨cs, chars⟩ := String.startsWith_string_iff.mp absolute
        exact ⟨cs, chars.symm⟩
      have split : names path = "" :: names (String.ofList cs) := by
        rw [names, chars, names, String.toList_ofList]
        simp [Text.cut]
      rw [split] at plain placed
      rw [List.tail_cons] at plain
      obtain ⟨first, others, rest⟩ := List.exists_cons_of_ne_nil (some_name (String.ofList cs))
      have filled : (names (String.ofList cs)).all (·.isEmpty) = false := by
        simp [rest, (plain first (by simp [rest])).1]
      obtain ⟨inner, entered, placed⟩ := of_placeFrom_cons (some_name _) filled placed
      obtain rfl : "" = inner := by simpa [enter] using entered
      rw [name_placeFrom_of_plain (some_name _) plain placed, below_names, ← String.toList_inj,
        chars]
      simp

/-- Plain paths that start alike lead to different places if they are written differently. -/
theorem apart_of_plain (plain : Plain path) (plainOther : Plain other)
    (alike : path.startsWith "/" = other.startsWith "/") (differ : path ≠ other) (d : Disk) :
    d.Apart path other := by
  intro place beside placed placedBeside same
  rw [plain.name_place placed, plainOther.name_place placedBeside, alike] at same
  split at same
  · exact differ same
  · exact differ (by simpa [String.append_assoc] using same)

/-! ### What a path leads to -/

/-- The entry that a path leads to, if it leads to one. -/
def at? (d : Disk) (path : String) : Option Entry := (d.find path).toOption

/-- A file at another place does not change what a path leads to. -/
theorem at?_put (named : d.fileName path = .ok name) (apart : d.Apart path other)
    (content : Content) : (d.put name (.file content)).at? other = d.at? other := by
  obtain ⟨placed, plain⟩ := fileName_ok_iff.mp named
  have tree := sameTree_put plain content
  unfold at?
  cases beside : d.place other with
  | ok place =>
      rw [find_of_place beside, find_of_place (tree.place_ok beside), entry?_put (ne_root plain),
        if_neg (apart _ _ placed beside).symm]
  | error failure =>
      cases besideAfter : (d.put name (.file content)).place other with
      | ok place =>
          rw [tree.place_ok_iff, beside] at besideAfter
          cases besideAfter
      | error failureAfter =>
          rw [find_of_failure beside, find_of_failure besideAfter]
          rfl

end Disk

end ShortLinks
