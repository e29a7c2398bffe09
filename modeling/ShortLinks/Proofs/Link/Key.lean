import Mathlib.Data.List.DropRight
import ShortLinks.Link.Key
import ShortLinks.Proofs.Text.Lines
import ShortLinks.Proofs.Url.Colons

/-!
Keys as short links.

* `slash_notMem_keyOf` — a key has no slashes.
* `keyOf_eq_self_iff` — a text is its own key exactly when it has no slashes and is no address with
  a host: the key of an address has fewer colons than the address.
* `keyOf_keyOf_iff`, `keyOf_keyOf_of_noColon` — so a key is its own key unless it reads as an
  address, and a key without colons always is.
* `keyOf_of_noColon` — a short link without colons is read as a path.
-/

namespace ShortLinks

theorem lastSegment_eq_rtakeWhile (cs : List Char) : lastSegment cs = cs.rtakeWhile (· ≠ '/') := rfl

theorem lastSegment_sublist (cs : List Char) : (lastSegment cs).Sublist cs :=
  (List.rtakeWhile_suffix _ cs).sublist

theorem slash_notMem_lastSegment (cs : List Char) : '/' ∉ lastSegment cs := by
  intro mem
  simpa using List.mem_rtakeWhile_imp mem

/-- A text without slashes is its own last segment. -/
theorem lastSegment_trimSlashes {cs : List Char} (plain : '/' ∉ cs) :
    lastSegment (trimSlashes cs) = cs := by
  have kept : cs.dropWhile (· = '/') = cs := by
    cases cs with
    | nil => rfl
    | cons c rest =>
        have other : '/' ≠ c := List.ne_of_not_mem_cons plain
        exact List.dropWhile_cons_of_neg (by simpa using other.symm)
  have keptLast : cs.rdropWhile (· = '/') = cs := by
    rw [List.rdropWhile_eq_self_iff]
    intro nonempty
    simpa using ne_of_mem_of_not_mem (List.getLast_mem nonempty) plain
  have trimmed : trimSlashes cs = cs := by
    rw [trimSlashes, Text.trimBoth, kept]
    exact keptLast
  rw [trimmed, lastSegment_eq_rtakeWhile, List.rtakeWhile_eq_self_iff]
  intro c mem
  simpa using ne_of_mem_of_not_mem mem plain

/-- The last name of a path is found, whatever stands before it and however many slashes follow. -/
theorem lastSegment_trimSlashes_append (front : List Char) {name : List Char} (nonempty : name ≠ [])
    (plain : '/' ∉ name) (atEnd : Nat) :
    lastSegment (trimSlashes (front ++ '/' :: (name ++ List.replicate atEnd '/'))) = name := by
  have other : ∀ c ∈ name, decide (c = '/') = false := fun c mem => by
    simpa using ne_of_mem_of_not_mem mem plain
  have stops (cs : List Char) :
      (name.reverse ++ cs).dropWhile (· = '/') = name.reverse ++ cs :=
    Text.dropWhile_append_of_visible (List.reverse_ne_nil_iff.mpr nonempty)
      (fun c mem => other c (List.mem_reverse.mp mem)) cs
  -- What is left of the text before the name is empty, or ends in a slash.
  obtain ⟨rest, left⟩ : ∃ rest, (front ++ ['/']).dropWhile (· = '/') = rest := ⟨_, rfl⟩
  have ends : rest.reverse.takeWhile (· ≠ '/') = [] := by
    have suffix := List.dropWhile_suffix (· = '/') (l := front ++ ['/'])
    rw [left, ← List.reverse_prefix, List.reverse_append] at suffix
    cases turned : rest.reverse with
    | nil => rfl
    | cons c others =>
        rw [turned] at suffix
        obtain rfl : c = '/' := (List.cons_prefix_cons.mp suffix).1
        rfl
  have started : (front ++ '/' :: (name ++ List.replicate atEnd '/')).dropWhile (· = '/')
      = rest ++ (name ++ List.replicate atEnd '/') := by
    rw [List.append_cons, List.dropWhile_append, left,
      Text.dropWhile_append_of_visible nonempty other]
    split
    · next none => rw [List.isEmpty_iff.mp none, List.nil_append]
    · rfl
  have trimmed : trimSlashes (front ++ '/' :: (name ++ List.replicate atEnd '/'))
      = rest ++ name := by
    rw [trimSlashes, Text.trimBoth, started, List.reverse_append, List.reverse_append,
      List.reverse_replicate, List.append_assoc, List.dropWhile_append_of_pos (by simp), stops,
      List.reverse_append, List.reverse_reverse, List.reverse_reverse]
  rw [trimmed, lastSegment, List.reverse_append, List.takeWhile_append_of_pos, ends,
    List.append_nil, List.reverse_reverse]
  intro c mem
  simpa using other c (List.mem_reverse.mp mem)

theorem slash_notMem_keyOf (shortUrl : String) : '/' ∉ (keyOf shortUrl).toList := by
  rw [keyOf, String.toList_ofList]
  exact slash_notMem_lastSegment _

/-- A short link that is no address with a host is read as a path. -/
theorem keyOf_of_noHost {shortUrl : String} (noHost : Url.hostedPath? shortUrl.toList = none) :
    keyOf shortUrl = String.ofList (lastSegment (trimSlashes shortUrl.toList)) := by
  rw [keyOf, noHost]
  rfl

theorem keyOf_of_noColon {shortUrl : String} (none : ':' ∉ shortUrl.toList) :
    keyOf shortUrl = String.ofList (lastSegment (trimSlashes shortUrl.toList)) :=
  keyOf_of_noHost (Url.hostedPath?_eq_none_of_notMem none)

/-- The key of an address with a host has fewer colons than the address. -/
theorem count_keyOf_lt {shortUrl : String} {path : List Char}
    (read : Url.hostedPath? shortUrl.toList = some path) :
    (keyOf shortUrl).toList.count ':' < shortUrl.toList.count ':' := by
  rw [keyOf, read, String.toList_ofList, Option.getD_some]
  have part : (lastSegment (trimSlashes path)).Sublist path :=
    (lastSegment_sublist _).trans (Text.trimBoth_sublist path)
  exact Nat.lt_of_le_of_lt (part.count_le ':') (Url.count_hostedPath_lt read)

/-- **A text is its own key** exactly when it has no slashes and is no address with a host. -/
theorem keyOf_eq_self_iff {text : String} :
    keyOf text = text ↔ '/' ∉ text.toList ∧ Url.hostedPath? text.toList = none := by
  constructor
  · intro same
    refine ⟨same ▸ slash_notMem_keyOf text, ?_⟩
    refine Option.eq_none_iff_forall_ne_some.mpr fun path read => ?_
    have fewer := count_keyOf_lt read
    rw [same] at fewer
    exact Nat.lt_irrefl _ fewer
  · rintro ⟨plain, noHost⟩
    rw [keyOf_of_noHost noHost, lastSegment_trimSlashes plain, String.ofList_toList]

/-- A key is its own key exactly when it is no address with a host. -/
theorem keyOf_keyOf_iff {shortUrl : String} :
    keyOf (keyOf shortUrl) = keyOf shortUrl ↔ Url.hostedPath? (keyOf shortUrl).toList = none :=
  keyOf_eq_self_iff.trans (and_iff_right (slash_notMem_keyOf shortUrl))

theorem keyOf_keyOf_of_noColon {shortUrl : String} (none : ':' ∉ (keyOf shortUrl).toList) :
    keyOf (keyOf shortUrl) = keyOf shortUrl :=
  keyOf_keyOf_iff.mpr (Url.hostedPath?_eq_none_of_notMem none)

end ShortLinks
