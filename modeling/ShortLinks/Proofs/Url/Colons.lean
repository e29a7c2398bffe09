import Mathlib.Data.List.Basic
import Mathlib.Algebra.BigOperators.Group.List.Basic
import ShortLinks.Url.Address

/-!
The colons of an address.

* `trimBoth_sublist`, `splitHost_append`, `cut_sublist` and their like — each step that reads an
  address keeps or drops characters and brings in none.
* `count_percentEncode`, `count_written`, `count_walk_le` — escapes and steps up bring in no colon.
* `count_hostedPath_lt` — so the path of an address has fewer colons than the address: the one
  behind the scheme is gone.
* `hostedPath?_eq_none_of_notMem` — a text without colons is no address.
-/

namespace ShortLinks

namespace Text

variable {isSeparator isEdge : Char → Bool}

theorem trimBoth_sublist (cs : List Char) : (trimBoth isEdge cs).Sublist cs := by
  have inner : ((cs.dropWhile isEdge).reverse.dropWhile isEdge).reverse.Sublist
      (cs.dropWhile isEdge) := by
    simpa using (List.dropWhile_sublist isEdge (l := (cs.dropWhile isEdge).reverse)).reverse
  exact inner.trans (List.dropWhile_sublist isEdge)

/-- The parts of a text hold its characters in their order. -/
theorem cut_sublist (cs : List Char) : (cut isSeparator cs).flatten.Sublist cs := by
  induction cs with
  | nil => simp [cut]
  | cons c rest ih =>
      rw [cut]
      split
      · exact ih.cons c
      · cases parts : cut isSeparator rest with
        | nil => simp
        | cons part others =>
            rw [parts] at ih
            exact ih.cons_cons c

end Text

namespace Url

variable {family : Family} {cs rest path text : List Char}

/-! ### Reading an address -/

theorem cleaned_sublist (text : List Char) : (cleaned text).Sublist text :=
  List.filter_sublist.trans (Text.trimBoth_sublist text)

/-- What follows a scheme follows its colon. -/
theorem of_scheme? {scheme : List Char} (read : scheme? cs = some (scheme, rest)) :
    ∃ before, cs = before ++ ':' :: rest := by
  unfold scheme? at read
  split at read
  · next first more after parts =>
      split at read
      · obtain ⟨-, rfl⟩ := Prod.mk.inj (Option.some.inj read)
        refine ⟨first :: more, ?_⟩
        rw [List.span_eq_takeWhile_dropWhile] at parts
        obtain ⟨front, back⟩ := Prod.mk.inj parts
        rw [← front, ← back, List.takeWhile_append_dropWhile]
      · cases read
  · cases read

theorem afterUserInfo_sublist (family : Family) (cs : List Char) :
    (afterUserInfo family cs).Sublist cs := by
  unfold afterUserInfo
  simp only [List.span_eq_takeWhile_dropWhile]
  generalize (fun c => !(family.isSlash c || decide (c = '?') || decide (c = '#'))) = inside
  have front : ((cs.takeWhile inside).reverse.takeWhile (· ≠ '@')).reverse.Sublist
      (cs.takeWhile inside) := by
    simpa using (List.takeWhile_sublist (· ≠ '@') (l := (cs.takeWhile inside).reverse)).reverse
  simpa using front.append (List.Sublist.refl (cs.dropWhile inside))

theorem splitHost_append (family : Family) (bracketed : Bool) (cs : List Char) :
    (splitHost family bracketed cs).1 ++ (splitHost family bracketed cs).2 = cs := by
  induction cs generalizing bracketed with
  | nil => rfl
  | cons c rest ih =>
      rw [splitHost]
      split
      · rfl
      · exact congrArg (c :: ·) (ih _)

theorem afterPort?_sublist (read : afterPort? cs = some rest) : rest.Sublist cs := by
  unfold afterPort? at read
  split at read
  · next after =>
      simp only [List.span_eq_takeWhile_dropWhile] at read
      split at read
      · obtain rfl := Option.some.inj read
        exact (List.dropWhile_sublist _).cons _
      · cases read
  · obtain rfl := Option.some.inj read
    exact .refl _

theorem segments_sublist (family : Family) (cs : List Char) :
    (segments family cs).flatten.Sublist cs := by
  unfold segments
  dsimp only
  generalize read : cs.takeWhile (fun c => c ≠ '?' && c ≠ '#') = path
  have front : path.Sublist cs := read ▸ List.takeWhile_sublist _
  cases path with
  | nil => simp
  | cons c rest =>
      refine (Text.cut_sublist _).trans ?_
      split
      · exact (List.sublist_cons_self c rest).trans front
      · exact front

/-! ### Writing a path -/

theorem colon_notMem_escapeChar (c : Char) : ':' ∉ escapeChar c := by
  have digit (n : Nat) : upperHexDigit n ≠ ':' := by
    have small : ∀ m < 16, (Nat.digitChar m).toUpper ≠ ':' := by decide
    exact small _ (Nat.mod_lt n (by decide))
  simp [escapeChar, escapeByte, (digit _).symm]

/-- Escapes bring in no colon, and no colon is escaped. -/
theorem count_percentEncode (cs : List Char) :
    (percentEncode isPathEscaped cs).count ':' = cs.count ':' := by
  induction cs with
  | nil => rfl
  | cons c rest ih =>
      have unfolded : percentEncode isPathEscaped (c :: rest)
          = (if isPathEscaped c then escapeChar c else [c]) ++ percentEncode isPathEscaped rest :=
        rfl
      rw [unfolded, List.count_append, ih, List.count_cons, Nat.add_comm]
      congr 1
      split
      · next escaped =>
          have other : c ≠ ':' := by
            rintro rfl
            revert escaped
            decide
          rw [List.count_eq_zero_of_not_mem (colon_notMem_escapeChar c),
            if_neg (by simpa using other)]
      · exact List.count_singleton

theorem count_map_percentEncode (segments : List (List Char)) :
    (segments.map (percentEncode isPathEscaped)).flatten.count ':'
      = segments.flatten.count ':' := by
  simp only [List.count_flatten, List.map_map, Function.comp_def, count_percentEncode]

theorem count_written (dir : List (List Char)) (file : List Char) :
    (written dir file).count ':' = dir.flatten.count ':' + file.count ':' := by
  have slashed (parts : List (List Char)) :
      (parts.flatMap (· ++ ['/'])).count ':' = parts.flatten.count ':' := by
    induction parts with
    | nil => rfl
    | cons part others ih => simp [ih]
  have turned : dir.reverse.flatten.count ':' = dir.flatten.count ':' := by
    simp only [List.count_flatten, List.map_reverse, List.sum_reverse]
  simp [written, slashed, turned]

theorem count_stepUp_le (dir : List (List Char)) :
    (stepUp dir).flatten.count ':' ≤ dir.flatten.count ':' := by
  cases dir with
  | nil => exact Nat.le_refl _
  | cons segment outer =>
      rw [stepUp]
      split
      · exact Nat.le_refl _
      · simp

/-- The walk ends at segments that it has passed. -/
theorem count_walk_le (dir segments : List (List Char)) :
    (walk dir segments).1.flatten.count ':' + (walk dir segments).2.count ':'
      ≤ dir.flatten.count ':' + segments.flatten.count ':' := by
  fun_induction walk dir segments with
  | case1 dir => simp
  | case2 dir last isUp =>
      have := count_stepUp_le dir
      simp
      omega
  | case3 dir last => simp
  | case4 dir last => simp
  | case5 dir segment rest _ isUp ih =>
      have := count_stepUp_le dir
      simp at ih ⊢
      omega
  | case6 dir segment rest _ _ isHere ih =>
      simp at ih ⊢
      omega
  | case7 dir segment rest _ _ _ ih =>
      simp at ih ⊢
      omega

theorem count_resolve_le (segments : List (List Char)) :
    (resolve segments).count ':' ≤ segments.flatten.count ':' := by
  have walked := count_walk_le [] (segments.map (percentEncode isPathEscaped))
  rw [count_map_percentEncode] at walked
  simpa [resolve, count_written] using walked

theorem count_resolve_segments_le (family : Family) (cs : List Char) :
    (resolve (segments family cs)).count ':' ≤ cs.count ':' :=
  Nat.le_trans (count_resolve_le _) ((segments_sublist family cs).count_le ':')

/-! ### Paths of addresses -/

theorem count_authorityPath_le (read : authorityPath? family cs = some path) :
    path.count ':' ≤ cs.count ':' := by
  unfold authorityPath? at read
  generalize authority : afterUserInfo family cs = inner at read
  have innerSub : inner.Sublist cs := authority ▸ afterUserInfo_sublist family cs
  have whole := splitHost_append family false inner
  obtain ⟨after, port, read⟩ := Option.bind_eq_some_iff.mp read
  have afterSub : after.Sublist cs :=
    (afterPort?_sublist port).trans ((whole ▸ List.sublist_append_right _ _).trans innerSub)
  obtain ⟨-, written⟩ := Option.ite_none_right_eq_some.mp read
  rw [← Option.some.inj written, pathAfterHost]
  split
  · exact Nat.zero_le _
  · exact Nat.le_trans (count_resolve_segments_le family after) (afterSub.count_le ':')

theorem count_filePath_le (read : filePath? cs = some path) : path.count ':' ≤ cs.count ':' := by
  unfold filePath? at read
  simp only [List.span_eq_takeWhile_dropWhile] at read
  generalize (fun c => !(Family.file.isSlash c || decide (c = '?') || decide (c = '#'))) = inside
    at read
  split at read
  · cases read
  · obtain rfl := Option.some.inj read
    calc (List.count ':' ('/' :: (resolve (segments .file (cs.dropWhile inside))).dropWhile
          (· = '/')))
        ≤ (resolve (segments .file (cs.dropWhile inside))).count ':' := by
          rw [List.count_cons_of_ne (by decide)]
          exact (List.dropWhile_sublist _).count_le ':'
      _ ≤ (cs.dropWhile inside).count ':' := count_resolve_segments_le .file _
      _ ≤ cs.count ':' := (List.dropWhile_sublist _).count_le ':'

/-- **The path of an address has fewer colons than the address.** -/
theorem count_hostedPath_lt (read : hostedPath? text = some path) :
    path.count ':' < text.count ':' := by
  unfold hostedPath? at read
  obtain ⟨⟨scheme, rest⟩, schemed, read⟩ := Option.bind_eq_some_iff.mp read
  obtain ⟨before, whole⟩ := of_scheme? schemed
  have shorter : rest.count ':' < text.count ':' := by
    refine Nat.lt_of_lt_of_le ?_ ((cleaned_sublist text).count_le ':')
    rw [whole, List.count_append, List.count_cons_self]
    omega
  refine Nat.lt_of_le_of_lt ?_ shorter
  dsimp only at read
  split at read
  · exact Nat.le_trans (count_authorityPath_le read) ((List.dropWhile_sublist _).count_le ':')
  · split at read
    · split at read
      · next inner _ =>
          exact Nat.le_trans (count_filePath_le read)
            (((List.sublist_cons_self _ inner).trans (List.sublist_cons_self _ _)).count_le ':')
      · cases read
    · cases read
  · split at read
    · next inner =>
        exact Nat.le_trans (count_authorityPath_le read)
          (((List.sublist_cons_self _ inner).trans (List.sublist_cons_self _ _)).count_le ':')
    · cases read

/-- A text without colons is no address. -/
theorem hostedPath?_eq_none_of_notMem (none : ':' ∉ text) : hostedPath? text = Option.none := by
  refine Option.eq_none_iff_forall_ne_some.mpr fun path read => ?_
  have fewer := count_hostedPath_lt read
  rw [List.count_eq_zero_of_not_mem none] at fewer
  exact Nat.not_lt_zero _ fewer

end Url

end ShortLinks
