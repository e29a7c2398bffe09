import Mathlib.Data.List.DropRight
import ShortLinks.Text.Cut

/-!
The lines of a text.

* `cut_append`, `lines_append` — a separator parts the cut: what stands before it and what stands
  behind it are cut on their own.
* `cut_eq_singleton`, `trimBoth_of_ends` — a text without separators is its own only part, and
  nothing is trimmed off a text that begins and ends with characters of another class.
* `flatMap_cut`, `of_mem_cut` — the parts make up the text again, and none holds a separator.
* `openLine`, `openLine_cases` — what follows the last line break, where more may be added.
-/

namespace ShortLinks.Text

variable {isSeparator isEdge : Char → Bool}

theorem cut_ne_nil (cs : List Char) : cut isSeparator cs ≠ [] := by
  cases cs with
  | nil => simp [cut]
  | cons c rest =>
      unfold cut
      split
      · simp
      · split <;> simp

/-- A separator parts the cut. -/
theorem cut_append {c : Char} (separates : isSeparator c = true) (before after : List Char) :
    cut isSeparator (before ++ c :: after) = cut isSeparator before ++ cut isSeparator after := by
  induction before with
  | nil => simp [cut, separates]
  | cons d before ih =>
      by_cases first : isSeparator d = true
      · simp [cut, first, ih]
      · have parts : cut isSeparator before ≠ [] := cut_ne_nil before
        obtain ⟨part, others, eq⟩ := List.exists_cons_of_ne_nil parts
        simp [cut, first, ih, eq]

/-- A text without separators is its own only part. -/
theorem cut_eq_singleton {cs : List Char} (none : ∀ c ∈ cs, isSeparator c = false) :
    cut isSeparator cs = [cs] := by
  induction cs with
  | nil => rfl
  | cons c rest ih =>
      rw [cut, if_neg (by simp [none c]), ih fun d mem => none d (List.mem_cons_of_mem _ mem)]

/-- A text is its parts, each behind a separator, but for the first separator. -/
theorem flatMap_cut (separator : Char) (cs : List Char) :
    (cut (· = separator) cs).flatMap (separator :: ·) = separator :: cs := by
  induction cs with
  | nil => rfl
  | cons c rest ih =>
      rw [cut]
      split
      · next same =>
          obtain rfl : c = separator := by simpa using same
          rw [List.flatMap_cons, ih]
          rfl
      · cases parts : cut (· = separator) rest with
        | nil => exact absurd parts (cut_ne_nil rest)
        | cons part others =>
            rw [parts, List.flatMap_cons, List.cons_append, List.cons.injEq] at ih
            rw [List.flatMap_cons, List.cons_append, List.cons_append, ih.2]

/-- The parts of a text hold characters of the text, and no separators. -/
theorem of_mem_cut {cs part : List Char} (among : part ∈ cut isSeparator cs) :
    ∀ c ∈ part, c ∈ cs ∧ isSeparator c = false := by
  induction cs generalizing part with
  | nil =>
      obtain rfl : part = [] := by simpa [cut] using among
      simp
  | cons d rest ih =>
      have outer {p : List Char} (mem : p ∈ cut isSeparator rest) :
          ∀ c ∈ p, c ∈ d :: rest ∧ isSeparator c = false :=
        fun c inside => (ih mem c inside).imp_left (List.mem_cons_of_mem d)
      rw [cut] at among
      split at among
      · rcases List.mem_cons.mp among with rfl | mem
        · simp
        · exact outer mem
      · next plain =>
          obtain ⟨first, others, parts⟩ := List.exists_cons_of_ne_nil (cut_ne_nil rest)
          rw [parts] at among outer
          rcases List.mem_cons.mp among with rfl | mem
          · intro c inside
            rcases List.mem_cons.mp inside with rfl | inside
            · exact ⟨List.mem_cons_self, by simpa using plain⟩
            · exact outer List.mem_cons_self c inside
          · exact outer (.tail _ mem)

/-- Separators that agree on the characters of a text cut it alike. -/
theorem cut_congr {other : Char → Bool} {cs : List Char}
    (same : ∀ c ∈ cs, isSeparator c = other c) : cut isSeparator cs = cut other cs := by
  induction cs with
  | nil => rfl
  | cons c rest ih =>
      rw [cut, cut, same c List.mem_cons_self, ih fun d mem => same d (.tail _ mem)]

/-- A line break parts the lines. -/
theorem lines_append (before after : List Char) :
    lines (before ++ '\n' :: after) = lines before ++ lines after := by
  simp [lines, cut_append]

/-- A text without line breaks is one line. -/
theorem lines_eq_singleton {cs : List Char} (none : '\n' ∉ cs) :
    lines cs = [trimBoth isBlank cs] := by
  rw [lines, cut_eq_singleton]
  · rfl
  · intro c mem
    simpa using ne_of_mem_of_not_mem mem none

/-- Nothing is trimmed off a text that begins and ends with characters of another class. -/
theorem trimBoth_of_ends {first last : Char} (visible : isEdge first = false)
    (visibleLast : isEdge last = false) (inside : List Char) :
    trimBoth isEdge (first :: (inside ++ [last])) = first :: (inside ++ [last]) := by
  simp [trimBoth, visible, visibleLast]

/-- Nothing is dropped off a text that begins with characters of another class. -/
theorem dropWhile_append_of_visible {front : List Char} (nonempty : front ≠ [])
    (visible : ∀ c ∈ front, isEdge c = false) (rest : List Char) :
    (front ++ rest).dropWhile isEdge = front ++ rest := by
  obtain ⟨c, others, rfl⟩ := List.exists_cons_of_ne_nil nonempty
  exact List.dropWhile_cons_of_neg (by simp [visible c List.mem_cons_self])

/-- Of a text that begins with other characters, only what follows them is trimmed. -/
theorem trimBoth_append_of_visible {front : List Char} (nonempty : front ≠ [])
    (visible : ∀ c ∈ front, isEdge c = false) (rest : List Char) :
    trimBoth isEdge (front ++ rest) = front ++ rest.rdropWhile isEdge := by
  have stops : front.reverse.dropWhile isEdge = front.reverse := by
    simpa using dropWhile_append_of_visible (List.reverse_ne_nil_iff.mpr nonempty)
      (fun c mem => visible c (List.mem_reverse.mp mem)) []
  rw [trimBoth, dropWhile_append_of_visible nonempty visible, List.reverse_append,
    List.dropWhile_append, stops, List.rdropWhile]
  split
  · next none => rw [List.isEmpty_iff.mp none, List.reverse_nil, List.append_nil,
      List.reverse_reverse]
  · rw [List.reverse_append, List.reverse_reverse]

/-! ### The open line -/

/-- What follows the last line break. -/
def openLine (cs : List Char) : List Char := cs.rtakeWhile (· ≠ '\n')

theorem newline_notMem_openLine (cs : List Char) : '\n' ∉ openLine cs := by
  intro mem
  simpa using List.mem_rtakeWhile_imp mem

/-- A text is its open line, or other lines stand before a line break and the open line behind
it. -/
theorem openLine_cases (cs : List Char) :
    cs = openLine cs ∨ ∃ before, cs = before ++ '\n' :: openLine cs := by
  have parts : cs.rdropWhile (· ≠ '\n') ++ openLine cs = cs := List.rdropWhile_append_rtakeWhile
  by_cases single : cs.rdropWhile (· ≠ '\n') = []
  · left
    rw [single, List.nil_append] at parts
    exact parts.symm
  · right
    have stops := List.rdropWhile_last_not _ _ single
    have last : (cs.rdropWhile (· ≠ '\n')).getLast single = '\n' := by simpa using stops
    refine ⟨(cs.rdropWhile (· ≠ '\n')).dropLast, ?_⟩
    rw [← List.dropLast_append_getLast single, last] at parts
    simpa using parts.symm

/-- Blanks at the start are trimmed off. -/
theorem trimBoth_of_blank {first : List Char} (edges : ∀ c ∈ first, isEdge c = true)
    (cs : List Char) : trimBoth isEdge (first ++ cs) = trimBoth isEdge cs := by
  rw [trimBoth, List.dropWhile_append_of_pos edges, trimBoth]

/-- Of a text with a character of another class at its end, only the start is trimmed. -/
theorem trimBoth_append {first : List Char} (edges : ¬ ∀ c ∈ first, isEdge c = true)
    (inside : List Char) {last : Char} (visible : isEdge last = false) :
    ∃ c before, isEdge c = false ∧
      trimBoth isEdge (first ++ (inside ++ [last])) = c :: (before ++ (inside ++ [last])) := by
  cases start : first.dropWhile isEdge with
  | nil => exact absurd (List.dropWhile_eq_nil_iff.mp start) edges
  | cons c before =>
      have stops : first.dropWhile isEdge ≠ [] := by simp [start]
      have visibleFirst := List.head_dropWhile_not isEdge stops
      simp only [start, List.head_cons] at visibleFirst
      refine ⟨c, before, visibleFirst, ?_⟩
      have trimmed : (first ++ (inside ++ [last])).dropWhile isEdge
          = c :: ((before ++ inside) ++ [last]) := by
        simp [List.dropWhile_append, start]
      rw [trimBoth, trimmed]
      simp [visible]

end ShortLinks.Text
