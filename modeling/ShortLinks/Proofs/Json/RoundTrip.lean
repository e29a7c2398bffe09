import Mathlib.Data.List.Forall2
import ShortLinks.Json.Reader
import ShortLinks.Json.Writer

/-!
What is written is read back.

* `pieces?_escape`, `literal?_render` — every character comes back from its escape, and so does
  every text from its literal, whatever follows the closing quote.
* `Simple`, `value?_render` — a value without parts is read back from the start of a text.
* `parse?_compact` — a record of such values is read back from its compact text.
* `newline_notMem_render_record`, `exists_render_record` — that text has no line break, and begins
  and ends with a brace.
-/

namespace ShortLinks.Json

/-! ### Texts -/

/-- A piece that is read as this character. -/
inductive Spells : Piece → Char → Prop where
  | char (c : Char) : Spells (.char c) c
  /-- Control characters may be written by their numbers. -/
  | unit {c : Char} (control : c.toNat < 0x20) : Spells (.unit c.toNat) c

section Pieces

variable {rest after : List Char} {ps : List Piece}

theorem pieces?_letter {e c : Char} (escapes : letterEscape? e = some c)
    (tail : pieces? rest = some (ps, after)) :
    pieces? ('\\' :: e :: rest) = some (.char c :: ps, after) := by
  have notUnit : e ≠ 'u' := by
    rintro rfl
    cases escapes
  rw [pieces?]
  · simp [escapes, tail]
  · intro a b c d r same
    exact absurd same notUnit

theorem pieces?_plain {c : Char} (noQuote : c ≠ '"') (noEscape : c ≠ '\\')
    (visible : ¬ c.toNat < 0x20) (tail : pieces? rest = some (ps, after)) :
    pieces? (c :: rest) = some (.char c :: ps, after) := by
  rw [pieces?]
  · simp [noEscape, visible, tail]
  all_goals grind

theorem hexQuad?_escape {n : Nat} (control : n < 0x20) :
    hexQuad? '0' '0' (hexDigit (n / 16)) (hexDigit n) = some n := by
  decide +revert

/-- What is written for a character is read as this character. -/
theorem pieces?_escape (c : Char) : ∃ p, Spells p c ∧
    ∀ {rest after : List Char} {ps : List Piece}, pieces? rest = some (ps, after) →
      pieces? (escape c ++ rest) = some (p :: ps, after) := by
  have byLetter {e : Char} (escapes : letterEscape? e = some c) (written : escape c = ['\\', e]) :
      ∃ p, Spells p c ∧ ∀ {rest after : List Char} {ps : List Piece},
        pieces? rest = some (ps, after) → pieces? (escape c ++ rest) = some (p :: ps, after) :=
    ⟨.char c, .char c, fun tail => written ▸ pieces?_letter escapes tail⟩
  by_cases quote : c = '"'
  · subst quote
    exact byLetter rfl rfl
  by_cases backslash : c = '\\'
  · subst backslash
    exact byLetter rfl rfl
  by_cases lettered : c ∈ ['\x08', '\x0c', '\n', '\r', '\t']
  · simp only [List.mem_cons, List.not_mem_nil, or_false] at lettered
    rcases lettered with rfl | rfl | rfl | rfl | rfl
    all_goals exact byLetter rfl rfl
  simp only [List.mem_cons, List.not_mem_nil, or_false, not_or] at lettered
  by_cases control : c.toNat < 0x20
  · refine ⟨.unit c.toNat, .unit control, fun tail => ?_⟩
    simp [escape, quote, backslash, lettered, control, pieces?, hexQuad?_escape control, tail]
  · refine ⟨.char c, .char c, fun tail => ?_⟩
    simpa [escape, quote, backslash, lettered, control]
      using pieces?_plain quote backslash control tail

theorem pieces?_flatMap_escape (cs rest : List Char) : ∃ ps, List.Forall₂ Spells ps cs ∧
    pieces? (cs.flatMap escape ++ '"' :: rest) = some (ps, rest) := by
  induction cs with
  | nil => exact ⟨[], .nil, by simp [pieces?]⟩
  | cons c cs ih =>
      obtain ⟨ps, spells, tail⟩ := ih
      obtain ⟨p, first, read⟩ := pieces?_escape c
      exact ⟨p :: ps, .cons first spells, by simpa using read tail⟩

/-- A number below the surrogates stands for a character of its own. -/
theorem assemble?_unit {n : Nat} (small : n < 0xD800) (ps : List Piece) :
    assemble? (.unit n :: ps) = (assemble? ps).map (Char.ofNat n :: ·) := by
  have alone : isHighSurrogate n = false ∧ isLowSurrogate n = false := by
    simp [isHighSurrogate, isLowSurrogate]
    omega
  cases ps with
  | nil => simp [assemble?, alone]
  | cons p ps => cases p <;> simp [assemble?, alone]

theorem assemble?_of_spells {cs : List Char} (spells : List.Forall₂ Spells ps cs) :
    assemble? ps = some cs := by
  induction spells with
  | nil => rfl
  | cons first rest ih =>
      cases first with
      | char => simp [assemble?, ih]
      | unit control =>
          rw [assemble?_unit (by omega), ih]
          simp

end Pieces

theorem literal?_render (s : String) (rest : List Char) :
    literal? (s.toList.flatMap escape ++ '"' :: rest) = some (.whole s, rest) := by
  obtain ⟨ps, spells, read⟩ := pieces?_flatMap_escape s.toList rest
  simp [literal?, read, assemble?_of_spells spells]

/-! ### Values -/

/-- A value without parts that every text, truth value or missing value is written as. -/
inductive Simple : Json → Prop where
  | null : Simple .null
  | bool (b : Bool) : Simple (.bool b)
  | text (s : String) : Simple (.text s)

theorem skipBlank_of_not {c : Char} (visible : isBlank c = false) (rest : List Char) :
    skipBlank (c :: rest) = c :: rest := by
  simp [skipBlank, visible]

theorem skipBlank_quote (rest : List Char) : skipBlank ('"' :: rest) = '"' :: rest :=
  skipBlank_of_not rfl rest

theorem value?_render {j : Json} (simple : j.Simple) (fuel : Nat) (rest : List Char) :
    value? (fuel + 1) (j.render ++ rest) = some (j, rest) := by
  cases simple with
  | null => simp [value?, render, skipBlank, isBlank]
  | bool b => cases b <;> simp [value?, render, skipBlank, isBlank]
  | text s =>
      have literal := literal?_render s rest
      simp [Json.text, value?, render, Literal.render, skipBlank, isBlank, literal]

/-- A member of a record: a name that is a text, and its value. -/
def member (m : String × Json) : Literal × Json := (.whole m.1, m.2)

theorem members?_renderMember {m : String × Json} (simple : m.2.Simple) (fuel : Nat)
    (tail : List Char) :
    members? (fuel + 2) (renderMember (member m) ++ tail) =
      match skipBlank tail with
      | '\x7d' :: after => some ([member m], after)
      | ',' :: more => (members? (fuel + 1) more).map fun r => (member m :: r.1, r.2)
      | _ => none := by
  obtain ⟨name, j⟩ := m
  have literal := literal?_render name (':' :: (j.render ++ tail))
  have value := value?_render simple fuel tail
  have colon (rest : List Char) : skipBlank (':' :: rest) = ':' :: rest := skipBlank_of_not rfl rest
  rw [members?]
  simp only [member, renderMember, Literal.render, List.cons_append, List.append_assoc,
    List.nil_append, skipBlank_quote, colon, literal, value, Option.pure_def, Option.bind_eq_bind,
    Option.bind_some, Option.map_eq_bind]
  rfl

variable {members : List (String × Json)} {first : String × Json}

theorem members?_render (simpleFirst : first.2.Simple) (simple : ∀ m ∈ members, m.2.Simple)
    {fuel : Nat} (enough : members.length < fuel) (rest : List Char) :
    members? (fuel + 1) (renderMember (member first) ++ renderMembers (members.map member) ++ rest)
      = some ((first :: members).map member, rest) := by
  induction members generalizing first fuel with
  | nil =>
      obtain ⟨fuel, rfl⟩ : ∃ n, fuel = n + 1 := ⟨fuel - 1, by grind⟩
      rw [List.append_assoc, members?_renderMember simpleFirst]
      simp [renderMembers, skipBlank, isBlank]
  | cons next members ih =>
      obtain ⟨fuel, rfl⟩ : ∃ n, fuel = n + 1 := ⟨fuel - 1, by grind⟩
      have fewer : members.length < fuel := by grind
      have others := ih (simple next List.mem_cons_self)
        (fun m mem => simple m (List.mem_cons_of_mem _ mem)) fewer
      rw [List.append_assoc, members?_renderMember simpleFirst]
      simp only [List.map_cons, List.append_assoc] at others
      simp [renderMembers, skipBlank, isBlank, others]

/-! ### Records -/

theorem render_record (first : String × Json) (members : List (String × Json)) :
    (record (first :: members)).render
      = '\x7b' :: (renderMember (member first) ++ renderMembers (members.map member)) := by
  simp only [record, List.map_cons, render, member]
  rfl

theorem length_renderMembers (members : List (Literal × Json)) :
    members.length < (renderMembers members).length := by
  induction members with
  | nil => simp [renderMembers]
  | cons m members ih =>
      simp only [renderMembers, List.length_cons, List.length_append]
      omega

/-- **A record is read back** from its compact text. -/
theorem parse?_compact (simple : ∀ m ∈ first :: members, m.2.Simple) :
    parse? (record (first :: members)).compact = some (record (first :: members)) := by
  -- Every member takes a character at least, so the bound on the depth is never reached.
  have long := length_renderMembers (members.map member)
  have enough : members.length < 2 * (record (first :: members)).render.length := by
    simp only [render_record, List.length_cons, List.length_append, List.length_map] at long ⊢
    omega
  have read := members?_render (simple first List.mem_cons_self)
    (fun m mem => simple m (List.mem_cons_of_mem _ mem)) enough []
  obtain ⟨inside, quoted⟩ : ∃ inside, renderMember (member first) = '"' :: inside := ⟨_, rfl⟩
  rw [List.append_nil] at read
  simp only [parse?, compact, String.toList_ofList]
  generalize (record (first :: members)).render.length = length at read ⊢
  rw [render_record, value?]
  simp only [quoted, List.cons_append] at read ⊢
  have braced (rest : List Char) : skipBlank ('\x7b' :: rest) = '\x7b' :: rest :=
    skipBlank_of_not rfl rest
  have ended : skipBlank [] = [] := rfl
  simp [skipBlank_quote, braced, ended, read, record, member]

/-! ### One line -/

theorem newline_notMem_escape (c : Char) : '\n' ∉ escape c := by
  have digit (n : Nat) : '\n' ≠ hexDigit n := by
    have small : n % 16 < 16 := Nat.mod_lt n (by decide)
    unfold hexDigit
    generalize n % 16 = digit at small
    decide +revert
  unfold escape
  grind

theorem newline_notMem_literal (s : String) : '\n' ∉ (Literal.whole s).render := by
  simp [Literal.render, newline_notMem_escape]

theorem newline_notMem_render {j : Json} (simple : j.Simple) : '\n' ∉ j.render := by
  cases simple with
  | null => simp [render]
  | bool b => cases b <;> simp [render]
  | text s => simpa [Json.text, render] using newline_notMem_literal s

theorem newline_notMem_renderMember {m : String × Json} (simple : m.2.Simple) :
    '\n' ∉ renderMember (member m) := by
  simp [member, renderMember, newline_notMem_literal, newline_notMem_render simple]

theorem newline_notMem_renderMembers (simple : ∀ m ∈ members, m.2.Simple) :
    '\n' ∉ renderMembers (members.map member) := by
  induction members with
  | nil => simp [renderMembers]
  | cons m members ih =>
      have tail := ih fun m mem => simple m (List.mem_cons_of_mem _ mem)
      simp [renderMembers, tail, newline_notMem_renderMember (simple m List.mem_cons_self)]

/-- The text of a record has no line break. -/
theorem newline_notMem_render_record (simple : ∀ m ∈ first :: members, m.2.Simple) :
    '\n' ∉ (record (first :: members)).render := by
  have tail := newline_notMem_renderMembers fun m mem => simple m (List.mem_cons_of_mem _ mem)
  simp [render_record, tail, newline_notMem_renderMember (simple first List.mem_cons_self)]

theorem exists_renderMembers (members : List (Literal × Json)) :
    ∃ inside, renderMembers members = inside ++ ['\x7d'] := by
  induction members with
  | nil => exact ⟨[], rfl⟩
  | cons m members ih =>
      obtain ⟨inside, eq⟩ := ih
      exact ⟨',' :: (renderMember m ++ inside), by simp [renderMembers, eq]⟩

/-- The text of a record begins and ends with a brace. -/
theorem exists_render_record (first : String × Json) (members : List (String × Json)) :
    ∃ inside, (record (first :: members)).render = '\x7b' :: (inside ++ ['\x7d']) := by
  obtain ⟨inside, eq⟩ := exists_renderMembers (members.map member)
  exact ⟨renderMember (member first) ++ inside, by simp [render_record, eq]⟩

end ShortLinks.Json
