import Mathlib.Data.List.TakeDrop
import ShortLinks.Proofs.Json.RoundTrip

/-!
A record behind other text.

Where text that is not blank stands before the text of a record, without a line break between them,
the two together are no JSON text: what is read before the record either ends there, and the record
is left over, or it is a string that runs into the record up to its first quote. Inside an array or
an object a record can be read as a part, but then nothing closes what was opened.
-/

namespace ShortLinks.Json

/-- The text of an object whose first name begins with this letter. -/
abbrev objectFrom (more : List Char) : List Char := '\x7b' :: '"' :: 'c' :: more

variable {more cs rest : List Char}

/-! ### Scanners that stop before the object -/

theorem suffix_of_cons {c : Char} (behind : objectFrom more <:+ c :: cs) (other : c ≠ '\x7b') :
    objectFrom more <:+ cs := by
  rcases List.suffix_cons_iff.mp behind with same | behind
  · exact absurd (List.cons.inj same).1.symm other
  · exact behind

theorem suffix_dropWhile (passes : Char → Bool) (stops : passes '\x7b' = false)
    (behind : objectFrom more <:+ cs) : objectFrom more <:+ cs.dropWhile passes := by
  induction cs with
  | nil => exact behind
  | cons c cs ih =>
      rw [List.dropWhile_cons]
      split
      · next passed =>
          refine ih (suffix_of_cons behind ?_)
          rintro rfl
          rw [stops] at passed
          cases passed
      · exact behind

theorem suffix_of_append (word : List Char) (behind : objectFrom more <:+ word ++ cs)
    (noBrace : '\x7b' ∉ word) : objectFrom more <:+ cs := by
  induction word with
  | nil => exact behind
  | cons c word ih =>
      obtain ⟨other, noBrace⟩ := not_or.mp (mt List.mem_cons.mpr noBrace)
      exact ih (suffix_of_cons behind (Ne.symm other)) noBrace

theorem suffix_skipBlank (behind : objectFrom more <:+ cs) : objectFrom more <:+ skipBlank cs :=
  suffix_dropWhile isBlank rfl behind

/-- Behind the first mark, unless it is an opening brace. -/
theorem suffix_of_mark (behind : objectFrom more <:+ cs) {mark : Char}
    (found : skipBlank cs = mark :: rest) (noBrace : mark ≠ '\x7b') :
    objectFrom more <:+ rest := by
  have behindBlank := suffix_skipBlank behind
  rw [found] at behindBlank
  exact suffix_of_cons behindBlank noBrace

theorem suffix_digits (behind : objectFrom more <:+ cs) : objectFrom more <:+ (digits cs).2 := by
  rw [digits, List.span_eq_takeWhile_dropWhile]
  exact suffix_dropWhile Char.isDigit rfl behind

theorem suffix_wholePart? {ds : List Char} (behind : objectFrom more <:+ cs)
    (read : wholePart? cs = some (ds, rest)) : objectFrom more <:+ rest := by
  unfold wholePart? at read
  split at read
  · split at read
    · cases read
    · cases read
      exact suffix_of_cons behind (by decide)
  · have behindDigits := suffix_digits behind
    cases found : digits cs with
    | mk whole tail =>
        rw [found] at read behindDigits
        split at read <;> cases read
        exact behindDigits

theorem suffix_markedDigits? {mark ds : List Char} (behind : objectFrom more <:+ cs)
    (read : markedDigits? mark cs = some (ds, rest)) : objectFrom more <:+ rest := by
  have behindDigits := suffix_digits behind
  unfold markedDigits? at read
  split at read
  · cases read
  · next found =>
      cases read
      rw [found] at behindDigits
      exact behindDigits

theorem suffix_fraction? {ds : List Char} (behind : objectFrom more <:+ cs)
    (read : fraction? cs = some (ds, rest)) : objectFrom more <:+ rest := by
  unfold fraction? at read
  split at read
  · exact suffix_markedDigits? (suffix_of_cons behind (by decide)) read
  · cases read
    exact behind

theorem suffix_exponent? {ds : List Char} (behind : objectFrom more <:+ cs)
    (read : exponent? cs = some (ds, rest)) : objectFrom more <:+ rest := by
  unfold exponent? at read
  split at read
  · next e sign tail =>
      split at read
      · next marks =>
          have behindMark : objectFrom more <:+ sign :: tail :=
            suffix_of_cons behind (by rcases marks with rfl | rfl <;> decide)
          split at read
          · next signs =>
              exact suffix_markedDigits?
                (suffix_of_cons behindMark (by rcases signs with rfl | rfl <;> decide)) read
          · exact suffix_markedDigits? behindMark read
      · cases read
        exact behind
  · split at read
    · cases read
    · cases read
      exact behind
  · cases read
    exact behind

/-- A number before the object ends before it. -/
theorem suffix_number? {j : Json} (behind : objectFrom more <:+ cs)
    (read : number? cs = some (j, rest)) : objectFrom more <:+ rest := by
  unfold number? at read
  split at read
  next sign unsigned parts =>
  have behindUnsigned : objectFrom more <:+ unsigned := by
    split at parts
    · cases parts
      exact suffix_of_cons behind (by decide)
    · cases parts
      exact behind
  simp only [Option.bind_eq_bind, Option.bind_eq_some_iff] at read
  obtain ⟨⟨whole, r₁⟩, readWhole, ⟨fraction, r₂⟩, readFraction, ⟨exponent, r₃⟩, readExponent,
    same⟩ := read
  have behindWhole := suffix_wholePart? behindUnsigned readWhole
  have behindFraction := suffix_fraction? behindWhole readFraction
  have left := suffix_exponent? behindFraction readExponent
  split at same <;> cases same <;> exact left

/-! ### Strings -/

theorem ne_brace_of_hexQuad? {a b c d : Char} {n : Nat} (read : hexQuad? a b c d = some n) :
    a ≠ '\x7b' ∧ b ≠ '\x7b' ∧ c ≠ '\x7b' ∧ d ≠ '\x7b' := by
  unfold hexQuad? Text.natural? at read
  split at read
  · next digits =>
      simp only [Bool.and_eq_true, List.all_cons, List.all_nil] at digits
      have notDigit {x : Char} (digit : Text.isDigitOf 16 x = true) : x ≠ '\x7b' := by
        rintro rfl
        revert digit
        decide
      exact ⟨notDigit digits.2.1, notDigit digits.2.2.1, notDigit digits.2.2.2.1,
        notDigit digits.2.2.2.2.1⟩
  · cases read

/-- A string before the object ends before it, or at its first quote. -/
theorem suffix_pieces? {ps : List Piece} (behind : objectFrom more <:+ cs)
    (read : pieces? cs = some (ps, rest)) : objectFrom more <:+ rest ∨ rest = 'c' :: more := by
  fun_induction pieces? cs generalizing ps with
  | case1 => cases read
  | case2 tail =>
      cases read
      exact .inl (suffix_of_cons behind (by decide))
  | case3 a b c d tail ih =>
      simp only [Option.bind_eq_bind, Option.bind_eq_some_iff] at read
      obtain ⟨n, quad, ⟨inner, after⟩, readInner, same⟩ := read
      cases same
      obtain ⟨ha, hb, hc, hd⟩ := ne_brace_of_hexQuad? quad
      have behindTail := suffix_of_cons (suffix_of_cons (suffix_of_cons (suffix_of_cons
        (suffix_of_cons (suffix_of_cons behind (by decide)) (by decide)) ha) hb) hc) hd
      exact ih behindTail readInner
  | case4 e tail notUnit ih =>
      simp only [Option.bind_eq_bind, Option.bind_eq_some_iff] at read
      obtain ⟨c, letter, ⟨inner, after⟩, readInner, same⟩ := read
      cases same
      have noBrace : e ≠ '\x7b' := by
        rintro rfl
        cases letter
      exact ih (suffix_of_cons (suffix_of_cons behind (by decide)) noBrace) readInner
  | case5 => cases read
  | case6 c tail noQuote noUnit noLetter visible ih =>
      simp only [Option.bind_eq_bind, Option.bind_eq_some_iff] at read
      obtain ⟨⟨inner, after⟩, readInner, same⟩ := read
      cases same
      rcases List.suffix_cons_iff.mp behind with same | behindTail
      · -- The string runs into the object.
        obtain ⟨-, rfl⟩ := List.cons.inj same
        rw [pieces?] at readInner
        cases readInner
        exact .inr rfl
      · exact ih behindTail readInner

theorem suffix_literal? {name : Literal} (behind : objectFrom more <:+ cs)
    (read : literal? cs = some (name, rest)) : objectFrom more <:+ rest ∨ rest = 'c' :: more := by
  unfold literal? at read
  simp only [Option.bind_eq_bind, Option.bind_eq_some_iff] at read
  obtain ⟨⟨inner, after⟩, readInner, same⟩ := read
  have left := suffix_pieces? behind readInner
  split at same <;> cases same <;> exact left

/-! ### Values -/

/-- Reading the object alone leaves nothing behind it. -/
def Whole (more : List Char) : Prop :=
  ∀ {fuel : Nat} {j : Json} {rest : List Char},
    value? fuel (objectFrom more) = some (j, rest) → rest = []

/-- What a value leaves: the object is still to come, or the value was a string that ran into it, or
the value was the object. -/
inductive Leaves (more cs : List Char) : List Char → Prop where
  | before {rest : List Char} (behind : objectFrom more <:+ rest) : Leaves more cs rest
  | torn : Leaves more cs ('c' :: more)
  | nothing (alone : skipBlank cs = objectFrom more) : Leaves more cs []

/-- Only the first is followed by a mark. -/
theorem Leaves.suffix {after : List Char} (leaves : Leaves more cs rest) {mark : Char}
    (found : skipBlank rest = mark :: after) (noBrace : mark ≠ '\x7b') (noLetter : mark ≠ 'c') :
    objectFrom more <:+ after := by
  cases leaves with
  | before behind => exact suffix_of_mark behind found noBrace
  | torn =>
      rw [skipBlank_of_not rfl] at found
      exact absurd (List.cons.inj found).1.symm noLetter
  | nothing => cases found

theorem leaves_literal {name : Literal} {inside : List Char}
    (behind : objectFrom more <:+ inside) (read : literal? inside = some (name, rest)) :
    Leaves more cs rest := by
  rcases suffix_literal? behind read with left | rfl
  · exact .before left
  · exact .torn

section Parts

variable {fuel : Nat}

/-- What is known of a value that takes `fuel`, of the items of an array, and of the members of an
object. -/
structure Stops (more : List Char) (fuel : Nat) : Prop where
  value : ∀ {cs rest : List Char} {j : Json}, objectFrom more <:+ cs →
    value? fuel cs = some (j, rest) → Leaves more cs rest
  items : ∀ {cs rest : List Char} {items : List Json}, objectFrom more <:+ cs →
    items? fuel cs = some (items, rest) → objectFrom more <:+ rest
  members : ∀ {cs rest : List Char} {members : List (Literal × Json)}, objectFrom more <:+ cs →
    members? fuel cs = some (members, rest) → objectFrom more <:+ rest

theorem Stops.succ_items (stops : Stops more fuel) {items : List Json}
    (behind : objectFrom more <:+ cs) (read : items? (fuel + 1) cs = some (items, rest)) :
    objectFrom more <:+ rest := by
  rw [items?] at read
  simp only [Option.bind_eq_bind, Option.bind_eq_some_iff] at read
  obtain ⟨⟨item, after⟩, readItem, read⟩ := read
  have leaves := stops.value behind readItem
  split at read
  · next found =>
      cases read
      exact leaves.suffix found (by decide) (by decide)
  · next found =>
      simp only [Option.bind_eq_some_iff] at read
      obtain ⟨⟨others, left⟩, readOthers, same⟩ := read
      cases same
      exact stops.items (leaves.suffix found (by decide) (by decide)) readOthers
  · cases read

theorem Stops.succ_members (stops : Stops more fuel) {members : List (Literal × Json)}
    (behind : objectFrom more <:+ cs) (read : members? (fuel + 1) cs = some (members, rest)) :
    objectFrom more <:+ rest := by
  rw [members?] at read
  split at read
  · next inside quote =>
      simp only [Option.bind_eq_bind, Option.bind_eq_some_iff] at read
      obtain ⟨⟨name, afterName⟩, readName, read⟩ := read
      have leavesName : Leaves more cs afterName :=
        leaves_literal (suffix_of_mark behind quote (by decide)) readName
      split at read
      · next given colon =>
          simp only [Option.bind_eq_some_iff] at read
          obtain ⟨⟨value, after⟩, readValue, read⟩ := read
          have leaves := stops.value (leavesName.suffix colon (by decide) (by decide)) readValue
          split at read
          · next found =>
              cases read
              exact leaves.suffix found (by decide) (by decide)
          · next found =>
              simp only [Option.bind_eq_some_iff] at read
              obtain ⟨⟨others, left⟩, readOthers, same⟩ := read
              cases same
              exact stops.members (leaves.suffix found (by decide) (by decide)) readOthers
          · cases read
      · cases read
  · cases read

theorem Stops.succ_value (whole : Whole more) (stops : Stops more fuel) {j : Json}
    (behind : objectFrom more <:+ cs) (read : value? (fuel + 1) cs = some (j, rest)) :
    Leaves more cs rest := by
  by_cases alone : skipBlank cs = objectFrom more
  · have same : value? (fuel + 1) cs = value? (fuel + 1) (objectFrom more) := by
      rw [value?, value?, alone, skipBlank_of_not rfl]
    obtain rfl := whole (same.symm.trans read)
    exact .nothing alone
  have behindBlank := suffix_skipBlank behind
  rw [value?] at read
  split at read
  · next tail found =>
      rw [found] at behindBlank
      cases read
      exact .before (suffix_of_append "null".toList behindBlank (by decide))
  · next tail found =>
      rw [found] at behindBlank
      cases read
      exact .before (suffix_of_append "true".toList behindBlank (by decide))
  · next tail found =>
      rw [found] at behindBlank
      cases read
      exact .before (suffix_of_append "false".toList behindBlank (by decide))
  · next inside found =>
      obtain ⟨⟨name, after⟩, readName, same⟩ := Option.map_eq_some_iff.mp read
      cases same
      exact leaves_literal (suffix_of_mark behind found (by decide)) readName
  · next inside found =>
      have behindInside := suffix_of_mark behind found (by decide)
      split at read
      · next after closed =>
          cases read
          exact .before (suffix_of_mark behindInside closed (by decide))
      · obtain ⟨⟨items, after⟩, readItems, same⟩ := Option.map_eq_some_iff.mp read
        cases same
        exact .before (stops.items behindInside readItems)
  · next inside found =>
      -- Another object opens here, so the one behind lies inside it.
      rw [found] at behindBlank alone
      have behindInside : objectFrom more <:+ inside :=
        (List.suffix_cons_iff.mp behindBlank).resolve_left (Ne.symm alone)
      split at read
      · next after closed =>
          cases read
          exact .before (suffix_of_mark behindInside closed (by decide))
      · obtain ⟨⟨members, after⟩, readMembers, same⟩ := Option.map_eq_some_iff.mp read
        cases same
        exact .before (stops.members behindInside readMembers)
  · exact .before (suffix_number? behindBlank read)

end Parts

theorem stops (whole : Whole more) (fuel : Nat) : Stops more fuel := by
  induction fuel with
  | zero =>
      refine ⟨fun _ read => ?_, fun _ read => ?_, fun _ read => ?_⟩
      · rw [value?] at read
        cases read
      · rw [items?] at read
        cases read
      · rw [members?] at read
        cases read
  | succ fuel ih =>
      exact
      { value := fun behind read => ih.succ_value whole behind read
        items := fun behind read => ih.succ_items behind read
        members := fun behind read => ih.succ_members behind read }

/-! ### Records -/

variable {members : List (String × Json)} {first : String × Json}

/-- Members take a depth for themselves and one for their values. -/
theorem exists_of_members? {fuel : Nat} {read : List (Literal × Json) × List Char}
    (answered : members? fuel cs = some read) : ∃ depth, fuel = depth + 2 := by
  match fuel with
  | 0 => cases answered
  | 1 =>
      rw [members?] at answered
      split at answered
      · simp only [Option.bind_eq_bind, Option.bind_eq_some_iff] at answered
        obtain ⟨name, -, value⟩ := answered
        split at value <;> cases value
      · cases answered
  | depth + 2 => exact ⟨depth, rfl⟩

/-- Whatever depth is allowed, reading a record leaves nothing behind its last brace. -/
theorem eq_nil_of_members? (simpleFirst : first.2.Simple) (simple : ∀ m ∈ members, m.2.Simple)
    {fuel : Nat} {read : List (Literal × Json)}
    (answered : members? fuel (renderMember (member first) ++ renderMembers (members.map member))
      = some (read, rest)) : rest = [] := by
  obtain ⟨depth, rfl⟩ := exists_of_members? answered
  rw [members?_renderMember simpleFirst] at answered
  induction members generalizing first depth read with
  | nil =>
      have close : skipBlank (renderMembers []) = ['\x7d'] := rfl
      simp only [List.map_nil, close] at answered
      cases answered
      rfl
  | cons next members ih =>
      have comma (tail : List Char) : skipBlank (',' :: tail) = ',' :: tail :=
        skipBlank_of_not rfl tail
      simp only [List.map_cons, renderMembers, comma] at answered
      obtain ⟨⟨others, after⟩, readOthers, same⟩ := Option.map_eq_some_iff.mp answered
      cases same
      have simpleNext := simple next List.mem_cons_self
      obtain ⟨inner, deep⟩ := exists_of_members? readOthers
      rw [deep, members?_renderMember simpleNext] at readOthers
      exact ih simpleNext (fun m mem => simple m (List.mem_cons_of_mem _ mem)) inner readOthers

theorem exists_objectFrom {name : List Char} (named : first.1.toList = 'c' :: name)
    (members : List (String × Json)) : ∃ more,
      (record (first :: members)).render = objectFrom more := by
  rw [render_record]
  simp only [member, renderMember, Literal.render, named, List.flatMap_cons]
  exact ⟨_, rfl⟩

theorem whole_record (simple : ∀ m ∈ first :: members, m.2.Simple) {more : List Char}
    (text : (record (first :: members)).render = objectFrom more) : Whole more := by
  intro fuel j rest read
  cases fuel with
  | zero => cases read
  | succ fuel =>
      have inside : renderMember (member first) ++ renderMembers (members.map member)
          = '"' :: 'c' :: more := by
        rw [render_record] at text
        exact (List.cons.inj text).2
      rw [value?, skipBlank_of_not rfl] at read
      simp only [skipBlank_quote] at read
      obtain ⟨⟨found, after⟩, readMembers, same⟩ := Option.map_eq_some_iff.mp read
      cases same
      rw [← inside] at readMembers
      exact eq_nil_of_members? (simple first List.mem_cons_self)
        (fun m mem => simple m (List.mem_cons_of_mem _ mem)) readMembers

/-- **Text before a record spoils it**: the two together are no JSON text. -/
theorem parse?_eq_none (simple : ∀ m ∈ first :: members, m.2.Simple) {name : List Char}
    (named : first.1.toList = 'c' :: name) {c : Char} (visible : isBlank c = false)
    (before : List Char) :
    parse? (String.ofList (c :: (before ++ (record (first :: members)).render))) = none := by
  obtain ⟨more, text⟩ := exists_objectFrom named members
  have behind : objectFrom more <:+ c :: (before ++ objectFrom more) := ⟨c :: before, by simp⟩
  rw [text, parse?, String.toList_ofList]
  cases answer : value? (2 * (c :: (before ++ objectFrom more)).length + 2)
      (c :: (before ++ objectFrom more)) with
  | none => rfl
  | some read =>
      obtain ⟨j, rest⟩ := read
      have left : skipBlank rest ≠ [] := by
        cases (stops (whole_record simple text) _).value behind answer with
        | before behindRest =>
            intro blank
            have behindBlank := suffix_skipBlank behindRest
            rw [blank] at behindBlank
            cases List.suffix_nil.mp behindBlank
        | torn =>
            rw [skipBlank_of_not rfl]
            exact List.cons_ne_nil _ _
        | nothing alone =>
            rw [skipBlank_of_not visible] at alone
            have lengths := congrArg List.length alone
            simp only [List.length_cons, List.length_append] at lengths
            omega
      simp [left]

end ShortLinks.Json
