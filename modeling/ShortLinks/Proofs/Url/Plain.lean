import Mathlib.Data.List.DropRight
import Mathlib.Data.List.TakeDrop
import ShortLinks.Proofs.Text.Lines
import ShortLinks.Url.Address

/-!
Addresses of plain names.

* `isNameChar`, `isPathChar` — the characters of plain names and of paths made of them.
* `resolve_of_plain` — such a path is written as it was read, whatever slashes it has.
* `isHost_of_letters` — every name of small letters is a host.
* `hostedPath?_of_plain` — so the path of a network address with such a host and such a path is the
  written path, whatever query or fragment follows.
-/

namespace ShortLinks

namespace Url

open Text (cut)

variable {cs host path tail : List Char} {c : Char}

/-! ### Characters -/

/-- The characters of plain names. -/
def isNameChar (c : Char) : Bool := c.isAlphanum || c = '_' || c = '-'

/-- The characters of paths of plain names. -/
def isPathChar (c : Char) : Bool := isNameChar c || c = '/'

theorem isNameChar_of_isLower (small : c.isLower = true) : isNameChar c = true := by
  have letter : c.isAlphanum = true := by
    change (c.isUpper || c.isLower || c.isDigit) = true
    rw [small, Bool.or_true, Bool.true_or]
  simp [isNameChar, letter]

theorem toNat_lt_of_isNameChar (plain : isNameChar c = true) : c.toNat < 128 := by
  have ascii (high : Char) (small : high.val < 128) (within : c.val ≤ high.val) : c.toNat < 128 :=
    Nat.lt_of_le_of_lt within small
  have kinds : (c.isUpper || c.isLower || c.isDigit || c = '_' || c = '-') = true := plain
  simp only [Bool.or_eq_true, decide_eq_true_eq] at kinds
  rcases kinds with (((upper | lower) | digit) | rfl) | rfl
  · exact ascii 'Z' (by decide) (of_decide_eq_true upper).2
  · exact ascii 'z' (by decide) (of_decide_eq_true (Bool.and_eq_true_iff.mp lower).2)
  · exact ascii '9' (by decide) (of_decide_eq_true (Bool.and_eq_true_iff.mp digit).2)
  · decide
  · decide

/-- What holds of every ASCII character holds of one. -/
theorem of_ascii {P : Char → Prop} (holds : ∀ n < 128, P (Char.ofNat n)) (ascii : c.toNat < 128) :
    P c := Char.ofNat_toNat c ▸ holds c.toNat ascii

/-- The characters that part an address or stand for something else in it. -/
def marks : List Char := ['/', '\\', '?', '#', ':', '@', '[', ']', '.', '%']

/-- What a plain character is not. -/
theorem isNameChar_apart (plain : isNameChar c = true) :
    isPathEscaped c = false ∧ ' ' < c ∧ c ∉ marks ∧ c.toLower ∉ marks := by
  have ascii := toNat_lt_of_isNameChar plain
  revert plain
  refine of_ascii (P := fun c => isNameChar c = true →
    isPathEscaped c = false ∧ ' ' < c ∧ c ∉ marks ∧ c.toLower ∉ marks) ?_ ascii
  decide +kernel

/-- A plain character is none of the marks of an address. -/
theorem ne_of_isNameChar (mark : Char) (plain : isNameChar c = true) (among : mark ∈ marks) :
    c ≠ mark := fun same => (isNameChar_apart plain).2.2.1 (same ▸ among)

theorem isPathChar_cases (plain : isPathChar c = true) : isNameChar c = true ∨ c = '/' := by
  simpa [isPathChar] using plain

/-- No character of a path but the slash is a mark of an address. -/
theorem ne_of_isPathChar (mark : Char) (plain : isPathChar c = true) (among : mark ∈ marks)
    (other : mark ≠ '/') : c ≠ mark := by
  rcases isPathChar_cases plain with name | rfl
  · exact ne_of_isNameChar mark name among
  · exact other.symm

/-! ### Paths -/

theorem percentEncode_eq_self (unescaped : ∀ c ∈ cs, isPathEscaped c = false) :
    percentEncode isPathEscaped cs = cs := by
  induction cs with
  | nil => rfl
  | cons c rest ih =>
      have unfolded : percentEncode isPathEscaped (c :: rest)
          = (if isPathEscaped c then escapeChar c else [c]) ++ percentEncode isPathEscaped rest :=
        rfl
      rw [unfolded, unescaped c List.mem_cons_self, ih fun d mem => unescaped d (.tail _ mem)]
      rfl

/-- A plain segment is no step. -/
theorem not_isStep (plain : ∀ c ∈ cs, isNameChar c = true) :
    isUp cs = false ∧ isHere cs = false := by
  cases cs with
  | nil => decide
  | cons c rest =>
      have lowered := (isNameChar_apart (plain c List.mem_cons_self)).2.2.2
      have dot : c.toLower ≠ '.' := fun same => lowered (same ▸ by decide)
      have percent : c.toLower ≠ '%' := fun same => lowered (same ▸ by decide)
      simp [isUp, isHere, dot, percent]

/-- The walk keeps plain segments. -/
theorem walk_of_plain {segments : List (List Char)}
    (plain : ∀ segment ∈ segments, ∀ c ∈ segment, isNameChar c = true) (dir : List (List Char))
    {last : List Char} (plainLast : ∀ c ∈ last, isNameChar c = true) :
    walk dir (segments ++ [last]) = (segments.reverse ++ dir, last) := by
  induction segments generalizing dir with
  | nil =>
      obtain ⟨notUp, notHere⟩ := not_isStep plainLast
      simp [walk, notUp, notHere]
  | cons segment rest ih =>
      obtain ⟨notUp, notHere⟩ := not_isStep (plain segment List.mem_cons_self)
      obtain ⟨next, others, more⟩ : ∃ next others, rest ++ [last] = next :: others :=
        List.exists_cons_of_ne_nil (by simp)
      rw [List.cons_append, more, walk, if_neg (by simp [notUp]), if_neg (by simp [notHere]),
        ← more, ih (fun s mem => plain s (.tail _ mem))]
      · simp
      · simp

theorem written_reverse (segments : List (List Char)) (last : List Char) :
    written segments.reverse last = (segments ++ [last]).flatMap ('/' :: ·) := by
  have slashed (parts : List (List Char)) : '/' :: (parts.flatMap (· ++ ['/']) ++ last)
      = parts.flatMap ('/' :: ·) ++ '/' :: last := by
    induction parts with
    | nil => rfl
    | cons part others ih => simp [ih]
  rw [written, List.reverse_reverse, slashed, List.flatMap_append, List.flatMap_singleton]

/-- **A path of plain names is written as it was read**, whatever slashes it has. -/
theorem resolve_of_plain {family : Family} (plain : ∀ c ∈ cs, isPathChar c = true) :
    resolve (cut family.isSlash cs) = '/' :: cs := by
  have slashes : cut family.isSlash cs = cut (· = '/') cs := by
    refine Text.cut_congr fun c mem => ?_
    simp [Family.isSlash, ne_of_isPathChar '\\' (plain c mem) (by decide) (by decide)]
  have names : ∀ part ∈ cut (· = '/') cs, ∀ c ∈ part, isNameChar c = true := by
    intro part among c mem
    obtain ⟨inside, noSlash⟩ := Text.of_mem_cut among c mem
    exact (isPathChar_cases (plain c inside)).resolve_right (by simpa using noSlash)
  have encoded : (cut (· = '/') cs).map (percentEncode isPathEscaped) = cut (· = '/') cs := by
    refine (List.map_congr_left fun part among => ?_).trans (List.map_id _)
    exact percentEncode_eq_self fun c mem => (isNameChar_apart (names part among c mem)).1
  obtain ⟨init, last, parts⟩ : ∃ init last, cut (· = '/') cs = init ++ [last] :=
    ⟨_, _, (List.dropLast_append_getLast (Text.cut_ne_nil cs)).symm⟩
  have plainInit : ∀ part ∈ init, ∀ c ∈ part, isNameChar c = true :=
    fun part among => names part (by simp [parts, among])
  have walked := walk_of_plain plainInit [] (names last (by simp [parts]))
  rw [resolve, slashes, encoded, parts, walked, List.append_nil]
  dsimp only
  rw [written_reverse, ← parts, Text.flatMap_cut]

/-! ### Hosts -/

/-- Plain characters are decoded as they stand. -/
theorem percentDecode_of_plain (plain : ∀ c ∈ cs, isNameChar c = true) :
    percentDecode cs = cs.map fun c => UInt8.ofNat c.toNat := by
  induction cs with
  | nil => rfl
  | cons c rest ih =>
      have name := plain c List.mem_cons_self
      have single : String.utf8EncodeChar c = [UInt8.ofNat c.toNat] :=
        if_pos (Nat.le_of_lt_succ (toNat_lt_of_isNameChar name))
      rw [percentDecode, single, ih fun d mem => plain d (.tail _ mem)]
      · rfl
      · exact fun _ _ _ percent _ => ne_of_isNameChar _ name (by decide) percent

/-- A byte of ASCII is a character of its own. -/
theorem firstPart_of_ascii (ascii : c.toNat < 128) (rest : List UInt8) :
    Text.Utf8.firstPart (UInt8.ofNat c.toNat) rest = .char c 1 := by
  have byte : (UInt8.ofNat c.toNat).toNat = c.toNat := by
    rw [UInt8.toNat_ofNat']
    exact Nat.mod_eq_of_lt (by omega)
  have small : UInt8.ofNat c.toNat < 128 := by
    rw [UInt8.lt_iff_toNat_lt, byte]
    exact ascii
  have whole : Text.Utf8.codePoint (UInt8.ofNat c.toNat) [] = c.toNat := by
    rw [Text.Utf8.codePoint, byte]
    exact Nat.mod_eq_of_lt ascii
  simp [Text.Utf8.firstPart, Text.Utf8.tailRanges?, small, Text.Utf8.fitting, whole]

theorem text?_of_ascii (ascii : ∀ c ∈ cs, c.toNat < 128) :
    Text.Utf8.text? (cs.map fun c => UInt8.ofNat c.toNat) = some cs := by
  rw [Text.Utf8.text?]
  induction cs with
  | nil =>
      rw [List.map_nil, Text.Utf8.parts]
      rfl
  | cons c rest ih =>
      rw [List.map_cons, Text.Utf8.parts, firstPart_of_ascii (ascii c List.mem_cons_self)]
      simp [Text.Utf8.Part.size, Text.Utf8.Part.char?, ih fun d mem => ascii d (.tail _ mem)]

/-- What a domain makes of a small letter: it stays as it is, may stand anywhere, is no mark and no
joiner, and leaves the direction as it is. -/
theorem domain_of_isLower (small : c.isLower = true) :
    Domain.mapped? c = some [c] ∧ Domain.isForbidden c = false ∧ Domain.isMark c = false ∧
      Domain.turns c = false ∧ (c = '\u200c' || c = '\u200d') = false := by
  have ascii := toNat_lt_of_isNameChar (isNameChar_of_isLower small)
  revert small
  refine of_ascii (P := fun c => c.isLower = true →
    Domain.mapped? c = some [c] ∧ Domain.isForbidden c = false ∧ Domain.isMark c = false ∧
      Domain.turns c = false ∧ (c = '\u200c' || c = '\u200d') = false) ?_ ascii
  decide +kernel

theorem rewritten?_of_letters (letters : ∀ c ∈ cs, c.isLower = true) :
    Domain.rewritten? cs = some cs := by
  have mapped : cs.mapM Domain.mapped? = some (cs.map ([·])) := by
    induction cs with
    | nil => rfl
    | cons c rest ih =>
        simp [(domain_of_isLower (letters c List.mem_cons_self)).1,
          ih fun d mem => letters d (.tail _ mem)]
  have whole : (cs.map ([·])).flatten = cs := by
    rw [← List.flatMap_def]
    exact List.flatMap_singleton' cs
  have low : cs.all (·.toNat < 0x300) = true := by
    refine List.all_eq_true.mpr fun c mem => ?_
    have ascii := toNat_lt_of_isNameChar (isNameChar_of_isLower (letters c mem))
    exact decide_eq_true (by omega)
  rw [Domain.rewritten?, mapped, Option.bind_eq_bind, Option.bind_some, whole, Domain.composed,
    if_pos low]
  rfl

theorem isLabel_of_letters (letters : ∀ c ∈ cs, c.isLower = true) :
    Domain.meant? cs = some cs ∧ Domain.isLabel cs = true := by
  have unmarked : Domain.asciiMark.isPrefixOf cs = false := by
    refine Bool.eq_false_iff.mpr fun opens => ?_
    have hyphen : '-' ∈ cs := (List.isPrefixOf_iff_prefix.mp opens).subset (by decide)
    exact absurd (letters '-' hyphen) (by decide)
  have joined (before : List Char) : Domain.joinersFit before cs = true := by
    clear unmarked
    induction cs generalizing before with
    | nil => rfl
    | cons c rest ih =>
        obtain ⟨-, -, -, -, noJoiner⟩ := domain_of_isLower (letters c List.mem_cons_self)
        rw [Domain.joinersFit, noJoiner, ih fun d mem => letters d (.tail _ mem)]
        rfl
  have opens : cs.head?.any Domain.isMark = false := by
    cases cs with
    | nil => rfl
    | cons c rest => exact (domain_of_isLower (letters c List.mem_cons_self)).2.2.1
  have ascii : Domain.isAscii cs = true := List.all_eq_true.mpr fun c mem =>
    decide_eq_true (toNat_lt_of_isNameChar (isNameChar_of_isLower (letters c mem)))
  constructor
  · rw [Domain.meant?, unmarked, if_neg Bool.false_ne_true]
  · rw [Domain.isLabel, opens, joined, ascii]
    rfl

/-- Letters of one direction fit together. -/
theorem directionsFit_of_letters (letters : ∀ c ∈ host, c.isLower = true) :
    Domain.directionsFit [host] = true := by
  have straight : host.any Domain.turns = false := by
    refine List.any_eq_false.mpr fun c mem turns => ?_
    exact absurd ((domain_of_isLower (letters c mem)).2.2.2.1.symm.trans turns) (by decide)
  rw [Domain.directionsFit, List.any_cons, straight]
  rfl

theorem normalise?_of_letters (letters : ∀ c ∈ host, c.isLower = true) :
    Domain.normalise? host = some host := by
  obtain ⟨meant, label⟩ := isLabel_of_letters letters
  have plain : ∀ c ∈ host, isNameChar c = true := fun c mem => isNameChar_of_isLower (letters c mem)
  have single : cut (· = '.') host = [host] := Text.cut_eq_singleton fun c mem => by
    simpa using ne_of_isNameChar '.' (plain c mem) (by decide)
  have labels : [host].mapM Domain.meant? = some [host] := by
    rw [List.mapM_cons, meant]
    rfl
  have allowed : host.any Domain.isForbidden = false := by
    refine List.any_eq_false.mpr fun c mem forbidden => ?_
    exact absurd ((domain_of_isLower (letters c mem)).2.1.symm.trans forbidden) (by decide)
  have labelled : [host].all Domain.isLabel = true := by
    rw [List.all_cons, label, List.all_nil]
    rfl
  rw [Domain.normalise?, rewritten?_of_letters letters, Option.bind_eq_bind, Option.bind_some,
    single, labels, Option.bind_eq_bind, Option.bind_some, allowed, labelled,
    directionsFit_of_letters letters]
  rfl

/-- Small letters are a domain as they stand. -/
theorem domainOf?_of_letters (named : host ≠ []) (letters : ∀ c ∈ host, c.isLower = true) :
    domainOf? host = some host := by
  have plain : ∀ c ∈ host, isNameChar c = true := fun c mem => isNameChar_of_isLower (letters c mem)
  have read : Text.Utf8.text? (percentDecode host) = some host := by
    rw [percentDecode_of_plain plain,
      text?_of_ascii fun c mem => toNat_lt_of_isNameChar (plain c mem)]
  have filled : host.isEmpty = false := by simp [named]
  rw [domainOf?, read, Option.bind_eq_bind, Option.bind_some, normalise?_of_letters letters,
    Option.bind_some, if_neg (by simp [filled])]
  rfl

/-- A small letter writes no number. -/
theorem notDigit_of_isLower (small : c.isLower = true) :
    c.isDigit = false ∧ Text.isDigitOf 10 c = false := by
  have ascii := toNat_lt_of_isNameChar (isNameChar_of_isLower small)
  revert small
  refine of_ascii (P := fun c => c.isLower = true →
    c.isDigit = false ∧ Text.isDigitOf 10 c = false) ?_ ascii
  decide +kernel

/-- Small letters do not end in a number. -/
theorem endsInNumber_of_letters (named : host ≠ []) (letters : ∀ c ∈ host, c.isLower = true) :
    endsInNumber host = false := by
  obtain ⟨c, rest, rfl⟩ := List.exists_cons_of_ne_nil named
  obtain ⟨noDigit, noDecimal⟩ := notDigit_of_isLower (letters c List.mem_cons_self)
  have single : cut (· = '.') (c :: rest) = [c :: rest] := Text.cut_eq_singleton fun d mem => by
    simpa using ne_of_isNameChar '.' (isNameChar_of_isLower (letters d mem)) (by decide)
  have zero : c ≠ '0' := by
    rintro rfl
    exact absurd noDigit (by decide)
  have noPart : dottedPart? (c :: rest) = none := by
    unfold dottedPart?
    simp [zero, noDecimal]
  simp [endsInNumber, dottedParts, single, noDigit, noPart]

/-- **Every name of small letters is a host.** -/
theorem isHost_of_letters (named : host ≠ []) (letters : ∀ c ∈ host, c.isLower = true) :
    isHost host = true := by
  unfold isHost
  split
  · next inside => exact absurd (letters '[' List.mem_cons_self) (by decide)
  · simp [domainOf?_of_letters named letters, endsInNumber_of_letters named letters]

/-! ### Addresses -/

/-- Does a text go on with a query or a fragment, or end here? -/
def OpensTail (cs : List Char) : Prop := ∀ c ∈ cs.head?, c = '?' ∨ c = '#'

/-- Behind visible characters only a query or a fragment is cleaned, and it stays one. -/
theorem cleaned_append {front : List Char} (nonempty : front ≠ []) (visible : ∀ c ∈ front, ' ' < c)
    (opens : OpensTail tail) :
    ∃ after, cleaned (front ++ tail) = front ++ after ∧ OpensTail after := by
  have kept : front.filter (fun c => c ≠ '\t' && c ≠ '\n' && c ≠ '\r') = front := by
    refine List.filter_eq_self.mpr fun c mem => ?_
    have above := visible c mem
    have other (mark : Char) (below : mark ≤ ' ') : c ≠ mark := by
      rintro rfl
      exact Char.not_le.mpr above below
    simp [other '\t' (by decide), other '\n' (by decide), other '\r' (by decide)]
  refine ⟨(tail.rdropWhile fun c => c ≤ ' ').filter
    (fun c => c ≠ '\t' && c ≠ '\n' && c ≠ '\r'), ?_, ?_⟩
  · rw [cleaned, Text.trimBoth_append_of_visible nonempty (by simpa using visible),
      List.filter_append, kept]
  · obtain ⟨dropped, whole⟩ := List.rdropWhile_prefix (fun c => decide (c ≤ ' ')) tail
    cases left : tail.rdropWhile (fun c => decide (c ≤ ' ')) with
    | nil => simp [OpensTail]
    | cons c rest =>
        rw [left] at whole
        have mark := opens c (by rw [← whole]; rfl)
        rw [List.filter_cons_of_pos (by rcases mark with rfl | rfl <;> decide)]
        intro d first
        obtain rfl : c = d := by simpa using first
        exact mark

theorem afterUserInfo_of_letters (letters : ∀ c ∈ host, c.isLower = true) (rest : List Char) :
    afterUserInfo .network (host ++ '/' :: rest) = host ++ '/' :: rest := by
  have inside : ∀ c ∈ host, (!(Family.network.isSlash c || c = '?' || c = '#')) = true := by
    intro c mem
    have plain := isNameChar_of_isLower (letters c mem)
    simp [Family.isSlash, ne_of_isNameChar '/' plain (by decide),
      ne_of_isNameChar '\\' plain (by decide),
      ne_of_isNameChar '?' plain (by decide),
      ne_of_isNameChar '#' plain (by decide)]
  have noUser : host.reverse.takeWhile (· ≠ '@') = host.reverse := by
    refine List.takeWhile_eq_self_iff.mpr fun c mem => ?_
    simpa using ne_of_isNameChar '@' (isNameChar_of_isLower (letters c (List.mem_reverse.mp mem)))
      (by decide)
  simp only [afterUserInfo, List.span_eq_takeWhile_dropWhile]
  rw [List.takeWhile_append_of_pos inside, List.dropWhile_append_of_pos inside,
    List.takeWhile_cons_of_neg (by decide), List.dropWhile_cons_of_neg (by decide),
    List.append_nil, noUser, List.reverse_reverse]

theorem splitHost_of_letters (letters : ∀ c ∈ host, c.isLower = true) (rest : List Char) :
    splitHost .network false (host ++ '/' :: rest) = (host, '/' :: rest) := by
  induction host with
  | nil => rfl
  | cons c more ih =>
      have plain := isNameChar_of_isLower (letters c List.mem_cons_self)
      have other (mark : Char) (among : mark ∈ marks) : c ≠ mark :=
        ne_of_isNameChar mark plain among
      rw [List.cons_append, splitHost, if_neg, if_neg (other _ (by decide)),
        if_neg (other _ (by decide))]
      dsimp only
      rw [ih fun d mem => letters d (.tail _ mem)]
      simp [Family.isSlash, other ':' (by decide), other '/' (by decide), other '\\' (by decide),
        other '?' (by decide), other '#' (by decide)]

theorem segments_of_plain (plain : ∀ c ∈ path, isPathChar c = true) (opens : OpensTail tail) :
    segments .network ('/' :: (path ++ tail)) = cut Family.network.isSlash path := by
  have inside : ∀ c ∈ path, (c ≠ '?' && c ≠ '#') = true := by
    intro c mem
    simp [ne_of_isPathChar '?' (plain c mem) (by decide) (by decide),
      ne_of_isPathChar '#' (plain c mem) (by decide) (by decide)]
  have ends : tail.takeWhile (fun c => c ≠ '?' && c ≠ '#') = [] := by
    cases tail with
    | nil => rfl
    | cons c rest =>
        refine List.takeWhile_cons_of_neg ?_
        rcases opens c rfl with rfl | rfl <;> decide
  have written : ('/' :: (path ++ tail)).takeWhile (fun c => c ≠ '?' && c ≠ '#') = '/' :: path := by
    rw [List.takeWhile_cons_of_pos (by decide), List.takeWhile_append_of_pos inside, ends,
      List.append_nil]
  rw [segments, written]
  rfl

theorem authorityPath?_of_plain (named : host ≠ []) (letters : ∀ c ∈ host, c.isLower = true)
    (plain : ∀ c ∈ path, isPathChar c = true) (opens : OpensTail tail) :
    authorityPath? .network (host ++ '/' :: (path ++ tail)) = some ('/' :: path) := by
  have noPort : afterPort? ('/' :: (path ++ tail)) = some ('/' :: (path ++ tail)) := rfl
  have read : pathAfterHost .network ('/' :: (path ++ tail)) = '/' :: path := by
    rw [pathAfterHost, segments_of_plain plain opens, resolve_of_plain plain]
    rfl
  rw [authorityPath?, afterUserInfo_of_letters letters, splitHost_of_letters letters]
  simp only [noPort, isHost_of_letters named letters, Option.bind_eq_bind, Option.bind_some, read]
  rfl

/-- The scheme of network addresses that is used in the open, and the one that is not. -/
def webScheme (secure : Bool) : List Char := (if secure then "https" else "http").toList

/-- **The path of a network address of plain names is the written path**, whatever query or fragment
follows. -/
theorem hostedPath?_of_plain {secure : Bool} (named : host ≠ [])
    (letters : ∀ c ∈ host, c.isLower = true) (plain : ∀ c ∈ path, isPathChar c = true)
    (opens : OpensTail tail) :
    hostedPath? (webScheme secure ++ "://".toList ++ host ++ '/' :: path ++ tail)
      = some ('/' :: path) := by
  have ascii : ∀ c ∈ webScheme secure ++ "://".toList, ' ' < c := by
    have all : (webScheme secure ++ "://".toList).all (fun c => ' ' < c) = true := by
      cases secure <;> decide
    exact fun c mem => of_decide_eq_true (List.all_eq_true.mp all c mem)
  have visible : ∀ c ∈ webScheme secure ++ "://".toList ++ host ++ '/' :: path, ' ' < c := by
    intro c mem
    rcases List.mem_append.mp mem with before | inPath
    · rcases List.mem_append.mp before with fixed | inHost
      · exact ascii c fixed
      · exact (isNameChar_apart (isNameChar_of_isLower (letters c inHost))).2.1
    · rcases List.mem_cons.mp inPath with rfl | inside
      · decide
      · rcases isPathChar_cases (plain c inside) with name | rfl
        · exact (isNameChar_apart name).2.1
        · decide
  obtain ⟨after, clean, opensAfter⟩ := cleaned_append (by simp) visible opens
  have schemed (rest : List Char) : scheme? (webScheme secure ++ "://".toList ++ rest)
      = some (webScheme secure, '/' :: '/' :: rest) := by cases secure <;> rfl
  have web : familyOf (webScheme secure) = .network := by cases secure <;> rfl
  have slashes : ('/' :: '/' :: (host ++ '/' :: (path ++ after))).dropWhile
      Family.network.isSlash = host ++ '/' :: (path ++ after) := by
    obtain ⟨first, more, rfl⟩ := List.exists_cons_of_ne_nil named
    have plainFirst := isNameChar_of_isLower (letters first List.mem_cons_self)
    rw [List.dropWhile_cons_of_pos (by decide), List.dropWhile_cons_of_pos (by decide)]
    refine List.dropWhile_cons_of_neg ?_
    simp [Family.isSlash, ne_of_isNameChar '/' plainFirst (by decide),
      ne_of_isNameChar '\\' plainFirst (by decide)]
  have parts : webScheme secure ++ "://".toList ++ host ++ '/' :: path ++ after
      = webScheme secure ++ "://".toList ++ (host ++ '/' :: (path ++ after)) := by
    simp only [List.append_assoc, List.cons_append]
  rw [hostedPath?, clean, parts, schemed]
  simp only [Option.bind_eq_bind, Option.bind_some, web]
  rw [slashes]
  exact authorityPath?_of_plain named letters plain opensAfter

end Url

end ShortLinks
