import ShortLinks.Proofs.Database.Retries

/-!
Conflicts of locks that a file database reports by number.

* `ResultCode` — its lowest byte says what happened, and the bytes above say more about the cause.
  It is sent as a decimal text.
* `ofCode?_text` — the kind of failure that such a text stands for: a conflict is known by its
  plain number only.
* `RetryPolicy.repeated_iff` — which call of a run is followed by another one.
* `lockConflict_repeated_iff` — so a conflict is tried again if its number is plain, and never
  otherwise, whatever the text beside it says.
-/

namespace ShortLinks

/-! ### Numbers of results -/

/-- The number that a file database gives the result of a call. -/
@[ext]
structure ResultCode where
  number : Nat
deriving DecidableEq

namespace ResultCode

/-- What happened, without the details of the cause: the lowest byte. -/
def kind (code : ResultCode) : Nat := code.number % 256

/-- The number says what happened and no more. -/
def IsPlain (code : ResultCode) : Prop := code.number = code.kind

/-- Somebody else holds a lock: on the database (5), or on a table of the same connection (6). -/
def IsLockConflict (code : ResultCode) : Prop := code.kind = 5 ∨ code.kind = 6

/-- The number as it is sent. -/
def text (code : ResultCode) : String := toString code.number

theorem text_eq_ofList (code : ResultCode) :
    code.text = String.ofList (Nat.toDigits 10 code.number) :=
  Nat.toString_eq_ofList_toDigits

theorem text_inj {code other : ResultCode} : code.text = other.text ↔ code = other := by
  constructor
  · intro same
    rw [text_eq_ofList, text_eq_ofList] at same
    have digits : Nat.toDigits 10 code.number = Nat.toDigits 10 other.number :=
      String.ofList_injective same
    ext
    calc code.number = Nat.ofDigitChars 10 (Nat.toDigits 10 code.number) 0 :=
          Nat.ofDigitChars_ten_toDigits.symm
      _ = Nat.ofDigitChars 10 (Nat.toDigits 10 other.number) 0 := by rw [digits]
      _ = other.number := Nat.ofDigitChars_ten_toDigits
  · rintro rfl
    rfl

/-- A text with anything but digits is no number. -/
theorem text_ne {code : ResultCode} {text : String} {c : Char} (holds : c ∈ text.toList)
    (strange : ¬ c.isDigit) : code.text ≠ text := by
  rintro rfl
  rw [text_eq_ofList, String.toList_ofList] at holds
  exact strange (Nat.isDigit_of_mem_toDigits (by omega) (by omega) holds)

/-- The kind of failure that the text of a number stands for. -/
theorem ofCode?_text (code : ResultCode) :
    Transient.ofCode? code.text =
      if code.number = 1213 then some .deadlock
      else if code.number = 1205 then some .lockTimeout
      else if code.number = 40001 then some .serialization
      else if code.number = 5 ∨ code.number = 6 then some .busy
      else none := by
  have number_iff (n : Nat) : code.text = toString n ↔ code.number = n := by
    have same : code.text = ResultCode.text ⟨n⟩ ↔ code = ⟨n⟩ := text_inj
    rwa [ResultCode.ext_iff] at same
  have noNumber : code.text ≠ "40P01" := text_ne (c := 'P') (by decide) (by decide)
  unfold Transient.ofCode?
  simp only [show "1213" = toString 1213 from rfl, show "1205" = toString 1205 from rfl,
    show "40001" = toString 40001 from rfl, show "5" = toString 5 from rfl,
    show "6" = toString 6 from rfl, number_iff, noNumber, or_false]

variable {code : ResultCode}

theorem ofCode?_text_of_isPlain (conflict : code.IsLockConflict) (plain : code.IsPlain) :
    Transient.ofCode? code.text = some .busy := by
  have number : code.number = 5 ∨ code.number = 6 := by
    rw [plain]
    exact conflict
  rw [ofCode?_text, if_neg (by omega), if_neg (by omega), if_neg (by omega), if_pos number]

/-- No code of a conflict is also the code of another kind of failure. -/
theorem ofCode?_text_of_not_isPlain (conflict : code.IsLockConflict) (detailed : ¬ code.IsPlain) :
    Transient.ofCode? code.text = none := by
  unfold IsLockConflict kind at conflict
  unfold IsPlain kind at detailed
  rw [ofCode?_text, if_neg (by omega), if_neg (by omega), if_neg (by omega), if_neg (by omega)]

end ResultCode

/-! ### Failures with a code -/

/-- The failure of a call for which the server sent this code and this text. -/
inductive DatabaseFailure.Sent (code text : String) : DatabaseFailure → Prop
  | execute : Sent code text (.execute (.server (some code) text))
  | query : Sent code text (.query (.server (some code) text))

theorem Transient.of?_of_sent {code text : String} {failure : DatabaseFailure}
    (sent : failure.Sent code text) : Transient.of? failure = Transient.ofCode? code := by
  cases sent with
  | execute => rfl
  | query => rfl

/-! ### The call after a failure -/

namespace RetryPolicy

variable {α : Type} {p : RetryPolicy} {outcome : Nat → Except DatabaseFailure α} {i : Nat}

/-- A run makes this call, and the policy allows one more. -/
structure Reaches (p : RetryPolicy) (outcome : Nat → Except DatabaseFailure α) (i : Nat) :
    Prop where
  left : i < p.maxRetries
  passing : ∀ earlier < i, ¬ Decides (outcome earlier)

/-- A call is followed by another one if its outcome does not decide. -/
theorem repeated_iff (reached : p.Reaches outcome i) :
    i + 1 < (p.run outcome).calls ↔ ¬ Decides (outcome i) := by
  obtain ⟨last, ends⟩ := p.exists_endsAt outcome
  rw [run_eq ends]
  constructor
  · intro later
    exact ends.passing i (Nat.lt_of_succ_lt_succ later)
  · intro passing
    apply Nat.succ_lt_succ
    rcases ends.ends with decides | spent
    · have notEarlier : ¬ last < i := fun earlier => reached.passing last earlier decides
      have notThis : last ≠ i := by
        rintro rfl
        exact passing decides
      omega
    · rw [spent]
      exact reached.left

end RetryPolicy

/-! ### What becomes of a conflict -/

/-- What becomes of a call that failed with this code of a conflict. -/
structure ConflictHandled (code : ResultCode) (failure : DatabaseFailure) : Prop where
  /-- The conflict is known as one if its number is plain; -/
  known_iff : Transient.of? failure = some .busy ↔ code.IsPlain
  /-- otherwise it is taken for a failure that lasts. -/
  lasting : ¬ code.IsPlain → Transient.of? failure = none
  /-- While the policy allows it, the call is made again if the number is plain. -/
  repeated_iff : ∀ {α : Type} (p : RetryPolicy) (outcome : Nat → Except DatabaseFailure α)
    (i : Nat), p.Reaches outcome i → outcome i = .error failure →
      (i + 1 < (p.run outcome).calls ↔ code.IsPlain)

theorem conflictHandled {code : ResultCode} {failure : DatabaseFailure}
    (conflict : code.IsLockConflict)
    (byCode : Transient.of? failure = Transient.ofCode? code.text) :
    ConflictHandled code failure := by
  have lasting : ¬ code.IsPlain → Transient.of? failure = none := fun detailed =>
    byCode.trans (ResultCode.ofCode?_text_of_not_isPlain conflict detailed)
  have busy : code.IsPlain → Transient.of? failure = some .busy := fun plain =>
    byCode.trans (ResultCode.ofCode?_text_of_isPlain conflict plain)
  constructor
  case known_iff =>
    refine ⟨fun known => ?_, busy⟩
    by_contra detailed
    rw [lasting detailed] at known
    cases known
  case lasting => exact lasting
  case repeated_iff =>
    intro α p outcome i reached failed
    rw [RetryPolicy.repeated_iff reached, failed]
    constructor
    · intro passing
      by_contra detailed
      exact passing (lasting detailed)
    · intro plain decides
      have none_eq : Transient.of? failure = none := decides
      rw [busy plain] at none_eq
      cases none_eq

/-- **A failure with a code is judged by the code alone**, never by the text beside it; and if it is
the code of a conflict of locks, the call is made again exactly if the number is plain. -/
theorem lockConflict_repeated_iff {code text : String} {failure : DatabaseFailure}
    (sent : failure.Sent code text) :
    (∀ (otherText : String) (other : DatabaseFailure), other.Sent code otherText →
        Transient.of? other = Transient.of? failure) ∧
      (∀ otherText : String, Transient.of? (.connect (.server (some code) otherText))
        = Transient.of? (.connect (.server (some code) text))) ∧
      ∀ result : ResultCode, code = result.text → result.IsLockConflict →
        ConflictHandled result failure := by
  refine ⟨?_, fun _ => rfl, ?_⟩
  · intro otherText other otherSent
    rw [Transient.of?_of_sent otherSent, Transient.of?_of_sent sent]
  · rintro result rfl conflict
    exact conflictHandled conflict (Transient.of?_of_sent sent)

/-- A read transaction wants to write, and its view of the database is no longer the newest. -/
def outdatedView : ResultCode := ⟨517⟩

/-- The failure of its call. -/
def outdatedViewFailure : DatabaseFailure :=
  .query (.server (some "517") "database is locked")

theorem lockConflict_repeated_iff_outdatedView :
    outdatedViewFailure.Sent "517" "database is locked" ∧
      outdatedView.IsLockConflict ∧ ConflictHandled outdatedView outdatedViewFailure := by
  have sent : outdatedViewFailure.Sent "517" "database is locked" := .query
  have conflict : outdatedView.IsLockConflict := .inl rfl
  exact ⟨sent, conflict, (lockConflict_repeated_iff sent).2.2 outdatedView rfl conflict⟩

/-- A conflict that is not tried again, although the policy allows it. The same text without a code
is known. -/
theorem outdatedView_lasts :
    outdatedView.IsLockConflict ∧
      outdatedViewFailure.Sent outdatedView.text "database is locked" ∧
      Transient.of? outdatedViewFailure = none ∧
      (RetryPolicy.run {} fun _ => (.error outdatedViewFailure : Except DatabaseFailure Unit)).calls
        = 1 ∧
      Transient.of? (.query (.server none "database is locked")) = some .busy :=
  ⟨.inl rfl, .query, rfl, rfl, by decide⟩

end ShortLinks
