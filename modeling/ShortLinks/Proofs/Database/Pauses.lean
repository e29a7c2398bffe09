import Mathlib.Algebra.Group.Nat.Defs
import Mathlib.Order.MinMax
import ShortLinks.Database.Retry

/-!
How long a run pauses.

* `exactDelay` — a pause without its random part, in unbounded numbers: it doubles from one
  repetition to the next, up to the limit.
* `saturate_mul_saturate`, `cappedDelay_eq` — a factor that was cut off is cut off again with the
  product, and the product by the limit; so saturation never shows in a pause.
* `pauseInWords?` — a pause as it is computed in words, from a source of random numbers that may
  fail; `pauseInWords?_eq` says that it is the pause of the policy.
* `pause_exact` — so the computation always comes to its end, with a pause of the exact length and
  at most a quarter more, and the exact length never goes down nor beyond the limit.
-/

namespace ShortLinks

/-! ### Saturation -/

theorem top64_eq : top64 = 2 ^ 64 - 1 := rfl

theorem saturate_eq_self {n : Nat} (fits : n < 2 ^ 64) : saturate n = n :=
  min_eq_left (Nat.le_pred_of_lt fits)

theorem saturate_eq_top {n : Nat} (beyond : ¬ n < 2 ^ 64) : saturate n = top64 := by
  have top : top64 ≤ n := by
    rw [top64_eq]
    omega
  exact min_eq_right top

/-- A factor that was cut off makes no difference. -/
theorem saturate_mul_saturate (a b : Nat) : saturate (a * saturate b) = saturate (a * b) := by
  by_cases fits : b < 2 ^ 64
  · rw [saturate_eq_self fits]
  · rcases Nat.eq_zero_or_pos a with rfl | pos
    · rw [Nat.zero_mul, Nat.zero_mul]
    · have cut : top64 ≤ a * top64 := Nat.le_mul_of_pos_left top64 pos
      have whole : b ≤ a * b := Nat.le_mul_of_pos_left b pos
      have beyond : ¬ a * b < 2 ^ 64 := by omega
      rw [saturate_eq_top fits, saturate_eq_top beyond]
      exact min_eq_right cut

theorem saturatingPow2_eq (n : Nat) : saturatingPow2 n = saturate (2 ^ n) := by
  unfold saturatingPow2
  split
  · next small => exact (saturate_eq_self (Nat.pow_lt_pow_right (by decide) small)).symm
  · next large =>
      have beyond : 2 ^ 64 ≤ 2 ^ n := Nat.pow_le_pow_right (by decide) (by omega)
      exact (saturate_eq_top (by omega)).symm

/-! ### Exact pauses -/

namespace RetryPolicy

variable {p : RetryPolicy} {attempt jitter : Nat}

/-- The pause before the repetition with this number, without its random part and without bounds
but for the limit. -/
def exactDelay (p : RetryPolicy) (attempt : Nat) : Nat :=
  min (p.baseDelay * 2 ^ (attempt - 1)) p.maxDelay

theorem exactDelay_le_maxDelay (p : RetryPolicy) (attempt : Nat) :
    p.exactDelay attempt ≤ p.maxDelay := min_le_right _ _

theorem exactDelay_le_succ (p : RetryPolicy) (attempt : Nat) :
    p.exactDelay attempt ≤ p.exactDelay (attempt + 1) := by
  have doubled : 2 ^ (attempt - 1) ≤ 2 ^ (attempt + 1 - 1) :=
    Nat.pow_le_pow_right (by decide) (by omega)
  exact min_le_min (Nat.mul_le_mul_left p.baseDelay doubled) (le_refl p.maxDelay)

/-- **Saturation never shows**: where it cuts something off, the limit does too. -/
theorem cappedDelay_eq (limited : p.maxDelay < 2 ^ 64) (attempt : Nat) :
    p.cappedDelay attempt = p.exactDelay attempt := by
  have limit : p.maxDelay ≤ top64 := Nat.le_pred_of_lt limited
  calc p.cappedDelay attempt
      = min (saturate (p.baseDelay * 2 ^ (attempt - 1))) p.maxDelay := by
        rw [cappedDelay, saturatingPow2_eq, saturate_mul_saturate]
    _ = min (p.baseDelay * 2 ^ (attempt - 1)) (min top64 p.maxDelay) := min_assoc _ _ _
    _ = p.exactDelay attempt := by rw [min_eq_right limit, exactDelay]

theorem exactDelay_le_delay (limited : p.maxDelay < 2 ^ 64) (attempt jitter : Nat) :
    p.exactDelay attempt ≤ p.delay attempt jitter := by
  have limit := p.exactDelay_le_maxDelay attempt
  rw [delay, cappedDelay_eq limited, saturate, top64_eq]
  omega

theorem delay_le (limited : p.maxDelay < 2 ^ 64) (drawn : jitter ≤ p.maxJitter attempt) :
    p.delay attempt jitter
      ≤ min (p.exactDelay attempt + p.exactDelay attempt / 4) (2 ^ 64 - 1) := by
  rw [maxJitter, cappedDelay_eq limited] at drawn
  rw [delay, cappedDelay_eq limited, saturate, top64_eq]
  exact min_le_min (Nat.add_le_add_left drawn _) (le_refl _)

end RetryPolicy

/-! ### In words -/

namespace Word

/-- The greatest word. -/
def top : UInt64 := UInt64.ofNat top64

/-- The product, or the greatest word where it overflows. -/
def saturatingMul (a b : UInt64) : UInt64 := if a.toNat * b.toNat < 2 ^ 64 then a * b else top

/-- The sum, or the greatest word where it overflows. -/
def saturatingAdd (a b : UInt64) : UInt64 := if a.toNat + b.toNat < 2 ^ 64 then a + b else top

/-- The power, or the greatest word where it overflows. -/
def saturatingPow (base : UInt64) : Nat → UInt64
  | 0 => 1
  | n + 1 => saturatingMul base (saturatingPow base n)

/-- The predecessor, or zero where there is none. -/
def saturatingPred (n : UInt32) : UInt32 := if 1 ≤ n then n - 1 else 0

theorem toNat_top : top.toNat = top64 := rfl

theorem toNat_saturatingMul (a b : UInt64) :
    (saturatingMul a b).toNat = saturate (a.toNat * b.toNat) := by
  unfold saturatingMul
  split
  · next fits => rw [UInt64.toNat_mul, Nat.mod_eq_of_lt fits, saturate_eq_self fits]
  · next beyond => rw [toNat_top, saturate_eq_top beyond]

theorem toNat_saturatingAdd (a b : UInt64) :
    (saturatingAdd a b).toNat = saturate (a.toNat + b.toNat) := by
  unfold saturatingAdd
  split
  · next fits => rw [UInt64.toNat_add, Nat.mod_eq_of_lt fits, saturate_eq_self fits]
  · next beyond => rw [toNat_top, saturate_eq_top beyond]

theorem toNat_saturatingPow (base : UInt64) (n : Nat) :
    (saturatingPow base n).toNat = saturate (base.toNat ^ n) := by
  induction n with
  | zero => rfl
  | succ n ih =>
      rw [saturatingPow, toNat_saturatingMul, ih, saturate_mul_saturate, Nat.pow_succ']

theorem toNat_saturatingPred (n : UInt32) : (saturatingPred n).toNat = n.toNat - 1 := by
  unfold saturatingPred
  split
  · next positive => rw [UInt32.toNat_sub_of_le n 1 positive, UInt32.toNat_one]
  · next zero =>
      rw [UInt32.le_iff_toNat_le, UInt32.toNat_one] at zero
      rw [UInt32.toNat_zero]
      omega

end Word

/-- A source of random words draws one from every range that is not empty. -/
def DrawsFromRanges (draw : UInt64 → UInt64 → Option UInt64) : Prop :=
  ∀ low high, low ≤ high → ∃ word, draw low high = some word ∧ low ≤ word ∧ word ≤ high

/-- A pause without its random part, in words. -/
def cappedInWords (base limit : UInt64) (attempt : UInt32) : UInt64 :=
  let power := Word.saturatingPow 2 (Word.saturatingPred attempt).toNat
  min (Word.saturatingMul base power) limit

/-- A pause as it is computed in words. It fails if no random part can be drawn. -/
def pauseInWords? (draw : UInt64 → UInt64 → Option UInt64) (base limit : UInt64)
    (attempt : UInt32) : Option UInt64 :=
  let capped := cappedInWords base limit attempt
  (draw 0 (capped / 4)).map (Word.saturatingAdd capped)

namespace RetryPolicy

variable {draw : UInt64 → UInt64 → Option UInt64}

/-- The policy whose numbers are these words. -/
def ofWords (retries : UInt32) (base limit : UInt64) : RetryPolicy :=
  ⟨retries.toNat, base.toNat, limit.toNat⟩

theorem toNat_cappedInWords (retries : UInt32) (base limit : UInt64) (attempt : UInt32) :
    (cappedInWords base limit attempt).toNat
      = (ofWords retries base limit).cappedDelay attempt.toNat := by
  rw [cappedInWords, UInt64.toNat_min, Word.toNat_saturatingMul, Word.toNat_saturatingPow,
    Word.toNat_saturatingPred, cappedDelay, saturatingPow2_eq]
  rfl

/-- What is computed in words is the pause of the policy. -/
theorem pauseInWords?_eq (retries : UInt32) (base limit : UInt64) (attempt : UInt32) :
    let p := ofWords retries base limit
    pauseInWords? draw base limit attempt
      = (draw 0 (UInt64.ofNat (p.maxJitter attempt.toNat))).map
          fun jitter => UInt64.ofNat (p.delay attempt.toNat jitter.toNat) := by
  intro p
  have capped := toNat_cappedInWords retries base limit attempt
  rw [pauseInWords?]
  generalize cappedInWords base limit attempt = word at capped ⊢
  have quarter : UInt64.ofNat (p.maxJitter attempt.toNat) = word / 4 := by
    have fits : word.toNat / 4 < 2 ^ 64 := lt_of_le_of_lt (Nat.div_le_self _ 4) word.toNat_lt
    rw [maxJitter, ← capped, ← UInt64.toNat_inj, UInt64.toNat_ofNat_of_lt' fits, UInt64.toNat_div]
    rfl
  have whole (jitter : UInt64) :
      Word.saturatingAdd word jitter = UInt64.ofNat (p.delay attempt.toNat jitter.toNat) := by
    rw [delay, ← capped, ← Word.toNat_saturatingAdd, UInt64.ofNat_toNat]
  rw [quarter, funext whole]

/-- The pauses before the repetition with this number are as long as the policy says. -/
structure PausesExactly (p : RetryPolicy) (attempt : Nat) : Prop where
  lower : ∀ jitter ≤ p.maxJitter attempt, p.exactDelay attempt ≤ p.delay attempt jitter
  upper : ∀ jitter ≤ p.maxJitter attempt, p.delay attempt jitter
    ≤ min (p.exactDelay attempt + p.exactDelay attempt / 4) (2 ^ 64 - 1)
  ascending : p.exactDelay attempt ≤ p.exactDelay (attempt + 1)
  limited : p.exactDelay attempt ≤ p.maxDelay

/-- **Pauses are exact in spite of saturation**: whatever the words of a policy and the number of
the repetition are, and whatever random part is drawn, the computation comes to its end with a pause
that is as long as the policy says. -/
theorem pause_exact (retries : UInt32) (base limit : UInt64) (draws : DrawsFromRanges draw)
    (attempt : UInt32) :
    let p := ofWords retries base limit
    p.PausesExactly attempt.toNat ∧ ∃ jitter pause,
      draw 0 (UInt64.ofNat (p.maxJitter attempt.toNat)) = some jitter ∧
        jitter.toNat ≤ p.maxJitter attempt.toNat ∧
        pauseInWords? draw base limit attempt = some pause ∧
        pause.toNat = p.delay attempt.toNat jitter.toNat := by
  intro p
  have limited : p.maxDelay < 2 ^ 64 := limit.toNat_lt
  have quarter : p.maxJitter attempt.toNat < 2 ^ 64 := by
    have upTo := p.exactDelay_le_maxDelay attempt.toNat
    rw [maxJitter, cappedDelay_eq limited]
    omega
  constructor
  · constructor
    case lower =>
      intro jitter _
      exact exactDelay_le_delay limited attempt.toNat jitter
    case upper =>
      intro jitter drawn
      exact delay_le limited drawn
    case ascending => exact p.exactDelay_le_succ attempt.toNat
    case limited => exact p.exactDelay_le_maxDelay attempt.toNat
  · have nonempty : (0 : UInt64) ≤ UInt64.ofNat (p.maxJitter attempt.toNat) := UInt64.zero_le
    obtain ⟨jitter, drawn, -, upTo⟩ := draws _ _ nonempty
    rw [UInt64.le_iff_toNat_le, UInt64.toNat_ofNat_of_lt' quarter] at upTo
    have bounded := delay_le limited upTo
    have word : p.delay attempt.toNat jitter.toNat < 2 ^ 64 := by omega
    refine ⟨jitter, _, drawn, upTo, ?_, UInt64.toNat_ofNat_of_lt' word⟩
    rw [pauseInWords?_eq retries base limit attempt, drawn, Option.map_some]

/-- The greatest word of a range. -/
def drawGreatest (low high : UInt64) : Option UInt64 := if low ≤ high then some high else none

/-- A first pause of a millisecond has doubled seventy times, up to the greatest word. -/
theorem pause_exact_greatestLimit :
    let p := ofWords 100 1 Word.top
    DrawsFromRanges drawGreatest ∧ p.PausesExactly 71 ∧
      p.exactDelay 71 = 2 ^ 64 - 1 ∧
      ∃ jitter pause, drawGreatest 0 (UInt64.ofNat (p.maxJitter 71)) = some jitter ∧
        jitter.toNat ≤ p.maxJitter 71 ∧ pauseInWords? drawGreatest 1 Word.top 71 = some pause ∧
        pause.toNat = p.delay 71 jitter.toNat := by
  intro p
  have draws : DrawsFromRanges drawGreatest := by
    intro low high range
    exact ⟨high, if_pos range, range, UInt64.le_refl high⟩
  have paused := pause_exact 100 1 Word.top draws 71
  exact ⟨draws, paused.1, by decide, paused.2⟩

end RetryPolicy

end ShortLinks
