import Mathlib.Data.String.Basic

/-!
Texts by their bytes.

* `encode_lt` — a smaller character has smaller bytes, whatever follows the two. A code point is
  written in digits of base 64, and longer codes begin with larger bytes.
* `bytes_lt_iff`, `bytes_le_iff` — so texts are ordered as their bytes are.
-/

namespace ShortLinks.Text

/-- The bytes of a text. -/
def bytes (text : String) : List UInt8 := text.toUTF8.data.toList

theorem bytes_eq (text : String) : bytes text = text.toList.flatMap String.utf8EncodeChar := by
  rw [bytes, String.toUTF8_eq_toByteArray, ← String.utf8Encode_toList, List.utf8Encode,
    List.toList_data_toByteArray]

/-! ### Characters -/

theorem ofNat_lt_iff {n m : Nat} (small : n < 256) (small' : m < 256) :
    UInt8.ofNat n < UInt8.ofNat m ↔ n < m := by
  rw [UInt8.lt_iff_toNat_lt, UInt8.toNat_ofNat', UInt8.toNat_ofNat', Nat.mod_eq_of_lt small,
    Nat.mod_eq_of_lt small']

theorem ofNat_eq_iff {n m : Nat} (small : n < 256) (small' : m < 256) :
    UInt8.ofNat n = UInt8.ofNat m ↔ n = m := by
  rw [← UInt8.toNat_inj, UInt8.toNat_ofNat', UInt8.toNat_ofNat', Nat.mod_eq_of_lt small,
    Nat.mod_eq_of_lt small']

theorem toNat_lt (c : Char) : c.val.toNat < 1114112 := by
  rcases c.valid with low | high
  · omega
  · exact high.2

/-- A smaller character has smaller bytes, whatever follows. -/
theorem encode_lt {c d : Char} (less : c < d) (rest more : List UInt8) :
    String.utf8EncodeChar c ++ rest < String.utf8EncodeChar d ++ more := by
  have less : c.val.toNat < d.val.toNat := less
  have top := toNat_lt d
  unfold String.utf8EncodeChar
  dsimp only
  generalize c.val.toNat = n at less ⊢
  generalize d.val.toNat = m at less top ⊢
  -- Numbers are ordered as their digits are, the last digit and the ones before it.
  have digit {a b : Nat} (ordered : a ≤ b) :
      a / 64 < b / 64 ∨ a / 64 = b / 64 ∧ (a % 64 < b % 64 ∨ a = b) := by omega
  have low := digit (Nat.le_of_lt less)
  have middle := digit (Nat.div_le_div_right (c := 64) (Nat.le_of_lt less))
  have high := digit (Nat.div_le_div_right (c := 4096) (Nat.le_of_lt less))
  simp only [Nat.div_div_eq_div_mul, Nat.reduceMul] at middle high
  have lead {v : Nat} (small : v < 1114112) : v / 262144 % 8 = v / 262144 := by omega
  rw [lead top, lead (less.trans top)]
  -- One case for each pair of lengths.
  split_ifs <;>
    simp (disch := omega) only [List.cons_append, List.nil_append, List.cons_lt_cons_iff,
      ofNat_lt_iff, ofNat_eq_iff] <;>
    omega

/-! ### Texts -/

theorem encode_ne_nil (c : Char) : String.utf8EncodeChar c ≠ [] := by
  unfold String.utf8EncodeChar
  dsimp only
  split_ifs <;> exact List.cons_ne_nil _ _

theorem append_lt_append {first : List UInt8} {rest more : List UInt8} (less : rest < more) :
    first ++ rest < first ++ more := by
  induction first with
  | nil => exact less
  | cons b others ih => exact List.cons_lt_cons_iff.mpr (.inr ⟨rfl, ih⟩)

/-- Smaller characters make smaller bytes. -/
theorem flatMap_encode_lt {cs ds : List Char} (less : cs < ds) :
    cs.flatMap String.utf8EncodeChar < ds.flatMap String.utf8EncodeChar := by
  induction cs generalizing ds with
  | nil =>
      cases ds with
      | nil => exact absurd less (List.not_lt_nil _)
      | cons d rest =>
          rw [List.flatMap_cons, List.flatMap_nil]
          obtain ⟨b, bytes, code⟩ := List.exists_cons_of_ne_nil (encode_ne_nil d)
          rw [code, List.cons_append]
          exact List.nil_lt_cons _ _
  | cons c others ih =>
      cases ds with
      | nil => exact absurd less (List.not_lt_nil _)
      | cons d rest =>
          rw [List.flatMap_cons, List.flatMap_cons]
          rcases List.cons_lt_cons_iff.mp less with smaller | ⟨rfl, smaller⟩
          · exact encode_lt smaller _ _
          · exact append_lt_append (ih smaller)

/-- **Texts are ordered as their bytes are.** -/
theorem bytes_lt_iff {text other : String} : bytes text < bytes other ↔ text < other := by
  have forward {s t : String} (less : s < t) : bytes s < bytes t := by
    rw [bytes_eq, bytes_eq]
    exact flatMap_encode_lt (String.lt_iff_toList_lt.mp less)
  refine ⟨fun less => ?_, forward⟩
  rcases lt_trichotomy text other with smaller | rfl | larger
  · exact smaller
  · exact absurd less (List.lt_irrefl _)
  · exact absurd less (List.lt_asymm (forward larger))

theorem bytes_le_iff {text other : String} : bytes text ≤ bytes other ↔ text ≤ other := by
  rw [← List.not_lt, ← not_lt, bytes_lt_iff]

end ShortLinks.Text
