/-
Rounding a rational to an integer, the way C does it.

The firmware computes in `float`, and every value it rounds is a rational.  A cast
to `int` drops the fraction; `lroundf` takes the nearest integer, halves going away
from zero.  Both are written on the numerator and the denominator, so that they
compute.  The arithmetic itself rounds a half to the even neighbour.
-/
import Mathlib

namespace Rounding

/-- `(int)q`: the fraction is dropped. -/
def truncate (q : ℚ) : ℤ := q.num.tdiv q.den

/-- `lroundf(q)`: the nearest integer, a half going away from zero. -/
def lround (q : ℚ) : ℤ := if 0 ≤ q then truncate (q + 1 / 2) else truncate (q - 1 / 2)

@[simp] theorem truncate_intCast (n : ℤ) : truncate (n : ℚ) = n := by
  simp [truncate]

@[simp] theorem truncate_natCast (n : ℕ) : truncate (n : ℚ) = n := by
  simp [truncate]

/-! ### Order -/

theorem truncate_of_nonneg {q : ℚ} (h : 0 ≤ q) : truncate q = ⌊q⌋ := by
  rw [truncate, Rat.floor_def', Int.tdiv_eq_ediv_of_nonneg (Rat.num_nonneg.mpr h)]

theorem truncate_neg (q : ℚ) : truncate (-q) = -truncate q := by
  simp only [truncate, Rat.num_neg_eq_neg_num, Rat.den_neg_eq_den, Int.neg_tdiv]

/-- What is dropped is less than one. -/
theorem abs_sub_truncate_lt (q : ℚ) : |q - truncate q| < 1 := by
  have hnonneg : ∀ r : ℚ, 0 ≤ r → |r - truncate r| < 1 := by
    intro r hr
    rw [truncate_of_nonneg hr, Int.self_sub_floor, Int.abs_fract]
    exact Int.fract_lt_one r
  rcases le_total 0 q with h | h
  · exact hnonneg q h
  · have hflip := hnonneg (-q) (by linarith)
    rwa [truncate_neg, Int.cast_neg, ← abs_neg, neg_sub_neg, neg_sub] at hflip

theorem lround_of_nonneg {q : ℚ} (h : 0 ≤ q) : lround q = ⌊q + 1 / 2⌋ := by
  rw [lround, if_pos h, truncate_of_nonneg (by linarith)]

/-- Halves go away from zero on both sides. -/
theorem lround_neg (q : ℚ) : lround (-q) = -lround q := by
  have hpos : ∀ r : ℚ, 0 < r → lround (-r) = -lround r := by
    intro r hr
    have hflip : -r - 1 / 2 = -(r + 1 / 2) := by ring
    rw [lround, lround, if_neg (by linarith), if_pos hr.le, hflip, truncate_neg]
  rcases lt_trichotomy q 0 with h | h | h
  · have hflip := hpos (-q) (by linarith)
    rw [neg_neg] at hflip
    rw [hflip, neg_neg]
  · rw [h]
    decide +kernel
  · exact hpos q h

theorem lround_nonneg {q : ℚ} (h : 0 ≤ q) : 0 ≤ lround q := by
  rw [lround_of_nonneg h]
  exact Int.floor_nonneg.mpr (by linarith)

theorem lround_nonpos {q : ℚ} (h : q ≤ 0) : lround q ≤ 0 := by
  have hflip := lround_nonneg (neg_nonneg.mpr h)
  rw [lround_neg] at hflip
  omega

/-- **Rounding keeps the order.** -/
theorem lround_mono {q r : ℚ} (h : q ≤ r) : lround q ≤ lround r := by
  have hnonneg : ∀ {a b : ℚ}, 0 ≤ a → a ≤ b → lround a ≤ lround b := by
    intro a b ha hab
    rw [lround_of_nonneg ha, lround_of_nonneg (ha.trans hab)]
    exact Int.floor_le_floor (by linarith)
  by_cases hq : 0 ≤ q
  · exact hnonneg hq h
  · by_cases hr : 0 ≤ r
    · exact (lround_nonpos (by linarith)).trans (lround_nonneg hr)
    · have hflip := hnonneg (show 0 ≤ -r by linarith) (neg_le_neg h)
      rw [lround_neg, lround_neg] at hflip
      omega

/-! ### Halves to even -/

/-- The nearest integer, a half going to the even neighbour. -/
def roundEven (q : ℚ) : ℤ :=
  let below := ⌊q⌋
  if q - below < 1 / 2 ∨ q - below = 1 / 2 ∧ below % 2 = 0 then below else below + 1

@[simp] theorem roundEven_intCast (n : ℤ) : roundEven (n : ℚ) = n := by
  simp [roundEven]

theorem roundEven_nonneg {q : ℚ} (h : 0 ≤ q) : 0 ≤ roundEven q := by
  have hfloor := Int.floor_nonneg.mpr h
  simp only [roundEven]
  split <;> omega

/-- No integer is nearer. -/
theorem abs_sub_roundEven_le (q : ℚ) : |q - roundEven q| ≤ 1 / 2 := by
  have hlow := Int.floor_le q
  have hhigh := Int.lt_floor_add_one q
  simp only [roundEven]
  split
  · rename_i hdown
    rw [abs_of_nonneg (by linarith)]
    rcases hdown with hless | ⟨hhalf, -⟩ <;> linarith
  · rename_i hup
    have hmore : 1 / 2 ≤ q - ⌊q⌋ := not_lt.mp fun hless => hup (Or.inl hless)
    push_cast
    rw [abs_of_nonpos (by linarith)]
    linarith

/-- A number that an integer bounds is rounded no further than that integer. -/
theorem abs_roundEven_le {q : ℚ} {n : ℤ} (h : |q| < n + 1 / 2) : |roundEven q| ≤ n := by
  have hnear := abs_sub_roundEven_le q
  have hbound : ((|roundEven q| : ℤ) : ℚ) < n + 1 := by
    push_cast
    calc
      |(roundEven q : ℚ)| = |q - (q - roundEven q)| := by ring_nf
      _ ≤ |q| + |q - roundEven q| := abs_sub _ _
      _ < n + 1 := by linarith
  have hcast : |roundEven q| < n + 1 := by exact_mod_cast hbound
  omega

theorem le_abs_roundEven {q : ℚ} {n : ℤ} (h : n ≤ |q|) : n ≤ |roundEven q| := by
  have hnear := abs_sub_roundEven_le q
  have hbound : (n : ℚ) < ((|roundEven q| : ℤ) : ℚ) + 1 := by
    push_cast
    have hsplit : |q| ≤ |q - roundEven q| + |(roundEven q : ℚ)| := by
      calc
        |q| = |(q - roundEven q) + roundEven q| := by ring_nf
        _ ≤ |q - roundEven q| + |(roundEven q : ℚ)| := abs_add_le _ _
    linarith
  have hcast : n < |roundEven q| + 1 := by exact_mod_cast hbound
  omega

example : truncate (-7 / 2) = -3 ∧ lround (-7 / 2) = -4 ∧ lround (7 / 2) = 4 := by decide +kernel

end Rounding
