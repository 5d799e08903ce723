/-
Single precision, on the rationals.

A `float` that is finite is the rational number it stands for; the sign of a zero and
the payload of a NaN are left out, as a comparison does not see them.  A number is
rounded at its last place: the 24th binary digit from its first, but no place below
`2 ^ -149`.  What is rounded to `2 ^ 128` or beyond is an infinity.
-/
import MK1Tank.Lib.Rounding

open Rounding

/-- What a `float` holds. -/
inductive Binary32 where
  | finite (q : ℚ)
  | infinity (negative : Bool)
  | nan
deriving DecidableEq

namespace Binary32

/-- The exponent of the last place of a number. -/
def lastPlace (q : ℚ) : ℤ := max (Int.log 2 |q| - 23) (-149)

/-- The number rounded at its last place. -/
def nearest (q : ℚ) : ℚ := roundEven (q / 2 ^ lastPlace q) * 2 ^ lastPlace q

/-- The `float` for a number, to nearest. -/
def ofRat (q : ℚ) : Binary32 :=
  if |nearest q| < 2 ^ 128 then .finite (nearest q) else .infinity (decide (q < 0))

/-- `x < 0.0f`.  A NaN is less than nothing. -/
def negative : Binary32 → Bool
  | .finite q => decide (q < 0)
  | .infinity negative => negative
  | .nan => false

@[simp] theorem negative_finite (q : ℚ) : (finite q).negative = decide (q < 0) := rfl

theorem ofRat_eq_finite {q r : ℚ} : ofRat q = .finite r ↔ |nearest q| < 2 ^ 128 ∧ nearest q = r := by
  unfold ofRat
  split
  · rename_i hsmall
    exact ⟨fun h => ⟨hsmall, Binary32.finite.inj h⟩, fun h => congrArg _ h.2⟩
  · rename_i hlarge
    exact ⟨fun h => (nomatch h), fun h => absurd h.1 hlarge⟩

/-! ### Sign -/

theorem nearest_nonneg {q : ℚ} (h : 0 ≤ q) : 0 ≤ nearest q := by
  have hplace : (0 : ℚ) < 2 ^ lastPlace q := by positivity
  have hround : (0 : ℚ) ≤ roundEven (q / 2 ^ lastPlace q) :=
    Int.cast_nonneg (roundEven_nonneg (div_nonneg h hplace.le))
  exact mul_nonneg hround hplace.le

/-- Rounding a number that is not negative gives one that is not. -/
theorem negative_ofRat {q : ℚ} (h : 0 ≤ q) : (ofRat q).negative = false := by
  unfold ofRat
  split
  · exact decide_eq_false (not_lt.mpr (nearest_nonneg h))
  · exact decide_eq_false (not_lt.mpr h)

/-! ### Error -/

/-- Rounding moves a number by half of its last place at most. -/
theorem abs_sub_nearest_le (q : ℚ) : |q - nearest q| ≤ 2 ^ lastPlace q / 2 := by
  have hplace : (0 : ℚ) < 2 ^ lastPlace q := by positivity
  have hsplit : q - nearest q =
      (q / 2 ^ lastPlace q - roundEven (q / 2 ^ lastPlace q)) * 2 ^ lastPlace q := by
    rw [nearest, sub_mul, div_mul_cancel₀ q hplace.ne']
  rw [hsplit, abs_mul, abs_of_pos hplace]
  calc
    |q / 2 ^ lastPlace q - roundEven (q / 2 ^ lastPlace q)| * 2 ^ lastPlace q
        ≤ 1 / 2 * 2 ^ lastPlace q :=
      mul_le_mul_of_nonneg_right (abs_sub_roundEven_le _) hplace.le
    _ = 2 ^ lastPlace q / 2 := by ring

@[simp] theorem nearest_zero : nearest 0 = 0 := by
  simp [nearest, roundEven]

/-- The last place of a number is a part in `2 ^ 23` of the power of two below it, or the last of all. -/
theorem lastPlace_cases (q : ℚ) :
    (lastPlace q = Int.log 2 |q| - 23 ∧ -126 ≤ Int.log 2 |q|) ∨ lastPlace q = -149 := by
  unfold lastPlace
  omega

theorem two_zpow_log_sub (n : ℤ) : (2 : ℚ) ^ (n - 23) / 2 = 2 ^ n / 2 ^ 24 := by
  rw [zpow_sub₀ (by norm_num : (2 : ℚ) ≠ 0)]
  norm_num
  ring

/-- **Rounding moves a number by one part in `2 ^ 24`**, or by half of the last of all places. -/
theorem abs_sub_nearest_le_part (q : ℚ) : |q - nearest q| ≤ |q| / 2 ^ 24 + 2 ^ (-150 : ℤ) := by
  have hplace := abs_sub_nearest_le q
  have htiny : (0 : ℚ) < 2 ^ (-150 : ℤ) := by positivity
  have hpart : 0 ≤ |q| / 2 ^ 24 := by positivity
  rcases eq_or_ne q 0 with rfl | hne
  · simp
  rcases lastPlace_cases q with ⟨hnormal, -⟩ | hlast
  · have hpow : ((2 : ℕ) : ℚ) ^ Int.log 2 |q| ≤ |q| :=
      Int.zpow_log_le_self (by norm_num) (abs_pos.mpr hne)
    rw [hnormal, two_zpow_log_sub] at hplace
    push_cast at hpow
    have hpart' : (2 : ℚ) ^ Int.log 2 |q| / 2 ^ 24 ≤ |q| / 2 ^ 24 :=
      div_le_div_of_nonneg_right hpow (by norm_num)
    linarith
  · rw [hlast] at hplace
    have hhalf : (2 : ℚ) ^ (-149 : ℤ) / 2 = 2 ^ (-150 : ℤ) := by norm_num
    linarith

/-- The same, as a part of the number it is rounded to. -/
theorem abs_sub_nearest_le_result (q : ℚ) :
    |q - nearest q| ≤ |nearest q| / 2 ^ 24 + 2 ^ (-150 : ℤ) := by
  have hplace := abs_sub_nearest_le q
  have htiny : (0 : ℚ) < 2 ^ (-150 : ℤ) := by positivity
  have hpart : 0 ≤ |nearest q| / 2 ^ 24 := by positivity
  rcases eq_or_ne q 0 with rfl | hne
  · simp
  rcases lastPlace_cases q with ⟨hnormal, -⟩ | hlast
  · have hpow : ((2 : ℕ) : ℚ) ^ Int.log 2 |q| ≤ |q| :=
      Int.zpow_log_le_self (by norm_num) (abs_pos.mpr hne)
    push_cast at hpow
    have hunit : (0 : ℚ) < 2 ^ lastPlace q := by positivity
    -- the power of two below the number is a whole number of places, so rounding stays above it
    have hwhole : (2 : ℚ) ^ Int.log 2 |q| = ((2 ^ 23 : ℤ) : ℚ) * 2 ^ lastPlace q := by
      rw [hnormal, zpow_sub₀ (by norm_num : (2 : ℚ) ≠ 0)]
      norm_num
      ring
    have hdigits : ((2 ^ 23 : ℤ) : ℚ) ≤ |q / 2 ^ lastPlace q| := by
      rw [abs_div, abs_of_pos hunit, le_div_iff₀ hunit, ← hwhole]
      exact hpow
    have hkept : ((2 ^ 23 : ℤ) : ℚ) ≤ |(roundEven (q / 2 ^ lastPlace q) : ℚ)| := by
      have hint := le_abs_roundEven hdigits
      exact_mod_cast hint
    have hresult : (2 : ℚ) ^ Int.log 2 |q| ≤ |nearest q| := by
      rw [hwhole, nearest, abs_mul, abs_of_pos hunit]
      exact mul_le_mul_of_nonneg_right hkept hunit.le
    rw [hnormal, two_zpow_log_sub] at hplace
    have hpart' : (2 : ℚ) ^ Int.log 2 |q| / 2 ^ 24 ≤ |nearest q| / 2 ^ 24 :=
      div_le_div_of_nonneg_right hresult (by norm_num)
    linarith
  · rw [hlast] at hplace
    have hhalf : (2 : ℚ) ^ (-149 : ℤ) / 2 = 2 ^ (-150 : ℤ) := by norm_num
    linarith

/-- **What is added to a power of two is lost** when it is far below its last place. -/
theorem abs_nearest_le {q : ℚ} {k : ℤ} (hk : -126 ≤ k) (h : |q| ≤ 2 ^ k + 2 ^ (k - 25)) :
    |nearest q| ≤ 2 ^ k := by
  have htwo : (2 : ℚ) ≠ 0 := by norm_num
  rcases eq_or_ne q 0 with rfl | hne
  · rw [nearest_zero, abs_zero]
    positivity
  have hpos : 0 < |q| := abs_pos.mpr hne
  have hunit : (0 : ℚ) < 2 ^ lastPlace q := by positivity
  suffices hdigits : lastPlace q ≤ k ∧ |q / 2 ^ lastPlace q| < 2 ^ (k - lastPlace q) + 1 / 2 by
    obtain ⟨hle, hless⟩ := hdigits
    have hwhole : ((2 ^ (k - lastPlace q).toNat : ℤ) : ℚ) = 2 ^ (k - lastPlace q) := by
      have hcast : ((k - lastPlace q).toNat : ℤ) = k - lastPlace q := by omega
      rw [Int.cast_pow, Int.cast_ofNat, ← zpow_natCast, hcast]
    rw [← hwhole] at hless
    have hround : |(roundEven (q / 2 ^ lastPlace q) : ℚ)| ≤ 2 ^ (k - lastPlace q) := by
      rw [← hwhole]
      exact_mod_cast abs_roundEven_le hless
    calc
      |nearest q| = |(roundEven (q / 2 ^ lastPlace q) : ℚ)| * 2 ^ lastPlace q := by
        rw [nearest, abs_mul, abs_of_pos hunit]
      _ ≤ 2 ^ (k - lastPlace q) * 2 ^ lastPlace q := mul_le_mul_of_nonneg_right hround hunit.le
      _ = 2 ^ k := by rw [← zpow_add₀ htwo, sub_add_cancel]
  rw [abs_div, abs_of_pos hunit]
  rcases lt_or_ge |q| (2 ^ k) with hbelow | habove
  · have hlog : Int.log 2 |q| < k := (Int.lt_zpow_iff_log_lt (by norm_num) hpos).mp (by exact_mod_cast hbelow)
    refine ⟨by unfold lastPlace; omega, ?_⟩
    have hdiv : |q| / 2 ^ lastPlace q < 2 ^ (k - lastPlace q) := by
      rw [zpow_sub₀ htwo]
      exact div_lt_div_of_pos_right hbelow hunit
    linarith
  · have hlow : k ≤ Int.log 2 |q| :=
      (Int.zpow_le_iff_le_log (by norm_num) hpos).mp (by exact_mod_cast habove)
    have hhigh : Int.log 2 |q| < k + 1 := by
      refine (Int.lt_zpow_iff_log_lt (by norm_num) hpos).mp ?_
      have hsmall : (2 : ℚ) ^ (k - 25) < 2 ^ k := zpow_lt_zpow_right₀ (by norm_num) (by omega)
      push_cast
      rw [zpow_add_one₀ htwo]
      linarith
    have hplace : lastPlace q = k - 23 := by
      unfold lastPlace
      omega
    refine ⟨by omega, ?_⟩
    rw [hplace, div_lt_iff₀ (by positivity)]
    have hbig : (2 : ℚ) ^ (k - (k - 23)) * 2 ^ (k - 23) = 2 ^ k := by
      rw [← zpow_add₀ htwo, sub_add_cancel]
    have hquarter : (2 : ℚ) ^ (k - 25) = 1 / 4 * 2 ^ (k - 23) := by
      rw [show k - 25 = (k - 23) + (-2) by ring, zpow_add₀ htwo]
      norm_num
      ring
    have hplace' : (0 : ℚ) < 2 ^ (k - 23) := by positivity
    rw [add_mul, hbig]
    linarith

/-- **A number of at most 24 binary digits is kept as it is.** -/
theorem nearest_eq_self {m e : ℤ} (hm : |m| < 2 ^ 24) (he : -149 ≤ e) :
    nearest (m * 2 ^ e) = m * 2 ^ e := by
  have htwo : (2 : ℚ) ≠ 0 := by norm_num
  have hlog : m ≠ 0 → Int.log 2 |(m : ℚ) * 2 ^ e| < 24 + e := by
    intro hne
    have hpos : 0 < |(m : ℚ) * 2 ^ e| :=
      abs_pos.mpr (mul_ne_zero (Int.cast_ne_zero.mpr hne) (by positivity))
    have hless : |(m : ℚ) * 2 ^ e| < ((2 : ℕ) : ℚ) ^ (24 + e) := by
      have hcast : |(m : ℚ)| < 2 ^ 24 := by exact_mod_cast hm
      have hpow : (0 : ℚ) < 2 ^ e := by positivity
      rw [abs_mul, abs_of_pos hpow, Nat.cast_ofNat, zpow_add₀ htwo]
      exact mul_lt_mul_of_pos_right hcast hpow
    exact (Int.lt_zpow_iff_log_lt (by norm_num) hpos).mp hless
  have hwhole : ∀ place : ℤ, place ≤ e →
      (m : ℚ) * 2 ^ e / 2 ^ place = ((m * 2 ^ (e - place).toNat : ℤ) : ℚ) := by
    intro place hle
    have hcast : ((e - place).toNat : ℤ) = e - place := by omega
    rw [Int.cast_mul, Int.cast_pow, Int.cast_ofNat, ← zpow_natCast, hcast, zpow_sub₀ htwo,
      mul_div_assoc]
  rcases eq_or_ne m 0 with rfl | hne
  · simp [nearest, roundEven]
  · have hplace : lastPlace ((m : ℚ) * 2 ^ e) ≤ e := by
      have hlog := hlog hne
      unfold lastPlace
      omega
    unfold nearest
    rw [hwhole _ hplace, roundEven_intCast, ← hwhole _ hplace, div_mul_cancel₀ _ (by positivity)]

/-- A whole number of at most 24 binary digits is a `float` of its own. -/
theorem ofRat_natCast {n : ℕ} (h : n < 2 ^ 24) : ofRat n = .finite n := by
  have hself : nearest (n : ℚ) = n := by
    have hdigits : |(n : ℤ)| < 2 ^ 24 := by
      rw [Nat.abs_cast]
      exact_mod_cast h
    simpa using nearest_eq_self hdigits (show -149 ≤ (0 : ℤ) by norm_num)
  refine ofRat_eq_finite.mpr ⟨?_, hself⟩
  have hcast : (n : ℚ) < 2 ^ 24 := by exact_mod_cast h
  rw [hself, Nat.abs_cast]
  exact hcast.trans (by norm_num)

end Binary32
