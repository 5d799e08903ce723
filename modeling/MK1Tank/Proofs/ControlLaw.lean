/-
The heading lock's control law.

The error is the one angle in (-180, 180] that differs from reference minus heading by
whole turns, so turns that have piled up in either do not matter.  The output is an odd
function of the error: the gain, clamped at the ceiling, and raised to the floor where it
is not zero.  As the floor is applied last, it wins over a ceiling that is below it.
-/
import MK1Tank.Firmware.Thl

namespace MK1Tank

open Rounding

/-! ### The shortest way round -/

private theorem turn_pos : (0 : ℚ) < 360 := by norm_num

/-- `fmodf` leaves less than one turn, and takes whole turns away. -/
theorem abs_fmod360_lt (deg : ℚ) : |fmod360 deg| < 360 := by
  have hscaled : fmod360 deg = 360 * (deg / 360 - truncate (deg / 360)) := by
    unfold fmod360
    ring
  have hlt := abs_sub_truncate_lt (deg / 360)
  rw [hscaled, abs_mul, abs_of_pos turn_pos]
  linarith

/-- **`wrap180` takes the representative in (-180, 180].** -/
theorem wrap180_eq (deg : ℚ) : wrap180 deg = toIocMod turn_pos (-180) deg := by
  have hturns : fmod360 deg = deg - 360 * truncate (deg / 360) := rfl
  obtain ⟨hlow, hhigh⟩ := abs_lt.mp (abs_fmod360_lt deg)
  symm
  rw [toIocMod_eq_iff, Set.mem_Ioc]
  unfold wrap180
  simp only
  split
  · rename_i hover
    refine ⟨⟨by linarith, by linarith⟩, truncate (deg / 360) + 1, ?_⟩
    rw [hturns, zsmul_eq_mul]
    push_cast
    ring
  · rename_i hnotOver
    split
    · rename_i hunder
      refine ⟨⟨by linarith, by linarith⟩, truncate (deg / 360) - 1, ?_⟩
      rw [hturns, zsmul_eq_mul]
      push_cast
      ring
    · rename_i hnotUnder
      refine ⟨⟨by linarith, by linarith⟩, truncate (deg / 360), ?_⟩
      rw [hturns, zsmul_eq_mul]
      ring

theorem wrap180_mem (deg : ℚ) : -180 < wrap180 deg ∧ wrap180 deg ≤ 180 := by
  have hmem := toIocMod_mem_Ioc turn_pos (-180) deg
  rw [← wrap180_eq] at hmem
  exact ⟨hmem.1, hmem.2.trans (by norm_num)⟩

theorem wrap180_turns (deg : ℚ) : ∃ turns : ℤ, wrap180 deg = deg + 360 * turns := by
  refine ⟨-toIocDiv turn_pos (-180) deg, ?_⟩
  rw [wrap180_eq, toIocMod, zsmul_eq_mul]
  push_cast
  ring

/-- No other angle that differs by whole turns is closer to zero. -/
theorem abs_wrap180_le (deg : ℚ) (turns : ℤ) : |wrap180 deg| ≤ |deg - 360 * turns| := by
  obtain ⟨hlow, hhigh⟩ := wrap180_mem deg
  obtain ⟨apart, hapart⟩ := wrap180_turns deg
  have hdiffer : deg - 360 * turns = wrap180 deg - 360 * ((apart + turns : ℤ) : ℚ) := by
    rw [hapart]
    push_cast
    ring
  have habs : |wrap180 deg| ≤ 180 := abs_le.mpr ⟨hlow.le, hhigh⟩
  rw [hdiffer]
  generalize apart + turns = between
  rcases eq_or_ne between 0 with hzero | hne
  · simp [hzero]
  · have hone : (1 : ℚ) ≤ |(between : ℚ)| := by exact_mod_cast Int.one_le_abs hne
    have hreverse := abs_sub_abs_le_abs_sub (360 * (between : ℚ)) (wrap180 deg)
    rw [abs_mul, abs_of_pos turn_pos, abs_sub_comm] at hreverse
    linarith

/-- Whole turns do not matter. -/
theorem wrap180_add_turns (deg : ℚ) (turns : ℤ) : wrap180 (deg + 360 * turns) = wrap180 deg := by
  have hmul : (360 : ℚ) * turns = turns • (360 : ℚ) := by
    rw [zsmul_eq_mul]
    ring
  rw [wrap180_eq, wrap180_eq, hmul, toIocMod_add_zsmul]

/-- The other way round, unless both ways are equally long. -/
theorem wrap180_neg {deg : ℚ} (h : wrap180 deg ≠ 180) : wrap180 (-deg) = -wrap180 deg := by
  obtain ⟨hlow, hhigh⟩ := wrap180_mem deg
  obtain ⟨turns, hturns⟩ := wrap180_turns deg
  have hlt : wrap180 deg < 180 := lt_of_le_of_ne hhigh h
  rw [wrap180_eq (-deg), toIocMod_eq_iff, Set.mem_Ioc]
  refine ⟨⟨by linarith, by linarith⟩, turns, ?_⟩
  rw [zsmul_eq_mul, hturns]
  ring

/-! ### The output, as a function of the error -/

/-- What the law commands for an error. -/
def commandedPct (tuning : ThlTuning) (error : ℚ) : ℚ :=
  if |error| < tuning.deadbandDeg then 0
  else
    let clamped :=
      if tuning.kpPctPerDeg * error > tuning.ceilingPct then tuning.ceilingPct
      else if tuning.kpPctPerDeg * error < -tuning.ceilingPct then -tuning.ceilingPct
      else tuning.kpPctPerDeg * error
    if clamped > 0 ∧ clamped < tuning.floorPct then tuning.floorPct
    else if clamped < 0 ∧ clamped > -tuning.floorPct then -tuning.floorPct
    else clamped

theorem mkhThlComputeOutputPct_eq (tuning : ThlTuning) (referenceDeg headingDeg : ℚ) :
    mkhThlComputeOutputPct tuning referenceDeg headingDeg =
      (wrap180 (referenceDeg - headingDeg),
        commandedPct tuning (wrap180 (referenceDeg - headingDeg))) := by
  unfold mkhThlComputeOutputPct commandedPct
  simp only
  split <;> rfl

/-- The four settings that shape the output, as a line on the serial port can leave them. -/
structure ThlTuning.NonNeg (tuning : ThlTuning) : Prop where
  deadband : 0 ≤ tuning.deadbandDeg
  kp : 0 ≤ tuning.kpPctPerDeg
  floor : 0 ≤ tuning.floorPct
  ceiling : 0 ≤ tuning.ceilingPct

section Output

variable {tuning : ThlTuning} {error : ℚ}

theorem commandedPct_inside (h : |error| < tuning.deadbandDeg) : commandedPct tuning error = 0 :=
  if_pos h

/-- To the right: the gain, clamped, and raised to the floor where it is not zero. -/
theorem commandedPct_of_nonneg (h : tuning.NonNeg) (herror : 0 ≤ error)
    (hout : tuning.deadbandDeg ≤ |error|) :
    commandedPct tuning error =
      if min (tuning.kpPctPerDeg * error) tuning.ceilingPct = 0 then 0
      else max tuning.floorPct (min (tuning.kpPctPerDeg * error) tuning.ceilingPct) := by
  have hgain : 0 ≤ tuning.kpPctPerDeg * error := mul_nonneg h.kp herror
  have hceiling := h.ceiling
  have hfloor := h.floor
  have hclamped : (if tuning.kpPctPerDeg * error > tuning.ceilingPct then tuning.ceilingPct
      else if tuning.kpPctPerDeg * error < -tuning.ceilingPct then -tuning.ceilingPct
      else tuning.kpPctPerDeg * error) = min (tuning.kpPctPerDeg * error) tuning.ceilingPct := by
    split
    · exact (min_eq_right (by linarith)).symm
    · rw [if_neg (by linarith)]
      exact (min_eq_left (by linarith)).symm
  have hnonneg : 0 ≤ min (tuning.kpPctPerDeg * error) tuning.ceilingPct := le_min hgain hceiling
  unfold commandedPct
  rw [if_neg (not_lt.mpr hout)]
  simp only [hclamped]
  generalize min (tuning.kpPctPerDeg * error) tuning.ceilingPct = clamped at hnonneg
  rcases hnonneg.eq_or_lt with hzero | hpos
  · rw [if_neg (by rintro ⟨hlt, -⟩; linarith), if_neg (by rintro ⟨hlt, -⟩; linarith),
      if_pos hzero.symm, hzero]
  · rw [if_neg hpos.ne']
    by_cases hlow : clamped < tuning.floorPct
    · rw [if_pos ⟨hpos, hlow⟩, max_eq_left hlow.le]
    · rw [if_neg fun hboth => hlow hboth.2, if_neg (by rintro ⟨hlt, -⟩; linarith),
        max_eq_right (not_lt.mp hlow)]

/-- The law is odd in the error. -/
theorem commandedPct_neg (h : 0 ≤ tuning.ceilingPct) (error : ℚ) :
    commandedPct tuning (-error) = -commandedPct tuning error := by
  unfold commandedPct
  rw [abs_neg]
  split
  · rw [neg_zero]
  · have hclamped : (if tuning.kpPctPerDeg * -error > tuning.ceilingPct then tuning.ceilingPct
        else if tuning.kpPctPerDeg * -error < -tuning.ceilingPct then -tuning.ceilingPct
        else tuning.kpPctPerDeg * -error) =
      -(if tuning.kpPctPerDeg * error > tuning.ceilingPct then tuning.ceilingPct
        else if tuning.kpPctPerDeg * error < -tuning.ceilingPct then -tuning.ceilingPct
        else tuning.kpPctPerDeg * error) := by
      rw [mul_neg]
      split_ifs <;> linarith
    simp only [hclamped]
    generalize (if tuning.kpPctPerDeg * error > tuning.ceilingPct then tuning.ceilingPct
        else if tuning.kpPctPerDeg * error < -tuning.ceilingPct then -tuning.ceilingPct
        else tuning.kpPctPerDeg * error) = clamped
    split_ifs <;> grind

end Output

/-! ### The limits -/

/-- What is promised of an output, for the error it answers. -/
structure OutputLimits (tuning : ThlTuning) (error output : ℚ) : Prop where
  ceiling : |output| ≤ tuning.ceilingPct
  deadband : |error| < tuning.deadbandDeg → output = 0
  sign : output = 0 ∨ 0 < error * output
  floor : output ≠ 0 → min tuning.floorPct tuning.ceilingPct ≤ |output|

theorem OutputLimits.zero {tuning : ThlTuning} (h : tuning.NonNeg) (error : ℚ) :
    OutputLimits tuning error 0 where
  ceiling := by simpa using h.ceiling
  deadband _ := rfl
  sign := Or.inl rfl
  floor hne := absurd rfl hne

/-- The limits are symmetric. -/
theorem OutputLimits.neg {tuning : ThlTuning} {error output : ℚ}
    (h : OutputLimits tuning error output) : OutputLimits tuning (-error) (-output) where
  ceiling := by simpa using h.ceiling
  deadband hin := by simpa using h.deadband (by simpa using hin)
  sign := by simpa using h.sign
  floor hne := by simpa using h.floor (by simpa using hne)

section Limits

variable {tuning : ThlTuning} {error : ℚ}

/-- Outside the deadband and to the right, with a gain and a ceiling, something is commanded, and
    it is at least the floor. -/
theorem commandedPct_of_pos (h : tuning.NonNeg) (herror : 0 < error)
    (hout : tuning.deadbandDeg ≤ |error|) (hkp : 0 < tuning.kpPctPerDeg)
    (hceiling : 0 < tuning.ceilingPct) :
    commandedPct tuning error =
      max tuning.floorPct (min (tuning.kpPctPerDeg * error) tuning.ceilingPct) := by
  have hgain : 0 < min (tuning.kpPctPerDeg * error) tuning.ceilingPct :=
    lt_min (mul_pos hkp herror) hceiling
  rw [commandedPct_of_nonneg h herror.le hout, if_neg hgain.ne']

/-- Nothing is commanded inside the deadband, without a gain, or under a ceiling of zero. -/
theorem commandedPct_eq_zero (h : tuning.NonNeg) (herror : 0 ≤ error)
    (hidle : |error| < tuning.deadbandDeg ∨ error = 0 ∨ tuning.kpPctPerDeg = 0 ∨
      tuning.ceilingPct = 0) : commandedPct tuning error = 0 := by
  by_cases hin : |error| < tuning.deadbandDeg
  · exact commandedPct_inside hin
  · have hgain : 0 ≤ tuning.kpPctPerDeg * error := mul_nonneg h.kp herror
    rw [commandedPct_of_nonneg h herror (not_lt.mp hin), if_pos]
    rcases hidle with hinside | hzero | hkp | hceiling
    · exact absurd hinside hin
    · rw [hzero, mul_zero, min_eq_left h.ceiling]
    · rw [hkp, zero_mul, min_eq_left h.ceiling]
    · rw [hceiling, min_eq_right hgain]

/-- The limits to the right: what is commanded is either nothing, or the floor and the ceiling
    decide. -/
theorem commandedPct_limits_of_nonneg (h : tuning.NonNeg) (herror : 0 ≤ error) :
    OutputLimits tuning error (commandedPct tuning error) ↔
      tuning.floorPct ≤ tuning.ceilingPct ∨ tuning.ceilingPct = 0 ∨ tuning.kpPctPerDeg = 0 ∨
        error = 0 ∨ |error| < tuning.deadbandDeg := by
  by_cases hidle : |error| < tuning.deadbandDeg ∨ error = 0 ∨ tuning.kpPctPerDeg = 0 ∨
      tuning.ceilingPct = 0
  · rw [commandedPct_eq_zero h herror hidle]
    exact ⟨fun _ => by tauto, fun _ => OutputLimits.zero h error⟩
  · push Not at hidle
    obtain ⟨hout, herrorNe, hkpNe, hceilingNe⟩ := hidle
    have hpos : 0 < error := lt_of_le_of_ne herror herrorNe.symm
    have hceiling : 0 < tuning.ceilingPct := lt_of_le_of_ne h.ceiling hceilingNe.symm
    have hkp : 0 < tuning.kpPctPerDeg := lt_of_le_of_ne h.kp hkpNe.symm
    have hcommanded := commandedPct_of_pos h hpos hout hkp hceiling
    have hgain : 0 < min (tuning.kpPctPerDeg * error) tuning.ceilingPct :=
      lt_min (mul_pos hkp hpos) hceiling
    have houtput : 0 < commandedPct tuning error := by
      rw [hcommanded]
      exact lt_max_of_lt_right hgain
    constructor
    · intro hlimits
      have hbelow := hlimits.ceiling
      rw [abs_of_pos houtput, hcommanded] at hbelow
      exact Or.inl ((le_max_left _ _).trans hbelow)
    · intro hcases
      have hfloor : tuning.floorPct ≤ tuning.ceilingPct := by
        rcases hcases with hfloor | hzero | hzero | hzero | hinside
        · exact hfloor
        · exact absurd hzero hceilingNe
        · exact absurd hzero hkpNe
        · exact absurd hzero herrorNe
        · exact absurd hinside (not_lt.mpr hout)
      refine ⟨?_, fun hinside => absurd hinside (not_lt.mpr hout), Or.inr (mul_pos hpos houtput),
        fun _ => ?_⟩
      · rw [abs_of_pos houtput, hcommanded]
        exact max_le hfloor (min_le_right _ _)
      · rw [abs_of_pos houtput, hcommanded]
        exact (min_le_left _ _).trans (le_max_left _ _)

/-- The limits either way, as the law and the limits are both symmetric. -/
theorem commandedPct_limits_iff (h : tuning.NonNeg) :
    OutputLimits tuning error (commandedPct tuning error) ↔
      tuning.floorPct ≤ tuning.ceilingPct ∨ tuning.ceilingPct = 0 ∨ tuning.kpPctPerDeg = 0 ∨
        error = 0 ∨ |error| < tuning.deadbandDeg := by
  rcases le_total 0 error with hright | hleft
  · exact commandedPct_limits_of_nonneg h hright
  · have hmirrored := commandedPct_limits_of_nonneg h (neg_nonneg.mpr hleft)
    rw [commandedPct_neg h.ceiling, abs_neg, neg_eq_zero] at hmirrored
    rw [← hmirrored]
    exact ⟨OutputLimits.neg, fun hlimits => by simpa using hlimits.neg⟩

end Limits

/-- Whole turns aside, the heading is the reference, or within the deadband of it. -/
def Aligned (tuning : ThlTuning) (referenceDeg headingDeg : ℚ) : Prop :=
  ∃ turns : ℤ, referenceDeg - headingDeg = 360 * turns ∨
    |referenceDeg - headingDeg - 360 * turns| < tuning.deadbandDeg

theorem aligned_iff (tuning : ThlTuning) (referenceDeg headingDeg : ℚ) :
    Aligned tuning referenceDeg headingDeg ↔
      wrap180 (referenceDeg - headingDeg) = 0 ∨
        |wrap180 (referenceDeg - headingDeg)| < tuning.deadbandDeg := by
  constructor
  · rintro ⟨turns, hon | hnear⟩
    · left
      have hle := abs_wrap180_le (referenceDeg - headingDeg) turns
      rw [hon, sub_self, abs_zero] at hle
      rw [hon]
      exact abs_nonpos_iff.mp hle
    · exact Or.inr ((abs_wrap180_le _ turns).trans_lt hnear)
  · obtain ⟨turns, hturns⟩ := wrap180_turns (referenceDeg - headingDeg)
    have hback : referenceDeg - headingDeg - 360 * ((-turns : ℤ) : ℚ) =
        wrap180 (referenceDeg - headingDeg) := by
      rw [hturns]
      push_cast
      ring
    rintro (hzero | hinside)
    · exact ⟨-turns, Or.inl (by linarith)⟩
    · exact ⟨-turns, Or.inr (by rw [hback]; exact hinside)⟩

/-- **The output keeps its limits exactly when the floor is not above the ceiling, or nothing is
    commanded.** -/
theorem mkhThlComputeOutputPct_limits_iff (tuning : ThlTuning) (h : tuning.NonNeg)
    (referenceDeg headingDeg : ℚ) :
    OutputLimits tuning (mkhThlComputeOutputPct tuning referenceDeg headingDeg).1
        (mkhThlComputeOutputPct tuning referenceDeg headingDeg).2 ↔
      tuning.floorPct ≤ tuning.ceilingPct ∨ tuning.ceilingPct = 0 ∨ tuning.kpPctPerDeg = 0 ∨
        Aligned tuning referenceDeg headingDeg := by
  rw [mkhThlComputeOutputPct_eq, aligned_iff]
  exact commandedPct_limits_iff h

theorem mkhThlComputeOutputPct_limits_boot :
    OutputLimits ThlTuning.boot (mkhThlComputeOutputPct ThlTuning.boot 90 60).1
      (mkhThlComputeOutputPct ThlTuning.boot 90 60).2 :=
  (mkhThlComputeOutputPct_limits_iff ThlTuning.boot
    ⟨by norm_num [ThlTuning.boot], by norm_num [ThlTuning.boot], by norm_num [ThlTuning.boot],
      by norm_num [ThlTuning.boot]⟩ 90 60).mpr (Or.inl (by norm_num [ThlTuning.boot]))

/-- The default tuning, after a line that sets the floor to 70. -/
def floorAboveCeiling : ThlTuning := { ThlTuning.boot with floorPct := 70 }

theorem mkhThlComputeOutputPct_over_ceiling :
    floorAboveCeiling.NonNeg ∧ floorAboveCeiling.ceilingPct = 60 ∧
      (mkhThlComputeOutputPct floorAboveCeiling 10 0).2 = 70 ∧
      ¬ ∀ (tuning : ThlTuning), tuning.NonNeg → ∀ referenceDeg headingDeg : ℚ,
        OutputLimits tuning (mkhThlComputeOutputPct tuning referenceDeg headingDeg).1
          (mkhThlComputeOutputPct tuning referenceDeg headingDeg).2 := by
  have hnonneg : floorAboveCeiling.NonNeg := by
    refine ⟨?_, ?_, ?_, ?_⟩ <;> norm_num [floorAboveCeiling, ThlTuning.boot]
  have houtput : (mkhThlComputeOutputPct floorAboveCeiling 10 0).2 = 70 := by decide +kernel
  refine ⟨hnonneg, rfl, houtput, fun hall => ?_⟩
  have hceiling := (hall floorAboveCeiling hnonneg 10 0).ceiling
  rw [houtput] at hceiling
  norm_num [floorAboveCeiling, ThlTuning.boot] at hceiling

/-! ### The shortest way round, in the law -/

/-- **The error is the shortest way round, whole turns do not matter, and the other way round
    commands the opposite.** -/
theorem mkhThlComputeOutputPct_shortest_way (tuning : ThlTuning) (referenceDeg headingDeg : ℚ) :
    (-180 < (mkhThlComputeOutputPct tuning referenceDeg headingDeg).1 ∧
      (mkhThlComputeOutputPct tuning referenceDeg headingDeg).1 ≤ 180) ∧
    (∃ turns : ℤ, (mkhThlComputeOutputPct tuning referenceDeg headingDeg).1 =
      referenceDeg - headingDeg + 360 * turns) ∧
    (∀ referenceTurns headingTurns : ℤ,
      mkhThlComputeOutputPct tuning (referenceDeg + 360 * referenceTurns)
        (headingDeg + 360 * headingTurns) =
          mkhThlComputeOutputPct tuning referenceDeg headingDeg) ∧
    (0 ≤ tuning.ceilingPct →
      (∀ referenceDeg' headingDeg' : ℚ,
        (mkhThlComputeOutputPct tuning referenceDeg' headingDeg').1 =
          -(mkhThlComputeOutputPct tuning referenceDeg headingDeg).1 →
        (mkhThlComputeOutputPct tuning referenceDeg' headingDeg').2 =
          -(mkhThlComputeOutputPct tuning referenceDeg headingDeg).2) ∧
      ((mkhThlComputeOutputPct tuning referenceDeg headingDeg).1 ≠ 180 →
        mkhThlComputeOutputPct tuning headingDeg referenceDeg =
          (-(mkhThlComputeOutputPct tuning referenceDeg headingDeg).1,
            -(mkhThlComputeOutputPct tuning referenceDeg headingDeg).2))) := by
  simp only [mkhThlComputeOutputPct_eq]
  refine ⟨wrap180_mem _, wrap180_turns _, ?_, fun h => ⟨?_, ?_⟩⟩
  · intro referenceTurns headingTurns
    have hturns : referenceDeg + 360 * referenceTurns - (headingDeg + 360 * headingTurns) =
        referenceDeg - headingDeg + 360 * ((referenceTurns - headingTurns : ℤ) : ℚ) := by
      push_cast
      ring
    rw [hturns, wrap180_add_turns]
  · intro referenceDeg' headingDeg' hopposite
    rw [hopposite, commandedPct_neg h]
  · intro hboundary
    rw [← neg_sub referenceDeg headingDeg, wrap180_neg hboundary, commandedPct_neg h]

theorem mkhThlComputeOutputPct_shortest_way_boot :
    (∃ turns : ℤ, (mkhThlComputeOutputPct ThlTuning.boot 725 0).1 = 725 - 0 + 360 * turns) ∧
      mkhThlComputeOutputPct ThlTuning.boot 0 725 =
        (-(mkhThlComputeOutputPct ThlTuning.boot 725 0).1,
          -(mkhThlComputeOutputPct ThlTuning.boot 725 0).2) := by
  have hlaw := mkhThlComputeOutputPct_shortest_way ThlTuning.boot 725 0
  exact ⟨hlaw.2.1, (hlaw.2.2.2 (by norm_num [ThlTuning.boot])).2 (by decide +kernel)⟩

end MK1Tank
