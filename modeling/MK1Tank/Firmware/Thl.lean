/-
The heading lock's control law: `mkh_thl.cpp`.

The firmware computes in `float`; here an angle or a percentage is a rational.  The
tunables are a record that every sweep is given, as a line on the serial port may
change any of them between two sweeps.
-/
import Mathlib
import MK1Tank.Lib.Rounding

namespace MK1Tank

open Rounding

/-- `mkh_thl_state_t`. -/
inductive ThlState where
  | off | engaged | calibratingBlocked
deriving DecidableEq, Repr

/-- The status the stats page shows. -/
structure ThlStatus where
  state : ThlState
  errorDeg : ℚ
  outputPct : ℚ
deriving DecidableEq

def ThlStatus.boot : ThlStatus := { state := .off, errorDeg := 0, outputPct := 0 }

/-- The five tunables. -/
structure ThlTuning where
  deadbandDeg : ℚ
  kpPctPerDeg : ℚ
  floorPct : ℚ
  ceilingPct : ℚ
  cancelThresholdPct : ℚ

/-- The compiled defaults. -/
def ThlTuning.boot : ThlTuning where
  deadbandDeg := 2
  kpPctPerDeg := 3
  floorPct := 15
  ceilingPct := 60
  cancelThresholdPct := 10

/-- `fmodf(deg, 360.0f)`: the remainder takes the sign of `deg`. -/
def fmod360 (deg : ℚ) : ℚ := deg - 360 * truncate (deg / 360)

def wrap180 (deg : ℚ) : ℚ :=
  let deg := fmod360 deg
  if deg > 180 then deg - 360
  else if deg ≤ -180 then deg + 360
  else deg

/-- The error and the commanded output, in that order. -/
def mkhThlComputeOutputPct (tuning : ThlTuning) (referenceDeg headingDeg : ℚ) : ℚ × ℚ :=
  let error := wrap180 (referenceDeg - headingDeg)
  if |error| < tuning.deadbandDeg then (error, 0)
  else
    let outputPct := tuning.kpPctPerDeg * error
    let outputPct :=
      if outputPct > tuning.ceilingPct then tuning.ceilingPct
      else if outputPct < -tuning.ceilingPct then -tuning.ceilingPct
      else outputPct
    let outputPct :=
      if outputPct > 0 ∧ outputPct < tuning.floorPct then tuning.floorPct
      else if outputPct < 0 ∧ outputPct > -tuning.floorPct then -tuning.floorPct
      else outputPct
    (error, outputPct)

end MK1Tank
