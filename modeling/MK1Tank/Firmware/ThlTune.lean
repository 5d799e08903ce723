/-
Live tuning of the heading lock over the serial port: `mkh_thl.cpp`.

A poll reads what has arrived, byte by byte, into a line buffer; at a line end the line
is applied.  A byte is a `Char`.  Here the tunables are the `float`s that `strtof` gives,
an infinity or a NaN among them.  What is logged is kept as a record, without its text.
-/
import MK1Tank.Lib.ScanFloat
import MK1Tank.Firmware.Thl

namespace MK1Tank

open CString

/-! ### The tunables -/

/-- The tunables by the names they have in a command. -/
inductive TuneParam where
  | deadband | kp | floor | ceiling | cancel
deriving DecidableEq, Repr

/-- `s_deadbandDeg` and the others. -/
structure Tunables where
  deadbandDeg : Binary32
  kpPctPerDeg : Binary32
  floorPct : Binary32
  ceilingPct : Binary32
  cancelThresholdPct : Binary32
deriving DecidableEq

/-- The `float`s of tunables that are all finite. -/
def Tunables.ofTuning (tuning : ThlTuning) : Tunables where
  deadbandDeg := .finite tuning.deadbandDeg
  kpPctPerDeg := .finite tuning.kpPctPerDeg
  floorPct := .finite tuning.floorPct
  ceilingPct := .finite tuning.ceilingPct
  cancelThresholdPct := .finite tuning.cancelThresholdPct

/-- The compiled defaults. -/
def Tunables.boot : Tunables := .ofTuning .boot

def Tunables.get (t : Tunables) : TuneParam → Binary32
  | .deadband => t.deadbandDeg
  | .kp => t.kpPctPerDeg
  | .floor => t.floorPct
  | .ceiling => t.ceilingPct
  | .cancel => t.cancelThresholdPct

def Tunables.set (t : Tunables) (param : TuneParam) (value : Binary32) : Tunables :=
  match param with
  | .deadband => { t with deadbandDeg := value }
  | .kp => { t with kpPctPerDeg := value }
  | .floor => { t with floorPct := value }
  | .ceiling => { t with ceilingPct := value }
  | .cancel => { t with cancelThresholdPct := value }

@[simp] theorem Tunables.get_set (t : Tunables) (param : TuneParam) (value : Binary32) :
    (t.set param value).get param = value := by
  cases param <;> rfl

theorem Tunables.set_get (t : Tunables) (param : TuneParam) : t.set param (t.get param) = t := by
  cases param <;> rfl

/-- Setting a tunable leaves the others. -/
theorem Tunables.get_set_of_ne (t : Tunables) {param other : TuneParam} (value : Binary32)
    (h : other ≠ param) : (t.set param value).get other = t.get other := by
  cases param <;> cases other <;> first | rfl | exact absurd rfl h

/-! ### A line -/

/-- What is logged about a command. -/
inductive TuneLog where
  /-- Missing param or value: the usage. -/
  | usage
  /-- Bad value: must be a non-negative number. -/
  | badValue (valueStr : List Char)
  | set (param : TuneParam) (value : Binary32)
  /-- Unknown param: the five are expected. -/
  | unknownParam (param : List Char)
deriving DecidableEq

/-- The tunables after a line, whether it was applied, and what was logged. -/
structure TuneResult where
  tunables : Tunables
  applied : Bool
  log : List TuneLog

/-- The comparisons of `applyTuneLine`, in order. -/
def tuneParam (param : List Char) : Option TuneParam :=
  if strcasecmp param "deadband".toList then some .deadband
  else if strcasecmp param "kp".toList then some .kp
  else if strcasecmp param "floor".toList then some .floor
  else if strcasecmp param "ceiling".toList then some .ceiling
  else if strcasecmp param "cancel".toList then some .cancel
  else none

def applyTuneValue (t : Tunables) (param valueStr : List Char) : TuneResult :=
  match strtof valueStr with
  | none => { tunables := t, applied := false, log := [.badValue valueStr] }
  | some (value, _) =>
    if value.negative then { tunables := t, applied := false, log := [.badValue valueStr] }
    else match tuneParam param with
    | some p => { tunables := t.set p value, applied := true, log := [.set p value] }
    | none => { tunables := t, applied := false, log := [.unknownParam param] }

/-- `applyTuneLine`, on what the line buffer holds. -/
def applyTuneLine (t : Tunables) (line : List Char) : TuneResult :=
  match strtok isBlank (cStr line) with
  | [] => { tunables := t, applied := false, log := [] }
  | cmd :: words =>
    if strcasecmp cmd "thl".toList then
      match words with
      | param :: valueStr :: _ => applyTuneValue t param valueStr
      | _ => { tunables := t, applied := false, log := [.usage] }
    -- Not a command of the lock: could be other tooling.
    else { tunables := t, applied := false, log := [] }

/-! ### The poll -/

/-- `THL_TUNE_LINE_MAX`. -/
abbrev thlTuneLineMax : Nat := 47

/-- The line buffer, the tunables, and what has been logged. -/
structure SerialTuning where
  lineBuf : List Char
  tunables : Tunables
  log : List TuneLog
  length_le : lineBuf.length ≤ thlTuneLineMax

def SerialTuning.boot : SerialTuning :=
  { lineBuf := [], tunables := .boot, log := [], length_le := Nat.zero_le _ }

/-- The body of the poll's loop. -/
def readTuneByte (s : SerialTuning) (c : Char) : SerialTuning :=
  if c = '\r' then s
  else if c = '\n' then
    if 0 < s.lineBuf.length then
      let result := applyTuneLine s.tunables s.lineBuf
      { lineBuf := []
        tunables := result.tunables
        log := s.log ++ result.log
        length_le := Nat.zero_le _ }
    else s
  else if h : s.lineBuf.length < thlTuneLineMax then
    { s with
      lineBuf := s.lineBuf ++ [c]
      length_le := by rw [List.length_append, List.length_singleton]; exact h }
  -- Silently truncated.
  else s

/-- `mkh_thl_poll_serial_tuning`, with the bytes that are available. -/
def mkhThlPollSerialTuning (s : SerialTuning) (available : List Char) : SerialTuning :=
  available.foldl readTuneByte s

end MK1Tank
