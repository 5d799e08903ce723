/-
The gyroscope and the heading: `mkh_imu.cpp`.

The Z rate is two registers, which are read one after the other.  A poll that gets both
adds the rate, for the time since the last poll that did, to the heading.  A `float` is
the rational it stands for, and every operation on it rounds; no infinity comes up.
-/
import MK1Tank.Firmware.Touch
import MK1Tank.Lib.Binary32

namespace MK1Tank

open Binary32

/-- `IMU_I2C_ADDR_PRIMARY`. -/
def imuI2cAddrPrimary : UInt8 := 0x6A

/-- `IMU_I2C_ADDR_SECONDARY`. -/
def imuI2cAddrSecondary : UInt8 := 0x6B

/-- `IMU_GYRO_SENSITIVITY_LSB_PER_DPS`. -/
def imuGyroSensitivityLsbPerDps : ℚ := 128

/-- `IMU_BIAS_SAMPLES`. -/
def imuBiasSamples : Nat := 50

/-! ### The registers -/

/-- What the gyroscope and the bus give a read of the rate: the rate that the chip holds while each of
the two registers is read, and the replies to the two reads. -/
structure GzRead where
  gzAtL : UInt16
  replyL : WireReply
  gzAtH : UInt16
  replyH : WireReply
deriving DecidableEq

/-- One register, if the chip acknowledged and sent it. -/
def imuReadReg (value : UInt8) (reply : WireReply) : Option UInt8 :=
  if reply.endTransmission ≠ 0 then none
  else if reply.requestFrom ≠ 1 then none
  else some value

/-- `(int16_t)(((uint16_t)hi << 8) | lo)`. -/
def rawOfBytes (hi lo : UInt8) : Int := ((hi.toUInt16 <<< 8) ||| lo.toUInt16).toInt16.toInt

def imuReadRawGz (read : GzRead) : Option Int :=
  match imuReadReg read.gzAtL.toUInt8 read.replyL with
  | none => none
  | some lo =>
    match imuReadReg (read.gzAtH >>> 8).toUInt8 read.replyH with
    | none => none
    | some hi => some (rawOfBytes hi lo)

/-- `(float)raw / IMU_GYRO_SENSITIVITY_LSB_PER_DPS`; the cast is exact. -/
def rawDps (raw : Int) : ℚ := nearest (raw / imuGyroSensitivityLsbPerDps)

/-! ### The driver -/

structure Imu where
  imuReady : Bool
  imuAddr : UInt8
  biasDps : ℚ
  rateDps : ℚ
  headingDeg : ℚ
  lastSampleMs : UInt32

def Imu.boot : Imu where
  imuReady := false
  imuAddr := 0
  biasDps := 0
  rateDps := 0
  headingDeg := 0
  lastSampleMs := 0

/-- What `mkh_imu_init` meets: whether an address answers, the errors of the two writes, the reads of
the calibration and the clock after it. -/
structure ImuBringUp where
  acks : UInt8 → Bool
  ctrl3 : Nat
  ctrl7 : Nat
  samples : Fin imuBiasSamples → GzRead
  now : UInt32

/-- The loop of the calibration: the sum, and how many samples were got. -/
def imuCalibrate (samples : List GzRead) : ℚ × Nat :=
  samples.foldl
    (fun (sum, got) read =>
      match imuReadRawGz read with
      | some raw => (nearest (sum + rawDps raw), got + 1)
      | none => (sum, got))
    (0, 0)

def mkhImuInit (bus : ImuBringUp) : Imu :=
  match [imuI2cAddrPrimary, imuI2cAddrSecondary].find? bus.acks with
  | none => .boot
  | some addr =>
    let s := { Imu.boot with imuAddr := addr }
    if bus.ctrl3 ≠ 0 then s
    else if bus.ctrl7 ≠ 0 then s
    else
      let (sum, gotSamples) := imuCalibrate (List.ofFn bus.samples)
      if gotSamples = 0 then s
      else
        { s with biasDps := nearest (sum / gotSamples), lastSampleMs := bus.now, imuReady := true }

def mkhImuPoll (s : Imu) (read : GzRead) (now : UInt32) : Imu :=
  if !s.imuReady then s
  else
    match imuReadRawGz read with
    | none => s
    | some raw =>
      let dtSec := nearest (nearest (now - s.lastSampleMs).toNat / 1000)
      let rateDps := nearest (rawDps raw - s.biasDps)
      { s with
        lastSampleMs := now
        rateDps := rateDps
        headingDeg := nearest (s.headingDeg + nearest (rateDps * dtSec)) }

def mkhImuRateDps (s : Imu) : ℚ := s.rateDps

def mkhImuHeadingDeg (s : Imu) : ℚ := s.headingDeg

def mkhImuReady (s : Imu) : Bool := s.imuReady

end MK1Tank
