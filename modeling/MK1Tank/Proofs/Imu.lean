/-
How far the heading drifts.

The heading is the integral of the samples over the clock: a read that fails costs no
time, because the next one counts from the last that did not.  A rate is off by the noise
of the reading, by that of the calibration, and by what a sample loses when the chip
changes it between the reads of its two registers.  Beside that, every operation rounds;
what the sum loses depends on how far the heading has come.
-/
import MK1Tank.Firmware.Imu
import MK1Tank.Lib.Run

namespace MK1Tank

open Runs Binary32

/-! ### The two registers -/

theorem toInt16_toInt (u : UInt16) :
    u.toInt16.toInt = if u.toNat < 32768 then (u.toNat : Int) else u.toNat - 65536 := by
  show u.toBitVec.toInt = _
  rw [BitVec.toInt_eq_toNat_cond]
  have hnat : u.toBitVec.toNat = u.toNat := rfl
  rw [hnat]
  split_ifs <;> omega

theorem bytes_toNat (hi lo : UInt8) :
    ((hi.toUInt16 <<< 8) ||| lo.toUInt16).toNat = hi.toNat * 256 + lo.toNat := by
  have hlo : lo.toNat < 2 ^ 8 := lo.toNat_lt
  have hhi : hi.toNat < 256 := hi.toNat_lt
  have hshift : (hi.toUInt16 <<< 8).toNat = 2 ^ 8 * hi.toNat := by
    simp [UInt16.toNat_shiftLeft, Nat.shiftLeft_eq]
    omega
  rw [UInt16.toNat_or, hshift, UInt8.toNat_toUInt16, ← Nat.two_pow_add_eq_or_of_lt hlo]
  omega

theorem highByte_toNat (u : UInt16) : (u >>> 8).toUInt8.toNat = u.toNat / 256 := by
  have hu := u.toNat_lt
  simp [UInt16.toNat_shiftRight, Nat.shiftRight_eq_div_pow]
  omega

/-- The two bytes may be of two rates; the high one is of the later. -/
theorem abs_rawOfBytes_sub_le (gzL gzH : UInt16) :
    |rawOfBytes (gzH >>> 8).toUInt8 gzL.toUInt8 - gzH.toInt16.toInt| ≤ 255 := by
  have hlow : gzL.toUInt8.toNat = gzL.toNat % 256 := by simp
  unfold rawOfBytes
  rw [toInt16_toInt, toInt16_toInt, bytes_toNat, highByte_toNat, hlow, abs_le]
  split_ifs <;> constructor <;> omega

theorem rawGz_of_some {read : GzRead} {raw : Int} (h : imuReadRawGz read = some raw) :
    raw = rawOfBytes (read.gzAtH >>> 8).toUInt8 read.gzAtL.toUInt8 := by
  unfold imuReadRawGz imuReadReg at h
  split at h
  · exact absurd h (by simp)
  · split at h
    · exact absurd h (by simp)
    · split_ifs at *
      simp_all

theorem abs_rawGz_le {read : GzRead} {raw : Int} (h : imuReadRawGz read = some raw) :
    |raw| ≤ 32768 := by
  rw [rawGz_of_some h]
  unfold rawOfBytes
  rw [toInt16_toInt, bytes_toNat, abs_le]
  have hhi := (read.gzAtH >>> 8).toUInt8.toNat_lt
  have hlo := read.gzAtL.toUInt8.toNat_lt
  split_ifs <;> constructor <;> omega

/-! ### Rates -/

/-- The rate that the chip holds, in degrees per second. -/
def gzDps (gz : UInt16) : ℚ := gz.toInt16.toInt / imuGyroSensitivityLsbPerDps

/-- A rate is a `float` as it is. -/
theorem rawDps_eq {raw : Int} (h : |raw| ≤ 32768) : rawDps raw = raw / 128 := by
  have hself : nearest ((raw : ℚ) * 2 ^ (-7 : ℤ)) = raw * 2 ^ (-7 : ℤ) :=
    nearest_eq_self (by omega) (by norm_num)
  have hdiv : (raw : ℚ) / 128 = raw * 2 ^ (-7 : ℤ) := by
    norm_num
    ring
  unfold rawDps imuGyroSensitivityLsbPerDps
  rw [hdiv, hself]

theorem abs_rawDps_le {read : GzRead} {raw : Int} (h : imuReadRawGz read = some raw) :
    |rawDps raw| ≤ 256 := by
  have hraw := abs_rawGz_le h
  have hcast : |(raw : ℚ)| ≤ 32768 := by exact_mod_cast hraw
  rw [rawDps_eq hraw, abs_div, abs_of_pos (by norm_num : (0 : ℚ) < 128)]
  linarith

/-- **A torn sample** is off by less than two degrees per second. -/
theorem abs_rawDps_sub_gzDps_le {read : GzRead} {raw : Int} (h : imuReadRawGz read = some raw) :
    |rawDps raw - gzDps read.gzAtH| ≤ 255 / 128 := by
  have hbytes := abs_rawOfBytes_sub_le read.gzAtL read.gzAtH
  rw [← rawGz_of_some h] at hbytes
  have hcast : |(raw : ℚ) - (read.gzAtH.toInt16.toInt : ℚ)| ≤ 255 := by exact_mod_cast hbytes
  rw [rawDps_eq (abs_rawGz_le h)]
  unfold gzDps imuGyroSensitivityLsbPerDps
  rw [← sub_div, abs_div, abs_of_pos (by norm_num : (0 : ℚ) < 128)]
  exact div_le_div_of_nonneg_right hcast (by norm_num)

/-! ### The calibration -/

/-- The rates that were got. -/
def gotDps (reads : List GzRead) : List ℚ := reads.filterMap fun read => (imuReadRawGz read).map rawDps

theorem gotDps_none {read : GzRead} {rest : List GzRead} (h : imuReadRawGz read = none) :
    gotDps (read :: rest) = gotDps rest :=
  List.filterMap_cons_none (by rw [h]; rfl)

theorem gotDps_some {read : GzRead} {rest : List GzRead} {raw : Int}
    (h : imuReadRawGz read = some raw) :
    gotDps (read :: rest) = rawDps raw :: gotDps rest :=
  List.filterMap_cons_some (by rw [h]; rfl)

/-- What the calibration does with one more sample. -/
def tallied (acc : ℚ × Nat) (read : GzRead) : ℚ × Nat :=
  (imuReadRawGz read).elim acc fun raw => (nearest (acc.1 + rawDps raw), acc.2 + 1)

theorem imuCalibrate_eq_foldl (reads : List GzRead) :
    imuCalibrate reads = reads.foldl tallied (0, 0) := by
  unfold imuCalibrate
  refine List.foldl_ext _ _ _ fun acc read _ => ?_
  unfold tallied
  cases imuReadRawGz read with
  | none => rfl
  | some raw => rfl

/-- A sum of so few samples is not rounded: it is a number of 128ths that a `float` holds. -/
theorem tallied_exact (reads : List GzRead) :
    ∀ (m : ℤ) (got : Nat), |m| + 32768 * reads.length < 2 ^ 24 →
      reads.foldl tallied (m / 128, got) =
        (m / 128 + (gotDps reads).sum, got + (gotDps reads).length) := by
  induction reads with
  | nil => simp [gotDps]
  | cons read rest ih =>
    intro m got hsmall
    rw [List.length_cons] at hsmall
    rw [List.foldl_cons]
    cases hread : imuReadRawGz read with
    | none =>
      rw [gotDps_none hread, tallied, hread]
      exact ih m got (by push_cast at hsmall; omega)
    | some raw =>
      have hraw := abs_rawGz_le hread
      have hadd := abs_add_le m raw
      have hsum : nearest ((m : ℚ) / 128 + rawDps raw) = ((m + raw : ℤ) : ℚ) / 128 := by
        have hself : nearest (((m + raw : ℤ) : ℚ) * 2 ^ (-7 : ℤ)) = ((m + raw : ℤ) : ℚ) * 2 ^ (-7 : ℤ) :=
          nearest_eq_self (by push_cast at hsmall; omega) (by norm_num)
        have hdiv : ((m + raw : ℤ) : ℚ) / 128 = ((m + raw : ℤ) : ℚ) * 2 ^ (-7 : ℤ) := by
          norm_num
          ring
        have hmerge : (m : ℚ) / 128 + raw / 128 = ((m + raw : ℤ) : ℚ) / 128 := by
          push_cast
          ring
        rw [rawDps_eq hraw, hmerge, hdiv, hself]
      rw [gotDps_some hread, tallied, hread, Option.elim_some]
      simp only [hsum]
      rw [ih (m + raw) (got + 1) (by push_cast at hsmall; omega), List.sum_cons, List.length_cons,
        rawDps_eq hraw]
      push_cast
      refine Prod.ext ?_ ?_
      · simp only
        ring
      · simp only
        omega

theorem imuCalibrate_eq {reads : List GzRead} (hfew : reads.length ≤ imuBiasSamples) :
    imuCalibrate reads = ((gotDps reads).sum, (gotDps reads).length) := by
  have hexact := tallied_exact reads 0 0 (by
    unfold imuBiasSamples at hfew
    simp only [abs_zero]
    omega)
  rw [imuCalibrate_eq_foldl]
  simpa using hexact

/-- The mean of numbers near a number is near it. -/
theorem abs_mean_sub_le {values : List ℚ} (hne : values ≠ []) (center : ℚ) {bound : ℚ}
    (hnear : ∀ v ∈ values, |v - center| ≤ bound) :
    |values.sum / values.length - center| ≤ bound := by
  have hsum : ∀ values : List ℚ, (∀ v ∈ values, |v - center| ≤ bound) →
      |values.sum - center * values.length| ≤ bound * values.length := by
    intro values
    induction values with
    | nil => simp
    | cons v rest ih =>
      intro hnear
      have hv := hnear v (List.mem_cons_self ..)
      have hrest := ih fun v' hv' => hnear v' (List.mem_cons_of_mem v hv')
      have hsplit : (v :: rest).sum - center * (v :: rest).length =
          (v - center) + (rest.sum - center * rest.length) := by
        rw [List.sum_cons, List.length_cons]
        push_cast
        ring
      calc
        |(v :: rest).sum - center * (v :: rest).length|
            ≤ |v - center| + |rest.sum - center * rest.length| := by
          rw [hsplit]
          exact abs_add_le _ _
        _ ≤ bound + bound * rest.length := add_le_add hv hrest
        _ = bound * (v :: rest).length := by
          rw [List.length_cons]
          push_cast
          ring
  have hlength : (0 : ℚ) < values.length := by
    exact_mod_cast List.length_pos_of_ne_nil hne
  have hdiff : values.sum / values.length - center =
      (values.sum - center * values.length) / values.length := by
    rw [sub_div, mul_div_cancel_right₀ _ hlength.ne']
  rw [hdiff, abs_div, abs_of_pos hlength, div_le_iff₀ hlength]
  exact hsum values hnear

/-- A driver that is ready has the mean of at least one sample, rounded, for its bias. -/
theorem init_ready {bus : ImuBringUp} (hready : (mkhImuInit bus).imuReady = true) :
    gotDps (List.ofFn bus.samples) ≠ [] ∧
      (mkhImuInit bus).biasDps =
        nearest ((gotDps (List.ofFn bus.samples)).sum / (gotDps (List.ofFn bus.samples)).length) ∧
      (mkhImuInit bus).headingDeg = 0 ∧ (mkhImuInit bus).lastSampleMs = bus.now := by
  unfold mkhImuInit at hready ⊢
  cases hprobe : [imuI2cAddrPrimary, imuI2cAddrSecondary].find? bus.acks with
  | none =>
    rw [hprobe] at hready
    exact absurd hready (by simp [Imu.boot])
  | some addr =>
    rw [hprobe] at hready
    rw [imuCalibrate_eq (by simp)] at hready ⊢
    simp only at hready ⊢
    split_ifs at hready ⊢ with hctrl3 hctrl7 hgot
    · exact absurd hready (by simp [Imu.boot])
    · exact absurd hready (by simp [Imu.boot])
    · exact absurd hready (by simp [Imu.boot])
    · refine ⟨fun hnil => hgot ?_, rfl, rfl, rfl⟩
      rw [hnil]
      rfl

theorem abs_gotDps_le {reads : List GzRead} {dps : ℚ} (h : dps ∈ gotDps reads) : |dps| ≤ 256 := by
  obtain ⟨read, -, hgot⟩ := List.mem_filterMap.mp h
  obtain ⟨raw, hread, rfl⟩ := Option.map_eq_some_iff.mp hgot
  exact abs_rawDps_le hread

/-- The bias is rounded by little, as no rate is large. -/
theorem bias_near_mean {bus : ImuBringUp} (hready : (mkhImuInit bus).imuReady = true)
    (center bound : ℚ)
    (hnear : ∀ dps ∈ gotDps (List.ofFn bus.samples), |dps - center| ≤ bound) :
    |(mkhImuInit bus).biasDps - center| ≤ bound + 1 / 2 ^ 15 ∧ |(mkhImuInit bus).biasDps| ≤ 257 := by
  obtain ⟨hgot, hbias, -, -⟩ := init_ready hready
  have hmean := abs_mean_sub_le hgot center hnear
  have hlarge :
      |(gotDps (List.ofFn bus.samples)).sum / (gotDps (List.ofFn bus.samples)).length| ≤ 256 := by
    have hzero := abs_mean_sub_le hgot 0 fun v hv => by
      rw [sub_zero]
      exact abs_gotDps_le hv
    rwa [sub_zero] at hzero
  have hround := abs_sub_nearest_le_part
    ((gotDps (List.ofFn bus.samples)).sum / (gotDps (List.ofFn bus.samples)).length)
  rw [← hbias] at hround
  set mean := (gotDps (List.ofFn bus.samples)).sum / (gotDps (List.ofFn bus.samples)).length
  have htiny : (2 : ℚ) ^ (-150 : ℤ) ≤ 1 / 2 ^ 16 := by norm_num
  have hclose : |mean - (mkhImuInit bus).biasDps| ≤ 1 / 2 ^ 15 := by linarith
  constructor
  · calc
      |(mkhImuInit bus).biasDps - center|
          = |(mean - center) - (mean - (mkhImuInit bus).biasDps)| := by ring_nf
      _ ≤ |mean - center| + |mean - (mkhImuInit bus).biasDps| := abs_sub _ _
      _ ≤ bound + 1 / 2 ^ 15 := add_le_add hmean hclose
  · calc
      |(mkhImuInit bus).biasDps| = |mean - (mean - (mkhImuInit bus).biasDps)| := by ring_nf
      _ ≤ |mean| + |mean - (mkhImuInit bus).biasDps| := abs_sub _ _
      _ ≤ 257 := by linarith

/-! ### A poll -/

/-- A poll, at the milliseconds since the start that no register wraps around. -/
structure ImuPoll where
  ms : Nat
  read : GzRead

/-- `millis()` is what is left of them in 32 bits. -/
def Imu.step (s : Imu) (poll : ImuPoll) : Imu := mkhImuPoll s poll.read (UInt32.ofNat poll.ms)

/-- The times of the polls that got a sample. -/
def gotTimes (polls : List ImuPoll) : List Nat :=
  polls.filterMap fun poll => (imuReadRawGz poll.read).map fun _ => poll.ms

theorem gotTimes_none {poll : ImuPoll} {rest : List ImuPoll} (h : imuReadRawGz poll.read = none) :
    gotTimes (poll :: rest) = gotTimes rest :=
  List.filterMap_cons_none (by rw [h]; rfl)

theorem gotTimes_some {poll : ImuPoll} {rest : List ImuPoll} {raw : Int}
    (h : imuReadRawGz poll.read = some raw) : gotTimes (poll :: rest) = poll.ms :: gotTimes rest :=
  List.filterMap_cons_some (by rw [h]; rfl)

/-- The `float` of so many milliseconds, in seconds. -/
def dtSec (ms : Nat) : ℚ := nearest (nearest ms / 1000)

/-- The `float` of the rate that a sample stands for. -/
def sampleDps (s : Imu) (raw : Int) : ℚ := nearest (rawDps raw - s.biasDps)

/-- The clock of a wrapped register counts what passed, up to its size. -/
theorem elapsed_eq {start ms : Nat} (hle : start ≤ ms) (hgap : ms - start < 2 ^ 32) :
    (UInt32.ofNat ms - UInt32.ofNat start).toNat = ms - start := by
  simp only [UInt32.toNat_sub]
  simp
  omega

theorem step_none {s : Imu} {poll : ImuPoll} (hread : imuReadRawGz poll.read = none) :
    s.step poll = s := by
  unfold Imu.step mkhImuPoll
  rw [hread]
  split <;> rfl

theorem step_unready {s : Imu} {poll : ImuPoll} (hready : s.imuReady = false) : s.step poll = s := by
  unfold Imu.step mkhImuPoll
  rw [hready]
  rfl

theorem step_some {s : Imu} {poll : ImuPoll} {raw : Int} (hready : s.imuReady = true)
    (hread : imuReadRawGz poll.read = some raw) :
    s.step poll =
      { s with
        lastSampleMs := UInt32.ofNat poll.ms
        rateDps := sampleDps s raw
        headingDeg := nearest (s.headingDeg + nearest
          (sampleDps s raw * dtSec (UInt32.ofNat poll.ms - s.lastSampleMs).toNat)) } := by
  unfold Imu.step mkhImuPoll
  rw [hread, hready]
  rfl

/-! ### What a poll rounds -/

theorem abs_sub_nearest_natCast (n : Nat) : |(n : ℚ) - nearest n| ≤ n / 2 ^ 23 := by
  rcases Nat.eq_zero_or_pos n with rfl | hpos
  · simp
  · have hround := abs_sub_nearest_le_part (n : ℚ)
    have hone : (1 : ℚ) ≤ n := by exact_mod_cast hpos
    have htiny : (2 : ℚ) ^ (-150 : ℤ) ≤ 1 / 2 ^ 24 := by norm_num
    rw [Nat.abs_cast] at hround
    linarith

/-- The `float` of an interval is within one part in `2 ^ 21` of it. -/
theorem abs_dtSec_sub_le (ms : Nat) : |dtSec ms - ms / 1000| ≤ ms / 1000 / 2 ^ 21 := by
  rcases Nat.eq_zero_or_pos ms with rfl | hpos
  · simp [dtSec]
  · have hone : (1 : ℚ) ≤ ms := by exact_mod_cast hpos
    have hcast := abs_le.mp (abs_sub_nearest_natCast ms)
    have hnonneg : 0 ≤ nearest (ms : ℚ) := nearest_nonneg (Nat.cast_nonneg ms)
    have hquotient := abs_sub_nearest_le_part (nearest (ms : ℚ) / 1000)
    rw [abs_of_nonneg (div_nonneg hnonneg (by norm_num))] at hquotient
    have hquotient := abs_le.mp hquotient
    have htiny : (2 : ℚ) ^ (-150 : ℤ) ≤ 1 / 1000 / 2 ^ 24 := by norm_num
    unfold dtSec
    rw [abs_le]
    constructor <;> linarith [hcast.1, hcast.2, hquotient.1, hquotient.2]

/-- The `float` of a rate is near what the sample and the bias say. -/
theorem abs_sampleDps_le {s : Imu} {read : GzRead} {raw : Int} (hread : imuReadRawGz read = some raw)
    (hbias : |s.biasDps| ≤ 257) :
    |sampleDps s raw - (rawDps raw - s.biasDps)| ≤ 1 / 2 ^ 14 ∧ |sampleDps s raw| ≤ 514 := by
  have hdps := abs_rawDps_le hread
  have hexact : |rawDps raw - s.biasDps| ≤ 513 := (abs_sub _ _).trans (by linarith)
  have hround := abs_sub_nearest_le_part (rawDps raw - s.biasDps)
  have htiny : (2 : ℚ) ^ (-150 : ℤ) ≤ 1 / 2 ^ 16 := by norm_num
  have hclose : |sampleDps s raw - (rawDps raw - s.biasDps)| ≤ 1 / 2 ^ 14 := by
    rw [abs_sub_comm]
    exact hround.trans (by linarith)
  refine ⟨hclose, ?_⟩
  calc
    |sampleDps s raw|
        = |(sampleDps s raw - (rawDps raw - s.biasDps)) + (rawDps raw - s.biasDps)| := by ring_nf
    _ ≤ |sampleDps s raw - (rawDps raw - s.biasDps)| + |rawDps raw - s.biasDps| := abs_add_le _ _
    _ ≤ 514 := by linarith

/-- What a rate that is near the true one adds, for an interval, before it is added. -/
theorem abs_gain_sub_le {dps rate error : ℚ} (ms : Nat) (hnear : |dps - rate| ≤ error)
    (hlarge : |dps| ≤ 514) :
    |nearest (dps * dtSec ms) - rate * (ms / 1000)| ≤
      (error + 1 / 2 ^ 11 + 1 / 2 ^ 14) * (ms / 1000) + 2 ^ (-150 : ℤ) := by
  have htime : (0 : ℚ) ≤ ms / 1000 := by positivity
  have hdt := abs_dtSec_sub_le ms
  have hround := abs_sub_nearest_le_part (dps * dtSec ms)
  have hdtLarge : |dtSec ms| ≤ ms / 1000 * (1 + 1 / 2 ^ 21) := by
    calc
      |dtSec ms| = |(dtSec ms - ms / 1000) + ms / 1000| := by ring_nf
      _ ≤ |dtSec ms - ms / 1000| + |(ms : ℚ) / 1000| := abs_add_le _ _
      _ ≤ ms / 1000 * (1 + 1 / 2 ^ 21) := by
        rw [abs_of_nonneg htime]
        linarith
  have hproduct : |dps * dtSec ms| ≤ 514 * (ms / 1000 * (1 + 1 / 2 ^ 21)) := by
    rw [abs_mul]
    exact mul_le_mul hlarge hdtLarge (abs_nonneg _) (by norm_num)
  have hinterval : |dps * (dtSec ms - ms / 1000)| ≤ 514 * (ms / 1000 / 2 ^ 21) := by
    rw [abs_mul]
    exact mul_le_mul hlarge hdt (abs_nonneg _) (by norm_num)
  have hrate : |(dps - rate) * (ms / 1000)| ≤ error * (ms / 1000) := by
    rw [abs_mul, abs_of_nonneg htime]
    exact mul_le_mul_of_nonneg_right hnear htime
  calc
    |nearest (dps * dtSec ms) - rate * (ms / 1000)|
        = |(dps - rate) * (ms / 1000) + dps * (dtSec ms - ms / 1000) -
            (dps * dtSec ms - nearest (dps * dtSec ms))| := by ring_nf
    _ ≤ |(dps - rate) * (ms / 1000)| + |dps * (dtSec ms - ms / 1000)| +
          |dps * dtSec ms - nearest (dps * dtSec ms)| :=
      (abs_sub _ _).trans (add_le_add_left (abs_add_le _ _) _)
    _ ≤ (error + 1 / 2 ^ 11 + 1 / 2 ^ 14) * (ms / 1000) + 2 ^ (-150 : ℤ) := by
      linarith

/-! ### The heading -/

/-- No heading of the run is larger. -/
def HeadingWithin (range : ℚ) (s : Imu) (poll : ImuPoll) : Prop := |(s.step poll).headingDeg| ≤ range

instance (range : ℚ) (s : Imu) (poll : ImuPoll) : Decidable (HeadingWithin range s poll) :=
  inferInstanceAs (Decidable (_ ≤ _))

/-- What a poll that gets a sample adds is near the rate of turn for the time since the last one. -/
theorem step_near {s : Imu} {poll : ImuPoll} {raw : Int} {start : Nat} {bias rate noise error range : ℚ}
    (hready : s.imuReady = true) (hread : imuReadRawGz poll.read = some raw)
    (hlast : s.lastSampleMs = UInt32.ofNat start) (hle : start ≤ poll.ms)
    (hgap : poll.ms - start < 2 ^ 32) (hlarge : |s.biasDps| ≤ 257) (hbias : |s.biasDps - bias| ≤ error)
    (hnear : |rawDps raw - (rate + bias)| ≤ noise) (hrange : HeadingWithin range s poll) :
    |(s.step poll).headingDeg - s.headingDeg - rate * ((poll.ms - start : ℚ) / 1000)| ≤
      (noise + error + 5 / 2 ^ 13) * ((poll.ms - start : ℚ) / 1000) +
        (range / 2 ^ 24 + 2 ^ (-149 : ℤ)) := by
  have hstep := step_some hready hread
  rw [hlast, elapsed_eq hle hgap] at hstep
  obtain ⟨hsample, hsampleLarge⟩ := abs_sampleDps_le hread hlarge
  have hdps : |sampleDps s raw - rate| ≤ noise + error + 1 / 2 ^ 14 := by
    calc
      |sampleDps s raw - rate|
          = |(sampleDps s raw - (rawDps raw - s.biasDps)) + (rawDps raw - (rate + bias)) -
              (s.biasDps - bias)| := by ring_nf
      _ ≤ |sampleDps s raw - (rawDps raw - s.biasDps)| + |rawDps raw - (rate + bias)| +
            |s.biasDps - bias| := (abs_sub _ _).trans (add_le_add_left (abs_add_le _ _) _)
      _ ≤ noise + error + 1 / 2 ^ 14 := by linarith
  have hgain := abs_gain_sub_le (poll.ms - start) hdps hsampleLarge
  rw [Nat.cast_sub hle] at hgain
  have hheading : (s.step poll).headingDeg =
      nearest (s.headingDeg + nearest (sampleDps s raw * dtSec (poll.ms - start))) := by rw [hstep]
  unfold HeadingWithin at hrange
  rw [hheading] at hrange ⊢
  set gain := nearest (sampleDps s raw * dtSec (poll.ms - start))
  have hround := abs_sub_nearest_le_result (s.headingDeg + gain)
  have htwice : (2 : ℚ) ^ (-149 : ℤ) = 2 ^ (-150 : ℤ) + 2 ^ (-150 : ℤ) := by norm_num
  calc
    |nearest (s.headingDeg + gain) - s.headingDeg - rate * ((poll.ms - start : ℚ) / 1000)|
        = |(gain - rate * ((poll.ms - start : ℚ) / 1000)) -
            (s.headingDeg + gain - nearest (s.headingDeg + gain))| := by ring_nf
    _ ≤ |gain - rate * ((poll.ms - start : ℚ) / 1000)| +
          |s.headingDeg + gain - nearest (s.headingDeg + gain)| := abs_sub _ _
    _ ≤ (noise + error + 5 / 2 ^ 13) * ((poll.ms - start : ℚ) / 1000) +
          (range / 2 ^ 24 + 2 ^ (-149 : ℤ)) := by
      linarith

/-- Samples that are near a rate and a bias, with a bias that is near the true one, give a heading
that is near the rate times the time. -/
theorem heading_near (polls : List ImuPoll) {bias rate noise error range : ℚ} :
    ∀ {s : Imu} {start : Nat}, s.imuReady = true → s.lastSampleMs = UInt32.ofNat start →
      |s.biasDps| ≤ 257 → |s.biasDps - bias| ≤ error →
      List.IsChain (fun a b => a ≤ b ∧ b - a < 2 ^ 32) (start :: gotTimes polls) →
      (∀ poll ∈ polls, ∀ raw, imuReadRawGz poll.read = some raw →
        |rawDps raw - (rate + bias)| ≤ noise) →
      Meets Imu.step (HeadingWithin range) s polls →
      |(after Imu.step s polls).headingDeg - s.headingDeg -
          rate * (((gotTimes polls).getLastD start - start : ℚ) / 1000)| ≤
        (noise + error + 5 / 2 ^ 13) * (((gotTimes polls).getLastD start - start : ℚ) / 1000) +
          (gotTimes polls).length * (range / 2 ^ 24 + 2 ^ (-149 : ℤ)) := by
  induction polls with
  | nil =>
    intro s start _ _ _ _ _ _ _
    simp [gotTimes]
  | cons poll rest ih =>
    intro s start hready hlast hlarge hbias hclock hnear hrange
    have hrestNear : ∀ poll ∈ rest, ∀ raw, imuReadRawGz poll.read = some raw →
        |rawDps raw - (rate + bias)| ≤ noise := fun poll hpoll =>
      hnear poll (List.mem_cons_of_mem _ hpoll)
    rw [after_cons]
    cases hread : imuReadRawGz poll.read with
    | none =>
      rw [gotTimes_none hread] at hclock ⊢
      have hsame := step_none (s := s) hread
      have hrestRange := hrange.2
      rw [hsame] at hrestRange ⊢
      exact ih hready hlast hlarge hbias hclock hrestNear hrestRange
    | some raw =>
      rw [gotTimes_some hread, List.isChain_cons_cons] at hclock
      obtain ⟨⟨hle, hgap⟩, hrest⟩ := hclock
      have hfirst := step_near hready hread hlast hle hgap hlarge hbias
        (hnear poll (List.mem_cons_self ..) raw hread) hrange.1
      have hnext := step_some hready hread
      have hlater := ih (by rw [hnext]; exact hready) (by rw [hnext]) (by rw [hnext]; exact hlarge)
        (by rw [hnext]; exact hbias) hrest hrestNear hrange.2
      rw [gotTimes_some hread, List.getLastD_cons, List.length_cons]
      set last : ℚ := ((gotTimes rest).getLastD poll.ms : ℚ)
      set slack : ℚ := range / 2 ^ 24 + 2 ^ (-149 : ℤ)
      push_cast
      calc
        |(after Imu.step (s.step poll) rest).headingDeg - s.headingDeg - rate * ((last - start) / 1000)|
            = |((after Imu.step (s.step poll) rest).headingDeg - (s.step poll).headingDeg -
                  rate * ((last - poll.ms) / 1000)) +
                ((s.step poll).headingDeg - s.headingDeg - rate * ((poll.ms - start : ℚ) / 1000))| := by
          ring_nf
        _ ≤ ((noise + error + 5 / 2 ^ 13) * ((last - poll.ms) / 1000) + (gotTimes rest).length * slack) +
              ((noise + error + 5 / 2 ^ 13) * ((poll.ms - start : ℚ) / 1000) + slack) :=
          (abs_add_le _ _).trans (add_le_add hlater hfirst)
        _ = (noise + error + 5 / 2 ^ 13) * ((last - start) / 1000) +
              ((gotTimes rest).length + 1) * slack := by
          ring

theorem start_le_last {R : Nat → Nat → Prop} (hle : ∀ a b, R a b → a ≤ b) (times : List Nat) :
    ∀ start, List.IsChain R (start :: times) → start ≤ times.getLastD start := by
  induction times with
  | nil => exact fun _ _ => le_rfl
  | cons time rest ih =>
    intro start hchain
    rw [List.isChain_cons_cons] at hchain
    rw [List.getLastD_cons]
    exact (hle start time hchain.1).trans (ih time hchain.2)

/-- **How far the heading drifts.**  When the chip's rate is within a noise of its bias while it is
calibrated, and within it of the bias and a rate of turn afterwards, the heading is off by twice the
noise, and twice what a torn sample may add, for the time that passed, and by what rounding costs: a
thousandth of a degree for each second, and for each sample one part in `2 ^ 24` of the largest
heading there was. -/
theorem heading_drift (bus : ImuBringUp) (start : Nat) (polls : List ImuPoll)
    (bias rate noise range : ℚ)
    (hready : (mkhImuInit bus).imuReady = true) (hnow : bus.now = UInt32.ofNat start)
    (hclock : List.IsChain (fun a b => a ≤ b ∧ b - a < 2 ^ 32) (start :: gotTimes polls))
    (hstill : ∀ i, |gzDps (bus.samples i).gzAtH - bias| ≤ noise)
    (hturn : ∀ poll ∈ polls, |gzDps poll.read.gzAtH - (rate + bias)| ≤ noise)
    (hrange : Meets Imu.step (HeadingWithin range) (mkhImuInit bus) polls) :
    |(after Imu.step (mkhImuInit bus) polls).headingDeg -
        rate * (((gotTimes polls).getLastD start - start : ℚ) / 1000)| ≤
      (2 * (255 / 128 + noise) + 1 / 1000) * (((gotTimes polls).getLastD start - start : ℚ) / 1000) +
        (gotTimes polls).length * (range / 2 ^ 24 + 2 ^ (-149 : ℤ)) := by
  have htorn : ∀ (read : GzRead) raw center, imuReadRawGz read = some raw →
      |gzDps read.gzAtH - center| ≤ noise → |rawDps raw - center| ≤ 255 / 128 + noise := by
    intro read raw center hread hnear
    have hsplit : rawDps raw - center =
        (rawDps raw - gzDps read.gzAtH) + (gzDps read.gzAtH - center) := by ring
    rw [hsplit]
    exact (abs_add_le _ _).trans (add_le_add (abs_rawDps_sub_gzDps_le hread) hnear)
  have hcalibrated := bias_near_mean hready bias (255 / 128 + noise) fun dps hdps => by
    obtain ⟨read, hread, hgot⟩ := List.mem_filterMap.mp hdps
    obtain ⟨raw, hraw, rfl⟩ := Option.map_eq_some_iff.mp hgot
    obtain ⟨i, rfl⟩ := List.mem_ofFn.mp hread
    exact htorn _ raw bias hraw (hstill i)
  obtain ⟨-, -, hzero, hlast⟩ := init_ready hready
  have hnear := heading_near polls hready (hlast.trans hnow) hcalibrated.2 hcalibrated.1 hclock
    (fun poll hpoll raw hread => htorn _ raw (rate + bias) hread (hturn poll hpoll)) hrange
  rw [hzero, sub_zero] at hnear
  have hlater : (start : ℚ) ≤ (gotTimes polls).getLastD start := by
    exact_mod_cast start_le_last (fun _ _ h => h.1) (gotTimes polls) start hclock
  have htime : 0 ≤ ((gotTimes polls).getLastD start - start : ℚ) / 1000 :=
    div_nonneg (sub_nonneg.mpr hlater) (by norm_num)
  refine hnear.trans (add_le_add_left (mul_le_mul_of_nonneg_right ?_ htime) _)
  linarith

/-! ### A turn with a failed read -/

/-- A read of a steady rate. -/
def steadyRead (gz : UInt16) (requestFrom : Nat) : GzRead where
  gzAtL := gz
  replyL := { endTransmission := 0, requestFrom := requestFrom }
  gzAtH := gz
  replyH := { endTransmission := 0, requestFrom := 1 }

def stillBringUp : ImuBringUp where
  acks addr := addr = imuI2cAddrPrimary
  ctrl3 := 0
  ctrl7 := 0
  samples _ := steadyRead 0 1
  now := 1000

/-- One degree per second; the read in the middle fails. -/
def slowTurn : List ImuPoll :=
  [{ ms := 1150, read := steadyRead 128 1 }, { ms := 1300, read := steadyRead 128 0 },
    { ms := 1450, read := steadyRead 128 1 }]

theorem heading_drift_slowTurn :
    |(after Imu.step (mkhImuInit stillBringUp) slowTurn).headingDeg -
        1 * (((gotTimes slowTurn).getLastD 1000 - (1000 : Nat) : ℚ) / 1000)| ≤
      (2 * (255 / 128 + 0) + 1 / 1000) * (((gotTimes slowTurn).getLastD 1000 - (1000 : Nat) : ℚ) / 1000) +
        (gotTimes slowTurn).length * (1 / 2 ^ 24 + 2 ^ (-149 : ℤ)) :=
  heading_drift stillBringUp 1000 slowTurn 0 1 0 1 (by decide +kernel) rfl (by decide)
    (fun _ => show |gzDps 0 - 0| ≤ 0 by decide +kernel) (by decide +kernel) (by decide +kernel)

/-! ### The size of the heading -/

/-- The bias and the heading, which no step takes beyond these. -/
structure Imu.Bounded (s : Imu) : Prop where
  bias : |s.biasDps| ≤ 257
  heading : |s.headingDeg| ≤ 2 ^ 57

theorem mkhImuInit_bounded (bus : ImuBringUp) : (mkhImuInit bus).Bounded := by
  cases hready : (mkhImuInit bus).imuReady with
  | true =>
    obtain ⟨-, -, hzero, -⟩ := init_ready hready
    have hbias := bias_near_mean hready 0 256 fun dps hdps => by
      rw [sub_zero]
      exact abs_gotDps_le hdps
    refine ⟨hbias.2, ?_⟩
    rw [hzero, abs_zero]
    norm_num
  | false =>
    have hidle : (mkhImuInit bus).biasDps = 0 ∧ (mkhImuInit bus).headingDeg = 0 := by
      unfold mkhImuInit at hready ⊢
      cases hprobe : [imuI2cAddrPrimary, imuI2cAddrSecondary].find? bus.acks with
      | none => exact ⟨rfl, rfl⟩
      | some addr =>
        rw [hprobe] at hready
        simp only at hready ⊢
        split_ifs at hready ⊢ <;> exact ⟨rfl, rfl⟩
    refine ⟨?_, ?_⟩
    · rw [hidle.1]
      norm_num
    · rw [hidle.2]
      norm_num

/-- What one poll adds is below the last place of a large heading. -/
theorem abs_gain_le {s : Imu} {read : GzRead} {raw : Int} (hread : imuReadRawGz read = some raw)
    (hbias : |s.biasDps| ≤ 257) (elapsed : UInt32) :
    |nearest (sampleDps s raw * dtSec elapsed.toNat)| ≤ 2 ^ (32 : ℤ) := by
  have hsample := (abs_sampleDps_le hread hbias).2
  have hdt := abs_le.mp (abs_dtSec_sub_le elapsed.toNat)
  have helapsed : (elapsed.toNat : ℚ) ≤ 2 ^ 32 := by exact_mod_cast elapsed.toNat_lt.le
  have hdtLarge : |dtSec elapsed.toNat| ≤ 4300000 := by
    have hnonneg : 0 ≤ dtSec elapsed.toNat := nearest_nonneg
      (div_nonneg (nearest_nonneg (Nat.cast_nonneg _)) (by norm_num))
    rw [abs_of_nonneg hnonneg]
    linarith [hdt.2]
  refine abs_nearest_le (by norm_num) ?_
  calc
    |sampleDps s raw * dtSec elapsed.toNat| ≤ 514 * 4300000 := by
      rw [abs_mul]
      exact mul_le_mul hsample hdtLarge (abs_nonneg _) (by norm_num)
    _ ≤ 2 ^ (32 : ℤ) + 2 ^ (32 - 25 : ℤ) := by norm_num

theorem Imu.Bounded.step {s : Imu} (h : s.Bounded) (poll : ImuPoll) : (s.step poll).Bounded := by
  cases hready : s.imuReady with
  | false => rwa [step_unready hready]
  | true =>
    cases hread : imuReadRawGz poll.read with
    | none => rwa [step_none hread]
    | some raw =>
      rw [step_some hready hread]
      refine ⟨h.bias, ?_⟩
      have hgain := abs_gain_le hread h.bias (UInt32.ofNat poll.ms - s.lastSampleMs)
      refine abs_nearest_le (k := 57) (by norm_num) ((abs_add_le _ _).trans ?_)
      exact add_le_add (by exact_mod_cast h.heading) hgain

/-- **The heading stays finite**, whatever the chip, the bus and the clock do: once it is large
enough, what a poll could still add is rounded away. -/
theorem heading_bounded (bus : ImuBringUp) (polls : List ImuPoll) :
    |(after Imu.step (mkhImuInit bus) polls).headingDeg| ≤ 2 ^ 57 := by
  have hkeep : ∀ (s : Imu) poll, s.Bounded → (s.step poll).Bounded := fun _ poll h => h.step poll
  exact (invariant_always hkeep polls (mkhImuInit_bounded bus)).heading

end MK1Tank
