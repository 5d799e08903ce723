/-
The hub's telegrams: `mkh_protocol.c`.

A CONTROL telegram is a fixed base per device with one byte for each of the six
channels.  What goes on the air is that telegram with a header, a seed and a
checksum around it, whitened twice.
-/
import Mathlib
import MK1Tank.Firmware.Ports
import MK1Tank.Lib.Rounding

namespace MK1Tank

open Rounding

/-! ### Constants -/

def kSeed : List UInt8 := [0xC1, 0xC2, 0xC3, 0xC4, 0xC5]

def kHeader : List UInt8 := [0x71, 0x0f, 0x55]

def kCtxValue1 : UInt8 := 0x3f

def kCtxValue2 : UInt8 := 0x25

def kTelegramConnect : List UInt8 := [0x6D, 0x7B, 0xA7, 0x80, 0x80, 0x80, 0x80, 0x92]

def kTelegramBase : Device → List UInt8
  | 0 => [0x61, 0x7B, 0xA7, 0x80, 0x80, 0x80, 0x80, 0x80, 0x80, 0x9E]
  | 1 => [0x62, 0x7B, 0xA7, 0x80, 0x80, 0x80, 0x80, 0x80, 0x80, 0x9D]
  | 2 => [0x63, 0x7B, 0xA7, 0x80, 0x80, 0x80, 0x80, 0x80, 0x80, 0x9C]

def kControlChannelStartOffset : Nat := 3

/-- `MKH_PAYLOAD_CONNECT_LEN`. -/
def mkhPayloadConnectLen : Nat := 8 + 10

/-- `MKH_PAYLOAD_CONTROL_LEN`. -/
def mkhPayloadControlLen : Nat := 10 + 10

/-! ### Building a telegram -/

def mkhProtocolConnectTelegram : List UInt8 := kTelegramConnect

def mkhProtocolControlTelegramNeutral (deviceId : Device) : List UInt8 := kTelegramBase deviceId

/-- The byte a power is sent as: `0x80` at rest, up to `0xFF` forward, down to `0x00` back. -/
def powerByte (power : ℚ) : UInt8 :=
  let power := if power > 1 then 1 else power
  let power := if power < -1 then -1 else power
  if power > 0 then
    let scaled := power * 0x80
    let scaled := if scaled > 0x80 then 0x80 else scaled
    let v := 0x80 + truncate scaled
    if v > 0xFF then 0xFF else UInt8.ofNat v.toNat
  else if power < 0 then
    let scaled := -power * 0x80
    let scaled := if scaled > 0x80 then 0x80 else scaled
    let v := 0x80 - truncate scaled
    if v < 0 then 0 else UInt8.ofNat v.toNat
  else 0x80

def mkhProtocolSetChannel (telegram : List UInt8) (channel : Port) (power : ℚ) : List UInt8 :=
  telegram.set (kControlChannelStartOffset + channel) (powerByte power)

/-- The raw byte as a power: `((float)value - 128.0f) / 128.0f`. -/
def bytePower (value : UInt8) : ℚ := ((value.toNat : ℚ) - 128) / 128

/-- The loop both staging paths run over the six channels. -/
def mkhSetChannels (telegram : List UInt8) (values : Port → UInt8) : List UInt8 :=
  Port.all.foldl (fun t ch => mkhProtocolSetChannel t ch (bytePower (values ch))) telegram

/-! ### Encryption -/

def reverseBits8 (value : UInt8) : UInt8 :=
  (List.range 8).foldl (fun result bit =>
    if value &&& (1 <<< UInt8.ofNat bit) ≠ 0 then
      result ||| (1 <<< UInt8.ofNat (7 - bit))
    else result) 0

def reverseBits16 (value : UInt16) : UInt16 :=
  (List.range 16).foldl (fun result bit =>
    if value &&& (1 <<< UInt16.ofNat bit) ≠ 0 then
      result ||| (1 <<< UInt16.ofNat (15 - bit))
    else result) 0

/-- One turn of the checksum's inner loop. -/
def crc16Shift (result : UInt32) : UInt32 :=
  (if result &&& 0x8000 ≠ 0 then (result <<< 1) ^^^ 0x1021 else result <<< 1) &&& 0xFFFF

/-- One byte of the checksum. -/
def crc16Byte (result : UInt32) (byte : UInt8) : UInt32 :=
  Nat.repeat crc16Shift 8 (result ^^^ (byte.toUInt32 <<< 8))

def crc16 (seed data : List UInt8) : UInt16 :=
  let result := seed.reverse.foldl crc16Byte 0xFFFF
  let result := (data.map reverseBits8).foldl crc16Byte result
  reverseBits16 result.toUInt16 ^^^ 0xFFFF

/-- The whitening shift register. -/
structure Whitening where
  c0 : Bool
  c1 : Bool
  c2 : Bool
  c3 : Bool
  c4 : Bool
  c5 : Bool
  c6 : Bool
deriving DecidableEq, Repr

def whiteningInit (key : UInt8) : Whitening where
  c0 := true
  c1 := key.toNat.testBit 5
  c2 := key.toNat.testBit 4
  c3 := key.toNat.testBit 3
  c4 := key.toNat.testBit 2
  c5 := key.toNat.testBit 1
  c6 := key.toNat.testBit 0

/-- Advance the register; the bit that comes out is the new `c0`. -/
def whiteningStep (ctx : Whitening) : Whitening where
  c0 := ctx.c6
  c1 := ctx.c0
  c2 := ctx.c1
  c3 := ctx.c2
  c4 := xor ctx.c3 ctx.c6
  c5 := ctx.c4
  c6 := ctx.c5

/-- One byte, lowest bit first. -/
def whiteningByte (ctx : Whitening) (b : UInt8) : Whitening × UInt8 :=
  (List.range 8).foldl (fun (acc : Whitening × UInt8) bit =>
    let ctx := whiteningStep acc.1
    let out := xor ctx.c0 (b.toNat.testBit bit)
    (ctx, acc.2 ||| ((if out then 1 else 0) <<< UInt8.ofNat bit))) (ctx, 0)

/-- `whitening_encode` on the bytes it is given. -/
def whiteningEncode : Whitening → List UInt8 → List UInt8
  | _, [] => []
  | ctx, b :: rest => (whiteningByte ctx b).2 :: whiteningEncode (whiteningByte ctx b).1 rest

/-- `whitening_encode(buf, start, len, ctx)`: the bytes outside the range stay. -/
def whiteningEncodeAt (buf : List UInt8) (start len : Nat) (ctx : Whitening) : List UInt8 :=
  buf.take start ++ whiteningEncode ctx ((buf.drop start).take len) ++ buf.drop (start + len)

/-- The encrypted payload, or nothing when it does not fit `outCapacity` or the staging buffer. -/
def mkhProtocolEncrypt (data : List UInt8) (outCapacity : Nat) : List UInt8 :=
  let headerOffset := 15
  let seedOffset := headerOffset + kHeader.length
  let dataOffset := seedOffset + kSeed.length
  let checksumOffset := dataOffset + data.length
  let resultLen := kHeader.length + kSeed.length + data.length + 2
  let bufferLen := checksumOffset + 2
  if resultLen > outCapacity then []
  else if bufferLen > 64 then []
  else
    let crc := crc16 kSeed data
    -- The first 15 bytes stay zero: they only advance the second register.
    let buf := List.replicate headerOffset (0 : UInt8) ++ (kHeader ++ kSeed.reverse).map reverseBits8 ++ data
      ++ [(crc &&& 0xFF).toUInt8, ((crc >>> 8) &&& 0xFF).toUInt8]
    let buf := whiteningEncodeAt buf seedOffset (kSeed.length + data.length + 2)
      (whiteningInit kCtxValue1)
    let buf := whiteningEncodeAt buf 0 bufferLen (whiteningInit kCtxValue2)
    (buf.drop headerOffset).take resultLen

/-! ### What a staged telegram carries -/

/-- **A channel byte is sent as it is.**  The detour over a power in `[-1, 1]` loses nothing. -/
theorem powerByte_bytePower (value : UInt8) : powerByte (bytePower value) = value := by
  have hlt : value.toNat < 256 := value.toNat_lt
  have hscale : bytePower value * 0x80 = (((value.toNat : ℤ) - 128 : ℤ) : ℚ) := by
    simp only [bytePower]; push_cast; ring
  have hup : ¬ bytePower value > 1 := by
    have : (value.toNat : ℚ) < 256 := by exact_mod_cast hlt
    rw [bytePower, gt_iff_lt, lt_div_iff₀ (by norm_num)]; linarith
  have hdown : ¬ bytePower value < -1 := by
    have : (0 : ℚ) ≤ value.toNat := Nat.cast_nonneg _
    rw [bytePower, div_lt_iff₀ (by norm_num)]; linarith
  have hpos : bytePower value > 0 ↔ 128 < value.toNat := by
    rw [bytePower, gt_iff_lt, lt_div_iff₀ (by norm_num), zero_mul, sub_pos]; norm_cast
  have hneg : bytePower value < 0 ↔ value.toNat < 128 := by
    rw [bytePower, div_lt_iff₀ (by norm_num), zero_mul, sub_neg]; norm_cast
  simp only [powerByte, if_neg hup, if_neg hdown, neg_mul, hscale, hpos, hneg]
  rcases Nat.lt_trichotomy value.toNat 128 with h | h | h
  · have hcap : ¬ -((((value.toNat : ℤ) - 128 : ℤ) : ℚ)) > 0x80 := by
      have : (0 : ℚ) ≤ value.toNat := Nat.cast_nonneg _
      push_cast; linarith
    rw [if_neg (by omega), if_pos h, if_neg hcap, ← Int.cast_neg, truncate_intCast,
      if_neg (by omega)]
    have : (128 - -((value.toNat : ℤ) - 128)).toNat = value.toNat := by omega
    rw [this, UInt8.ofNat_toNat]
  · rw [if_neg (by omega), if_neg (by omega)]
    exact (UInt8.toNat_inj.mp h).symm
  · have hcap : ¬ ((((value.toNat : ℤ) - 128 : ℤ) : ℚ)) > 0x80 := by
      have : (value.toNat : ℚ) < 256 := by exact_mod_cast hlt
      push_cast; linarith
    rw [if_pos h, if_neg hcap, truncate_intCast, if_neg (by omega)]
    have : (128 + ((value.toNat : ℤ) - 128)).toNat = value.toNat := by omega
    rw [this, UInt8.ofNat_toNat]

/-- **A CONTROL telegram** is the device's base with the six channel bytes at their places. -/
theorem mkhSetChannels_neutral (d : Device) (values : Port → UInt8) :
    mkhSetChannels (mkhProtocolControlTelegramNeutral d) values =
      (kTelegramBase d).take 3 ++ Port.all.map values ++ (kTelegramBase d).drop 9 := by
  have hall : Port.all = [0, 1, 2, 3, 4, 5] := by decide
  simp only [mkhSetChannels, mkhProtocolSetChannel, powerByte_bytePower, hall]
  fin_cases d <;> rfl

/-- The telegram is the device's neutral one exactly when every channel is at rest. -/
theorem mkhSetChannels_eq_neutral_iff (d : Device) (values : Port → UInt8) :
    mkhSetChannels (mkhProtocolControlTelegramNeutral d) values
      = mkhProtocolControlTelegramNeutral d ↔ ∀ p, values p = 0x80 := by
  have hall : Port.all = [0, 1, 2, 3, 4, 5] := by decide
  rw [mkhSetChannels_neutral, hall, Fin.forall_fin_succ, Fin.forall_fin_succ,
    Fin.forall_fin_succ, Fin.forall_fin_succ, Fin.forall_fin_succ, Fin.forall_fin_one]
  fin_cases d <;>
    simp [mkhProtocolControlTelegramNeutral, kTelegramBase]

/-- Whitening keeps the length. -/
@[simp] theorem whiteningEncode_length (ctx : Whitening) (bytes : List UInt8) :
    (whiteningEncode ctx bytes).length = bytes.length := by
  induction bytes generalizing ctx with
  | nil => rfl
  | cons b rest ih => simp [whiteningEncode, ih]

@[simp] theorem whiteningEncodeAt_length (buf : List UInt8) (start len : Nat) (ctx : Whitening) :
    (whiteningEncodeAt buf start len ctx).length = buf.length := by
  simp [whiteningEncodeAt]
  omega

/-- A telegram of up to 39 bytes fits the staging buffer and comes out ten bytes longer. -/
theorem mkhProtocolEncrypt_length {data : List UInt8} {outCapacity : Nat}
    (hdata : data.length ≤ 39) (hcap : data.length + 10 ≤ outCapacity) :
    (mkhProtocolEncrypt data outCapacity).length = data.length + 10 := by
  have hout : ¬ 3 + 5 + data.length + 2 > outCapacity := by omega
  have hbuf : ¬ 15 + 3 + 5 + data.length + 2 > 64 := by omega
  have hheader : kHeader.length = 3 := rfl
  have hseed : kSeed.length = 5 := rfl
  simp only [mkhProtocolEncrypt, hheader, hseed]
  rw [if_neg hout, if_neg hbuf]
  simp [hheader, hseed]
  omega

end MK1Tank
