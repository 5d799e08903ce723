/-
The checksum tells neighbouring telegrams apart.

The register is linear in exclusive or, and sixteen shifts of it lose nothing.  A byte
enters at the top of the register, where the eight shifts before it would have brought it
from the bottom; reading two bytes is therefore sixteen shifts of the register with both
of them laid into it, one in each half.  Two telegrams that differ within two adjacent
bytes leave different registers, whatever comes before and after, and the reversals on
the way in and out are one to one.
-/
import MK1Tank.Firmware.Protocol
import MK1Tank.Lib.Window

namespace MK1Tank

open Window

/-! ### Bit reversal -/

/-- The source's loop, for a word of any width. -/
def reverseLoop {w : Nat} (value : BitVec w) (turns : Nat) : BitVec w :=
  (List.range turns).foldl (fun result bit =>
    if value.getLsbD bit then result ||| BitVec.twoPow w (w - 1 - bit) else result) 0

/-- After some turns the low bits read stand at the top, in the other order. -/
theorem reverseLoop_getLsbD {w : Nat} (value : BitVec w) {turns : Nat} (hturns : turns ≤ w)
    {j : Nat} (hj : j < w) :
    (reverseLoop value turns).getLsbD j
      = (decide (w - 1 - j < turns) && value.getLsbD (w - 1 - j)) := by
  induction turns with
  | zero => simp [reverseLoop]
  | succ turns ih =>
    have hlast : reverseLoop value (turns + 1)
        = if value.getLsbD turns then reverseLoop value turns ||| BitVec.twoPow w (w - 1 - turns)
          else reverseLoop value turns := by
      rw [reverseLoop, List.range_succ, List.foldl_append]
      rfl
    have ih := ih (by omega)
    rw [hlast]
    by_cases hat : w - 1 - j = turns
    · have hplace : w - 1 - turns = j := by omega
      rw [hat] at ih ⊢
      cases hbit : value.getLsbD turns
      · simpa [hbit] using ih
      · simp [hplace, hj]
    · have hplace : w - 1 - turns ≠ j := by omega
      have hlt : decide (w - 1 - j < turns + 1) = decide (w - 1 - j < turns) := by
        rw [decide_eq_decide]
        omega
      rw [hlt, ← ih]
      split
      · simp [BitVec.getLsbD_twoPow, hplace]
      · rfl

theorem reverseLoop_eq {w : Nat} (value : BitVec w) : reverseLoop value w = value.reverse := by
  refine BitVec.eq_of_getLsbD_eq fun j hj => ?_
  rw [reverseLoop_getLsbD value (Nat.le_refl w) hj, BitVec.getLsbD_reverse,
    BitVec.getMsbD_eq_getLsbD]
  have h : w - 1 - j < w := by omega
  simp [h, hj]

/-- A loop that works on some word as `reverseLoop` does on its bits reverses it. -/
theorem reverse_of_loop {α : Type} {w : Nat} (bits : α → BitVec w) {step : α → Nat → α}
    {value : BitVec w} {zero : α} (hzero : bits zero = 0)
    (hstep : ∀ result, ∀ bit < w, bits (step result bit)
      = if value.getLsbD bit then bits result ||| BitVec.twoPow w (w - 1 - bit)
        else bits result) :
    bits ((List.range w).foldl step zero) = value.reverse := by
  have hloop : ∀ turns ≤ w,
      bits ((List.range turns).foldl step zero) = reverseLoop value turns := by
    intro turns hturns
    induction turns with
    | zero => exact hzero
    | succ turns ih =>
      rw [reverseLoop, List.range_succ, List.foldl_append, List.foldl_append, List.foldl_cons,
        List.foldl_nil, hstep _ turns (by omega), ih (by omega)]
      rfl
  rw [hloop w (Nat.le_refl w), reverseLoop_eq]

/-- Masking one bit asks for it. -/
theorem and_twoPow_ne_zero {w bit : Nat} (hbit : bit < w) (value : BitVec w) :
    value &&& BitVec.twoPow w bit ≠ 0#w ↔ value.getLsbD bit = true := by
  have hne : BitVec.twoPow w bit ≠ 0#w := by
    intro h
    have hat := congrArg (fun v => v.getLsbD bit) h
    simp [hbit] at hat
  rw [BitVec.and_twoPow]
  split
  · rename_i h
    exact iff_of_true hne h
  · rename_i h
    exact iff_of_false (fun hc => hc rfl) h

theorem one_shiftLeft8 {bit : Nat} (hbit : bit < 8) :
    ((1 : UInt8) <<< UInt8.ofNat bit).toBitVec = BitVec.twoPow 8 bit := by
  interval_cases bit <;> rfl

theorem one_shiftLeft16 {bit : Nat} (hbit : bit < 16) :
    ((1 : UInt16) <<< UInt16.ofNat bit).toBitVec = BitVec.twoPow 16 bit := by
  interval_cases bit <;> rfl

theorem reverseBits8_toBitVec (value : UInt8) :
    (reverseBits8 value).toBitVec = value.toBitVec.reverse := by
  refine reverse_of_loop UInt8.toBitVec rfl fun result bit hbit => ?_
  have hmask : value &&& (1 <<< UInt8.ofNat bit) ≠ 0 ↔ value.toBitVec.getLsbD bit = true := by
    rw [ne_eq, ← UInt8.toBitVec_inj, UInt8.toBitVec_and, one_shiftLeft8 hbit]
    exact and_twoPow_ne_zero hbit _
  simp only [hmask]
  split
  · rw [UInt8.toBitVec_or, one_shiftLeft8 (by omega)]
  · rfl

theorem reverseBits16_toBitVec (value : UInt16) :
    (reverseBits16 value).toBitVec = value.toBitVec.reverse := by
  refine reverse_of_loop UInt16.toBitVec rfl fun result bit hbit => ?_
  have hmask : value &&& (1 <<< UInt16.ofNat bit) ≠ 0 ↔ value.toBitVec.getLsbD bit = true := by
    rw [ne_eq, ← UInt16.toBitVec_inj, UInt16.toBitVec_and, one_shiftLeft16 hbit]
    exact and_twoPow_ne_zero hbit _
  simp only [hmask]
  split
  · rw [UInt16.toBitVec_or, one_shiftLeft16 (by omega)]
  · rfl

theorem reverseBits8_injective : Function.Injective reverseBits8 := by
  intro a b h
  have hrev : a.toBitVec.reverse = b.toBitVec.reverse := by
    rw [← reverseBits8_toBitVec, ← reverseBits8_toBitVec, h]
  rw [← UInt8.toBitVec_inj, ← BitVec.reverse_reverse_eq (x := a.toBitVec), hrev,
    BitVec.reverse_reverse_eq]

theorem reverseBits16_injective : Function.Injective reverseBits16 := by
  intro a b h
  have hrev : a.toBitVec.reverse = b.toBitVec.reverse := by
    rw [← reverseBits16_toBitVec, ← reverseBits16_toBitVec, h]
  rw [← UInt16.toBitVec_inj, ← BitVec.reverse_reverse_eq (x := a.toBitVec), hrev,
    BitVec.reverse_reverse_eq]

/-! ### The register is linear -/

/-- The register uses the low half of its word. -/
def InRegister (result : UInt32) : Prop := result.toNat < 2 ^ 16

theorem InRegister.xor {a b : UInt32} (ha : InRegister a) (hb : InRegister b) :
    InRegister (a ^^^ b) := by
  unfold InRegister
  rw [UInt32.toNat_xor]
  exact Nat.xor_lt_two_pow ha hb

/-- A byte laid into the upper half. -/
theorem byte_laid (b : UInt8) : (b.toUInt32 <<< 8).toNat = b.toNat * 2 ^ 8 := by
  have hb := b.toNat_lt
  rw [UInt32.toNat_shiftLeft, UInt8.toNat_toUInt32, show (8 : UInt32).toNat % 32 = 8 from rfl,
    Nat.shiftLeft_eq, Nat.mod_eq_of_lt (by omega)]

theorem xor_and (a b mask : UInt32) : (a ^^^ b) &&& mask = (a &&& mask) ^^^ (b &&& mask) := by
  rw [← UInt32.toNat_inj]
  simp only [UInt32.toNat_and, UInt32.toNat_xor]
  exact Nat.and_xor_distrib_right

theorem shiftLeft_one_xor (a b : UInt32) : (a ^^^ b) <<< 1 = (a <<< 1) ^^^ (b <<< 1) := by
  rw [← UInt32.toBitVec_inj]
  simp [BitVec.shiftLeft_xor_distrib]

/-- What the top bit brings back in. -/
def feedback (result : UInt32) : UInt32 := if result &&& 0x8000 ≠ 0 then 0x1021 else 0

theorem top_bit (a : UInt32) : a &&& 0x8000 = 0 ∨ a &&& 0x8000 = 0x8000 := by
  have htop : (0x8000 : UInt32).toBitVec = BitVec.twoPow 32 15 := rfl
  rw [← UInt32.toBitVec_inj, ← UInt32.toBitVec_inj, UInt32.toBitVec_and, htop, BitVec.and_twoPow]
  split
  · exact .inr rfl
  · exact .inl rfl

theorem feedback_xor (a b : UInt32) : feedback (a ^^^ b) = feedback a ^^^ feedback b := by
  unfold feedback
  rw [xor_and]
  rcases top_bit a with ha | ha <;> rcases top_bit b with hb | hb <;> rw [ha, hb] <;> rfl

theorem crc16Shift_eq (a : UInt32) : crc16Shift a = ((a <<< 1) ^^^ feedback a) &&& 0xFFFF := by
  unfold crc16Shift feedback
  split <;> simp

theorem crc16Shift_inRegister (a : UInt32) : InRegister (crc16Shift a) := by
  unfold InRegister
  rw [crc16Shift_eq, UInt32.toNat_and]
  exact Nat.lt_of_le_of_lt Nat.and_le_right (by decide)

theorem crc16Shift_xor (a b : UInt32) :
    crc16Shift (a ^^^ b) = crc16Shift a ^^^ crc16Shift b := by
  rw [crc16Shift_eq, crc16Shift_eq, crc16Shift_eq, shiftLeft_one_xor, feedback_xor, ← xor_and]
  congr 1
  rw [UInt32.xor_assoc, UInt32.xor_assoc, ← UInt32.xor_assoc (b <<< 1),
    ← UInt32.xor_assoc (feedback a), UInt32.xor_comm (b <<< 1)]

theorem top_bit_eq_zero_iff {a : UInt32} (ha : InRegister a) :
    a &&& 0x8000 = 0 ↔ a.toNat < 2 ^ 15 := by
  have htop : a &&& 0x8000 = 0 ↔ a.toBitVec.getLsbD 15 = false := by
    have h := and_twoPow_ne_zero (show 15 < 32 by decide) a.toBitVec
    rw [← UInt32.toBitVec_inj, UInt32.toBitVec_and, ← Bool.not_eq_true, ← not_iff_not, not_not]
    exact h
  have hbit : a.toBitVec.getLsbD 15 = decide (a.toNat / 2 ^ 15 % 2 = 1) :=
    Nat.testBit_eq_decide_div_mod_eq
  unfold InRegister at ha
  rw [htop, hbit, decide_eq_false_iff_not]
  omega

/-- With the top bit clear a shift is only a shift. -/
theorem crc16Shift_toNat {a : UInt32} (h : a.toNat < 2 ^ 15) :
    (crc16Shift a).toNat = 2 * a.toNat := by
  have hclear : feedback a = 0 := if_neg (not_not.mpr ((top_bit_eq_zero_iff (by
    unfold InRegister
    omega)).mpr h))
  have hmask : (0xFFFF : UInt32).toNat = 2 ^ 16 - 1 := rfl
  rw [crc16Shift_eq, hclear, UInt32.xor_zero, UInt32.toNat_and, UInt32.toNat_shiftLeft, hmask,
    Nat.and_two_pow_sub_one_eq_mod, show (1 : UInt32).toNat % 32 = 1 from rfl, Nat.shiftLeft_eq]
  omega

/-- With the top bit set the lowest bit comes back. -/
theorem crc16Shift_and_one {a : UInt32} (h : feedback a = 0x1021) : crc16Shift a &&& 1 = 1 := by
  have hlow : (a <<< 1) &&& 1 = 0 := by
    rw [← UInt32.toNat_inj, UInt32.toNat_and, UInt32.toNat_shiftLeft,
      show (1 : UInt32).toNat = 1 from rfl, show 1 % 32 = 1 from rfl, Nat.and_one_is_mod,
      Nat.shiftLeft_eq, UInt32.toNat_zero]
    omega
  rw [crc16Shift_eq, h, UInt32.and_assoc, show (0xFFFF : UInt32) &&& 1 = 1 from rfl, xor_and, hlow]
  rfl

/-- Only the empty register shifts to the empty one. -/
theorem crc16Shift_eq_zero {a : UInt32} (ha : InRegister a) (h : crc16Shift a = 0) : a = 0 := by
  by_cases htop : a &&& 0x8000 = 0
  · have hdouble := crc16Shift_toNat ((top_bit_eq_zero_iff ha).mp htop)
    rw [h, UInt32.toNat_zero] at hdouble
    rw [← UInt32.toNat_inj, UInt32.toNat_zero]
    omega
  · have hone := crc16Shift_and_one (if_pos htop)
    rw [h] at hone
    exact absurd hone (by decide)

/-- A shift loses nothing. -/
theorem crc16Shift_injective {a b : UInt32} (ha : InRegister a) (hb : InRegister b)
    (h : crc16Shift a = crc16Shift b) : a = b := by
  rw [← UInt32.xor_eq_zero_iff]
  refine crc16Shift_eq_zero (ha.xor hb) ?_
  rw [crc16Shift_xor, UInt32.xor_eq_zero_iff]
  exact h

/-! ### Several shifts -/

/-- The register after several shifts. -/
abbrev crc16Shifts (turns : Nat) (a : UInt32) : UInt32 := Nat.repeat crc16Shift turns a

theorem crc16Shifts_xor (turns : Nat) (a b : UInt32) :
    crc16Shifts turns (a ^^^ b) = crc16Shifts turns a ^^^ crc16Shifts turns b := by
  induction turns with
  | zero => rfl
  | succ turns ih =>
    simp only [crc16Shifts, Nat.repeat] at ih ⊢
    rw [ih, crc16Shift_xor]

theorem crc16Shifts_inRegister (turns : Nat) {a : UInt32} (ha : InRegister a) :
    InRegister (crc16Shifts turns a) := by
  cases turns with
  | zero => exact ha
  | succ turns => exact crc16Shift_inRegister _

theorem crc16Shifts_injective {turns : Nat} {a b : UInt32} (ha : InRegister a) (hb : InRegister b)
    (h : crc16Shifts turns a = crc16Shifts turns b) : a = b := by
  induction turns with
  | zero => exact h
  | succ turns ih =>
    exact ih (crc16Shift_injective (crc16Shifts_inRegister turns ha)
      (crc16Shifts_inRegister turns hb) h)

/-- A byte at the bottom of the register rises to the top in eight shifts. -/
theorem crc16Shifts_byte (b : UInt8) : crc16Shifts 8 b.toUInt32 = b.toUInt32 <<< 8 := by
  have hrise : ∀ turns ≤ 8, (crc16Shifts turns b.toUInt32).toNat = 2 ^ turns * b.toNat := by
    intro turns hturns
    induction turns with
    | zero => rw [Nat.pow_zero, Nat.one_mul]; rfl
    | succ turns ih =>
      have ih := ih (by omega)
      have hb := b.toNat_lt
      have hpow : 2 ^ turns * b.toNat < 2 ^ turns * 2 ^ 8 :=
        Nat.mul_lt_mul_of_pos_left hb (Nat.two_pow_pos turns)
      have hlow : (crc16Shifts turns b.toUInt32).toNat < 2 ^ 15 := by
        rw [ih]
        refine Nat.lt_of_lt_of_le hpow ?_
        rw [← Nat.pow_add]
        exact Nat.pow_le_pow_right (by decide) (by omega)
      have hstep := crc16Shift_toNat hlow
      rw [ih, ← Nat.mul_assoc, ← Nat.pow_succ'] at hstep
      exact hstep
  rw [← UInt32.toNat_inj, hrise 8 (Nat.le_refl 8), byte_laid]
  exact Nat.mul_comm _ _

/-! ### Two bytes -/

/-- The register with a first and a second byte laid into it. -/
def laidIn (result : UInt32) (a b : UInt8) : UInt32 :=
  result ^^^ ((a.toUInt32 <<< 8) ^^^ b.toUInt32)

theorem halves_toNat (a b : UInt8) :
    ((a.toUInt32 <<< 8) ^^^ b.toUInt32).toNat = (a.toNat * 2 ^ 8) ^^^ b.toNat := by
  rw [UInt32.toNat_xor, byte_laid, UInt8.toNat_toUInt32]

theorem halves_injective {a b a' b' : UInt8}
    (h : (a.toUInt32 <<< 8) ^^^ b.toUInt32 = (a'.toUInt32 <<< 8) ^^^ b'.toUInt32) :
    a = a' ∧ b = b' := by
  have hread : ∀ a b : UInt8, ((a.toNat * 2 ^ 8) ^^^ b.toNat) / 2 ^ 8 = a.toNat
      ∧ ((a.toNat * 2 ^ 8) ^^^ b.toNat) % 2 ^ 8 = b.toNat := by
    intro a b
    have hb := b.toNat_lt
    constructor
    · rw [Nat.xor_div_two_pow, Nat.mul_div_cancel _ (by decide), Nat.div_eq_of_lt hb,
        Nat.xor_zero]
    · rw [Nat.xor_mod_two_pow, Nat.mul_mod_left, Nat.mod_eq_of_lt hb, Nat.zero_xor]
  have hnat : (a.toNat * 2 ^ 8) ^^^ b.toNat = (a'.toNat * 2 ^ 8) ^^^ b'.toNat := by
    rw [← halves_toNat, ← halves_toNat, h]
  have hupper := (hread a b).1
  have hlower := (hread a b).2
  rw [hnat] at hupper hlower
  exact ⟨UInt8.toNat_inj.mp (hupper.symm.trans (hread a' b').1),
    UInt8.toNat_inj.mp (hlower.symm.trans (hread a' b').2)⟩

theorem halves_inRegister (a b : UInt8) : InRegister ((a.toUInt32 <<< 8) ^^^ b.toUInt32) := by
  have ha := a.toNat_lt
  have hb := b.toNat_lt
  refine InRegister.xor ?_ ?_
  · unfold InRegister
    rw [byte_laid]
    omega
  · unfold InRegister
    rw [UInt8.toNat_toUInt32]
    omega

/-- Reading two bytes is sixteen shifts of the register with both laid in. -/
theorem crc16Byte_two (result : UInt32) (a b : UInt8) :
    crc16Byte (crc16Byte result a) b = crc16Shifts 8 (crc16Shifts 8 (laidIn result a b)) := by
  have hrise : crc16Shifts 8 (laidIn result a b)
      = crc16Shifts 8 (result ^^^ (a.toUInt32 <<< 8)) ^^^ (b.toUInt32 <<< 8) := by
    rw [laidIn, ← UInt32.xor_assoc, crc16Shifts_xor, crc16Shifts_byte]
  rw [hrise]
  rfl

theorem crc16Byte_inRegister (result : UInt32) (b : UInt8) : InRegister (crc16Byte result b) :=
  crc16Shift_inRegister _

/-- No byte merges two registers. -/
theorem crc16Byte_injective {result result' : UInt32} (b : UInt8) (hr : InRegister result)
    (hr' : InRegister result') (h : crc16Byte result b = crc16Byte result' b) :
    result = result' := by
  have hb : InRegister (b.toUInt32 <<< 8) := by
    have hlaid := halves_inRegister b 0
    rwa [show (0 : UInt8).toUInt32 = 0 from rfl, UInt32.xor_zero] at hlaid
  exact (UInt32.xor_left_inj _).mp (crc16Shifts_injective (hr.xor hb) (hr'.xor hb) h)

/-- Two bytes are read without loss. -/
theorem crc16Byte_two_injective {result : UInt32} (hr : InRegister result) {a b a' b' : UInt8}
    (h : crc16Byte (crc16Byte result a) b = crc16Byte (crc16Byte result a') b') :
    a = a' ∧ b = b' := by
  have hlaid : ∀ a b, InRegister (laidIn result a b) := fun a b => hr.xor (halves_inRegister a b)
  rw [crc16Byte_two, crc16Byte_two] at h
  have hsame := crc16Shifts_injective (hlaid a b) (hlaid a' b')
    (crc16Shifts_injective (crc16Shifts_inRegister 8 (hlaid a b))
      (crc16Shifts_inRegister 8 (hlaid a' b')) h)
  exact halves_injective ((UInt32.xor_right_inj _).mp hsame)

/-! ### The checksum -/

/-- What goes out tells registers apart. -/
theorem checksumOut_injective {result result' : UInt32} (hr : InRegister result)
    (hr' : InRegister result')
    (h : reverseBits16 result.toUInt16 ^^^ 0xFFFF = reverseBits16 result'.toUInt16 ^^^ 0xFFFF) :
    result = result' := by
  have hword := reverseBits16_injective ((UInt16.xor_left_inj _).mp h)
  have hnat : result.toNat % 2 ^ 16 = result'.toNat % 2 ^ 16 := by
    rw [← UInt32.toNat_toUInt16, ← UInt32.toNat_toUInt16, hword]
  rw [Nat.mod_eq_of_lt hr, Nat.mod_eq_of_lt hr'] at hnat
  exact UInt32.toNat_inj.mp hnat

/-- A pair of bytes, reversed on the way in, is read without loss. -/
theorem pair_injective {result : UInt32} (hr : InRegister result) {ms ms' : List UInt8}
    (hlen : ms.length = 2) (hlen' : ms'.length = 2)
    (h : ms.foldl crc16Byte result = ms'.foldl crc16Byte result) : ms = ms' := by
  obtain ⟨a, b, rfl⟩ := List.length_eq_two.mp hlen
  obtain ⟨a', b', rfl⟩ := List.length_eq_two.mp hlen'
  obtain ⟨rfl, rfl⟩ := crc16Byte_two_injective hr h
  rfl

/-- Telegrams that differ within two adjacent bytes have different checksums, under any
seed. -/
theorem crc16_ne {seed data data' : List UInt8} {i : Nat} (hsame : SameOutside i 2 data data')
    (hne : data ≠ data') : crc16 seed data ≠ crc16 seed data' := by
  have hstart : InRegister (seed.reverse.foldl crc16Byte 0xFFFF) :=
    foldl_inv crc16Byte (fun r b _ => crc16Byte_inRegister r b) (by unfold InRegister; decide) _
  have hend : ∀ bytes : List UInt8,
      InRegister (bytes.foldl crc16Byte (seed.reverse.foldl crc16Byte 0xFFFF)) := fun bytes =>
    foldl_inv crc16Byte (fun r b _ => crc16Byte_inRegister r b) hstart bytes
  intro h
  refine separates crc16Byte (fun r b _ => crc16Byte_inRegister r b)
    (fun r r' b hr hr' => crc16Byte_injective b hr hr') (fun r hr ms ms' => pair_injective hr)
    hstart (hsame.map reverseBits8)
    (fun hmap => hne (List.map_injective_iff.mpr reverseBits8_injective hmap)) ?_
  exact checksumOut_injective (hend _) (hend _) h

/-- Two telegrams of one length that differ, but only within two adjacent bytes, have
different checksums. -/
theorem crc16_separates_neighbours {data data' : List UInt8} (hlen : data.length = data'.length)
    (hne : data ≠ data') (i : Nat)
    (hout : ∀ j, j ≠ i → j ≠ i + 1 → data[j]? = data'[j]?) :
    crc16 kSeed data ≠ crc16 kSeed data' := by
  refine crc16_ne (i := i) ⟨hlen, fun j hj => hout j ?_ ?_⟩ hne
  · omega
  · omega

/-- Two channels of a CONTROL telegram changed. -/
theorem crc16_separates_channels :
    crc16 kSeed [0x61, 0x7B, 0xA7, 0x80, 0x80, 0x80, 0x80, 0x80, 0x80, 0x9E]
      ≠ crc16 kSeed [0x61, 0x7B, 0xA7, 0x80, 0xFF, 0x00, 0x80, 0x80, 0x80, 0x9E] :=
  crc16_separates_neighbours rfl (by decide) 4 (fun j h4 h5 => by
    rcases j with _ | _ | _ | _ | _ | _ | j
    · rfl
    · rfl
    · rfl
    · rfl
    · exact absurd rfl h4
    · exact absurd rfl h5
    · rfl)

end MK1Tank
