/-
What the report parser reads.

The parser fetches the bytes that a field touches, puts them together and shifts the field
out.  Inside the report that is the field itself: the bits that the descriptor gives it,
whatever its place in its first byte.  A field that the report is too short for is read from
behind the report's end.
-/
import MK1Tank.Firmware.HidParser
import MK1Tank.Lib.BitFields

namespace MK1Tank

open BitFields

/-- The bytes of the report. -/
def HidReport.bytes (report : HidReport) : List UInt8 := (List.range report.len).map report.mem

theorem HidReport.bytes_ofBytes (bytes : List UInt8) (behind : Nat → UInt8) :
    (HidReport.ofBytes bytes behind).bytes = bytes := by
  refine List.ext_getElem (by simp [HidReport.bytes, HidReport.ofBytes]) fun i _ hi => ?_
  simp [HidReport.bytes, HidReport.ofBytes, hi]

/-- Some bytes from a place on. -/
def HidReport.slice (report : HidReport) (pos count : Nat) : List UInt8 :=
  (List.range count).map fun i => report.mem (pos + i)

@[simp] theorem HidReport.length_slice (report : HidReport) (pos count : Nat) :
    (report.slice pos count).length = count := by
  simp [HidReport.slice]

theorem HidReport.slice_succ (report : HidReport) (pos count : Nat) :
    report.slice pos (count + 1) = report.slice pos count ++ [report.mem (pos + count)] := by
  simp [HidReport.slice, List.range_succ]

/-- A slice of the report stands in the middle of it. -/
theorem HidReport.bytes_eq {report : HidReport} {pos count : Nat} (h : pos + count ≤ report.len) :
    report.bytes =
      report.slice 0 pos ++ report.slice pos count ++
        report.slice (pos + count) (report.len - pos - count) := by
  have hrange : List.range report.len =
      List.range pos ++ (List.range count).map (pos + ·) ++
        (List.range (report.len - pos - count)).map (pos + count + ·) := by
    rw [← List.range_add, ← List.range_add]
    congr 1
    omega
  unfold HidReport.bytes HidReport.slice
  rw [hrange]
  simp [Function.comp_def]

/-- The loop puts up to four bytes together. -/
theorem multiByteValue_toNat (report : HidReport) (pos : Nat) {count : Nat} (h : count ≤ 4) :
    (multiByteValue report pos count).toNat = ofBytes (report.slice pos count) := by
  induction count with
  | zero => rfl
  | succ count ih =>
    have hbefore : ofBytes (report.slice pos count) < 2 ^ (count * 8) := by
      have hlt := ofBytes_lt (report.slice pos count)
      rw [report.length_slice, show (256 : Nat) = 2 ^ 8 by norm_num, ← Nat.pow_mul] at hlt
      rwa [Nat.mul_comm]
    have hshift : ((report.mem (pos + count)).toUInt32 <<< UInt32.ofNat (count * 8)).toNat =
        (report.mem (pos + count)).toNat <<< (count * 8) := by
      have hbyte : (report.mem (pos + count)).toNat < 256 := UInt8.toNat_lt _
      have hpow : (report.mem (pos + count)).toNat * 2 ^ (count * 8) < 2 ^ 32 := by
        calc
          (report.mem (pos + count)).toNat * 2 ^ (count * 8)
              < 256 * 2 ^ (count * 8) := Nat.mul_lt_mul_of_pos_right hbyte (by positivity)
          _ = 2 ^ (8 + count * 8) := by rw [Nat.pow_add]
          _ ≤ 2 ^ 32 := Nat.pow_le_pow_right (by norm_num) (by omega)
      rw [UInt32.toNat_shiftLeft, UInt8.toNat_toUInt32, UInt32.toNat_ofNat_of_lt' (by
        show count * 8 < 2 ^ 32
        omega), Nat.mod_eq_of_lt (show count * 8 < 32 by omega), Nat.shiftLeft_eq,
        Nat.mod_eq_of_lt hpow]
    rw [multiByteValue, UInt32.toNat_or, ih (by omega), hshift, report.slice_succ, ofBytes_append,
      report.length_slice, Nat.or_comm, ← Nat.shiftLeft_add_eq_or_of_lt hbefore, Nat.shiftLeft_eq]
    simp only [ofBytes, show (256 : Nat) = 2 ^ 8 by norm_num, ← Nat.pow_mul]
    ring

/-- Where the field starts in the report, in bits. -/
def UsageItem.firstBit (item : UsageItem) : Nat := item.start.toNat

/-- The report holds the whole field, in at most four bytes. -/
structure UsageItem.Inside (item : UsageItem) (report : HidReport) : Prop where
  nonempty : 0 < item.size.toNat
  narrow : item.firstBit % 8 + item.size.toNat ≤ 32
  small : item.size.toNat < 32
  ends : item.firstBit + item.size.toNat ≤ 8 * report.len

theorem UsageItem.Inside.bytes_eq {item : UsageItem} {report : HidReport} (h : item.Inside report) :
    item.bytes report.len = (item.firstBit / 8, (item.firstBit % 8 + item.size.toNat - 1) / 8 + 1) := by
  obtain ⟨hnonempty, hnarrow, -, hends⟩ := h
  have hsize : item.size.toNat < 256 := UInt8.toNat_lt _
  have hfirst : item.firstBit < 65536 := UInt16.toNat_lt _
  have hstart : (item.start >>> 3).toNat = item.firstBit / 8 := by
    rw [UInt16.toNat_shiftRight]
    show item.firstBit >>> (3 % 16) = _
    rw [Nat.shiftRight_eq_div_pow]
  have hlast : ((item.start.toUInt32 + item.size.toUInt32 - 1) >>> 3).toNat =
      (item.firstBit + item.size.toNat - 1) / 8 := by
    have hone : (1 : UInt32) ≤ item.start.toUInt32 + item.size.toUInt32 := by
      rw [UInt32.le_iff_toNat_le, UInt32.toNat_add, UInt16.toNat_toUInt32, UInt8.toNat_toUInt32]
      show 1 ≤ (item.firstBit + item.size.toNat) % 2 ^ 32
      omega
    rw [UInt32.toNat_shiftRight, UInt32.toNat_sub_of_le _ _ hone, UInt32.toNat_add,
      UInt16.toNat_toUInt32, UInt8.toNat_toUInt32]
    show ((item.firstBit + item.size.toNat) % 2 ^ 32 - 1) >>> (3 % 32) = _
    rw [Nat.shiftRight_eq_div_pow, Nat.mod_eq_of_lt (by omega)]
  have hbefore : (item.firstBit + item.size.toNat - 1) / 8 ≤ report.len := by omega
  unfold UsageItem.bytes
  rw [hstart, hlast, min_eq_left hbefore, min_eq_left (by omega)]
  refine Prod.ext rfl ?_
  show (item.firstBit + item.size.toNat - 1) / 8 - item.firstBit / 8 + 1 = _
  omega

theorem UsageItem.mask_toNat (item : UsageItem) (hsmall : item.size.toNat < 32) :
    ((1 <<< item.size.toUInt32) - 1 : UInt32).toNat = 2 ^ item.size.toNat - 1 := by
  have hpow : 2 ^ item.size.toNat < 2 ^ 32 := Nat.pow_lt_pow_right (by norm_num) hsmall
  have hshift : (1 <<< item.size.toUInt32 : UInt32).toNat = 2 ^ item.size.toNat := by
    rw [UInt32.toNat_shiftLeft, UInt8.toNat_toUInt32, Nat.mod_eq_of_lt hsmall, Nat.shiftLeft_eq]
    show 1 * 2 ^ item.size.toNat % 2 ^ 32 = _
    rw [Nat.one_mul, Nat.mod_eq_of_lt hpow]
  have hone : (1 : UInt32) ≤ 1 <<< item.size.toUInt32 := by
    rw [UInt32.le_iff_toNat_le, hshift]
    exact Nat.one_le_two_pow
  rw [UInt32.toNat_sub_of_le _ _ hone, hshift]
  rfl

/-- A field's number fits the field, also when it is read from behind the report. -/
theorem UsageItem.unsignedValue_lt (item : UsageItem) (hsmall : item.size.toNat < 32)
    (report : HidReport) : (item.unsignedValue report).toNat < 2 ^ item.size.toNat := by
  unfold UsageItem.unsignedValue
  simp only
  rw [UInt32.toNat_and, item.mask_toNat hsmall, Nat.and_two_pow_sub_one_eq_mod]
  exact Nat.mod_lt _ (by positivity)

/-- **Inside the report a field is what the descriptor says it is.** -/
theorem unsignedValue_toNat {item : UsageItem} {report : HidReport} (h : item.Inside report) :
    (item.unsignedValue report).toNat = field report.bytes item.firstBit item.size.toNat := by
  have hbytes := h.bytes_eq
  obtain ⟨hnonempty, hnarrow, hsmall, hends⟩ := h
  have hpos : (item.start.toUInt32 &&& 7).toNat % 32 = item.firstBit % 8 := by
    rw [UInt32.toNat_and, UInt16.toNat_toUInt32]
    show (item.firstBit &&& (2 ^ 3 - 1)) % 32 = _
    rw [Nat.and_two_pow_sub_one_eq_mod]
    omega
  have hmask := item.mask_toNat hsmall
  unfold UsageItem.unsignedValue
  rw [hbytes]
  simp only
  rw [UInt32.toNat_and, UInt32.toNat_shiftRight, hpos, hmask, Nat.and_two_pow_sub_one_eq_mod,
    Nat.shiftRight_eq_div_pow, multiByteValue_toNat report _ (by omega)]
  refine field_of_slice (report.bytes_eq ?_) (report.length_slice _ _) ?_
  · omega
  · rw [report.length_slice]
    omega

end MK1Tank
