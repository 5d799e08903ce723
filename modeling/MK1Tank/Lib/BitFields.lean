/-
Bit fields of a string of bytes.

The bytes hold a number, the first of them its lowest digits, and a field is some of the
bits of that number.  Fields that are packed one after the other are read back as they were,
and a reader that only fetches the bytes a field touches reads the same field.
-/
import Mathlib

namespace BitFields

/-- The number that the bytes hold, the first one lowest. -/
def ofBytes : List UInt8 → Nat
  | [] => 0
  | b :: rest => b.toNat + 256 * ofBytes rest

/-- The bits `[pos, pos + size)` of a number. -/
def bits (n pos size : Nat) : Nat := n / 2 ^ pos % 2 ^ size

/-- A field of the bytes. -/
def field (bytes : List UInt8) (pos size : Nat) : Nat := bits (ofBytes bytes) pos size

/-- The lowest bytes of a number. -/
def toBytes : Nat → Nat → List UInt8
  | 0, _ => []
  | count + 1, n => UInt8.ofNat n :: toBytes count (n / 256)

@[simp] theorem length_toBytes (count n : Nat) : (toBytes count n).length = count := by
  induction count generalizing n with
  | zero => rfl
  | succ count ih => simp [toBytes, ih]

theorem ofBytes_toBytes (count n : Nat) : ofBytes (toBytes count n) = n % 256 ^ count := by
  induction count generalizing n with
  | zero => simp [toBytes, ofBytes, Nat.mod_one]
  | succ count ih =>
    have hbyte : (UInt8.ofNat n).toNat = n % 256 := by simp
    rw [toBytes, ofBytes, ih, hbyte, Nat.pow_succ', Nat.mod_mul]

theorem ofBytes_lt (bytes : List UInt8) : ofBytes bytes < 256 ^ bytes.length := by
  induction bytes with
  | nil => simp [ofBytes]
  | cons b rest ih =>
    have hb : b.toNat < 256 := b.toNat_lt
    rw [ofBytes, List.length_cons, Nat.pow_succ']
    omega

theorem ofBytes_append (front back : List UInt8) :
    ofBytes (front ++ back) = ofBytes front + 256 ^ front.length * ofBytes back := by
  induction front with
  | nil => simp [ofBytes]
  | cons b rest ih =>
    rw [List.cons_append, ofBytes, ih, ofBytes, List.length_cons, Nat.pow_succ']
    ring

/-- Bits of bits. -/
theorem bits_bits {n pos size start count : Nat} (h : start + count ≤ size) :
    bits (bits n pos size) start count = bits n (pos + start) count := by
  unfold bits
  have hsplit : 2 ^ size = 2 ^ start * 2 ^ (size - start) := by
    rw [← Nat.pow_add]
    congr 1
    omega
  rw [hsplit, Nat.mod_mul_right_div_self, Nat.pow_add, ← Nat.div_div_eq_div_mul]
  exact Nat.mod_mod_of_dvd _ (Nat.pow_dvd_pow 2 (by omega))

/-! ### Reading the bytes of a field -/

/-- Some bytes in the middle hold some bits in the middle. -/
theorem ofBytes_slice (front mid back : List UInt8) :
    ofBytes mid = bits (ofBytes (front ++ mid ++ back)) (8 * front.length) (8 * mid.length) := by
  have hbase : (256 : Nat) = 2 ^ 8 := by norm_num
  have hfront : ofBytes front < 2 ^ (8 * front.length) := by
    rw [Nat.pow_mul, ← hbase]
    exact ofBytes_lt front
  have hmid : ofBytes mid < 2 ^ (8 * mid.length) := by
    rw [Nat.pow_mul, ← hbase]
    exact ofBytes_lt mid
  rw [List.append_assoc, ofBytes_append, ofBytes_append, hbase, ← Nat.pow_mul, ← Nat.pow_mul]
  unfold bits
  rw [Nat.add_mul_div_left _ _ (by positivity), Nat.div_eq_of_lt hfront, Nat.zero_add,
    Nat.add_mul_mod_self_left, Nat.mod_eq_of_lt hmid]

/-- **The bytes that a field touches are enough to read it.** -/
theorem field_of_slice {bytes front mid back : List UInt8} {pos size : Nat}
    (hsplit : bytes = front ++ mid ++ back) (hfirst : front.length = pos / 8)
    (hlast : pos % 8 + size ≤ 8 * mid.length) :
    bits (ofBytes mid) (pos % 8) size = field bytes pos size := by
  have hpos : 8 * front.length + pos % 8 = pos := by omega
  rw [field, hsplit, ofBytes_slice front mid back, bits_bits hlast, hpos]

/-- A field of the bytes in the middle. -/
theorem field_mid (front back : List UInt8) {mid : List UInt8} {pos size : Nat}
    (h : pos + size ≤ 8 * mid.length) :
    field (front ++ mid ++ back) (8 * front.length + pos) size = field mid pos size := by
  rw [field, field, ofBytes_slice front mid back, bits_bits h]

/-! ### Packing -/

/-- Fields one after the other, each with its size, the first one lowest. -/
def pack : List (Nat × Nat) → Nat
  | [] => 0
  | (size, value) :: rest => value + 2 ^ size * pack rest

/-- Where the fields after the given ones start. -/
def width (fields : List (Nat × Nat)) : Nat := (fields.map Prod.fst).sum

/-- Every value fits its field. -/
def Fits (fields : List (Nat × Nat)) : Prop := ∀ f ∈ fields, f.2 < 2 ^ f.1

theorem pack_lt {fields : List (Nat × Nat)} (h : Fits fields) : pack fields < 2 ^ width fields := by
  induction fields with
  | nil => simp [pack, width]
  | cons f rest ih =>
    obtain ⟨size, value⟩ := f
    have hvalue : value < 2 ^ size := h (size, value) List.mem_cons_self
    have hrest := ih fun f hf => h f (List.mem_cons_of_mem _ hf)
    have hwidth : width ((size, value) :: rest) = size + width rest := by simp [width]
    rw [hwidth, Nat.pow_add, pack]
    calc
      value + 2 ^ size * pack rest < 2 ^ size + 2 ^ size * pack rest := by omega
      _ = 2 ^ size * (pack rest + 1) := by ring
      _ ≤ 2 ^ size * 2 ^ width rest := Nat.mul_le_mul_left _ hrest

/-- **A packed field is read back.** -/
theorem bits_pack {front back : List (Nat × Nat)} {size value : Nat}
    (h : Fits (front ++ (size, value) :: back)) :
    bits (pack (front ++ (size, value) :: back)) (width front) size = value := by
  induction front with
  | nil =>
    have hvalue : value < 2 ^ size := h (size, value) (by simp)
    simp [bits, width, pack, Nat.mod_eq_of_lt hvalue]
  | cons f rest ih =>
    obtain ⟨size', value'⟩ := f
    have hvalue : value' < 2 ^ size' := h (size', value') (by simp)
    have hrest := ih fun f hf => h f (List.mem_cons_of_mem _ hf)
    have hwidth : width ((size', value') :: rest) = size' + width rest := by simp [width]
    rw [hwidth, List.cons_append, pack]
    unfold bits at hrest ⊢
    rw [Nat.pow_add, ← Nat.div_div_eq_div_mul, Nat.add_mul_div_left _ _ (by positivity),
      Nat.div_eq_of_lt hvalue, Nat.zero_add]
    exact hrest

theorem split_at {fields : List (Nat × Nat)} {n size value : Nat}
    (hn : fields[n]? = some (size, value)) :
    fields.take n ++ (size, value) :: fields.drop (n + 1) = fields := by
  obtain ⟨hlt, hget⟩ := List.getElem?_eq_some_iff.mp hn
  rw [← hget, List.cons_getElem_drop_succ, List.take_append_drop]

theorem bits_pack_get {fields : List (Nat × Nat)} (h : Fits fields) {n size value : Nat}
    (hn : fields[n]? = some (size, value)) :
    bits (pack fields) (width (fields.take n)) size = value := by
  have hsplit := split_at hn
  have hbits := bits_pack (hsplit.symm ▸ h)
  rwa [hsplit] at hbits

/-- A field ends within the fields. -/
theorem width_take_le {fields : List (Nat × Nat)} {n size value : Nat}
    (hn : fields[n]? = some (size, value)) : width (fields.take n) + size ≤ width fields := by
  have hwidth : width (fields.take n ++ (size, value) :: fields.drop (n + 1)) =
      width (fields.take n) + (size + width (fields.drop (n + 1))) := by simp [width]
  rw [split_at hn] at hwidth
  omega

/-- **What is packed into bytes is read back from them.** -/
theorem field_toBytes {fields : List (Nat × Nat)} (h : Fits fields) {count n size value : Nat}
    (hwidth : width fields ≤ 8 * count) (hn : fields[n]? = some (size, value)) :
    field (toBytes count (pack fields)) (width (fields.take n)) size = value := by
  have hlt : pack fields < 256 ^ count := by
    calc
      pack fields < 2 ^ width fields := pack_lt h
      _ ≤ 2 ^ (8 * count) := Nat.pow_le_pow_right (by norm_num) hwidth
      _ = 256 ^ count := by rw [Nat.pow_mul]
  rw [field, ofBytes_toBytes, Nat.mod_eq_of_lt hlt]
  exact bits_pack_get h hn

end BitFields
