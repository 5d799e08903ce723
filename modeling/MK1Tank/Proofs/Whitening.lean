/-
What a receiver reads out of the advertising data.

Both whitening passes cover the bytes with a keystream that does not depend on
them.  A receiver that runs the same two registers over what it hears, the second
one from the state the fifteen leading bytes leave it in, therefore reads the
telegram back.
-/
import MK1Tank.Firmware.Broadcast
import MK1Tank.Lib.Keystream

namespace MK1Tank

open Keystream

/-! ### One byte -/

/-- The bit the register gives for the byte's bit of that number. -/
def keystreamBit (ctx : Whitening) (bit : Nat) : Bool := (whiteningStep^[bit + 1] ctx).c0

/-- The byte with the given bits, lowest first. -/
def gatherBits (bits : Nat → Bool) : UInt8 :=
  (List.range 8).foldl (fun out bit =>
    out ||| ((if bits bit then 1 else 0) <<< UInt8.ofNat bit)) 0

/-- The register after one byte. -/
def whiteningAdvance (ctx : Whitening) : Whitening := whiteningStep^[8] ctx

/-- What the register makes of one byte. -/
def whiteningMask (ctx : Whitening) (b : UInt8) : UInt8 :=
  gatherBits fun bit => xor (keystreamBit ctx bit) (b.toNat.testBit bit)

theorem whiteningByte_eq (ctx : Whitening) (b : UInt8) :
    whiteningByte ctx b = (whiteningAdvance ctx, whiteningMask ctx b) := rfl

theorem gatherBits_congr {bits bits' : Nat → Bool} (h : ∀ bit < 8, bits bit = bits' bit) :
    gatherBits bits = gatherBits bits' := by
  unfold gatherBits
  refine List.foldl_ext _ _ _ fun out bit hbit => ?_
  rw [h bit (List.mem_range.mp hbit)]

theorem gatherBits_testBit (bits : Nat → Bool) {bit : Nat} (hbit : bit < 8) :
    (gatherBits bits).toNat.testBit bit = bits bit := by
  have hall : ∀ b0 b1 b2 b3 b4 b5 b6 b7 : Bool, ∀ bit : Fin 8,
      (gatherBits ([b0, b1, b2, b3, b4, b5, b6, b7].getD · false)).toNat.testBit bit
        = [b0, b1, b2, b3, b4, b5, b6, b7].getD bit false := by
    decide +kernel
  have hlist : ∀ bit < 8, bits bit = [bits 0, bits 1, bits 2, bits 3, bits 4, bits 5, bits 6,
      bits 7].getD bit false := by
    intro bit hlt
    interval_cases bit <;> rfl
  rw [gatherBits_congr hlist, hlist bit hbit]
  exact hall _ _ _ _ _ _ _ _ ⟨bit, hbit⟩

/-- A byte is the byte with its own bits. -/
theorem gatherBits_testBit_toNat (b : UInt8) : gatherBits b.toNat.testBit = b := by
  refine UInt8.toNat_inj.mp (Nat.eq_of_testBit_eq fun bit => ?_)
  rcases Nat.lt_or_ge bit 8 with hlt | hge
  · exact gatherBits_testBit _ hlt
  · have hpow : 2 ^ 8 ≤ 2 ^ bit := Nat.pow_le_pow_right (by omega) hge
    rw [Nat.testBit_lt_two_pow (lt_of_lt_of_le (UInt8.toNat_lt _) hpow),
      Nat.testBit_lt_two_pow (lt_of_lt_of_le b.toNat_lt hpow)]

/-- Covering a byte twice gives it back. -/
theorem whiteningMask_involutive (ctx : Whitening) : Function.Involutive (whiteningMask ctx) := by
  intro b
  have hbits : ∀ bit < 8, xor (keystreamBit ctx bit) ((whiteningMask ctx b).toNat.testBit bit)
      = b.toNat.testBit bit := by
    intro bit hbit
    rw [whiteningMask, gatherBits_testBit _ hbit, ← Bool.xor_assoc, Bool.xor_self, Bool.false_xor]
  calc whiteningMask ctx (whiteningMask ctx b)
      = gatherBits b.toNat.testBit := gatherBits_congr hbits
    _ = b := gatherBits_testBit_toNat b

/-! ### The two passes -/

theorem whiteningEncode_eq (ctx : Whitening) (bytes : List UInt8) :
    whiteningEncode ctx bytes = cover whiteningAdvance whiteningMask ctx bytes := by
  induction bytes generalizing ctx with
  | nil => rfl
  | cons b rest ih => rw [whiteningEncode, whiteningByte_eq, ih, cover_cons]

theorem whiteningEncode_append (ctx : Whitening) (front back : List UInt8) :
    whiteningEncode ctx (front ++ back) = whiteningEncode ctx front ++
      whiteningEncode (whiteningAdvance^[front.length] ctx) back := by
  simp only [whiteningEncode_eq, cover_append]

theorem whiteningEncode_whiteningEncode (ctx : Whitening) (bytes : List UInt8) :
    whiteningEncode ctx (whiteningEncode ctx bytes) = bytes := by
  simp only [whiteningEncode_eq]
  exact cover_cover _ whiteningMask_involutive ctx bytes

/-- Whitening from a place to the end of the buffer leaves what is before the place. -/
theorem whiteningEncodeAt_append (front back : List UInt8) (ctx : Whitening) :
    whiteningEncodeAt (front ++ back) front.length back.length ctx =
      front ++ whiteningEncode ctx back := by
  simp [whiteningEncodeAt]

/-- The second register, once it has run over the fifteen bytes in front of the header. -/
def whiteningAtHeader : Whitening := whiteningAdvance^[15] (whiteningInit kCtxValue2)

/-- The two bytes of checksum at the end of what is sent. -/
def checksumBytes (data : List UInt8) : List UInt8 :=
  [(crc16 kSeed data &&& 0xFF).toUInt8, ((crc16 kSeed data >>> 8) &&& 0xFF).toUInt8]

/-- The payload of a telegram that fits: the seed, the telegram and its checksum under the first
keystream, and these with the header in front under the second. -/
theorem mkhProtocolEncrypt_eq {data : List UInt8} {outCapacity : Nat}
    (hdata : data.length ≤ 39) (hcap : data.length + 10 ≤ outCapacity) :
    mkhProtocolEncrypt data outCapacity =
      whiteningEncode whiteningAtHeader (kHeader.map reverseBits8 ++
        whiteningEncode (whiteningInit kCtxValue1)
          (kSeed.reverse.map reverseBits8 ++ (data ++ checksumBytes data))) := by
  have hout : ¬ 3 + 5 + data.length + 2 > outCapacity := by omega
  have hcapacity : ¬ 15 + 3 + 5 + data.length + 2 > 64 := by omega
  have hheader : kHeader.length = 3 := rfl
  have hseed : kSeed.length = 5 := rfl
  set zeros := List.replicate 15 (0 : UInt8) with hzeros
  set header := kHeader.map reverseBits8 with hheaderBits
  set inner := kSeed.reverse.map reverseBits8 ++ (data ++ checksumBytes data) with hinner
  set covered := whiteningEncode (whiteningInit kCtxValue1) inner with hcovered
  have hfrontLen : (zeros ++ header).length = 15 + 3 := rfl
  have hinnerLen : inner.length = 5 + data.length + 2 := by
    simp [hinner, hseed, checksumBytes]
    omega
  have hcoveredLen : (zeros ++ header ++ covered).length = 15 + 3 + 5 + data.length + 2 := by
    rw [List.length_append, hfrontLen, hcovered, whiteningEncode_length, hinnerLen]
    omega
  have hplain : zeros ++ (kHeader ++ kSeed.reverse).map reverseBits8 ++ data ++ checksumBytes data
      = (zeros ++ header) ++ inner := by
    simp [hheaderBits, hinner]
  -- The first pass starts behind the header, the second at the very front.
  have hfirst := whiteningEncodeAt_append (zeros ++ header) inner (whiteningInit kCtxValue1)
  rw [hfrontLen, hinnerLen] at hfirst
  have hsecond := whiteningEncodeAt_append [] (zeros ++ header ++ covered)
    (whiteningInit kCtxValue2)
  rw [hcoveredLen, List.append_assoc, whiteningEncode_append] at hsecond
  simp only [mkhProtocolEncrypt, hheader, hseed]
  rw [if_neg hout, if_neg hcapacity]
  change List.take _ (List.drop 15 (whiteningEncodeAt (whiteningEncodeAt
    (zeros ++ (kHeader ++ kSeed.reverse).map reverseBits8 ++ data ++ checksumBytes data) _ _ _)
    _ _ _)) = _
  rw [hplain, hfirst, List.append_assoc]
  have hdrop : List.drop 15 (whiteningEncode (whiteningInit kCtxValue2) zeros ++
      whiteningEncode (whiteningAdvance^[zeros.length] (whiteningInit kCtxValue2))
        (header ++ covered)) = whiteningEncode whiteningAtHeader (header ++ covered) :=
    List.drop_left' (by rw [whiteningEncode_length, hzeros, List.length_replicate])
  have htake : (whiteningEncode whiteningAtHeader (header ++ covered)).length
      = 3 + 5 + data.length + 2 := by
    have hheaderLen : header.length = 3 := rfl
    rw [whiteningEncode_length, List.length_append, hheaderLen, hcovered, whiteningEncode_length,
      hinnerLen]
    omega
  refine Eq.trans (congrArg (fun buf => List.take _ (List.drop 15 buf)) hsecond) ?_
  show List.take _ (List.drop 15 _) = _
  rw [List.nil_append, hdrop, ← htake, List.take_length]

/-- What a receiver reads out of a payload. -/
def dewhiten (payload : List UInt8) : Telegram :=
  let buf := whiteningEncode whiteningAtHeader payload
  let buf := whiteningEncode (whiteningInit kCtxValue1) (buf.drop kHeader.length)
  (buf.drop kSeed.length).take (payload.length - 10)

/-- **The receiver reads the telegram back.** -/
theorem dewhiten_mkhProtocolEncrypt {data : List UInt8} {outCapacity : Nat}
    (hdata : data.length ≤ 39) (hcap : data.length + 10 ≤ outCapacity) :
    dewhiten (mkhProtocolEncrypt data outCapacity) = data := by
  have hheader : (kHeader.map reverseBits8).length = kHeader.length := rfl
  have hseed : (kSeed.reverse.map reverseBits8).length = kSeed.length := rfl
  have hlength := mkhProtocolEncrypt_length hdata hcap
  simp only [dewhiten, hlength, Nat.add_sub_cancel]
  rw [mkhProtocolEncrypt_eq hdata hcap, whiteningEncode_whiteningEncode, ← hheader,
    List.drop_left, whiteningEncode_whiteningEncode, ← hseed, List.drop_left, List.take_left]

/-! ### The whole buffer -/

/-- The frame under the whitening: header, seed, telegram, and the checksum low byte first. -/
def plainFrame (data : List UInt8) : List UInt8 :=
  kHeader.map reverseBits8 ++ kSeed.reverse.map reverseBits8 ++ data ++ checksumBytes data

/-- Undo the two passes on a buffer in the order opposite to the encoder's. -/
def dewhitenBuffer (buf : List UInt8) : List UInt8 :=
  let buf := whiteningEncodeAt buf 0 buf.length (whiteningInit kCtxValue2)
  whiteningEncodeAt buf 18 (buf.length - 18) (whiteningInit kCtxValue1)

/-- Both passes undone behind fifteen bytes of whatever was there: the frame is back, and the bytes
in front have only been whitened once more. -/
theorem dewhitenBuffer_append {data front : List UInt8} {outCapacity : Nat}
    (hdata : data.length ≤ 39) (hcap : data.length + 10 ≤ outCapacity)
    (hfront : front.length = 15) :
    dewhitenBuffer (front ++ mkhProtocolEncrypt data outCapacity) =
      whiteningEncode (whiteningInit kCtxValue2) front ++ plainFrame data := by
  set header := kHeader.map reverseBits8 with hheader
  set inner := kSeed.reverse.map reverseBits8 ++ (data ++ checksumBytes data) with hinner
  set front' := whiteningEncode (whiteningInit kCtxValue2) front with hfront'
  have hsecond : whiteningEncodeAt (front ++ mkhProtocolEncrypt data outCapacity) 0
      (front ++ mkhProtocolEncrypt data outCapacity).length (whiteningInit kCtxValue2)
      = (front' ++ header) ++ whiteningEncode (whiteningInit kCtxValue1) inner := by
    have hall := whiteningEncodeAt_append [] (front ++ mkhProtocolEncrypt data outCapacity)
      (whiteningInit kCtxValue2)
    rw [List.nil_append, List.length_nil] at hall
    -- Fifteen bytes leave the register where the encoder had it at the header.
    rw [hall, List.nil_append, whiteningEncode_append, hfront, mkhProtocolEncrypt_eq hdata hcap]
    change front' ++ whiteningEncode whiteningAtHeader (whiteningEncode whiteningAtHeader _) = _
    rw [whiteningEncode_whiteningEncode, List.append_assoc]
  have hplace : (front' ++ header).length = 18 := by
    rw [List.length_append, hfront', whiteningEncode_length, hfront]
    rfl
  have hrest : ((front' ++ header) ++ whiteningEncode (whiteningInit kCtxValue1) inner).length - 18
      = (whiteningEncode (whiteningInit kCtxValue1) inner).length := by
    rw [List.length_append, hplace, Nat.add_sub_cancel_left]
  have hfirst := whiteningEncodeAt_append (front' ++ header)
    (whiteningEncode (whiteningInit kCtxValue1) inner) (whiteningInit kCtxValue1)
  rw [hplace, whiteningEncode_whiteningEncode] at hfirst
  simp only [dewhitenBuffer, hsecond, hrest]
  rw [hfirst, plainFrame, hheader, hinner]
  simp only [List.append_assoc]

/-- **De-whitening recovers the frame.**  Behind any fifteen bytes, undoing the second register from
the front and the first from the seed gives the frame back, so no two telegrams share a payload. -/
theorem dewhitening_recovers_frame (data : List UInt8) (outCapacity : Nat)
    (hdata : data.length ≤ 39) (hcap : data.length + 10 ≤ outCapacity) :
    (mkhProtocolEncrypt data outCapacity).length = data.length + 10 ∧
    (∀ front : List UInt8, front.length = 15 →
      (dewhitenBuffer (front ++ mkhProtocolEncrypt data outCapacity)).drop 15 =
        kHeader.map reverseBits8 ++ kSeed.reverse.map reverseBits8 ++ data ++
          [(crc16 kSeed data &&& 0xFF).toUInt8, ((crc16 kSeed data >>> 8) &&& 0xFF).toUInt8]) ∧
    (∀ (data' : List UInt8) (outCapacity' : Nat), data'.length ≤ 39 →
      data'.length + 10 ≤ outCapacity' →
      mkhProtocolEncrypt data' outCapacity' = mkhProtocolEncrypt data outCapacity →
      data' = data) := by
  refine ⟨mkhProtocolEncrypt_length hdata hcap, fun front hfront => ?_,
    fun data' outCapacity' hdata' hcap' hpayload => ?_⟩
  · rw [dewhitenBuffer_append hdata hcap hfront]
    exact List.drop_left' (by rw [whiteningEncode_length, hfront])
  · calc data' = dewhiten (mkhProtocolEncrypt data' outCapacity') :=
          (dewhiten_mkhProtocolEncrypt hdata' hcap').symm
      _ = dewhiten (mkhProtocolEncrypt data outCapacity) := by rw [hpayload]
      _ = data := dewhiten_mkhProtocolEncrypt hdata hcap

/-- The CONNECT telegram in its own buffer, heard behind fifteen bytes of noise. -/
theorem dewhitening_recovers_connect :
    (dewhitenBuffer (List.replicate 15 0xA5 ++
      mkhProtocolEncrypt mkhProtocolConnectTelegram mkhPayloadConnectLen)).drop 15 =
      kHeader.map reverseBits8 ++ kSeed.reverse.map reverseBits8 ++ mkhProtocolConnectTelegram ++
        [(crc16 kSeed mkhProtocolConnectTelegram &&& 0xFF).toUInt8,
          ((crc16 kSeed mkhProtocolConnectTelegram >>> 8) &&& 0xFF).toUInt8] :=
  (dewhitening_recovers_frame mkhProtocolConnectTelegram mkhPayloadConnectLen (by decide)
    (by decide)).2.1 _ rfl

end MK1Tank
