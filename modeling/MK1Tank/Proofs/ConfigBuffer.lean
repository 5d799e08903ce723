/-
The serializer stays in its buffer.

The loops of the source and the serializer on texts run side by side.  Between two lines
what is used is shorter than the buffer: that is why the subtraction never wraps, why
`snprintf` has room for at least its NUL, and why a line that does not fit is one that
makes the whole text too long.  The lines are short and few, so no length comes near the
end of an `int`.
-/
import MK1Tank.Firmware.ConfigBuffer
import MK1Tank.Proofs.ConfigCodec

namespace MK1Tank

open Buffer

/-! ### How long a text is -/

/-- A line of any binding a record can hold. -/
theorem bindingLine_length_le (d : Device) (p : Port) {b : Binding} (hmax : b.maxPercent < 256) :
    (bindingLine d p b).length ≤ 69 := by
  have hname : (inputTokenName b.input).length ≤ 4 := by cases b.input <;> decide
  have hvalue := lineValue_length_le hmax
  rw [bindingLine_length_eq]
  split at hvalue <;> omega

/-- Three hubs of six ports of eight bindings. -/
theorem tableEntries_length_le (table : Table) : (tableEntries table).length ≤ 144 := by
  have hdevice : ∀ d ∈ Device.all, (Port.all.flatMap fun p =>
      (table d p).bindings.map fun b => (d, p, b)).length ≤ 48 := by
    intro d _
    refine (length_flatMap_le mkhMaxBindingsPerPort fun p _ => ?_).trans (by decide)
    rw [List.length_map]
    exact (table d p).count_le
  exact (length_flatMap_le 48 hdevice).trans (by decide)

theorem tableText_length_lt (t : ByteTable) : (tableText t.table).length < 2 ^ 31 := by
  have hlines : (tableText t.table).length ≤ (tableEntries t.table).length * 69 :=
    length_flatMap_le 69 fun entry he =>
      bindingLine_length_le _ _ (t.maxPercent_lt _ _ _ (mem_tableEntries.mp he))
  have hentries := tableEntries_length_le t.table
  omega

/-! ### One line -/

/-- The loops hold a text: it is shorter than the buffer, stands at its beginning, and what is
behind the buffer is as it was. -/
structure HoldsText (bufSize : UInt32) (mem : Nat → Char) (s : Serializing) (text : List Char) :
    Prop where
  used : s.used.toNat = text.length
  room : text.length < bufSize.toNat
  text : contents s.buf text.length = text
  behind : ∀ j, bufSize.toNat ≤ j → s.buf j = mem j

/-- The source's loops beside the serializer on texts: they go on with the same text, or both give
up, the source by returning -1. -/
inductive Serializes (bufSize : UInt32) (mem : Nat → Char) :
    Except SerializeStop Serializing → Option (List Char) → Prop
  | goesOn {s : Serializing} {text : List Char} (h : HoldsText bufSize mem s text) :
      Serializes bufSize mem (.ok s) (some text)
  | givesUp {buf : Nat → Char} (behind : ∀ j, bufSize.toNat ≤ j → buf j = mem j) :
      Serializes bufSize mem (.error (.returned (-1) buf)) none

variable {bufSize : UInt32} {mem : Nat → Char}

/-- The subtraction does not wrap. -/
theorem HoldsText.spaceLeft {s : Serializing} {text : List Char} (h : HoldsText bufSize mem s text) :
    ∃ room, spaceLeft bufSize s.used = .ok room ∧ room.toNat = bufSize.toNat - text.length := by
  have hle : s.used ≤ bufSize := by
    rw [UInt32.le_iff_toNat_le, h.used]
    exact h.room.le
  refine ⟨bufSize - s.used, if_pos hle, ?_⟩
  rw [UInt32.toNat_sub_of_le _ _ hle, h.used]

/-- What `snprintf` leaves is behind the text held, and before the end. -/
theorem HoldsText.snprintfAt {s : Serializing} {text : List Char} (h : HoldsText bufSize mem s text)
    {room : UInt32} (hroom : room.toNat = bufSize.toNat - text.length) (line : List Char) :
    snprintfAt bufSize s room line = .ok (snprintfResult line,
      overlay s.buf text.length (line.take (bufSize.toNat - text.length - 1) ++ ['\x00'])) := by
  have hlt := h.room
  rw [MK1Tank.snprintfAt, h.used, hroom, snprintf_eq (by omega) (by omega)]

theorem HoldsText.overlay_behind {s : Serializing} {text : List Char}
    (h : HoldsText bufSize mem s text) (line : List Char) (j : Nat) (hj : bufSize.toNat ≤ j) :
    overlay s.buf text.length (line.take (bufSize.toNat - text.length - 1) ++ ['\x00']) j = mem j := by
  have hlt := h.room
  rw [overlay_of_ge, h.behind j hj]
  rw [List.length_append, List.length_take, List.length_singleton]
  omega

/-- **One line.**  The body of the innermost loop does to the buffer what the serializer on texts
does to the text. -/
theorem serializeBinding_serializes {s : Serializing} {text : List Char}
    (h : HoldsText bufSize mem s text) (d : Device) (p : Port) {b : Binding}
    (hmax : b.maxPercent < 256) :
    Serializes bufSize mem (serializeBinding bufSize d p s b)
      (serializeEntry bufSize.toNat text (d, p, b)) := by
  obtain ⟨room, hleft, hroom⟩ := h.spaceLeft
  have hlength := bindingLine_length_le d p hmax
  have hlt := h.room
  unfold serializeBinding serializeEntry
  generalize bindingLine d p b = line at hlength
  have hresult : snprintfResult line = line.length := if_pos (by omega)
  have hback : (UInt32.ofNat line.length).toNat = line.length :=
    UInt32.toNat_ofNat_of_lt' (by
      show line.length < 2 ^ 32
      omega)
  have hnonneg : ¬ ((line.length : Nat) : Int) < 0 := by omega
  have htest : UInt32.ofNat line.length ≥ room ↔ line.length ≥ bufSize.toNat - text.length := by
    rw [ge_iff_le, UInt32.le_iff_toNat_le, hback, hroom]
  simp only [hleft, h.snprintfAt hroom, hresult, Int.toNat_natCast, bind, Except.bind, pure,
    Except.pure, if_neg hnonneg]
  by_cases hfit : line.length ≥ bufSize.toNat - text.length
  · simp only [if_pos hfit, if_pos (htest.mpr hfit), throw, throwThe, MonadExceptOf.throw]
    exact .givesUp (h.overlay_behind line)
  · simp only [if_neg hfit, if_neg (fun hc => hfit (htest.mp hc))]
    refine .goesOn ⟨?_, ?_, ?_, h.overlay_behind line⟩
    · have hsize := bufSize.toNat_lt
      rw [UInt32.toNat_add, hback, h.used, List.length_append]
      exact Nat.mod_eq_of_lt (by omega)
    · rw [List.length_append]
      omega
    · -- the line was not cut
      rw [List.take_of_length_le (by omega), List.length_append, contents_overlay, h.text]

/-! ### The loops -/

/-- A loop whose body runs beside a body on texts runs beside that body's loop. -/
theorem foldlM_serializes {κ : Type} {body : Serializing → κ → Except SerializeStop Serializing}
    {onText : List Char → κ → Option (List Char)} {keys : List κ}
    (hbody : ∀ k ∈ keys, ∀ s text, HoldsText bufSize mem s text →
      Serializes bufSize mem (body s k) (onText text k)) {s : Serializing} {text : List Char}
    (h : HoldsText bufSize mem s text) :
    Serializes bufSize mem (keys.foldlM body s) (keys.foldlM onText text) := by
  induction keys generalizing s text with
  | nil => exact .goesOn h
  | cons k rest ih =>
    rw [List.foldlM_cons, List.foldlM_cons]
    have hfirst := hbody k List.mem_cons_self s text h
    generalize body s k = outcome at hfirst
    generalize onText text k = next at hfirst
    cases hfirst with
    | goesOn hnext => exact ih (fun k hk => hbody k (List.mem_cons_of_mem _ hk)) hnext
    | givesUp hbehind => exact .givesUp hbehind

/-- The serializer on texts, loop by loop. -/
theorem mkhConfigSerialize_loops (table : Table) (size : Nat) :
    mkhConfigSerialize table size = Device.all.foldlM (fun text d => Port.all.foldlM (fun text p =>
      (table d p).bindings.foldlM (fun text b => serializeEntry size text (d, p, b)) text) text)
        [] := by
  unfold mkhConfigSerialize tableEntries
  rw [ForEach.foldlM_flatMap]
  congr 1
  funext text d
  rw [ForEach.foldlM_flatMap]
  congr 1
  funext text p
  exact List.foldlM_map

/-- **The loops of the source serialize**: they leave the text in the buffer that the serializer on
texts gives. -/
theorem loops_serialize (t : ByteTable) (mem : Nat → Char) (hsize : 1 ≤ bufSize.toNat) :
    Serializes bufSize mem
      (Device.all.foldlM (serializeDevice t.table bufSize) { used := 0, buf := mem })
      (mkhConfigSerialize t.table bufSize.toNat) := by
  rw [mkhConfigSerialize_loops]
  refine foldlM_serializes (fun d _ s text h => ?_) ⟨rfl, hsize, rfl, fun _ _ => rfl⟩
  refine foldlM_serializes (fun p _ s text h => ?_) h
  refine foldlM_serializes (fun b hb s text h => ?_) h
  exact serializeBinding_serializes h d p (t.maxPercent_lt d p b hb)

/-- **The serializer is exact.**  In a buffer of at least one byte it has no fault and leaves what is
behind the buffer alone; it returns -1 exactly when the text is at least as long as the buffer, and
otherwise the text's length, with the text at the buffer's beginning. -/
theorem mkhConfigSerializeBuf_exact (t : ByteTable) (buf : Nat → Char) (bufSize : UInt32)
    (hsize : 1 ≤ bufSize) :
    ∃ value buf', mkhConfigSerializeBuf t buf bufSize = .ok (value, buf') ∧
      (∀ j, bufSize.toNat ≤ j → buf' j = buf j) ∧
      (value = -1 ↔ bufSize.toNat ≤ (tableText t.table).length) ∧
      ((tableText t.table).length < bufSize.toNat →
        value = (tableText t.table).length ∧
        contents buf' (tableText t.table).length = tableText t.table) := by
  have hone : 1 ≤ bufSize.toNat := UInt32.le_iff_toNat_le.mp hsize
  have hloops := loops_serialize t buf hone
  have hshort := tableText_length_lt t
  rw [mkhConfigSerialize_eq t.table hone] at hloops
  unfold mkhConfigSerializeBuf
  generalize Device.all.foldlM (serializeDevice t.table bufSize) { used := 0, buf := buf } = outcome
    at hloops
  by_cases hfits : (tableText t.table).length < bufSize.toNat
  · rw [if_pos hfits] at hloops
    cases hloops with
    | @goesOn s _ h =>
      have hused := h.used
      have hvalue : s.used.toInt32.toInt = (tableText t.table).length := by
        rw [← hused]
        exact BitVec.toInt_eq_toNat_of_lt (by
          show 2 * s.used.toNat < 2 ^ 32
          omega)
      refine ⟨_, _, rfl, h.behind, ?_, fun _ => ⟨hvalue, h.text⟩⟩
      rw [hvalue]
      omega
  · rw [if_neg hfits] at hloops
    cases hloops with
    | givesUp hbehind =>
      exact ⟨_, _, rfl, hbehind, iff_of_true rfl (by omega), fun h => absurd h hfits⟩

/-- A table with the left stick on port A of hub 1. -/
def leftStickOnly : ByteTable where
  table d p :=
    if d = 0 ∧ p = 0 then
      { bindings := [compiledInBinding .lsns]
        fromFile := false
        count_le := by decide }
    else .unassigned
  maxPercent_lt d p b hb := by
    split at hb
    · rw [List.mem_singleton.mp hb]
      decide
    · cases hb

/-- Its one line has fifty characters: fifty-one bytes hold it and fifty do not. -/
theorem mkhConfigSerializeBuf_exact_leftStickOnly :
    (∃ buf', mkhConfigSerializeBuf leftStickOnly (fun _ => '\x00') 51 = .ok (50, buf') ∧
      contents buf' 50 = "HUB1_PORT_A = LSNS invert=no max=100 curve=linear\n".toList) ∧
    ∃ buf', mkhConfigSerializeBuf leftStickOnly (fun _ => '\x00') 50 = .ok (-1, buf') := by
  have htext : tableText leftStickOnly.table
      = "HUB1_PORT_A = LSNS invert=no max=100 curve=linear\n".toList := by decide +kernel
  have hlength : (tableText leftStickOnly.table).length = 50 := by
    rw [htext]
    rfl
  constructor
  · obtain ⟨value, buf', hrun, -, -, hfits⟩ :=
      mkhConfigSerializeBuf_exact leftStickOnly (fun _ => '\x00') 51 (by decide)
    rw [hlength, htext] at hfits
    obtain ⟨rfl, hcontents⟩ := hfits (by decide)
    exact ⟨buf', hrun, hcontents⟩
  · obtain ⟨value, buf', hrun, -, hshort, -⟩ :=
      mkhConfigSerializeBuf_exact leftStickOnly (fun _ => '\x00') 50 (by decide)
    rw [hlength] at hshort
    obtain rfl := hshort.mpr (by decide)
    exact ⟨buf', hrun⟩

end MK1Tank
