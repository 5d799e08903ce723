/-
The serializer in its caller's buffer: `mkh_config_serialize`.

The loops keep how much is used in a `size_t` and hand `snprintf` what is left.  Here
that arithmetic is the machine's, and two things a run must not do are faults of their
own: taking more from the size than it is, and writing behind the buffer.
-/
import Mathlib
import MK1Tank.Firmware.Config
import MK1Tank.Lib.Buffer

namespace MK1Tank

/-- The table as `s_table` holds it: `max_percent` is one byte. -/
structure ByteTable where
  table : Table
  maxPercent_lt : ∀ d p, ∀ b ∈ (table d p).bindings, b.maxPercent < 256

/-- What a run must not do. -/
inductive BufferFault where
  /-- `buf_size - used` went below zero. -/
  | underflow
  /-- A character was written at or behind `buf_size`. -/
  | outside
deriving DecidableEq, Repr

/-- Why the loops ended early. -/
inductive SerializeStop where
  | fault (f : BufferFault)
  | returned (value : Int) (buf : Nat → Char)

/-- What the loops carry. -/
structure Serializing where
  used : UInt32
  buf : Nat → Char

/-- `buf_size - used`. -/
def spaceLeft (bufSize used : UInt32) : Except SerializeStop UInt32 :=
  if used ≤ bufSize then .ok (bufSize - used) else .error (.fault .underflow)

/-- What `snprintf` returns: the length the whole text has, where an `int` can say it. -/
def snprintfResult (text : List Char) : Int := if text.length < 2 ^ 31 then text.length else -1

/-- `snprintf(buf + used, room, ..)`. -/
def snprintfAt (bufSize : UInt32) (s : Serializing) (room : UInt32) (text : List Char) :
    Except SerializeStop (Int × (Nat → Char)) :=
  match Buffer.snprintf bufSize.toNat s.buf s.used.toNat room.toNat text with
  | some buf => .ok (snprintfResult text, buf)
  | none => .error (.fault .outside)

/-- The innermost loop's body. -/
def serializeBinding (bufSize : UInt32) (d : Device) (p : Port) (s : Serializing) (b : Binding) :
    Except SerializeStop Serializing := do
  let room ← spaceLeft bufSize s.used
  let (n, buf) ← snprintfAt bufSize s room (bindingLine d p b)
  if n < 0 then
    throw (.returned (-1) buf)
  let room ← spaceLeft bufSize s.used
  if UInt32.ofNat n.toNat ≥ room then
    throw (.returned (-1) buf)
  return { used := s.used + UInt32.ofNat n.toNat, buf := buf }

def serializePort (table : Table) (bufSize : UInt32) (d : Device) (s : Serializing) (p : Port) :
    Except SerializeStop Serializing :=
  (table d p).bindings.foldlM (serializeBinding bufSize d p) s

def serializeDevice (table : Table) (bufSize : UInt32) (s : Serializing) (d : Device) :
    Except SerializeStop Serializing :=
  Port.all.foldlM (serializePort table bufSize d) s

/-- The value returned and the memory left, or the fault. -/
def mkhConfigSerializeBuf (t : ByteTable) (buf : Nat → Char) (bufSize : UInt32) :
    Except BufferFault (Int × (Nat → Char)) :=
  match Device.all.foldlM (serializeDevice t.table bufSize) { used := 0, buf := buf } with
  | .ok s => .ok (s.used.toInt32.toInt, s.buf)
  | .error (.returned value buf) => .ok (value, buf)
  | .error (.fault f) => .error f

end MK1Tank
