/-
The touch screen's driver: `mkh_touch.cpp`.

The controller pulls its interrupt line when its registers change, and the handler only
sets a flag.  A poll of the main task takes the flag down and then reads the registers
over the bus, where the read may fail.  The handler can run between any two of these, so
a poll is four steps here: the test of the flag, its clearing, the read, and the rest.
-/
import Mathlib
import MK1Tank.Lib.Rounding
import MK1Tank.Lib.Run

namespace MK1Tank

open Rounding

/-! ### The controller and the bus -/

/-- The controller's registers 0x02 to 0x06, read as one block. -/
structure TouchRegs where
  fingerNum : UInt8
  xposH : UInt8
  xposL : UInt8
  yposH : UInt8
  yposL : UInt8
deriving DecidableEq, Repr

/-- `fingerNum > 0`. -/
def TouchRegs.pressed (regs : TouchRegs) : Bool := regs.fingerNum > 0

def TouchRegs.rawX (regs : TouchRegs) : UInt16 :=
  ((regs.xposH &&& 0x0F).toUInt16 <<< 8) ||| regs.xposL.toUInt16

def TouchRegs.rawY (regs : TouchRegs) : UInt16 :=
  ((regs.yposH &&& 0x0F).toUInt16 <<< 8) ||| regs.yposL.toUInt16

/-- What the `Wire` calls of one read return: the error code, and how many bytes came. -/
structure WireReply where
  endTransmission : Nat
  requestFrom : Nat
deriving DecidableEq, Repr

/-- `sizeof(buf)`. -/
def touchBlockLen : Nat := 5

/-- The block, if the controller acknowledged and sent all of it. -/
def cst816ReadRegs (chip : TouchRegs) (reply : WireReply) : Option TouchRegs :=
  if reply.endTransmission ≠ 0 then none
  else if reply.requestFrom ≠ touchBlockLen then none
  else some chip

/-! ### From the glass to the display -/

/-- `DISPLAY_W`. -/
def displayW : Nat := 320

/-- `DISPLAY_H`. -/
def displayH : Nat := 240

/-- The two comparisons that keep a coordinate on the display. -/
def clampToDisplay (q : ℚ) (size : Nat) : ℚ :=
  let q := if q < 0 then 0 else q
  if q > size - 1 then size - 1 else q

def mkhTouchRawToDisplay (rawX rawY : UInt16) : ℤ × ℤ :=
  let dx := 10175 / 10000 * (rawY.toNat : ℚ) - 3
  let dy := 2716 / 10 - 12114 / 10000 * (rawX.toNat : ℚ)
  (lround (clampToDisplay dx displayW), lround (clampToDisplay dy displayH))

/-! ### The driver's state -/

/-- Where the main task is in `mkh_touch_poll`. -/
inductive PollPhase where
  | outside
  /-- The flag was found up. -/
  | taken
  /-- The flag was taken down. -/
  | reading
  /-- The block was read. -/
  | got (buf : TouchRegs)
deriving DecidableEq, Repr

/-- The file-scope state, the controller, and what the last poll gave its caller. -/
structure Touch where
  touchReady : Bool
  wasPressed : Bool
  touchIntFlag : Bool
  phase : PollPhase
  polled : Option (ℤ × ℤ)
  chip : TouchRegs
deriving DecidableEq

/-- `s_touchReady`, from `Wire.begin` and the error of the first transmission. -/
def mkhTouchInit (wireBegin : Bool) (err : Nat) : Bool :=
  if !wireBegin then false
  else if err ≠ 0 then false
  else true

/-- Start-up with a controller that answers and no finger on the glass. -/
def touchBoot : Touch where
  touchReady := mkhTouchInit true 0
  wasPressed := false
  touchIntFlag := false
  phase := .outside
  polled := none
  chip := { fingerNum := 0, xposH := 0, xposL := 0, yposH := 0, yposL := 0 }

def mkhTouchIsPressed (s : Touch) : Bool := s.wasPressed

def touchIsr (s : Touch) : Touch := { s with touchIntFlag := true }

/-! ### The poll -/

/-- What a block makes of `s_wasPressed`, and the new press it reports. -/
def touchSample (wasPressed : Bool) (buf : TouchRegs) : Bool × Option (ℤ × ℤ) :=
  let pressed := buf.pressed
  let disp := mkhTouchRawToDisplay buf.rawX buf.rawY
  let isNewPress := pressed && !wasPressed
  (if pressed ≠ wasPressed then pressed else wasPressed, if isNewPress then some disp else none)

/-- Up to the test of the flag. -/
def pollEnter (s : Touch) : Touch :=
  if s.phase ≠ .outside then s
  else if !s.touchReady then { s with polled := none }
  else if !s.touchIntFlag then { s with polled := none }
  else { s with phase := .taken }

/-- The flag goes down before the read. -/
def pollClear (s : Touch) : Touch :=
  match s.phase with
  | .taken => { s with touchIntFlag := false, phase := .reading }
  | _ => s

/-- The read; a poll whose read fails returns at once. -/
def pollRead (s : Touch) (reply : WireReply) : Touch :=
  match s.phase with
  | .reading =>
    match cst816ReadRegs s.chip reply with
    | none => { s with phase := .outside, polled := none }
    | some buf => { s with phase := .got buf }
  | _ => s

/-- What is left of the poll once the block is there. -/
def pollReturn (s : Touch) : Touch :=
  match s.phase with
  | .got buf =>
    { s with
      wasPressed := (touchSample s.wasPressed buf).1
      polled := (touchSample s.wasPressed buf).2
      phase := .outside }
  | _ => s

/-! ### Interleavings -/

/-- One step of the finger or of the main task. -/
inductive TouchStep where
  /-- The controller's registers change and its line falls. -/
  | finger (regs : TouchRegs)
  | pollEnter
  | pollClear
  | pollRead (reply : WireReply)
  | pollReturn
deriving DecidableEq, Repr

def Touch.step (s : Touch) : TouchStep → Touch
  | .finger regs => touchIsr { s with chip := regs }
  | .pollEnter => MK1Tank.pollEnter s
  | .pollClear => MK1Tank.pollClear s
  | .pollRead reply => MK1Tank.pollRead s reply
  | .pollReturn => MK1Tank.pollReturn s

/-- The four steps of a poll that nothing interrupts. -/
def pollSteps (reply : WireReply) : List TouchStep :=
  [.pollEnter, .pollClear, .pollRead reply, .pollReturn]

end MK1Tank
