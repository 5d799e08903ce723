/-
The drive sweep of `sketch.cpp`: from the controller's report to the channel values.

A sweep visits the 18 ports.  Every binding of an assigned port makes a byte of its
own (pass 1), an engaged heading lock may silence its siblings or be cancelled by one
(pass 2), and the bytes, each through its binding's invert and cap, are summed into the
one value the setter is called with (pass 3).  A port with no binding is skipped.
-/
import Mathlib
import MK1Tank.Firmware.Bluepad32
import MK1Tank.Firmware.Broadcast
import MK1Tank.Firmware.Config
import MK1Tank.Firmware.Thl

namespace MK1Tank

open Rounding

/-! ### From a reading to a byte -/

/-- `(uint8_t)v`. -/
def castByte (v : Int) : UInt8 := UInt8.ofNat (v % 256).toNat

/-- The clamp in front of most of the casts. -/
def clampByte (v : Int) : UInt8 := castByte (max 0x00 (min 0xFF v))

def mkhStickAxisMagnitude : Int := 512

def mkhStickDeadzonePercent : Int := 8

def stickDeadzone : Int := (mkhStickAxisMagnitude * mkhStickDeadzonePercent).tdiv 100

def mkStickYToChannelByte (axisY : Int) : UInt8 :=
  if axisY ≥ -stickDeadzone ∧ axisY ≤ stickDeadzone then neutral
  else
    -- Up is negative, and up means forward.
    let forward : Bool := axisY < 0
    let magnitude := if forward then -axisY else axisY
    let travel := mkhStickAxisMagnitude - stickDeadzone
    let fraction : ℚ := min ((magnitude - stickDeadzone : Int) / (travel : ℚ)) 1
    let scale : ℚ := if forward then 127 else 128
    clampByte (128 + lround ((if forward then 1 else -1) * fraction * scale))

def triggerMagnitude : Int := 1023

def triggerDeadzone : Int := (triggerMagnitude * mkhStickDeadzonePercent).tdiv 100

def mkTriggerToChannelByte (triggerValue : Int) : UInt8 :=
  if triggerValue ≤ triggerDeadzone then neutral
  else
    let travel := triggerMagnitude - triggerDeadzone
    let fraction : ℚ := min ((triggerValue - triggerDeadzone : Int) / (travel : ℚ)) 1
    castByte (min 0xFF (128 + lround (fraction * 127)))

/-- One binding's invert and cap.  A heading lock's output is not scaled by the cap. -/
def mkApplyBindingConfig (rawByte : UInt8) (b : Binding) : UInt8 :=
  let value : Int := rawByte.toNat
  let value := if b.invert then max 0x00 (min 0xFF (0x100 - value)) else value
  if b.mode = .thl then castByte value
  else clampByte (0x80 + ((value - 0x80) * b.maxPercent).tdiv 100)

def readTokenRaw (ctl : ControllerData) : InputSource → Int
  | .lsns => ctl.axisY
  | .lsew => ctl.axisX
  | .rsns => ctl.axisRY
  | .rsew => ctl.axisRX
  | .lt => ctl.brake
  | .rt => ctl.throttle
  | .btnA => if ctl.a then 1 else 0
  | .btnB => if ctl.b then 1 else 0
  | .btnX => if ctl.x then 1 else 0
  | .btnY => if ctl.y then 1 else 0
  | .lb => if ctl.l1 then 1 else 0
  | .rb => if ctl.r1 then 1 else 0
  | .dpadUp => if ctl.dpadUp then 1 else 0
  | .dpadDown => if ctl.dpadDown then 1 else 0
  | .dpadLeft => if ctl.dpadLeft then 1 else 0
  | .dpadRight => if ctl.dpadRight then 1 else 0
  | .l3 => if ctl.thumbL then 1 else 0
  | .r3 => if ctl.thumbR then 1 else 0
  | .none => 0

/-! ### The runtime state of a binding -/

/-- An index into a port's arrays. -/
abbrev BindingSlot := Fin mkhMaxBindingsPerPort

def BindingSlot.all : List BindingSlot := List.finRange _

@[simp] theorem BindingSlot.mem_all (i : BindingSlot) : i ∈ BindingSlot.all := List.mem_finRange i

/-- The ten runtime arrays at one device, port and binding. -/
structure Slot where
  latchState : Bool
  latchPrevPressed : Bool
  pulseArmed : Bool
  pulseArmedFrame : UInt32
  pulseActive : Bool
  pulseStartFrame : UInt32
  pulsePrevPressed : Bool
  thlEngaged : Bool
  thlReferenceDeg : ℚ
  thlPrevPressed : Bool
deriving DecidableEq

def Slot.clear : Slot where
  latchState := false
  latchPrevPressed := false
  pulseArmed := false
  pulseArmedFrame := 0
  pulseActive := false
  pulseStartFrame := 0
  pulsePrevPressed := false
  thlEngaged := false
  thlReferenceDeg := 0
  thlPrevPressed := false

/-- A latch that is on, a pulse that is armed or running, or a lock that is engaged. -/
def Slot.started (s : Slot) : Bool := s.latchState || s.pulseArmed || s.pulseActive || s.thlEngaged

abbrev PortSlots := BindingSlot → Slot

/-- The runtime arrays and the published lock status. -/
structure Drive where
  slots : Device → Port → PortSlots
  thlStatus : ThlStatus

def Drive.boot : Drive where
  slots _ _ _ := .clear
  thlStatus := .boot

def clearLatchStateForPort (drive : Drive) (d : Device) (p : Port) : Drive :=
  { drive with
    slots := Function.update drive.slots d
      (Function.update (drive.slots d) p fun _ => .clear) }

def clearLatchStateForDevice (drive : Drive) (d : Device) : Drive :=
  Port.all.foldl (fun drive p => clearLatchStateForPort drive d p) drive

def clearAllLatchState (drive : Drive) : Drive :=
  Device.all.foldl clearLatchStateForDevice drive

/-! ### Pass 1: what each binding makes of its input -/

/-- What a sweep reads besides the table and its own state. -/
structure Sweep where
  controller : ControllerData
  millis : UInt32
  headingDeg : ℚ
  imuReady : Bool
  tuning : ThlTuning

def mkhFrameIntervalMs : UInt32 := 100

def mkhPulseFrames : UInt32 := 1

def Sweep.currentFrame (sw : Sweep) : UInt32 := sw.millis / mkhFrameIntervalMs

/-- A binding's slot after the pass, its byte, and the status it last published, if any. -/
structure BindingPass where
  slot : Slot
  rawByte : UInt8
  thlStatus : Option ThlStatus

def levelByte (level : Bool) : UInt8 := if level then 0xFF else neutral

def latchPass (slot : Slot) (pressed : Bool) : BindingPass :=
  let slot := if pressed && !slot.latchPrevPressed then { slot with latchState := !slot.latchState }
    else slot
  { slot := { slot with latchPrevPressed := pressed }
    rawByte := levelByte slot.latchState
    thlStatus := none }

/-- A press arms, unless a pulse is armed or running; the boundary after it starts the pulse. -/
def pulseStart (slot : Slot) (pressed : Bool) (currentFrame : UInt32) : Slot :=
  let isNewPress := pressed && !slot.pulsePrevPressed
  let slot := { slot with pulsePrevPressed := pressed }
  let slot := if isNewPress && (!slot.pulseArmed && !slot.pulseActive) then
      { slot with pulseArmed := true, pulseArmedFrame := currentFrame }
    else slot
  if slot.pulseArmed && currentFrame != slot.pulseArmedFrame then
    { slot with pulseArmed := false, pulseActive := true, pulseStartFrame := currentFrame }
  else slot

def pulsePass (slot : Slot) (pressed : Bool) (currentFrame : UInt32) : BindingPass :=
  let slot := pulseStart slot pressed currentFrame
  let slot := if slot.pulseActive && currentFrame ≥ slot.pulseStartFrame + mkhPulseFrames then
      { slot with pulseActive := false }
    else slot
  { slot := slot
    rawByte := levelByte slot.pulseActive
    thlStatus := none }

/-- A press toggles the lock; it does not engage while the gyro is calibrating. -/
def thlToggle (slot : Slot) (pressed : Bool) (sw : Sweep) : Slot :=
  let isNewPress := pressed && !slot.thlPrevPressed
  let slot := { slot with thlPrevPressed := pressed }
  if isNewPress then
    if slot.thlEngaged then { slot with thlEngaged := false }
    else if !sw.imuReady then slot
    else { slot with thlEngaged := true, thlReferenceDeg := sw.headingDeg }
  else slot

def thlPass (slot : Slot) (pressed : Bool) (sw : Sweep) : BindingPass :=
  -- The status a press publishes is overwritten below, in the same call.
  let slot := thlToggle slot pressed sw
  if slot.thlEngaged then
    let (errorDeg, outputPct) :=
      mkhThlComputeOutputPct sw.tuning slot.thlReferenceDeg sw.headingDeg
    { slot := slot
      rawByte := clampByte (0x80 + lround (outputPct / 100 * 127))
      thlStatus := some { state := .engaged, errorDeg := errorDeg, outputPct := outputPct } }
  else
    { slot := slot
      rawByte := neutral
      thlStatus := some
        { state := if sw.imuReady then .off else .calibratingBlocked, errorDeg := 0, outputPct := 0 } }

/-- The level of an input read as a button: a trigger is pressed past half its travel. -/
def pressedLevel (ctl : ControllerData) (input : InputSource) : Bool :=
  if mkhConfigInputClass input = .trigger then readTokenRaw ctl input > (1023 : Int).tdiv 2
  else readTokenRaw ctl input ≠ 0

def bindingPass (sw : Sweep) (b : Binding) (slot : Slot) : BindingPass :=
  if mkhConfigInputClass b.input = .axis then
    -- A stick axis has no mode.
    { slot := slot
      rawByte := mkStickYToChannelByte (readTokenRaw sw.controller b.input)
      thlStatus := none }
  else if mkhConfigInputClass b.input = .trigger ∧ b.mode = .proportional then
    { slot := slot
      rawByte := mkTriggerToChannelByte (readTokenRaw sw.controller b.input)
      thlStatus := none }
  else
    let pressed := pressedLevel sw.controller b.input
    match b.mode with
    | .latched => latchPass slot pressed
    | .pulse => pulsePass slot pressed sw.currentFrame
    | .thl => thlPass slot pressed sw
    | _ => { slot := slot, rawByte := levelByte pressed, thlStatus := none }

/-- The bindings of a port, each with its index. -/
def PortConfig.boundSlots (cfg : PortConfig) : List (BindingSlot × Binding) :=
  BindingSlot.all.filterMap fun i => cfg.bindings[i.val]?.map (i, ·)

/-- The port's arrays between two passes. -/
structure PortPass where
  slots : PortSlots
  rawBytes : BindingSlot → UInt8
  thlStatus : ThlStatus

/-- No two bindings share a slot, so the loop is written slot by slot; the status is the last one
published.  `rawBytes` is not read past the bindings. -/
def bindingsPass (sw : Sweep) (cfg : PortConfig) (slots : PortSlots) (status : ThlStatus) :
    PortPass where
  slots i := match cfg.bindings[i.val]? with
    | some b => (bindingPass sw b (slots i)).slot
    | none => slots i
  rawBytes i := match cfg.bindings[i.val]? with
    | some b => (bindingPass sw b (slots i)).rawByte
    | none => neutral
  thlStatus := cfg.boundSlots.foldl
    (fun status entry => (bindingPass sw entry.2 (slots entry.1)).thlStatus.getD status) status

/-! ### Pass 2: the heading lock against its siblings -/

/-- A deflection past the cancel threshold. -/
def overridesLock (tuning : ThlTuning) (rawByte : UInt8) : Bool :=
  |((rawByte.toNat : ℚ) - 0x80)| / 127 * 100 > tuning.cancelThresholdPct

/-- The first binding of the port that holds an engaged lock. -/
def engagedLock (cfg : PortConfig) (slots : PortSlots) : Option BindingSlot :=
  (cfg.boundSlots.find? fun entry => entry.2.mode = .thl && (slots entry.1).thlEngaged).map (·.1)

def overridePass (tuning : ThlTuning) (cfg : PortConfig) (pass : PortPass) : PortPass :=
  match engagedLock cfg pass.slots with
  | none => pass
  | some lock =>
    if cfg.boundSlots.any fun entry => entry.1 ≠ lock && overridesLock tuning (pass.rawBytes entry.1)
    then
      -- Manual override: the lock is off in the same tick, and its sibling's byte stands.
      { slots := Function.update pass.slots lock { pass.slots lock with thlEngaged := false }
        rawBytes := Function.update pass.rawBytes lock neutral
        thlStatus := { state := .off, errorDeg := 0, outputPct := 0 } }
    else { pass with rawBytes := fun i => if i = lock then pass.rawBytes i else neutral }

/-! ### Pass 3: the sum -/

def sumDelta (cfg : PortConfig) (rawBytes : BindingSlot → UInt8) : Int :=
  (cfg.boundSlots.map fun entry =>
    ((mkApplyBindingConfig (rawBytes entry.1) entry.2).toNat : Int) - 0x80).sum

def portByte (cfg : PortConfig) (rawBytes : BindingSlot → UInt8) : UInt8 :=
  castByte (0x80 + max (-128) (min 127 (sumDelta cfg rawBytes)))

/-- The three passes over one port. -/
def portPass (sw : Sweep) (cfg : PortConfig) (slots : PortSlots) (status : ThlStatus) : PortPass :=
  overridePass sw.tuning cfg (bindingsPass sw cfg slots status)

/-! ### The sweep -/

/-- The live half of the sketch: the mapping table, the runtime state and the broadcaster.
`channelCalls` lists the sketch's own calls of the setter, newest first. -/
structure Live where
  config : MkhConfig
  drive : Drive
  broadcast : Broadcast
  channelCalls : List (Device × Port × UInt8)

/-- Readings of the clock, one for each setter call of a round over all ports. -/
abbrev SetterClock := Device → Port → Int

def Live.setChannel (s : Live) (d : Device) (p : Port) (value : UInt8) (now : Int) : Live :=
  { s with
    broadcast := mkhSetChannel s.broadcast d.val p.val value now
    channelCalls := (d, p, value) :: s.channelCalls }

/-- Store a port's arrays and the status after its passes. -/
def Live.storePass (s : Live) (d : Device) (p : Port) (pass : PortPass) : Live :=
  { s with
    drive := {
      slots := Function.update s.drive.slots d (Function.update (s.drive.slots d) p pass.slots)
      thlStatus := pass.thlStatus } }

def sweepPort (sw : Sweep) (now : SetterClock) (s : Live) (d : Device) (p : Port) : Live :=
  if (s.config.table d p).bindings.length = 0 then s
  else
    let pass := portPass sw (s.config.table d p) (s.drive.slots d p) s.drive.thlStatus
    (s.storePass d p pass).setChannel d p (portByte (s.config.table d p) pass.rawBytes) (now d p)

def processMappedInputs (sw : Sweep) (now : SetterClock) (s : Live) : Live :=
  forEachPort (sweepPort sw now) s

/-! ### The disconnect failsafe -/

/-- Stop one port that the table assigns. -/
def stopPort (now : SetterClock) (s : Live) (d : Device) (p : Port) : Live :=
  if (s.config.table d p).bindings.length > 0 then s.setChannel d p neutral (now d p) else s

/-- What `onDisconnectedController` does when the seat was slot 0's. -/
def disconnectFailsafe (now : SetterClock) (s : Live) : Live :=
  let s := forEachPort (stopPort now) s
  { s with drive := clearAllLatchState s.drive }

end MK1Tank
