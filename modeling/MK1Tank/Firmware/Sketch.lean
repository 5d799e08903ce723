/-
The sketch as a whole: the connection callbacks and `loop()`.

An iteration fetches the controllers' reports, sweeps the ports when a controller
holds slot 0, dispatches at most one tap to the page that is up, and ends with the
idle screen's timers or the capture page's look at the controller.  The broadcaster's
timer and its queued callbacks run on the other task, between iterations.
-/
import MK1Tank.Firmware.EditorPages

namespace MK1Tank

open FileProgram

/-- The firmware: the Bluepad32 object, the sketch, and whether deep sleep was entered. -/
structure Tank where
  bp32 : Bluepad32
  sketch : Sketch
  asleep : Bool

/-! ### The connection callbacks -/

/-- The first slot that satisfies the test. -/
def findSlot (s : Sketch) (test : Option Seat → Bool) : Option Seat :=
  Seat.all.find? fun i => test (s.myControllers i)

def onConnectedController (ctl : Seat) (s : Sketch) : Sketch :=
  match findSlot s fun held => held == none with
  | none => s
  | some i =>
    { s with
      myControllers := Function.update s.myControllers i (some ctl)
      xwcState := if i = 0 then .connecting else s.xwcState }

def onDisconnectedController (now : SetterClock) (ctl : Seat) (s : Sketch) : Sketch :=
  match findSlot s fun held => held == some ctl with
  | none => s
  | some i =>
    let s := { s with myControllers := Function.update s.myControllers i none }
    if i = 0 then
      { s with xwcState := .disconnected, live := disconnectFailsafe now s.live }
    else s

/-- The dashboard's note that the controller streams; the logging is left out. -/
def processControllers (bp : Bluepad32) (s : Sketch) : Sketch :=
  Seat.all.foldl (fun s slot =>
    match s.myControllers slot with
    | none => s
    | some ctl =>
      let c := bp.controllers ctl
      if c.connected && c.hasData && c.idx == 0 then { s with xwcState := .active } else s) s

/-! ### Capture -/

def mkhCaptureThresholdPercent : Int := 25

def stickPastCaptureThreshold (axisValue : Int) : Bool :=
  let threshold := (mkhStickAxisMagnitude * mkhCaptureThresholdPercent).tdiv 100
  axisValue ≤ -threshold || axisValue ≥ threshold

def triggerPastCaptureThreshold (triggerValue : Int) : Bool :=
  triggerValue ≥ (1023 * mkhCaptureThresholdPercent).tdiv 100

/-- The inputs in the order they are looked at, with whether each one is past its threshold. -/
def captureChecks (ctl : ControllerData) : List (Bool × InputSource) :=
  [(stickPastCaptureThreshold ctl.axisY, .lsns), (stickPastCaptureThreshold ctl.axisX, .lsew),
    (stickPastCaptureThreshold ctl.axisRY, .rsns), (stickPastCaptureThreshold ctl.axisRX, .rsew),
    (triggerPastCaptureThreshold ctl.brake, .lt), (triggerPastCaptureThreshold ctl.throttle, .rt),
    (ctl.a, .btnA), (ctl.b, .btnB), (ctl.x, .btnX), (ctl.y, .btnY), (ctl.l1, .lb), (ctl.r1, .rb),
    (ctl.dpadUp, .dpadUp), (ctl.dpadDown, .dpadDown), (ctl.dpadLeft, .dpadLeft),
    (ctl.dpadRight, .dpadRight), (ctl.thumbL, .l3), (ctl.thumbR, .r3)]

/-- A capture that is already held is left as it is, which here is the same as storing it again. -/
def applyCapture (s : Sketch) (token : InputSource) : Sketch :=
  s.withUi fun _ ui => ui.withCtx fun ctx => ctx.setCapture token true

def checkCapture (bp : Bluepad32) (s : Sketch) : Sketch :=
  match s.myControllers 0 with
  | none => s
  | some ctl =>
    let c := bp.controllers ctl
    if c.connected then
      match (captureChecks c.data).find? (·.1) with
      | some check => applyCapture s check.2
      | none => s
    else s

/-! ### Taps -/

def touchYToDeviceId (displayY : Int) : Device :=
  if displayY < 110 then 0 else if displayY < 150 then 1 else 2

/-- Toggle a hub, with the runtime state that a hub turned off gives up. -/
def toggleRow (env : TapEnv) (s : Sketch) (d : Device) : Sketch :=
  if s.live.broadcast.hubBroadcasting d then
    { s with live := { s.live with
        broadcast := mkhBroadcastToggleOff s.live.broadcast d.val (env.setterClock d)
        drive := clearLatchStateForDevice s.live.drive d } }
  else
    { s with live := { s.live with
        broadcast := mkhBroadcastToggleOn s.live.broadcast d.val (env.setterClock d) } }

/-- A tap on a hub's row. -/
def rowTap (env : TapEnv) (s : Sketch) (d : Device) : Sketch :=
  if mkhBroadcastIsTransitioning s.live.broadcast d.val then s
  else if env.millis - s.ui.lastToggleMs d ≥ mkhToggleDebounceMs then
    toggleRow env (s.withUi fun _ ui =>
      { ui with lastToggleMs := Function.update ui.lastToggleMs d env.millis }) d
  else s

def dashboardTouch (env : TapEnv) (s : Sketch) (t : Tap) : Sketch :=
  if t.within settingsHit then
    s.withUi fun cfg ui => goToPage .editSelect env.millis cfg (clearEditorSession ui)
  else rowTap env s (touchYToDeviceId t.y)

def idleTouch (env : TapEnv) (s : Sketch) (t : Tap) : Sketch :=
  if t.within idleSleepButton then
    s.withUi fun _ ui => { ui with idleSleepHoldActive := true, idleSleepHoldStartMs := env.millis }
  else s.withUi (goToPage .dashboard env.millis)

/-- A tap goes to the page that is up. -/
def pageTouch (env : TapEnv) (s : Sketch) (t : Tap) : Sketch :=
  match s.ui.currentPage with
  | .dashboard => dashboardTouch env s t
  | .stats => s.withUi (goToPage .dashboard env.millis)
  | .splash => s
  | .editSelect => dispatchHubSelectTouch env s t
  | .editPorts => dispatchPortSelectTouch env s t
  | .editCapture => dispatchCaptureTouch env s t
  | .editSettings => dispatchSettingsTouch env s t
  | .idle => idleTouch env s t

/-- Every accepted tap is noted for the idle screen first. -/
def dispatchTouch (env : TapEnv) (s : Sketch) (t : Tap) : Sketch :=
  pageTouch env (s.withUi fun _ ui => { ui with lastTouchActivityMs := env.millis }) t

/-! ### The end of an iteration -/

def idleTimeoutMs : UInt32 := 30000

def autoSleepTimeoutMs : UInt32 := 10 * 60 * 1000

def sleepHoldMs : UInt32 := 1500

/-- The idle screen comes up from the dashboard only, and not while the controller streams. -/
def idleEntry (millis : UInt32) (s : Sketch) : Sketch :=
  if s.ui.currentPage = .dashboard ∧ s.xwcState ≠ .active ∧
      millis - s.ui.lastTouchActivityMs ≥ idleTimeoutMs then
    s.withUi (goToPage .idle millis)
  else s

/-- Neutral to every hub; the wait, the display and the wake source are left out. -/
def enterDeepSleep (now : SetterClock) (s : Sketch) : Sketch :=
  let stopHub (b : Broadcast) (d : Device) : Broadcast := mkhBroadcastToggleOff b d.val (now d)
  { s with live := { s.live with broadcast := Device.all.foldl stopHub s.live.broadcast } }

/-- What the wait of `enterDeepSleep` looks for: no hub is shown or on its way. -/
def allClear (b : Broadcast) : Bool :=
  Device.all.all fun d => !(b.hubBroadcasting d || mkhBroadcastIsTransitioning b d.val)

/-- What an iteration meets. -/
structure Tick where
  status : Seat → DataStatus
  /-- The clock as the setter reads it, in the failsafe and in the sweep. -/
  failsafeClock : SetterClock
  sweepClock : SetterClock
  sweepMillis : UInt32
  headingDeg : ℚ
  imuReady : Bool
  tuning : ThlTuning
  tap : Option Tap
  tapEnv : TapEnv
  /-- `mkh_touch_is_pressed`. -/
  touchPressed : Bool
  /-- The clock in the idle screen's checks. -/
  idleMillis : UInt32

def Tick.sweep (tick : Tick) (controller : ControllerData) : Sweep where
  controller := controller
  millis := tick.sweepMillis
  headingDeg := tick.headingDeg
  imuReady := tick.imuReady
  tuning := tick.tuning

/-- The idle screen's own checks, and whether the sketch goes to sleep. -/
def idleTick (tick : Tick) (s : Sketch) : Sketch × Bool :=
  if s.xwcState = .active then (s.withUi (goToPage .dashboard tick.idleMillis), false)
  else if s.ui.idleSleepHoldActive then
    let released := s.withUi fun _ ui => { ui with idleSleepHoldActive := false }
    if !tick.touchPressed then (released.withUi (goToPage .dashboard tick.idleMillis), false)
    else if tick.idleMillis - s.ui.idleSleepHoldStartMs ≥ sleepHoldMs then
      (enterDeepSleep tick.tapEnv.setterClock released, true)
    else (s, false)
  else if tick.idleMillis - s.ui.idleEnteredMs ≥ autoSleepTimeoutMs then
    (enterDeepSleep tick.tapEnv.setterClock s, true)
  else (s, false)

/-- The page's part of an iteration, after the tap. -/
def pageTick (tick : Tick) (bp : Bluepad32) (s : Sketch) : Sketch × Bool :=
  match s.ui.currentPage with
  | .idle => idleTick tick s
  | .editCapture => (if s.ui.capturePromptActive then s else checkCapture bp s, false)
  | _ => (s, false)

/-! ### `loop()` -/

/-- The call of `BP32.update()`, with what `processControllers` notes of it. -/
def fetchControllers (tick : Tick) (t : Tank) : Tank :=
  let ((bp, s), dataUpdated) := t.bp32.update onConnectedController
    (onDisconnectedController tick.failsafeClock) tick.status t.sketch
  { t with bp32 := bp, sketch := if dataUpdated then processControllers bp s else s }

/-- The sweep of an iteration, when a controller holds slot 0. -/
def sweepHeld (tick : Tick) (t : Tank) : Tank :=
  match t.sketch.myControllers 0 with
  | none => t
  | some ctl =>
    { t with sketch := { t.sketch with
        live := processMappedInputs (tick.sweep (t.bp32.controllers ctl).data) tick.sweepClock
          t.sketch.live } }

/-- The pages' part of an iteration: the tap, then the timers. -/
def runPages (tick : Tick) (t : Tank) : Tank :=
  let s := match tick.tap with
    | some tap => dispatchTouch tick.tapEnv t.sketch tap
    | none => t.sketch
  let (s, asleep) := pageTick tick t.bp32 (idleEntry tick.idleMillis s)
  { t with sketch := s, asleep := asleep }

/-- One iteration.  Deep sleep does not return, so there is none after it. -/
def loop (t : Tank) (tick : Tick) : Tank :=
  if t.asleep then t else runPages tick (sweepHeld tick (fetchControllers tick t))

/-! ### Both tasks -/

/-- A step of the BTstack task. -/
inductive BtstackStep where
  | stateWorking
  | controlTick
  | runCallback

def BtstackStep.run : BtstackStep → Broadcast → Broadcast
  | .stateWorking, b => btstackEventState b
  | .controlTick, b => controlTimer b
  | .runCallback, b => runLoopCallback b

inductive TankStep where
  | loop (tick : Tick)
  | btstack (step : BtstackStep)

def Tank.step (t : Tank) : TankStep → Tank
  | .loop tick => MK1Tank.loop t tick
  | .btstack step =>
    { t with sketch := { t.sketch with
        live := { t.sketch.live with broadcast := step.run t.sketch.live.broadcast } } }

/-- Start-up, with the table that the config file resolved to. -/
def Tank.boot (config : MkhConfig) (files : Files Path) : Tank where
  bp32 := .boot
  sketch :=
    { live := { config := config, drive := .boot, broadcast := mkhBroadcastInit, channelCalls := [] }
      files := files
      ui := { Ui.boot with currentPage := .stats }
      myControllers := fun _ => none
      xwcState := .disconnected }
  asleep := false

end MK1Tank
