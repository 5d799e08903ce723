/-
The dashboard: `sketch.cpp`.

The page is drawn whole when it is opened, and from then on only where the sketch believes
that something has changed: it keeps what it drew last beside what it would draw now.  The
hubs' switches are the exception.  They are drawn when the page is opened and when a tap is
accepted, and at no other time.  What is on the panel is kept here as data; where each
widget stands, and the frames of a switch that slides, are left out.
-/
import MK1Tank.Firmware.Sketch
import MK1Tank.Lib.Binary32

namespace MK1Tank

open Binary32 FileProgram

/-! ### The battery -/

inductive BatteryState where
  | good
  | low
  | critical
deriving DecidableEq, Repr

/-- `MKH_BATTERY_DIVIDER_RATIO`. -/
def mkhBatteryDividerRatio : ℚ := 3

/-- `MKH_BATTERY_READ_INTERVAL_MS`. -/
def mkhBatteryReadIntervalMs : UInt32 := 1000

/-- `MKH_BATTERY_EMA_ALPHA`, which is `0.2f`. -/
def mkhBatteryEmaAlpha : ℚ := nearest (1 / 5)

/-- `MKH_BATTERY_LOW_V`, which is `3.7f`. -/
def mkhBatteryLowV : ℚ := nearest (37 / 10)

/-- `MKH_BATTERY_CRITICAL_V`. -/
def mkhBatteryCriticalV : ℚ := 7 / 2

def batteryStateFor (volts : ℚ) : BatteryState :=
  if volts ≤ mkhBatteryCriticalV then .critical
  else if volts ≤ mkhBatteryLowV then .low
  else .good

/-- The reading, smoothed.  A `float` is the rational it stands for. -/
structure Battery where
  smoothedV : ℚ
  hasReading : Bool
  lastReadMs : UInt32

def Battery.boot : Battery := { smoothedV := 0, hasReading := false, lastReadMs := 0 }

def packV (pinMv : UInt32) : ℚ :=
  nearest (nearest (nearest pinMv.toNat / 1000) * mkhBatteryDividerRatio)

def updateBatteryReading (now pinMv : UInt32) (b : Battery) : Battery :=
  if b.hasReading && now - b.lastReadMs < mkhBatteryReadIntervalMs then b
  else
    { smoothedV :=
        if b.hasReading then
          nearest (nearest (b.smoothedV * nearest (1 - mkhBatteryEmaAlpha)) +
            nearest (packV pinMv * mkhBatteryEmaAlpha))
        else packV pinMv
      hasReading := true
      lastReadMs := now }

/-! ### What is on the panel -/

inductive Color where
  | red
  | yellow
  | green
  /-- `COLOR_LABEL`, which is white. -/
  | label
  | cardBg
deriving DecidableEq, Repr

/-- The battery's badge, with the voltage that its text gives. -/
structure Badge where
  fg : Color
  bg : Color
  volts : ℚ
deriving DecidableEq

/-- The panel while the dashboard is up, and what the sketch believes it drew last. -/
structure Dashboard where
  lastXwcColorDrawn : Color
  lastUptimeDrawnSec : UInt32
  lastBatteryStateDrawn : BatteryState
  lastBatteryBlinkPhaseDrawn : UInt32
  xwcDot : Color
  /-- The switch stands to the right, on green. -/
  switchOn : Device → Bool
  uptimeText : List Char
  badge : Option Badge

def Dashboard.boot : Dashboard where
  lastXwcColorDrawn := .label
  lastUptimeDrawnSec := 0xFFFFFFFF
  lastBatteryStateDrawn := .good
  lastBatteryBlinkPhaseDrawn := 0xFFFFFFFF
  xwcDot := .cardBg
  switchOn _ := false
  uptimeText := []
  badge := none

/-- The clock as one drawing of the page reads it: to see whether the second is a new one, to write
it, and to blink. -/
structure DrawClock where
  second : UInt32
  text : UInt32
  blink : UInt32

def xwcColor : XwcState → Color
  | .active => .green
  | .connecting => .yellow
  | .disconnected => .red

/-- `%02u`. -/
def twoDigits (n : Nat) : List Char :=
  if n < 10 then '0' :: Nat.toDigits 10 n else Nat.toDigits 10 n

/-- Hours, minutes and seconds, cut to the eight characters that the buffer holds. -/
def formatUptime (millis : UInt32) : List Char :=
  let totalSec := (millis / 1000).toNat
  (twoDigits (totalSec / 3600) ++ ':' :: twoDigits (totalSec % 3600 / 60) ++
    ':' :: twoDigits (totalSec % 60)).take 8

def drawStatusDot (c : Color) (dash : Dashboard) : Dashboard :=
  { dash with lastXwcColorDrawn := c, xwcDot := c }

def drawUptime (clock : DrawClock) (force : Bool) (dash : Dashboard) : Dashboard :=
  let totalSec := clock.second / 1000
  if !force && totalSec == dash.lastUptimeDrawnSec then dash
  else { dash with lastUptimeDrawnSec := totalSec, uptimeText := formatUptime clock.text }

def blinkPhase (clock : DrawClock) : UInt32 := clock.blink / 500 % 2

def badgeFor (volts : ℚ) (phase : UInt32) : Badge :=
  match batteryStateFor volts with
  | .good => { fg := .green, bg := .cardBg, volts := volts }
  | .low => { fg := .yellow, bg := .cardBg, volts := volts }
  | .critical => { fg := .label, bg := if phase = 0 then .red else .cardBg, volts := volts }

def drawBatteryBadge (clock : DrawClock) (b : Battery) (force : Bool) (dash : Dashboard) :
    Dashboard :=
  let state := batteryStateFor b.smoothedV
  let phase := blinkPhase clock
  let blinkChanged := state == .critical && phase != dash.lastBatteryBlinkPhaseDrawn
  if !b.hasReading then dash
  else if !force && state == dash.lastBatteryStateDrawn && !blinkChanged then dash
  else
    { dash with
      lastBatteryStateDrawn := state
      lastBatteryBlinkPhaseDrawn := phase
      badge := some (badgeFor b.smoothedV phase) }

/-- The page as a whole.  A switch shows whether telegrams of its hub have been going out. -/
def initDashboard (clock : DrawClock) (b : Battery) (s : Sketch) (dash : Dashboard) : Dashboard :=
  let cleared := { dash with badge := none }
  let drawn := drawStatusDot (xwcColor s.xwcState) cleared
  let drawn := { drawn with switchOn := s.live.broadcast.hubBroadcasting }
  drawBatteryBadge clock b true (drawUptime clock true drawn)

def updateDashboard (clock : DrawClock) (b : Battery) (s : Sketch) (dash : Dashboard) : Dashboard :=
  let c := xwcColor s.xwcState
  let drawn := if c ≠ dash.lastXwcColorDrawn then drawStatusDot c dash else dash
  drawBatteryBadge clock b false (drawUptime clock false drawn)

/-- The last frame of the slide. -/
def animateToggleSwitch (d : Device) (turningOn : Bool) (dash : Dashboard) : Dashboard :=
  { dash with switchOn := Function.update dash.switchOn d turningOn }

/-! ### What the sketch draws of it -/

/-- What a tap on a hub's row draws: `before` is what the tap finds, `tapped` what it leaves. -/
def drawRowTap (env : TapEnv) (before tapped : Sketch) (d : Device) (dash : Dashboard) : Dashboard :=
  if mkhBroadcastIsTransitioning before.live.broadcast d.val then dash
  else if env.millis - before.ui.lastToggleMs d ≥ mkhToggleDebounceMs then
    if before.live.broadcast.hubBroadcasting d then animateToggleSwitch d false dash
    else if tapped.live.broadcast.hubBroadcasting d then animateToggleSwitch d true dash
    else dash
  else dash

/-- `goToPage` draws the dashboard when it comes to it. -/
def drawEntry (clock : DrawClock) (b : Battery) (s : Sketch) (dash : Dashboard) : Dashboard :=
  if s.ui.currentPage = .dashboard then initDashboard clock b s dash else dash

/-- What a tap draws of the dashboard. -/
def drawTap (clock : DrawClock) (b : Battery) (env : TapEnv) (t : Tap) (before tapped : Sketch)
    (dash : Dashboard) : Dashboard :=
  match before.ui.currentPage with
  | .dashboard =>
    if t.within settingsHit then dash
    else drawRowTap env before tapped (touchYToDeviceId t.y) dash
  | _ => drawEntry clock b tapped dash

/-- What the end of an iteration draws of it: `timed` is the sketch after the idle screen's check,
and `ended` after the page's own. -/
def drawPageTick (clock wakeClock : DrawClock) (b : Battery) (timed ended : Sketch)
    (dash : Dashboard) : Dashboard :=
  match timed.ui.currentPage with
  | .dashboard => updateDashboard clock b timed dash
  | _ => drawEntry wakeClock b ended dash

/-! ### The tank with its panel -/

structure Panel where
  tank : Tank
  battery : Battery
  dashboard : Dashboard

/-- What an iteration meets, the battery and the readings for the drawings included. -/
structure PanelTick where
  tick : Tick
  batteryMs : UInt32
  pinMv : UInt32
  tapClock : DrawClock
  clock : DrawClock
  wakeClock : DrawClock

/-- The tap of an iteration. -/
def tapSketch (tick : Tick) (s : Sketch) : Sketch :=
  match tick.tap with
  | some tap => dispatchTouch tick.tapEnv s tap
  | none => s

/-- What the tap of an iteration draws. -/
def drawTapped (pt : PanelTick) (b : Battery) (before tapped : Sketch) (dash : Dashboard) :
    Dashboard :=
  match pt.tick.tap with
  | some tap => drawTap pt.tapClock b pt.tick.tapEnv tap before tapped dash
  | none => dash

/-- An iteration, with what it draws. -/
def Panel.loop (p : Panel) (pt : PanelTick) : Panel :=
  if p.tank.asleep then p
  else
    let before := (sweepHeld pt.tick (fetchControllers pt.tick p.tank)).sketch
    let battery := updateBatteryReading pt.batteryMs pt.pinMv p.battery
    let tapped := tapSketch pt.tick before
    let timed := idleEntry pt.tick.idleMillis tapped
    let tank := MK1Tank.loop p.tank pt.tick
    { tank := tank
      battery := battery
      dashboard := drawPageTick pt.clock pt.wakeClock battery timed tank.sketch
        (drawTapped pt battery before tapped p.dashboard) }

inductive PanelStep where
  | loop (tick : PanelTick)
  | btstack (step : BtstackStep)

def Panel.step (p : Panel) : PanelStep → Panel
  | .loop tick => p.loop tick
  | .btstack step => { p with tank := p.tank.step (.btstack step) }

def Panel.boot (config : MkhConfig) (files : Files Path) : Panel where
  tank := .boot config files
  battery := .boot
  dashboard := .boot

end MK1Tank
