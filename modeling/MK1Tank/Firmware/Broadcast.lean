/-
The broadcaster: `mkh_broadcast.c`.

Only one telegram is on the air at a time.  A timer stages the next active device's
channel values every 100 ms; a value that changes is staged out of turn, by a
callback that the setter queues for the BTstack task.  Four kinds of step therefore
meet on one table: the setter and the toggles on the Arduino task, the timer and
the queued callbacks on the BTstack task.  Each is one step here, as each holds the
run loop or the task it runs on until it returns.
-/
import Mathlib
import MK1Tank.Firmware.Protocol

namespace MK1Tank

/-- A raw or an encrypted telegram. -/
abbrev Telegram := List UInt8

/-- What the broadcaster did, as its log tells it. -/
inductive Event where
  /-- A CONTROL telegram was staged, and whether the device was in rotation then. -/
  | control (d : Device) (active : Bool) (telegram : Telegram)
  /-- The CONNECT telegram was staged. -/
  | connect
  | offAccepted (d : Device)
  | onAccepted (d : Device)
  /-- The device was dropped from rotation. -/
  | dropped (d : Device)
deriving DecidableEq, Repr

/-- The broadcaster's file-scope state.  `log` is newest first. -/
structure Broadcast where
  channelValue : Device → Port → UInt8
  deviceActive : Device → Bool
  pendingOffServices : Device → Nat
  deviceTransitioning : Device → Bool
  hubBroadcasting : Device → Bool
  timeSliceLastDevice : Int
  lastEventSendUs : Device → Int
  /-- The run loop's list of callbacks waiting for the BTstack task. -/
  runLoopCallbacks : List Device
  advertisingStarted : Bool
  /-- The advertising data last handed to the stack. -/
  advBuf : List UInt8
  log : List Event

/-- `MKH_TIME_SLICE_NUM_DEVICES`. -/
def mkhTimeSliceNumDevices : Nat := 2

/-- `MKH_OFF_GRACE_SERVICES`. -/
def mkhOffGraceServices : Nat := 3

/-- `MKH_EVENT_SEND_MIN_INTERVAL_US`. -/
def mkhEventSendMinIntervalUs : Int := 25000

/-- The channel byte of a stopped output. -/
abbrev neutral : UInt8 := 0x80

/-- The state `mkh_broadcast_init` leaves. -/
def mkhBroadcastInit : Broadcast where
  channelValue _ _ := neutral
  deviceActive d := d < mkhTimeSliceNumDevices
  pendingOffServices _ := 0
  deviceTransitioning _ := false
  hubBroadcasting _ := false
  timeSliceLastDevice := -1
  lastEventSendUs _ := 0
  runLoopCallbacks := []
  advertisingStarted := false
  advBuf := []
  log := []

/-! ### Staging -/

/-- Flags, then the payload as manufacturer data under the company id. -/
def mkhSetAdvPayload (payload : List UInt8) : List UInt8 :=
  [0x02, 0x01, 0x06, UInt8.ofNat (1 + 2 + payload.length), 0xFF, 0xF0, 0xFF] ++ payload

/-- The out-of-turn path: build, encrypt and stage the given values. -/
def mkhStageAndSendValues (s : Broadcast) (d : Device) (values : Port → UInt8) : Broadcast :=
  let telegram := mkhSetChannels (mkhProtocolControlTelegramNeutral d) values
  { s with
    advBuf := mkhSetAdvPayload (mkhProtocolEncrypt telegram mkhPayloadControlLen)
    hubBroadcasting := Function.update s.hubBroadcasting d true
    log := .control d (s.deviceActive d) telegram :: s.log }

def mkhEventSendCallback (s : Broadcast) (d : Device) : Broadcast :=
  mkhStageAndSendValues s d (s.channelValue d)

/-- `btstack_linked_list_add_tail`: a registration that is already waiting is not added twice. -/
def executeOnMainThread (callbacks : List Device) (d : Device) : List Device :=
  if d ∈ callbacks then callbacks else callbacks ++ [d]

/-- The run loop takes the first waiting callback off its list and runs it. -/
def runLoopCallback (s : Broadcast) : Broadcast :=
  match s.runLoopCallbacks with
  | [] => s
  | d :: rest => mkhEventSendCallback { s with runLoopCallbacks := rest } d

/-! ### The setter -/

/-- The setter's table write. -/
def storeChannel (s : Broadcast) (d : Device) (p : Port) (value : UInt8) : Broadcast :=
  { s with
    channelValue :=
      Function.update s.channelValue d (Function.update (s.channelValue d) p value) }

/-- The setter's rate-limited request for an out-of-turn send. -/
def queueEventSend (s : Broadcast) (d : Device) (now : Int) : Broadcast :=
  if now - s.lastEventSendUs d ≥ mkhEventSendMinIntervalUs then
    { s with
      lastEventSendUs := Function.update s.lastEventSendUs d now
      runLoopCallbacks := executeOnMainThread s.runLoopCallbacks d }
  else s

def mkhSetChannel (s : Broadcast) (deviceId port : Int) (value : UInt8) (now : Int) : Broadcast :=
  match Device.ofId? deviceId, Port.ofIndex? port with
  | some d, some p =>
    let changed := s.channelValue d p ≠ value
    let s := storeChannel s d p value
    if changed ∧ s.deviceActive d then queueEventSend s d now else s
  | _, _ => s

/-! ### The timer -/

/-- The next active device after `after`, going round. -/
def mkhNextActiveDevice (deviceActive : Device → Bool) (after : Int) : Option Device :=
  [1, 2, 3].findSome? fun (i : Int) =>
    (Device.ofId? ((after + i + mkhMk6NumDevices) % mkhMk6NumDevices)).filter deviceActive

/-- Write the device's countdown. -/
def setPendingOffServices (s : Broadcast) (d : Device) (n : Nat) : Broadcast :=
  { s with pendingOffServices := Function.update s.pendingOffServices d n }

/-- Take the device out of rotation. -/
def dropDevice (s : Broadcast) (d : Device) : Broadcast :=
  { s with
    deviceActive := Function.update s.deviceActive d false
    hubBroadcasting := Function.update s.hubBroadcasting d false
    deviceTransitioning := Function.update s.deviceTransitioning d false
    log := .dropped d :: s.log }

/-- The second half of an OFF: a service counts, and the last one drops the device. -/
def countOffService (s : Broadcast) (d : Device) : Broadcast :=
  if s.pendingOffServices d > 0 then
    let s := setPendingOffServices s d (s.pendingOffServices d - 1)
    if s.pendingOffServices d = 0 then dropDevice s d else s
  else s

/-- Stage the device's telegram in its turn. -/
def serviceDevice (s : Broadcast) (d : Device) : Broadcast :=
  let s := { s with timeSliceLastDevice := d.val }
  let telegram := mkhSetChannels (mkhProtocolControlTelegramNeutral d) (s.channelValue d)
  { s with
    advBuf := mkhSetAdvPayload (mkhProtocolEncrypt telegram mkhPayloadControlLen)
    hubBroadcasting := Function.update s.hubBroadcasting d true
    log := .control d (s.deviceActive d) telegram :: s.log }

def mkhBroadcastControl (s : Broadcast) : Broadcast :=
  match mkhNextActiveDevice s.deviceActive s.timeSliceLastDevice with
  | none => s
  | some d => countOffService (serviceDevice s d) d

/-- The timer's first callback is armed by `mkh_broadcast_connect`; until then it cannot fire. -/
def controlTimer (s : Broadcast) : Broadcast :=
  if s.advertisingStarted then mkhBroadcastControl s else s

/-! ### CONNECT and the toggles -/

/-- Stage the CONNECT telegram, as start-up and a toggle-on both do. -/
def stageConnect (s : Broadcast) : Broadcast :=
  { s with
    advBuf := mkhSetAdvPayload (mkhProtocolEncrypt mkhProtocolConnectTelegram mkhPayloadConnectLen)
    log := .connect :: s.log }

def mkhBroadcastConnect (s : Broadcast) : Broadcast := stageConnect s

/-- The packet handler's answer to `HCI_STATE_WORKING`. -/
def btstackEventState (s : Broadcast) : Broadcast :=
  if s.advertisingStarted then s else mkhBroadcastConnect { s with advertisingStarted := true }

/-- Six setter calls, one a channel, each at its own reading of the clock. -/
def setAllNeutral (s : Broadcast) (d : Device) (now : Port → Int) : Broadcast :=
  Port.all.foldl (fun s ch => mkhSetChannel s d.val ch.val neutral (now ch)) s

def mkhBroadcastToggleOff (s : Broadcast) (deviceId : Int) (now : Port → Int) : Broadcast :=
  match Device.ofId? deviceId with
  | none => s
  | some d =>
    if !s.deviceActive d || s.pendingOffServices d > 0 then s
    else
      let s := { s with
        deviceTransitioning := Function.update s.deviceTransitioning d true
        log := .offAccepted d :: s.log }
      setPendingOffServices (setAllNeutral s d now) d mkhOffGraceServices

def mkhBroadcastToggleOn (s : Broadcast) (deviceId : Int) (now : Port → Int) : Broadcast :=
  match Device.ofId? deviceId with
  | none => s
  | some d =>
    -- The third hub stays parked.
    if (d : Nat) ≥ mkhTimeSliceNumDevices then s
    else if s.deviceActive d && s.pendingOffServices d == 0 then s
    else
      let s := setPendingOffServices { s with
        deviceTransitioning := Function.update s.deviceTransitioning d true
        log := .onAccepted d :: s.log } d 0
      let s := stageConnect (setAllNeutral s d now)
      { s with
        deviceActive := Function.update s.deviceActive d true
        hubBroadcasting := Function.update s.hubBroadcasting d true
        deviceTransitioning := Function.update s.deviceTransitioning d false }

def mkhBroadcastIsTransitioning (s : Broadcast) (deviceId : Int) : Bool :=
  match Device.ofId? deviceId with
  | none => false
  | some d => s.deviceTransitioning d

/-- `MKH_TOGGLE_DEBOUNCE_MS`. -/
def mkhToggleDebounceMs : UInt32 := 200

/-- A tap on a hub's dashboard row: what the row shows picks the toggle. -/
def mkhRowTap (s : Broadcast) (deviceId : Device) (millis lastToggleMs : UInt32)
    (now : Port → Int) : Broadcast :=
  if mkhBroadcastIsTransitioning s deviceId.val then s
  else if millis - lastToggleMs ≥ mkhToggleDebounceMs then
    if s.hubBroadcasting deviceId then mkhBroadcastToggleOff s deviceId.val now
    else mkhBroadcastToggleOn s deviceId.val now
  else s

/-! ### Interleavings -/

/-- One step of either task. -/
inductive BroadcastStep where
  | stateWorking
  | setChannel (deviceId port : Int) (value : UInt8) (now : Int)
  | toggleOff (deviceId : Int) (now : Port → Int)
  | toggleOn (deviceId : Int) (now : Port → Int)
  | controlTick
  | runCallback

def Broadcast.step (s : Broadcast) : BroadcastStep → Broadcast
  | .stateWorking => btstackEventState s
  | .setChannel deviceId port value now => mkhSetChannel s deviceId port value now
  | .toggleOff deviceId now => mkhBroadcastToggleOff s deviceId now
  | .toggleOn deviceId now => mkhBroadcastToggleOn s deviceId now
  | .controlTick => controlTimer s
  | .runCallback => runLoopCallback s

end MK1Tank
