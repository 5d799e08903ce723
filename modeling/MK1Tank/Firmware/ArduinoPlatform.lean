/-
The bridge between the two cores: `arduino_platform.c`, over the device table of
`uni_hid_device.c`.

The Bluetooth task runs on core 0 and owns the devices.  The sketch runs on core 1 and
sees seats: a seat holds the last report of the device that sits there until the sketch
fetches it.  What the sketch asks of a device goes through a queue that the Bluetooth
task empties when a report comes in.
-/
import MK1Tank.Firmware.Bluepad32

namespace MK1Tank

/-! ### Devices -/

/-- `bd_addr_t`; a slot of the table is free when its address is zero. -/
abbrev BdAddr := BitVec 48

/-- A slot of `g_devices`. -/
abbrev HidSlot := Fin bp32MaxGamepads

def HidSlot.all : List HidSlot := List.finRange _

@[simp] theorem HidSlot.mem_all (d : HidSlot) : d ∈ HidSlot.all := List.mem_finRange d

/-- `uni_bt_conn_state_t`, as far as a low-energy device goes through it. -/
inductive ConnState where
  | deviceNone
  | deviceDiscovered
  | devicePendingReady
  | deviceReady
deriving DecidableEq, Repr

/-- When the parser's `setup` calls `uni_hid_device_set_ready_complete`. -/
inductive ParserSetup where
  /-- There is no `setup`. -/
  | absent
  | atOnce
  | later
deriving DecidableEq, Repr

/-- `uni_report_parser_t`: when its setup ends, and which of the outputs it has. -/
structure ReportParser where
  setup : ParserSetup
  setPlayerLeds : Bool
  playDualRumble : Bool
  setLightbarColor : Bool
deriving DecidableEq, Repr

/-- The parser of a zeroed device. -/
def ReportParser.none : ReportParser where
  setup := .absent
  setPlayerLeds := false
  playDualRumble := false
  setLightbarColor := false

/-- `uni_hid_device_t`; `controllerIdx` is the platform's own data in it. -/
structure HidDevice where
  btaddr : BdAddr
  handle : UInt16
  connected : Bool
  state : ConnState
  hidsCid : UInt16
  controllerType : UInt16
  hasControllerType : Bool
  vendorId : UInt16
  productId : UInt16
  reportParser : ReportParser
  controllerIdx : Int

/-- `memset(d, 0, sizeof(*d))`. -/
def HidDevice.zero : HidDevice where
  btaddr := 0
  handle := 0
  connected := false
  state := .deviceNone
  hidsCid := 0
  controllerType := 0
  hasControllerType := false
  vendorId := 0
  productId := 0
  reportParser := .none
  controllerIdx := 0

/-- `UNI_BT_CONN_HANDLE_INVALID`. -/
def connHandleInvalid : UInt16 := 0xffff

/-- `uni_hid_device_init`. -/
def uniHidDeviceInit : HidDevice :=
  { HidDevice.zero with hidsCid := 0xffff, handle := connHandleInvalid }

/-! ### Seats -/

/-- `UNI_ARDUINO_GAMEPAD_INVALID`. -/
def gamepadInvalid : Int := -1

/-- The range check of an index. -/
def Seat.ofIdx? (idx : Int) : Option Seat :=
  if h : 0 ≤ idx ∧ idx < bp32MaxGamepads then some ⟨idx.toNat, by omega⟩ else none

/-- `arduino_controller_properties_t`. -/
structure ArduinoProperties where
  btaddr : BdAddr
  type : UInt16
  subtype : UInt8
  vendorId : UInt16
  productId : UInt16
  flags : UInt16
deriving DecidableEq

def ArduinoProperties.zero : ArduinoProperties where
  btaddr := 0
  type := 0
  subtype := 0
  vendorId := 0
  productId := 0
  flags := 0

/-- `arduino_controller_t`: an element of `controllers_`. -/
structure ArduinoController where
  idx : Int
  data : ControllerData
  dataUpdated : Bool
  properties : ArduinoProperties

/-- Zeroed, with its index invalid: no device sits here. -/
def ArduinoController.unassigned : ArduinoController where
  idx := gamepadInvalid
  data := .zero
  dataUpdated := false
  properties := .zero

/-! ### Requests -/

/-- `pending_request_cmd_t` with the arguments of each command. -/
inductive PendingRequestCmd where
  | lightbarColor (red green blue : UInt8)
  | playerLeds (leds : UInt8)
  | rumble (delayedStart duration : UInt16) (weakMagnitude strongMagnitude : UInt8)
  | disconnect
deriving DecidableEq, Repr

/-- `pending_request_t`; the index is one that a call of the application checked. -/
structure PendingRequest where
  controllerIdx : Seat
  cmd : PendingRequestCmd
deriving DecidableEq, Repr

/-- `MAX_PENDING_REQUESTS`. -/
def maxPendingRequests : Nat := 16

/-- Where the Bluetooth task is in the callbacks whose middle the other core can see. -/
inductive CallbackPhase where
  | outside
  /-- In `process_pending_requests`. -/
  | draining (d : HidSlot) (ctl : ControllerData)
  /-- In `arduino_on_controller_data`, before the section that the mutex guards. -/
  | posting (d : HidSlot) (ctl : ControllerData)
  /-- In `arduino_on_device_disconnected`, which clears the seat without the mutex. -/
  | clearing (d : HidSlot) (i : Seat)
deriving DecidableEq

/-- What the two cores share.  `outputs` is what the devices were told to do, newest first. -/
structure Bridge where
  devices : HidSlot → HidDevice
  controllers : Seat → ArduinoController
  usedControllers : Int
  pendingQueue : List PendingRequest
  phase : CallbackPhase
  outputs : List (HidSlot × PendingRequestCmd)

/-- `uni_hid_device_setup` and `arduino_init`. -/
def Bridge.boot : Bridge where
  devices _ := uniHidDeviceInit
  controllers _ := .unassigned
  usedControllers := 0
  pendingQueue := []
  phase := .outside
  outputs := []

def Bridge.setDevice (s : Bridge) (d : HidSlot) (device : HidDevice) : Bridge :=
  { s with devices := Function.update s.devices d device }

/-- The seat's own index says whether a device sits there. -/
def Bridge.taken (s : Bridge) (i : Seat) : Bool := (s.controllers i).idx ≠ gamepadInvalid

/-- The seat is being cleared.  Its index is zero or its own until that is done, so it looks taken. -/
def Bridge.clears (s : Bridge) (i : Seat) : Bool :=
  match s.phase with
  | .clearing _ j => j == i
  | _ => false

/-- `uni_hid_device_get_instance_with_predicate(predicate_arduino_index)`. -/
def Bridge.deviceWithIdx (s : Bridge) (idx : Int) : Option HidSlot :=
  HidSlot.all.find? fun d =>
    (s.devices d).state == .deviceReady && (s.devices d).controllerIdx == idx

/-! ### The platform's callbacks -/

/-- `uni_error_t`, as far as `arduino_on_device_ready` returns it. -/
inductive UniError where
  | success
  | noSlots
  | invalidController
deriving DecidableEq, Repr

def arduinoOnDeviceConnected (s : Bridge) (d : HidSlot) : Bridge :=
  s.setDevice d { s.devices d with controllerIdx := gamepadInvalid }

/-- A device that has no seat, or an impossible one, gives none up. -/
def arduinoOnDeviceDisconnected (s : Bridge) (d : HidSlot) : Bridge :=
  if (s.devices d).controllerIdx ≠ gamepadInvalid then
    match Seat.ofIdx? (s.devices d).controllerIdx with
    | none => s
    | some i =>
      { s with
        usedControllers := s.usedControllers - 1
        controllers := Function.update s.controllers i .unassigned
        devices := Function.update s.devices d
          { s.devices d with controllerIdx := gamepadInvalid } }
  else s

/-- The flags of `properties`. -/
def ReportParser.flags (parser : ReportParser) : UInt16 :=
  (if parser.setPlayerLeds then 2 else 0) ||| (if parser.playDualRumble then 1 else 0) |||
    (if parser.setLightbarColor then 4 else 0)

/-- What a seat says of the device; the subtype is taken from the type. -/
def HidDevice.properties (device : HidDevice) : ArduinoProperties where
  btaddr := device.btaddr
  type := device.controllerType
  subtype := device.controllerType.toUInt8
  vendorId := device.vendorId
  productId := device.productId
  flags := device.reportParser.flags

/-- The loop that looks for the first available controller. -/
def assignSeat (s : Bridge) (d : HidSlot) : Bridge :=
  match Seat.all.find? fun i => !s.taken i with
  | none => s
  | some i =>
    { s with
      controllers := Function.update s.controllers i
        { s.controllers i with idx := i.val, properties := (s.devices d).properties }
      devices := Function.update s.devices d { s.devices d with controllerIdx := i.val }
      usedControllers := s.usedControllers + 1 }

def arduinoOnDeviceReady (s : Bridge) (d : HidSlot) : Bridge × UniError :=
  if s.usedControllers = bp32MaxGamepads then (s, .noSlots)
  else if (s.devices d).controllerIdx ≠ gamepadInvalid then (s, .invalidController)
  else
    let s := assignSeat s d
    let leds := PendingRequestCmd.playerLeds (UInt8.ofInt ((s.devices d).controllerIdx + 1))
    (if (s.devices d).reportParser.setPlayerLeds then { s with outputs := (d, leds) :: s.outputs }
      else s, .success)

/-- Whether the parser has the function that a command needs. -/
def ReportParser.supports (parser : ReportParser) : PendingRequestCmd → Bool
  | .lightbarColor _ _ _ => parser.setLightbarColor
  | .playerLeds _ => parser.setPlayerLeds
  | .rumble _ _ _ _ => parser.playDualRumble
  | .disconnect => true

/-- The `switch` of `process_pending_requests`; a disconnection is only asked for. -/
def runRequest (s : Bridge) (d : HidSlot) (cmd : PendingRequestCmd) : Bridge :=
  if (s.devices d).reportParser.supports cmd then { s with outputs := (d, cmd) :: s.outputs } else s

/-- One `xQueueReceive` of `process_pending_requests`, with what is done with the request.  A
request whose device is gone ends the loop. -/
def drainRequest (s : Bridge) : Bridge :=
  match s.phase with
  | .draining d ctl =>
    match s.pendingQueue with
    | [] => { s with phase := .posting d ctl }
    | request :: rest =>
      let s := { s with pendingQueue := rest }
      match s.deviceWithIdx request.controllerIdx.val with
      | none => { s with phase := .posting d ctl }
      | some d' => runRequest s d' request.cmd
  | _ => s

/-- The rest of `arduino_on_controller_data`. -/
def postData (s : Bridge) : Bridge :=
  match s.phase with
  | .posting d ctl =>
    let s := { s with phase := .outside }
    match Seat.ofIdx? (s.devices d).controllerIdx with
    | none => s
    | some i =>
      { s with
        controllers := Function.update s.controllers i
          { s.controllers i with data := ctl, dataUpdated := true } }
  | _ => s

/-! ### The application's side -/

/-- The section of `arduino_get_controller_data` that the mutex guards. -/
def fetchData (s : Bridge) (i : Seat) : Bridge × DataStatus :=
  if (s.controllers i).dataUpdated then
    ({ s with
        controllers := Function.update s.controllers i
          { s.controllers i with dataUpdated := false } },
      .success (s.controllers i).data)
  else (s, .noData)

/-- The same section while the seat is being cleared: a report that waits is read in parts, before
and after they are zeroed, unless its mark is gone already. -/
def fetchTorn (s : Bridge) (i : Seat) (torn : Option ControllerData) : Bridge × DataStatus :=
  if (s.controllers i).dataUpdated then
    ({ s with
        controllers := Function.update s.controllers i
          { s.controllers i with dataUpdated := false } },
      torn.elim .noData .success)
  else (s, .noData)

/-- A call that nothing interrupts. -/
def arduinoGetControllerData (s : Bridge) (i : Seat) : Bridge × DataStatus :=
  if s.taken i then fetchData s i else (s, .invalidDevice)

/-- What a call can return. -/
def Bridge.canReturn (s : Bridge) (i : Seat) (status : DataStatus) : Prop :=
  status = (arduinoGetControllerData s i).2 ∨
    s.clears i = true ∧ ∃ torn, status = (fetchTorn s i torn).2

def arduinoGetControllerProperties (s : Bridge) (i : Seat) : Option ArduinoProperties :=
  if s.taken i then some (s.controllers i).properties else none

/-- `xQueueSendToBack` without a wait: a full queue drops the request. -/
def sendToBack (s : Bridge) (request : PendingRequest) : Bridge :=
  if s.pendingQueue.length < maxPendingRequests then
    { s with pendingQueue := s.pendingQueue ++ [request] }
  else s

/-- `arduino_set_player_leds`, `arduino_set_lightbar_color`, `arduino_play_dual_rumble` and
`arduino_disconnect_controller`, which differ in the command only. -/
def arduinoRequest (s : Bridge) (i : Seat) (cmd : PendingRequestCmd) : Bridge × Bool :=
  if s.taken i then (sendToBack s { controllerIdx := i, cmd := cmd }, true) else (s, false)

end MK1Tank
