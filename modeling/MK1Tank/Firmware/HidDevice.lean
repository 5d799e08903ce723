/-
The life of a device: `uni_hid_device.c`, and the events of `uni_bt.c` and `uni_bt_le.c`
that drive it.

A device is made from an advertisement, gets a handle and a HID client, is connected when
that client reports its service, and is ready when its parser's setup is done.  It is
deleted when its link is lost, when it takes too long, when the platform declines it or
when the application asks for it.
-/
import MK1Tank.Firmware.ArduinoPlatform
import MK1Tank.Lib.Run

namespace MK1Tank

/-! ### The table -/

/-- `uni_hid_device_get_instance_for_address`. -/
def Bridge.deviceForAddress (s : Bridge) (addr : BdAddr) : Option HidSlot :=
  HidSlot.all.find? fun d => (s.devices d).btaddr == addr

/-- `uni_hid_device_get_instance_for_hids_cid`. -/
def Bridge.deviceForHidsCid (s : Bridge) (cid : UInt16) : Option HidSlot :=
  if cid = 0 then none else HidSlot.all.find? fun d => (s.devices d).hidsCid == cid

/-- `uni_hid_device_get_instance_for_connection_handle`. -/
def Bridge.deviceForHandle (s : Bridge) (handle : UInt16) : Option HidSlot :=
  if handle = connHandleInvalid then none
  else HidSlot.all.find? fun d => (s.devices d).handle == handle

/-- `uni_hid_device_create`, with the state that `uni_bt_le.c` gives the new device. -/
def uniHidDeviceCreate (s : Bridge) (addr : BdAddr) : Bridge :=
  match HidSlot.all.find? fun d => (s.devices d).btaddr == 0 with
  | none => s
  | some d => s.setDevice d { HidDevice.zero with btaddr := addr, state := .deviceDiscovered }

/-! ### Connecting and disconnecting -/

/-- `uni_hid_device_connect`. -/
def uniHidDeviceConnect (s : Bridge) (d : HidSlot) : Bridge :=
  arduinoOnDeviceConnected (s.setDevice d { s.devices d with connected := true }) d

/-- `uni_hid_device_disconnect`: the platform is told only of a device that was connected. -/
def uniHidDeviceDisconnect (s : Bridge) (d : HidSlot) : Bridge :=
  let connected := (s.devices d).connected
  let s := s.setDevice d { s.devices d with connected := false }
  if connected then arduinoOnDeviceDisconnected s d else s

/-- `uni_hid_device_delete`. -/
def uniHidDeviceDelete (s : Bridge) (d : HidSlot) : Bridge := s.setDevice d uniHidDeviceInit

/-- `uni_hid_device_disconnect` and `uni_hid_device_delete`, one after the other.  Only the GATT service
of `uni_bt_service.c` disconnects without deleting, and it is off in this program. -/
def dropDevicePair (s : Bridge) (d : HidSlot) : Bridge :=
  uniHidDeviceDelete (uniHidDeviceDisconnect s d) d

/-! ### Becoming ready -/

/-- `uni_hid_device_set_ready_complete`. -/
def uniHidDeviceSetReadyComplete (s : Bridge) (d : HidSlot) : Bridge :=
  if (s.devices d).state = .deviceReady then s
  else
    match arduinoOnDeviceReady s d with
    | (s, .success) => s.setDevice d { s.devices d with state := .deviceReady }
    | (s, _) => dropDevicePair s d

/-- `uni_hid_device_set_ready`. -/
def uniHidDeviceSetReady (s : Bridge) (d : HidSlot) : Bridge :=
  if (s.devices d).state = .devicePendingReady then s
  else
    let s := s.setDevice d { s.devices d with state := .devicePendingReady }
    match (s.devices d).reportParser.setup with
    | .later => s
    | _ => uniHidDeviceSetReadyComplete s d

/-- `uni_hid_device_guess_controller_type_from_pid_vid`, with what its tables give. -/
def uniHidDeviceGuessControllerType (s : Bridge) (d : HidSlot) (type : UInt16)
    (parser : ReportParser) : Bridge :=
  if (s.devices d).hasControllerType then s
  else s.setDevice d
    { s.devices d with controllerType := type, hasControllerType := true, reportParser := parser }

/-! ### The Bluetooth task's events -/

/-- An event that the Bluetooth task handles when it is in no other. -/
inductive BtEvent where
  /-- An advertisement of a device that discovery accepts. -/
  | advertisingReport (addr : BdAddr)
  /-- `HCI_SUBEVENT_LE_CONNECTION_COMPLETE`. -/
  | leConnectionComplete (addr : BdAddr) (handle : UInt16)
  /-- The vendor and product of `GATTSERVICE_SUBEVENT_DEVICE_INFORMATION_PNP_ID`. -/
  | pnpId (handle vendorId productId : UInt16)
  /-- `hids_client_connect` gave the device its client. -/
  | hidsClient (handle cid : UInt16)
  /-- `GATTSERVICE_SUBEVENT_HID_SERVICE_CONNECTED`, with what the tables say of the device. -/
  | hidServiceConnected (cid type : UInt16) (parser : ReportParser)
  /-- A parser whose setup ends later has ended it. -/
  | setupComplete (d : HidSlot)
  /-- A report that the device's parser made this of. -/
  | hidReport (cid : UInt16) (ctl : ControllerData)
  | disconnectionComplete (handle : UInt16)
  /-- `device_connection_timeout`. -/
  | connectionTimeout (d : HidSlot)
  /-- `CMD_DISCONNECT_DEVICE`. -/
  | disconnectDevice (d : HidSlot)
deriving DecidableEq

/-- Do something with the device that was found, if any. -/
def Bridge.withDevice (s : Bridge) (found : Option HidSlot) (f : Bridge → HidSlot → Bridge) : Bridge :=
  match found with
  | none => s
  | some d => f s d

/-- `uni_hid_device_process_controller`: only a ready device's report goes to the platform. -/
def processController (ctl : ControllerData) (s : Bridge) (d : HidSlot) : Bridge :=
  if (s.devices d).state = .deviceReady then { s with phase := .draining d ctl } else s

def handleEvent (s : Bridge) : BtEvent → Bridge
  | .advertisingReport addr =>
    match s.deviceForAddress addr with
    | some _ => s
    | none => uniHidDeviceCreate s addr
  | .leConnectionComplete addr handle =>
    s.withDevice (s.deviceForAddress addr) fun s d =>
      s.setDevice d { s.devices d with handle := handle }
  | .pnpId handle vendorId productId =>
    s.withDevice (s.deviceForHandle handle) fun s d =>
      s.setDevice d
        { s.devices d with
          vendorId := if vendorId = 0 then (s.devices d).vendorId else vendorId
          productId := productId }
  | .hidsClient handle cid =>
    s.withDevice (s.deviceForHandle handle) fun s d =>
      s.setDevice d { s.devices d with hidsCid := cid }
  | .hidServiceConnected cid type parser =>
    s.withDevice (s.deviceForHidsCid cid) fun s d =>
      uniHidDeviceSetReady (uniHidDeviceConnect (uniHidDeviceGuessControllerType s d type parser) d) d
  | .setupComplete d => uniHidDeviceSetReadyComplete s d
  | .hidReport cid ctl => s.withDevice (s.deviceForHidsCid cid) (processController ctl)
  | .disconnectionComplete handle => s.withDevice (s.deviceForHandle handle) dropDevicePair
  | .connectionTimeout d => if (s.devices d).state = .deviceReady then s else dropDevicePair s d
  | .disconnectDevice d => dropDevicePair s d

/-- The device that an event drops with its seat.  One that is dropped when its service is reported
was connected just before, and names no seat. -/
def Bridge.leaver (s : Bridge) : BtEvent → Option HidSlot
  | .setupComplete d =>
    if (s.devices d).state = .deviceReady ∨ (arduinoOnDeviceReady s d).2 = .success then none
    else some d
  | .disconnectionComplete handle => s.deviceForHandle handle
  | .connectionTimeout d => if (s.devices d).state = .deviceReady then none else some d
  | .disconnectDevice d => some d
  | _ => none

/-- The first statements of an event that drops a device, up to the clearing of its seat. -/
def departEvent (s : Bridge) (e : BtEvent) : Bridge :=
  match s.leaver e with
  | none => s
  | some d =>
    match Seat.ofIdx? (s.devices d).controllerIdx with
    | none => s
    | some i => if (s.devices d).connected then { s with phase := .clearing d i } else s

/-- The rest of it. -/
def finishDeparture (s : Bridge) : Bridge :=
  match s.phase with
  | .clearing d _ => dropDevicePair { s with phase := .outside } d
  | _ => s

/-! ### Both cores -/

/-- One step of either core.  The Bluetooth task takes no event while it handles another. -/
inductive BridgeStep where
  /-- An event, with no fetch while it clears a seat. -/
  | event (e : BtEvent)
  /-- An event that clears a seat, begun and ended. -/
  | depart (e : BtEvent)
  | cleared
  | drain
  | post
  /-- The guarded section of a fetch. -/
  | fetch (i : Seat)
  /-- That section, while the seat is being cleared. -/
  | tear (i : Seat) (torn : Option ControllerData)
  /-- A request goes to the queue. -/
  | send (request : PendingRequest)
deriving DecidableEq

def Bridge.step (s : Bridge) : BridgeStep → Bridge
  | .event e => if s.phase = .outside then handleEvent s e else s
  | .depart e => if s.phase = .outside then departEvent s e else s
  | .cleared => finishDeparture s
  | .drain => drainRequest s
  | .post => postData s
  | .fetch i => (fetchData s i).1
  | .tear i torn => if s.clears i then (fetchTorn s i torn).1 else s
  | .send request => sendToBack s request

end MK1Tank
