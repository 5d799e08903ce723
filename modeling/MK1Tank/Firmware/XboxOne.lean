/-
The reports of an Xbox controller: `uni_hid_parser.c` and `uni_hid_parser_xboxone.c`.

A report is taken apart by the controller's descriptor, and each of its fields goes to a
place of the virtual gamepad by the page and the number of its usage.  Axes and pedals are
brought to ten bits.  What the gamepad held before is forgotten first.
-/
import MK1Tank.Firmware.HidParser
import MK1Tank.Firmware.Bluepad32

namespace MK1Tank

/-! ### The virtual gamepad -/

/-- `uni_controller_t`, when it is a gamepad; the gyroscope and the accelerometer, which no Xbox
controller has, are left out. -/
structure UniController where
  dpad : UInt8
  axisX : Int32
  axisY : Int32
  axisRX : Int32
  axisRY : Int32
  brake : Int32
  throttle : Int32
  buttons : UInt16
  miscButtons : UInt8
  battery : UInt8
deriving DecidableEq

def UniController.zero : UniController where
  dpad := 0
  axisX := 0
  axisY := 0
  axisRX := 0
  axisRY := 0
  brake := 0
  throttle := 0
  buttons := 0
  miscButtons := 0
  battery := 0

/-- What of it the Arduino side is given. -/
def UniController.data (ctl : UniController) : ControllerData where
  klass := .gamepad
  dpad := ctl.dpad
  axisX := ctl.axisX.toInt
  axisY := ctl.axisY.toInt
  axisRX := ctl.axisRX.toInt
  axisRY := ctl.axisRY.toInt
  brake := ctl.brake.toInt
  throttle := ctl.throttle.toInt
  gamepadButtons := ctl.buttons
  mouseButtons := 0

def axisNormalizeRange : UInt32 := 1024

/-- The greatest value.  Some controllers give it as a negative number by mistake. -/
def logicalMax (globals : HidGlobals) : Int32 :=
  if globals.logicalMaximum = -1 then ((1 <<< globals.reportSize.toUInt32) - 1 : UInt32).toInt32
  else globals.logicalMaximum

/-- How many values there are. -/
def logicalRange (globals : HidGlobals) : Int32 := logicalMax globals - globals.logicalMinimum + 1

def uniHidParserProcessAxis (globals : HidGlobals) (value : Int32) : Int32 :=
  let range := logicalRange globals
  let centered := (value.toUInt32 - (range / 2).toUInt32 - globals.logicalMinimum.toUInt32).toInt32
  centered * axisNormalizeRange.toInt32 / range

/-- The division is one of numbers without a sign. -/
def uniHidParserProcessPedal (globals : HidGlobals) (value : Int32) : Int32 :=
  (value.toUInt32 * axisNormalizeRange / (logicalRange globals).toUInt32).toInt32

def uniHidParserProcessHat (globals : HidGlobals) (value : Int32) : UInt8 :=
  if value < globals.logicalMinimum ∨ value > globals.logicalMaximum then 0xff
  else (value - globals.logicalMinimum).toUInt32.toUInt8

def dpadUp : UInt8 := 1
def dpadDown : UInt8 := 2
def dpadRight : UInt8 := 4
def dpadLeft : UInt8 := 8

def uniHidParserHatToDpad (hat : UInt8) : UInt8 :=
  if hat = 0 then dpadUp
  else if hat = 1 then dpadUp ||| dpadRight
  else if hat = 2 then dpadRight
  else if hat = 3 then dpadRight ||| dpadDown
  else if hat = 4 then dpadDown
  else if hat = 5 then dpadDown ||| dpadLeft
  else if hat = 6 then dpadLeft
  else if hat = 7 then dpadLeft ||| dpadUp
  else 0

def dpadBit (usage : UInt16) : UInt8 :=
  if usage = 0x90 then dpadUp
  else if usage = 0x91 then dpadDown
  else if usage = 0x92 then dpadRight
  else dpadLeft

def uniHidParserProcessDpad (usage : UInt16) (value : Int32) (dpad : UInt8) : UInt8 :=
  if value ≠ 0 then dpad ||| dpadBit usage else dpad &&& ~~~dpadBit usage

/-! ### The buttons -/

def buttonA : UInt16 := 0x001
def buttonB : UInt16 := 0x002
def buttonX : UInt16 := 0x004
def buttonY : UInt16 := 0x008
def buttonShoulderL : UInt16 := 0x010
def buttonShoulderR : UInt16 := 0x020
def buttonTriggerL : UInt16 := 0x040
def buttonTriggerR : UInt16 := 0x080
def buttonThumbL : UInt16 := 0x100
def buttonThumbR : UInt16 := 0x200

def miscButtonSystem : UInt8 := 1
def miscButtonSelect : UInt8 := 2
def miscButtonStart : UInt8 := 4
def miscButtonCapture : UInt8 := 8

def UniController.press (ctl : UniController) (value : Int32) (button : UInt16) : UniController :=
  { ctl with buttons := if value ≠ 0 then ctl.buttons ||| button else ctl.buttons }

def UniController.pressMisc (ctl : UniController) (value : Int32) (button : UInt8) : UniController :=
  { ctl with miscButtons := if value ≠ 0 then ctl.miscButtons ||| button else ctl.miscButtons }

/-! ### The Xbox controller -/

/-- `enum xboxone_firmware`. -/
inductive XboxoneFirmware where
  | v3_1
  | v4_8
  | v5
deriving DecidableEq, Repr

/-- The device, as far as its reports need it. -/
structure XboxDevice where
  version : XboxoneFirmware
  controller : UniController
deriving DecidableEq

def XboxDevice.withController (d : XboxDevice) (f : UniController → UniController) : XboxDevice :=
  { d with controller := f d.controller }

/-- `uni_hid_parser_xboxone_setup`, for a connection and a descriptor of some length. -/
def xboxoneSetup (le : Bool) (hidDescriptorLen : Nat) (ctl : UniController) : XboxDevice where
  version := if le then .v5 else if hidDescriptorLen > 330 then .v4_8 else .v3_1
  controller := ctl

def triggerButtonThreshold : Int32 := 32

/-- The usages of the generic desktop that every firmware has in common. -/
def parseDesktop (ctl : UniController) (globals : HidGlobals) (usage : UInt16) (value : Int32) :
    UniController :=
  if usage = 0x30 then { ctl with axisX := uniHidParserProcessAxis globals value }
  else if usage = 0x31 then { ctl with axisY := uniHidParserProcessAxis globals value }
  else if usage = 0x39 then
    { ctl with dpad := uniHidParserHatToDpad (uniHidParserProcessHat globals value) }
  else if usage = 0x85 then ctl.pressMisc value miscButtonSystem
  else if 0x90 ≤ usage ∧ usage ≤ 0x93 then
    { ctl with dpad := uniHidParserProcessDpad usage value ctl.dpad }
  else ctl

def parseBattery (ctl : UniController) (usage : UInt16) (value : Int32) : UniController :=
  if usage = 0x20 then { ctl with battery := value.toUInt32.toUInt8 } else ctl

/-- The buttons of firmware 3.1, in the order of their numbers from 1. -/
def parseButtonFirmwareV31 (d : XboxDevice) (usage : UInt16) (value : Int32) : XboxDevice :=
  if usage = 0x01 then d.withController (·.press value buttonA)
  else if usage = 0x02 then d.withController (·.press value buttonB)
  else if usage = 0x03 then d.withController (·.press value buttonX)
  else if usage = 0x04 then d.withController (·.press value buttonY)
  else if usage = 0x05 then d.withController (·.press value buttonShoulderL)
  else if usage = 0x06 then d.withController (·.press value buttonShoulderR)
  else if usage = 0x07 then d.withController (·.pressMisc value miscButtonSelect)
  else if usage = 0x08 then d.withController (·.pressMisc value miscButtonStart)
  else if usage = 0x09 then d.withController (·.press value buttonThumbL)
  else if usage = 0x0a then d.withController (·.press value buttonThumbR)
  -- Only firmware 4.8 and 5 have so many buttons.
  else if usage = 0x0f then { d with version := .v4_8 }
  else d

def parseUsageFirmwareV31 (d : XboxDevice) (globals : HidGlobals) (usagePage usage : UInt16)
    (value : Int32) : XboxDevice :=
  if usagePage = 0x01 then d.withController fun ctl =>
    if usage = 0x32 then { ctl with brake := uniHidParserProcessPedal globals value }
    else if usage = 0x33 then { ctl with axisRX := uniHidParserProcessAxis globals value }
    else if usage = 0x34 then { ctl with axisRY := uniHidParserProcessAxis globals value }
    else if usage = 0x35 then { ctl with throttle := uniHidParserProcessPedal globals value }
    else parseDesktop ctl globals usage value
  else if usagePage = 0x06 then d.withController (parseBattery · usage value)
  else if usagePage = 0x09 then parseButtonFirmwareV31 d usage value
  else d

/-- The buttons of firmware 4.8 and 5; the numbers left out are not used. -/
def parseButtonFirmwareV4V5 (ctl : UniController) (usage : UInt16) (value : Int32) : UniController :=
  if usage = 0x01 then ctl.press value buttonA
  else if usage = 0x02 then ctl.press value buttonB
  else if usage = 0x04 then ctl.press value buttonX
  else if usage = 0x05 then ctl.press value buttonY
  else if usage = 0x07 then ctl.press value buttonShoulderL
  else if usage = 0x08 then ctl.press value buttonShoulderR
  else if usage = 0x0b then ctl.pressMisc value miscButtonSelect
  else if usage = 0x0c then ctl.pressMisc value miscButtonStart
  else if usage = 0x0d then ctl.pressMisc value miscButtonSystem
  else if usage = 0x0e then ctl.press value buttonThumbL
  else if usage = 0x0f then ctl.press value buttonThumbR
  else ctl

/-- A trigger, and the button that it counts as when it is pulled far enough. -/
def UniController.pull (ctl : UniController) (pedal : Int32) (button : UInt16) : UniController :=
  { ctl with
    buttons := if pedal ≥ triggerButtonThreshold then ctl.buttons ||| button else ctl.buttons }

def parseUsageFirmwareV4V5 (d : XboxDevice) (globals : HidGlobals) (usagePage usage : UInt16)
    (value : Int32) : XboxDevice :=
  if usagePage = 0x01 then d.withController fun ctl =>
    if usage = 0x32 then { ctl with axisRX := uniHidParserProcessAxis globals value }
    else if usage = 0x35 then { ctl with axisRY := uniHidParserProcessAxis globals value }
    else parseDesktop ctl globals usage value
  else if usagePage = 0x02 then d.withController fun ctl =>
    let pedal := uniHidParserProcessPedal globals value
    if usage = 0xc4 then { ctl with throttle := pedal }.pull pedal buttonTriggerR
    else if usage = 0xc5 then { ctl with brake := pedal }.pull pedal buttonTriggerL
    else ctl
  else if usagePage = 0x06 then d.withController (parseBattery · usage value)
  else if usagePage = 0x09 then d.withController (parseButtonFirmwareV4V5 · usage value)
  else if usagePage = 0x0c then
    if usage = 0xb2 then
      { d with version := .v5 }.withController (·.pressMisc value miscButtonCapture)
    else if usage = 0x224 then d.withController (·.pressMisc value miscButtonSelect)
    else d
  else d

def uniHidParserXboxoneParseUsage (d : XboxDevice) (globals : HidGlobals) (usagePage usage : UInt16)
    (value : Int32) : XboxDevice :=
  match d.version with
  | .v3_1 => parseUsageFirmwareV31 d globals usagePage usage value
  | .v4_8 | .v5 => parseUsageFirmwareV4V5 d globals usagePage usage value

/-- What the parser forgets before each report. -/
def uniHidParserXboxoneInitReport (d : XboxDevice) : XboxDevice := { d with controller := .zero }

/-- `uni_hid_parse_input_report`, with the fields that the descriptor gives. -/
def uniHidParseInputReport (fields : List (UsageItem × HidGlobals)) (report : HidReport)
    (d : XboxDevice) : XboxDevice :=
  parseFields uniHidParserXboxoneParseUsage fields report (uniHidParserXboxoneInitReport d)

/-- A bound on the number of fields that no descriptor of the program comes near. -/
def maxFields : Nat := 65536

/-- The fields of the input reports that a descriptor describes. -/
def inputFields (descriptor : List UInt8) : List (UsageItem × HidGlobals) :=
  (fieldsFrom maxFields (btstackHidUsageIteratorInit descriptor .input)).1

/-- `xbox_hid_descriptor_4_8_fw`. -/
def xboxHidDescriptor48Fw : List UInt8 :=
   [0x05, 0x01, 0x09, 0x05, 0xa1, 0x01, 0x85, 0x01, 0x09, 0x01, 0xa1, 0x00, 0x09, 0x30, 0x09, 0x31,
    0x15, 0x00, 0x27, 0xff, 0xff, 0x00, 0x00, 0x95, 0x02, 0x75, 0x10, 0x81, 0x02, 0xc0, 0x09, 0x01,
    0xa1, 0x00, 0x09, 0x32, 0x09, 0x35, 0x15, 0x00, 0x27, 0xff, 0xff, 0x00, 0x00, 0x95, 0x02, 0x75,
    0x10, 0x81, 0x02, 0xc0, 0x05, 0x02, 0x09, 0xc5, 0x15, 0x00, 0x26, 0xff, 0x03, 0x95, 0x01, 0x75,
    0x0a, 0x81, 0x02, 0x15, 0x00, 0x25, 0x00, 0x75, 0x06, 0x95, 0x01, 0x81, 0x03, 0x05, 0x02, 0x09,
    0xc4, 0x15, 0x00, 0x26, 0xff, 0x03, 0x95, 0x01, 0x75, 0x0a, 0x81, 0x02, 0x15, 0x00, 0x25, 0x00,
    0x75, 0x06, 0x95, 0x01, 0x81, 0x03, 0x05, 0x01, 0x09, 0x39, 0x15, 0x01, 0x25, 0x08, 0x35, 0x00,
    0x46, 0x3b, 0x01, 0x66, 0x14, 0x00, 0x75, 0x04, 0x95, 0x01, 0x81, 0x42, 0x75, 0x04, 0x95, 0x01,
    0x15, 0x00, 0x25, 0x00, 0x35, 0x00, 0x45, 0x00, 0x65, 0x00, 0x81, 0x03, 0x05, 0x09, 0x19, 0x01,
    0x29, 0x0f, 0x15, 0x00, 0x25, 0x01, 0x75, 0x01, 0x95, 0x0f, 0x81, 0x02, 0x15, 0x00, 0x25, 0x00,
    0x75, 0x01, 0x95, 0x01, 0x81, 0x03, 0x05, 0x0c, 0x0a, 0x24, 0x02, 0x15, 0x00, 0x25, 0x01, 0x95,
    0x01, 0x75, 0x01, 0x81, 0x02, 0x15, 0x00, 0x25, 0x00, 0x75, 0x07, 0x95, 0x01, 0x81, 0x03, 0x05,
    0x0c, 0x09, 0x01, 0x85, 0x02, 0xa1, 0x01, 0x05, 0x0c, 0x0a, 0x23, 0x02, 0x15, 0x00, 0x25, 0x01,
    0x95, 0x01, 0x75, 0x01, 0x81, 0x02, 0x15, 0x00, 0x25, 0x00, 0x75, 0x07, 0x95, 0x01, 0x81, 0x03,
    0xc0, 0x05, 0x0f, 0x09, 0x21, 0x85, 0x03, 0xa1, 0x02, 0x09, 0x97, 0x15, 0x00, 0x25, 0x01, 0x75,
    0x04, 0x95, 0x01, 0x91, 0x02, 0x15, 0x00, 0x25, 0x00, 0x75, 0x04, 0x95, 0x01, 0x91, 0x03, 0x09,
    0x70, 0x15, 0x00, 0x25, 0x64, 0x75, 0x08, 0x95, 0x04, 0x91, 0x02, 0x09, 0x50, 0x66, 0x01, 0x10,
    0x55, 0x0e, 0x15, 0x00, 0x26, 0xff, 0x00, 0x75, 0x08, 0x95, 0x01, 0x91, 0x02, 0x09, 0xa7, 0x15,
    0x00, 0x26, 0xff, 0x00, 0x75, 0x08, 0x95, 0x01, 0x91, 0x02, 0x65, 0x00, 0x55, 0x00, 0x09, 0x7c,
    0x15, 0x00, 0x26, 0xff, 0x00, 0x75, 0x08, 0x95, 0x01, 0x91, 0x02, 0xc0, 0x05, 0x06, 0x09, 0x20,
    0x85, 0x04, 0x15, 0x00, 0x26, 0xff, 0x00, 0x75, 0x08, 0x95, 0x01, 0x81, 0x02, 0xc0]

/-- `uni_hid_parse_input_report`, for a controller that is given that descriptor: one of an unknown maker
which goes by the name of the Xbox controller. -/
def parseXboxReport (report : HidReport) (d : XboxDevice) : XboxDevice :=
  uniHidParseInputReport (inputFields xboxHidDescriptor48Fw) report d

end MK1Tank
