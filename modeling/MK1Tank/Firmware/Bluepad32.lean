/-
The controller side: `ArduinoController.h` and `Bluepad32::update`.

A `Controller` object outlives its connections.  Its cached report is overwritten when
`arduino_get_controller_data` delivers a new one, and by nothing else: a seat with
nothing to deliver leaves it as it was, and so do the two connection callbacks.
-/
import Mathlib

namespace MK1Tank

/-- `BP32_MAX_GAMEPADS`. -/
abbrev bp32MaxGamepads : Nat := 4

instance : NeZero bp32MaxGamepads := ⟨by decide⟩

/-- A controller's seat, which is also what a `ControllerPtr` points at. -/
abbrev Seat := Fin bp32MaxGamepads

def Seat.all : List Seat := List.finRange _

@[simp] theorem Seat.mem_all (i : Seat) : i ∈ Seat.all := List.mem_finRange i

/-- `uni_controller_class_t`. -/
inductive ControllerClass where
  | none | gamepad | mouse | keyboard | balanceBoard
deriving DecidableEq, Repr

/-- A report, as the getters read it.  The gamepad's fields are read whatever the class is. -/
structure ControllerData where
  klass : ControllerClass
  dpad : UInt8
  axisX : Int
  axisY : Int
  axisRX : Int
  axisRY : Int
  brake : Int
  throttle : Int
  gamepadButtons : UInt16
  mouseButtons : UInt16
deriving DecidableEq

/-- `_data()`: all zero. -/
def ControllerData.zero : ControllerData where
  klass := .none
  dpad := 0
  axisX := 0
  axisY := 0
  axisRX := 0
  axisRY := 0
  brake := 0
  throttle := 0
  gamepadButtons := 0
  mouseButtons := 0

namespace ControllerData

def buttons (c : ControllerData) : UInt16 :=
  match c.klass with
  | .gamepad => c.gamepadButtons
  | .mouse => c.mouseButtons
  | _ => 0

def a (c : ControllerData) : Bool := c.buttons &&& 0x0001 != 0
def b (c : ControllerData) : Bool := c.buttons &&& 0x0002 != 0
def x (c : ControllerData) : Bool := c.buttons &&& 0x0004 != 0
def y (c : ControllerData) : Bool := c.buttons &&& 0x0008 != 0
def l1 (c : ControllerData) : Bool := c.buttons &&& 0x0010 != 0
def r1 (c : ControllerData) : Bool := c.buttons &&& 0x0020 != 0
def thumbL (c : ControllerData) : Bool := c.buttons &&& 0x0100 != 0
def thumbR (c : ControllerData) : Bool := c.buttons &&& 0x0200 != 0

def dpadUp (c : ControllerData) : Bool := c.dpad &&& 0x01 != 0
def dpadDown (c : ControllerData) : Bool := c.dpad &&& 0x02 != 0
def dpadRight (c : ControllerData) : Bool := c.dpad &&& 0x04 != 0
def dpadLeft (c : ControllerData) : Bool := c.dpad &&& 0x08 != 0

end ControllerData

structure Controller where
  connected : Bool
  idx : Int
  data : ControllerData
  hasData : Bool

/-- `Controller::Controller`. -/
def Controller.boot : Controller where
  connected := false
  idx := -1
  data := .zero
  hasData := false

/-- What `arduino_get_controller_data` returns for one seat. -/
inductive DataStatus where
  | invalidDevice
  | noData
  | success (data : ControllerData)
deriving DecidableEq

def DataStatus.present : DataStatus → Bool
  | .invalidDevice => false
  | _ => true

def DataStatus.delivers : DataStatus → Bool
  | .success _ => true
  | _ => false

/-- The `Bluepad32` object.  The bits of `_prevConnectedControllers` are a predicate on seats. -/
structure Bluepad32 where
  controllers : Seat → Controller
  prevConnected : Seat → Bool

def Bluepad32.boot : Bluepad32 where
  controllers _ := .boot
  prevConnected _ := false

/-- The first loop of an update, for one seat. -/
def Controller.receive (c : Controller) (i : Seat) : DataStatus → Controller
  | .invalidDevice => c
  | .noData => { c with hasData := false, idx := i.val }
  | .success data => { c with data := data, hasData := true, idx := i.val }

def Bluepad32.receive (bp : Bluepad32) (status : Seat → DataStatus) : Bluepad32 :=
  { bp with controllers := fun i => (bp.controllers i).receive i (status i) }

def Bluepad32.setConnected (bp : Bluepad32) (i : Seat) (connected : Bool) : Bluepad32 :=
  { bp with
    controllers := Function.update bp.controllers i { bp.controllers i with connected := connected } }

section Update

/-! ### `Bluepad32::update` -/

variable {σ : Type} (onConnect onDisconnect : Seat → σ → σ) (status : Seat → DataStatus)

/-- The second loop, for one seat: the callbacks run as the bits are compared. -/
def Bluepad32.notify (st : Bluepad32 × σ) (i : Seat) : Bluepad32 × σ :=
  let (bp, s) := st
  if (status i).present = bp.prevConnected i then (bp, s)
  else if (status i).present then (bp.setConnected i true, onConnect i s)
  else (bp.setConnected i false, onDisconnect i s)

/-- The object and the sketch afterwards, and whether a seat had data. -/
def Bluepad32.update (bp : Bluepad32) (s : σ) : (Bluepad32 × σ) × Bool :=
  let dataUpdated := Seat.all.any fun i => (status i).delivers
  let bp := bp.receive status
  if ∀ i, (status i).present = bp.prevConnected i then ((bp, s), dataUpdated)
  else
    let (bp, s) := Seat.all.foldl (Bluepad32.notify onConnect onDisconnect status) (bp, s)
    (({ bp with prevConnected := fun i => (status i).present }, s), dataUpdated)

end Update

end MK1Tank
