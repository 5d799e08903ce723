/-
Both cores together.

The sketch asks the bridge for one seat after the other.  For each it looks whether a
device sits there, and then, in a section of its own, fetches the report; the Bluetooth
task may run in between.  When it has asked for all of them it goes on with the iteration.
-/
import MK1Tank.Firmware.HidDevice
import MK1Tank.Firmware.Sketch

namespace MK1Tank

open FileProgram

/-- The bridge and the tank.  `polled` is what the seats have answered in the update under way, and
`probed` says that the next one was found taken and is not fetched yet. -/
structure Board where
  bridge : Bridge
  tank : Tank
  polled : List DataStatus
  probed : Bool

def Board.boot (config : MkhConfig) (files : Files Path) : Board where
  bridge := .boot
  tank := .boot config files
  polled := []
  probed := false

/-- The seat that is asked next. -/
def Board.asking (b : Board) : Option Seat := Seat.ofIdx? b.polled.length

/-- What the update found. -/
def Board.status (b : Board) (i : Seat) : DataStatus := b.polled.getD i.val .invalidDevice

inductive BoardStep where
  /-- The Bluetooth task takes an event, or begins or ends one that clears a seat, looks at a request
  or posts a report. -/
  | event (e : BtEvent)
  | depart (e : BtEvent)
  | cleared
  | drain
  | post
  /-- The broadcaster's timer and callbacks, on the same task. -/
  | btstack (step : BtstackStep)
  /-- The sketch looks whether the next seat is taken. -/
  | probe
  /-- The sketch fetches the report of the seat that it found taken. -/
  | fetch
  /-- It fetches it while the seat is being cleared. -/
  | tear (torn : Option ControllerData)
  /-- The sketch asks something of a device. -/
  | request (request : PendingRequest)
  /-- The rest of an iteration; the status of the tick is what the update found. -/
  | loop (tick : Tick)

/-- What a step is for the bridge. -/
def Board.bridgeStep (b : Board) : BoardStep → Option BridgeStep
  | .event e => some (.event e)
  | .depart e => some (.depart e)
  | .cleared => some .cleared
  | .drain => some .drain
  | .post => some .post
  | .fetch => if b.probed then b.asking.map .fetch else none
  | .tear torn => if b.probed then b.asking.map fun i => .tear i torn else none
  | .request request => some (.send request)
  | _ => none

def Board.step (b : Board) : BoardStep → Board
  | .event e => { b with bridge := b.bridge.step (.event e) }
  | .depart e => { b with bridge := b.bridge.step (.depart e) }
  | .cleared => { b with bridge := b.bridge.step .cleared }
  | .drain => { b with bridge := b.bridge.step .drain }
  | .post => { b with bridge := b.bridge.step .post }
  | .btstack step => { b with tank := b.tank.step (.btstack step) }
  | .probe =>
    if b.probed then b
    else
      match b.asking with
      | none => b
      | some i =>
        if b.bridge.taken i then { b with probed := true }
        else { b with polled := b.polled ++ [.invalidDevice] }
  | .fetch =>
    if b.probed then
      match b.asking with
      | none => b
      | some i =>
        let (bridge, status) := fetchData b.bridge i
        { b with bridge := bridge, polled := b.polled ++ [status], probed := false }
    else b
  | .tear torn =>
    if b.probed then
      match b.asking with
      | none => b
      | some i =>
        if b.bridge.clears i then
          let (bridge, status) := fetchTorn b.bridge i torn
          { b with bridge := bridge, polled := b.polled ++ [status], probed := false }
        else b
    else b
  | .request request => { b with bridge := b.bridge.step (.send request) }
  | .loop tick =>
    if b.polled.length = bp32MaxGamepads then
      { b with tank := b.tank.step (.loop { tick with status := b.status }), polled := [] }
    else b

end MK1Tank
