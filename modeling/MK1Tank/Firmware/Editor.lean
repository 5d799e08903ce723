/-
The editor's state in `sketch.cpp`, and the ways its pages reach the bindings.

A port that was touched in this session has a working copy of its whole binding list;
the copies go to the live table together, at Test-ON or at a save.  A page names a
binding by the port selected and an index into that list.  The arrays of the source
hold eight bindings, and the editor does not always look where it stores: the binding
one past an array lies over its count and over the next port's entry.  Every index the
editor uses is noted, so that it can be held against the size of the array.
-/
import Mathlib
import MK1Tank.Firmware.Drive
import MK1Tank.Firmware.Storage

namespace MK1Tank

open FileProgram

/-! ### State -/

inductive UiPage where
  | splash | stats | dashboard | editSelect | editPorts | editCapture | editSettings | idle
deriving DecidableEq, Repr

/-- `EditContext`; -1 for a device or a port is `none`. -/
structure EditContext where
  selectedDevice : Option Device
  selectedPort : Option Port
  selectedValid : Bool
  capturedInput : InputSource
  captureValid : Bool
  editingBindingIndex : Nat

/-- `mkh_binding_t{MKH_INPUT_NONE, false, 100, MKH_MODE_PROPORTIONAL}`. -/
def blankBinding : Binding :=
  { input := .none, invert := false, maxPercent := 100, mode := .proportional }

/-- A binding of static storage. -/
def zeroBinding : Binding :=
  { input := .none, invert := false, maxPercent := 0, mode := .proportional }

/-- A port's working copy.  `ninth` is `bindings[8]`, which lies over what follows the array: it is here
for reading back what was stored there, and what the store does to the rest is said at the store. -/
structure PendingPortEdit where
  dirty : Bool
  slots : BindingSlot → Binding
  bindingCount : Nat
  ninth : Binding

/-- `bindings[idx]`; an index from 9 on is not told from 8. -/
def PendingPortEdit.bindings (edit : PendingPortEdit) (idx : Nat) : Binding :=
  if h : idx < mkhMaxBindingsPerPort then edit.slots ⟨idx, h⟩ else edit.ninth

theorem PendingPortEdit.bindings_of_lt (edit : PendingPortEdit) {idx : Nat}
    (h : idx < mkhMaxBindingsPerPort) : edit.bindings idx = edit.slots ⟨idx, h⟩ := dif_pos h

abbrev PendingEdits := Device → Port → PendingPortEdit

/-- The three fields the settings page edits, as shown or as they were on entry. -/
structure SettingsFields where
  invert : Bool
  max : Nat
  mode : InputMode
deriving DecidableEq

def Binding.settings (b : Binding) : SettingsFields :=
  { invert := b.invert, max := b.maxPercent, mode := b.mode }

def SettingsFields.withInput (fields : SettingsFields) (input : InputSource) : Binding :=
  { input := input, invert := fields.invert, maxPercent := fields.max, mode := fields.mode }

/-- The file-scope state of the pages.  `bindingIndices` notes every index used into a `bindings`
array, newest first. -/
structure Ui where
  currentPage : UiPage
  editCtx : EditContext
  settingsBackToCapture : Bool
  pendingEdits : PendingEdits
  testActive : Bool
  exitPromptActive : Bool
  resetAllPromptActive : Bool
  capturePromptActive : Bool
  captureReplaceAddPromptActive : Bool
  settingsPromptActive : Bool
  settingsWorking : SettingsFields
  settingsBaseline : SettingsFields
  lastTouchActivityMs : UInt32
  idleEnteredMs : UInt32
  idleSleepHoldActive : Bool
  idleSleepHoldStartMs : UInt32
  lastToggleMs : Device → UInt32
  bindingIndices : List Nat

def EditContext.clear (ctx : EditContext) : EditContext :=
  { ctx with
    selectedDevice := none
    selectedPort := none
    selectedValid := false
    capturedInput := .none
    captureValid := false }

def Ui.boot : Ui where
  currentPage := .splash
  editCtx :=
    { selectedDevice := none, selectedPort := none, selectedValid := false, capturedInput := .none,
      captureValid := false, editingBindingIndex := 0 }
  settingsBackToCapture := false
  pendingEdits _ _ :=
    { dirty := false, slots := fun _ => zeroBinding, bindingCount := 0, ninth := zeroBinding }
  testActive := false
  exitPromptActive := false
  resetAllPromptActive := false
  capturePromptActive := false
  captureReplaceAddPromptActive := false
  settingsPromptActive := false
  settingsWorking := blankBinding.settings
  settingsBaseline := blankBinding.settings
  lastTouchActivityMs := 0
  idleEnteredMs := 0
  idleSleepHoldActive := false
  idleSleepHoldStartMs := 0
  lastToggleMs _ := 0
  bindingIndices := []

inductive XwcState where
  | disconnected | connecting | active
deriving DecidableEq, Repr

/-- Everything `sketch.cpp` holds, with the config file under it. -/
structure Sketch where
  live : Live
  files : Files Path
  ui : Ui
  myControllers : Seat → Option Seat
  xwcState : XwcState

/-! ### The live table -/

/-- Push one port, when it was touched. -/
def pushPort (pending : PendingEdits) (s : Live) (d : Device) (p : Port) : Live :=
  if (pending d p).dirty then
    { s with
      config := mkhConfigSetPortBindings s.config d.val p.val (pending d p).bindings
        (pending d p).bindingCount
      drive := clearLatchStateForPort s.drive d p }
  else s

def pushPendingSessionToLiveTable (pending : PendingEdits) (s : Live) : Live :=
  forEachPort (pushPort pending) s

/-- `mkh_config_set_port_bindings(d, p, nullptr, 0)`. -/
def wipePort (cfg : MkhConfig) (d : Device) (p : Port) : MkhConfig :=
  mkhConfigSetPortBindings cfg d.val p.val (fun _ => blankBinding) 0

/-- The wipe behind RESET ALL. -/
def wipeAllBindings (cfg : MkhConfig) : MkhConfig := forEachPort wipePort cfg

def resetAllBindings (s : Live) : Live :=
  { s with config := wipeAllBindings s.config, drive := clearAllLatchState s.drive }

/-- How each file call of a tap ends. -/
abbrev FileOracle := Call Path → Outcome

/-- `mkh_storage_save_config` on the live table. -/
def Sketch.saveConfig (oracle : FileOracle) (s : Sketch) : Sketch :=
  let (files, saved) := (mkhStorageSaveConfig s.live.config).run oracle s.files
  { s with files := files, live := { s.live with config := saved.2 } }

/-- `mkh_storage_reload_config` into the live table. -/
def Sketch.reloadConfig (oracle : FileOracle) (s : Sketch) : Sketch :=
  let (files, config) := (mkhStorageReloadConfig s.live.config).run oracle s.files
  { s with files := files, live := { s.live with config := config } }

/-- A step of the pages' own, which may read the live table. -/
def Sketch.withUi (s : Sketch) (f : MkhConfig → Ui → Ui) : Sketch :=
  { s with ui := f s.live.config s.ui }

namespace Sketch

variable (oracle : FileOracle) (s : Sketch) (f : MkhConfig → Ui → Ui)

@[simp] theorem withUi_live : (s.withUi f).live = s.live := rfl

@[simp] theorem withUi_ui : (s.withUi f).ui = f s.live.config s.ui := rfl

@[simp] theorem withUi_myControllers : (s.withUi f).myControllers = s.myControllers := rfl

@[simp] theorem withUi_xwcState : (s.withUi f).xwcState = s.xwcState := rfl

theorem saveConfig_live : (s.saveConfig oracle).live =
    { s.live with config := ((mkhStorageSaveConfig s.live.config).run oracle s.files).2.2 } := rfl

@[simp] theorem saveConfig_ui : (s.saveConfig oracle).ui = s.ui := rfl

@[simp] theorem saveConfig_myControllers :
    (s.saveConfig oracle).myControllers = s.myControllers := rfl

@[simp] theorem saveConfig_xwcState : (s.saveConfig oracle).xwcState = s.xwcState := rfl

theorem reloadConfig_live : (s.reloadConfig oracle).live =
    { s.live with config := ((mkhStorageReloadConfig s.live.config).run oracle s.files).2 } := rfl

@[simp] theorem reloadConfig_myControllers :
    (s.reloadConfig oracle).myControllers = s.myControllers := rfl

@[simp] theorem reloadConfig_xwcState : (s.reloadConfig oracle).xwcState = s.xwcState := rfl

end Sketch

/-! ### The session -/

def sessionHasPendingEdits (ui : Ui) : Bool :=
  Device.all.any fun d => Port.all.any fun p => (ui.pendingEdits d p).dirty

def clearPendingSession (ui : Ui) : Ui :=
  { ui with pendingEdits := fun d p => { ui.pendingEdits d p with dirty := false } }

def clearEditContext (ui : Ui) : Ui := { ui with editCtx := ui.editCtx.clear }

def clearEditorSession (ui : Ui) : Ui :=
  { clearPendingSession (clearEditContext ui) with testActive := false }

def Ui.withCtx (ui : Ui) (f : EditContext → EditContext) : Ui := { ui with editCtx := f ui.editCtx }

def EditContext.setCapture (ctx : EditContext) (input : InputSource) (valid : Bool) : EditContext :=
  { ctx with capturedInput := input, captureValid := valid }

def Ui.clearCapture (ui : Ui) : Ui := ui.withCtx fun ctx => ctx.setCapture .none false

/-- ON pushes once; OFF changes nothing. -/
def handleTestToggleTap (s : Sketch) : Sketch :=
  if s.ui.testActive then s.withUi fun _ ui => { ui with testActive := false }
  else
    { s with
      ui := { s.ui with testActive := true }
      live := pushPendingSessionToLiveTable s.ui.pendingEdits s.live }

/-! ### Reaching the bindings -/

/-- Note the use of indices into a `bindings` array. -/
def Ui.noteIndices (ui : Ui) (indices : List Nat) : Ui :=
  { ui with bindingIndices := indices ++ ui.bindingIndices }

def Ui.setPending (ui : Ui) (d : Device) (p : Port) (edit : PendingPortEdit) : Ui :=
  { ui with
    pendingEdits :=
      Function.update ui.pendingEdits d (Function.update (ui.pendingEdits d) p edit) }

/-- An entry of the live list of a port. -/
def liveBinding (cfg : MkhConfig) (d : Device) (p : Port) (idx : Nat) : Binding :=
  (cfg.table d p).bindings.getD idx blankBinding

def effectiveBindingCount (cfg : MkhConfig) (ui : Ui) (d : Device) (p : Port) : Nat :=
  if (ui.pendingEdits d p).dirty then (ui.pendingEdits d p).bindingCount
  else (cfg.table d p).bindings.length

def effectiveBinding (cfg : MkhConfig) (ui : Ui) (d : Device) (p : Port) (idx : Nat) : Binding :=
  if (ui.pendingEdits d p).dirty then (ui.pendingEdits d p).bindings idx
  else liveBinding cfg d p idx

/-- A working copy of the live list; what the array held past it stays. -/
def PendingPortEdit.seed (edit : PendingPortEdit) (cfg : MkhConfig) (d : Device) (p : Port) :
    PendingPortEdit where
  dirty := edit.dirty
  slots i :=
    if i.val < (cfg.table d p).bindings.length then liveBinding cfg d p i.val else edit.slots i
  bindingCount := (cfg.table d p).bindings.length
  ninth := edit.ninth

def settingsSeedPendingIfNeeded (cfg : MkhConfig) (ui : Ui) (d : Device) (p : Port) : Ui :=
  if (ui.pendingEdits d p).dirty then ui
  else
    (ui.setPending d p ((ui.pendingEdits d p).seed cfg d p)).noteIndices
      (List.range (cfg.table d p).bindings.length)

/-- The enumerator's value: the sources stand in the header's order. -/
def InputSource.value (input : InputSource) : Nat := input.ctorIdx

/-- The source whose value is that of the mode. -/
def InputMode.asInput : InputMode → InputSource
  | .proportional => .none
  | .momentary => .lsns
  | .latched => .lsew
  | .pulse => .rsns
  | .thl => .rsew

/-- `bindings[idx] = b`, and the port is dirty.  `bindings[8]` has its input where the count lies. -/
def PendingPortEdit.store (edit : PendingPortEdit) (idx : Nat) (b : Binding) : PendingPortEdit where
  dirty := true
  slots i := if i.val = idx then b else edit.slots i
  bindingCount := if idx = mkhMaxBindingsPerPort then b.input.value else edit.bindingCount
  ninth := if idx < mkhMaxBindingsPerPort then edit.ninth else b

/-- `bindings[binding_count++] = b`, and the port is dirty: the count goes up before the store. -/
def PendingPortEdit.append (edit : PendingPortEdit) (b : Binding) : PendingPortEdit :=
  { edit with bindingCount := edit.bindingCount + 1 }.store edit.bindingCount b

/-- The rest of `bindings[8]` lies over the entry that follows: the invert over the flag, the mode over
the first binding's input, and the cap between them, where nothing is. -/
def PendingPortEdit.overrun (edit : PendingPortEdit) (b : Binding) : PendingPortEdit :=
  { edit with
    dirty := b.invert
    slots := Function.update edit.slots 0 { edit.slots 0 with input := b.mode.asInput } }

/-- The entry that follows a port's; behind the last one is no other. -/
def entryAfter (d : Device) (p : Port) : Option (Device × Port) :=
  match Port.ofIndex? (p.val + 1) with
  | some next => some (d, next)
  | none => (Device.ofId? (d.val + 1)).map fun next => (next, 0)

/-- What a store one past a port's array does to the entry that follows. -/
def overrunNext (pending : PendingEdits) (d : Device) (p : Port) (b : Binding) : PendingEdits :=
  match entryAfter d p with
  | some (d', p') =>
    Function.update pending d' (Function.update (pending d') p' ((pending d' p').overrun b))
  | none => pending

/-- Put a port's entry in place after a store at the index. -/
def Ui.setStored (ui : Ui) (d : Device) (p : Port) (edit : PendingPortEdit) (idx : Nat)
    (b : Binding) : Ui :=
  let ui := ui.setPending d p edit
  { ui with
    pendingEdits :=
      if idx = mkhMaxBindingsPerPort then overrunNext ui.pendingEdits d p b else ui.pendingEdits }

def storePending (ui : Ui) (d : Device) (p : Port) (idx : Nat) (b : Binding) : Ui :=
  (ui.setStored d p ((ui.pendingEdits d p).store idx b) idx b).noteIndices [idx]

def appendPending (ui : Ui) (d : Device) (p : Port) (b : Binding) : Ui :=
  (ui.setStored d p ((ui.pendingEdits d p).append b) (ui.pendingEdits d p).bindingCount b).noteIndices
    [(ui.pendingEdits d p).bindingCount]

/-- Store a binding, when the index is one of the list. -/
def storeInList (ui : Ui) (d : Device) (p : Port) (idx : Nat) (b : Binding) : Ui :=
  if idx < (ui.pendingEdits d p).bindingCount then storePending ui d p idx b else ui

/-- What the page shows is what it will be compared with. -/
def Ui.showSettings (ui : Ui) (fields : SettingsFields) : Ui :=
  { ui with settingsWorking := fields, settingsBaseline := fields }

/-- The fields were edited since the page showed them. -/
def settingsUncommitted (ui : Ui) : Bool := ui.settingsWorking ≠ ui.settingsBaseline

def settingsCommitWorkingIfDirty (cfg : MkhConfig) (ui : Ui) (d : Device) (p : Port) (idx : Nat) :
    Ui :=
  if settingsUncommitted ui then
    let seeded := settingsSeedPendingIfNeeded cfg ui d p
    storeInList seeded d p idx
      (ui.settingsWorking.withInput ((seeded.pendingEdits d p).bindings idx).input)
  else ui

/-- `drawSettingsPage`: the page's prompt goes down. -/
def drawSettingsPage (ui : Ui) : Ui := { ui with settingsPromptActive := false }

/-- Show a binding's fields. -/
def showBinding (ui : Ui) (b : Binding) (valid : Bool) : Ui :=
  drawSettingsPage ((ui.showSettings b.settings).withCtx fun ctx => ctx.setCapture b.input valid)

def settingsLoadBindingAt (cfg : MkhConfig) (ui : Ui) (d : Device) (p : Port) (idx : Nat) : Ui :=
  showBinding ((ui.withCtx fun ctx => { ctx with editingBindingIndex := idx }).noteIndices [idx])
    (effectiveBinding cfg ui d p idx) true

/-! ### Entering a page -/

/-- `drawPortSelect` reads binding 0 of every port of the device that has one. -/
def drawPortSelect (cfg : MkhConfig) (ui : Ui) : Ui :=
  match ui.editCtx.selectedDevice with
  | none => ui
  | some d => ui.noteIndices
      ((Port.all.filter fun p => effectiveBindingCount cfg ui d p > 0).map fun _ => 0)

/-- A capture is stored over the binding it is for, or at the end when its index is past the list. -/
def commitCaptured (ui : Ui) (d : Device) (p : Port) (idx : Nat) (b : Binding) : Ui :=
  if idx ≥ (ui.pendingEdits d p).bindingCount then appendPending ui d p b
  else storePending ui d p idx b

/-- The binding that the settings page is entered for, with the index read to find it. -/
def baselineAt (edit : PendingPortEdit) (idx : Nat) : Binding × List Nat :=
  if idx ≥ edit.bindingCount then (blankBinding, []) else (edit.bindings idx, [idx])

/-- Entering the settings page commits a capture that differs from the binding it is for. -/
def enterSeeded (ui : Ui) (d : Device) (p : Port) (idx : Nat) : Ui :=
  let (baseline, reads) := baselineAt (ui.pendingEdits d p) idx
  let ui := ui.noteIndices reads
  let input := ui.editCtx.capturedInput
  if ui.editCtx.captureValid && input != baseline.input then
    showBinding (commitCaptured ui d p idx { baseline with input := input })
      { baseline with input := input } (input != .none)
  else showBinding ui baseline (baseline.input != .none)

def enterSettings (cfg : MkhConfig) (ui : Ui) (d : Device) (p : Port) : Ui :=
  enterSeeded (settingsSeedPendingIfNeeded cfg ui d p) d p ui.editCtx.editingBindingIndex

/-- What drawing a page does to the pages' state. -/
def drawPage (cfg : MkhConfig) (ui : Ui) (millis : UInt32) : UiPage → Ui
  | .splash | .stats => ui
  | .dashboard => { ui with lastTouchActivityMs := millis }
  | .editSelect => { ui with exitPromptActive := false, resetAllPromptActive := false }
  | .editPorts => drawPortSelect cfg ui
  | .editCapture => { ui with capturePromptActive := false, captureReplaceAddPromptActive := false }
  | .editSettings =>
    match ui.editCtx.selectedDevice, ui.editCtx.selectedPort with
    | some d, some p => enterSettings cfg ui d p
    | _, _ => ui
  | .idle => { ui with idleEnteredMs := millis, idleSleepHoldActive := false }

def goToPage (page : UiPage) (millis : UInt32) (cfg : MkhConfig) (ui : Ui) : Ui :=
  drawPage cfg { ui with currentPage := page } millis page

def performSaveAndExit (oracle : FileOracle) (millis : UInt32) (s : Sketch) : Sketch :=
  let s := { s with live := pushPendingSessionToLiveTable s.ui.pendingEdits s.live }
  (s.saveConfig oracle).withUi fun cfg ui => goToPage .dashboard millis cfg (clearEditorSession ui)

end MK1Tank
