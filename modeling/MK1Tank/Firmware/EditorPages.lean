/-
What a tap does on each of the editor's pages.

Every page has hit zones of its own, and while one of its prompts is up only the
prompt's two buttons answer.  A tap that falls in no zone changes nothing.
-/
import MK1Tank.Firmware.Editor

namespace MK1Tank

open FileProgram

/-! ### Hit zones -/

/-- A button, in display coordinates. -/
structure Rect where
  x : Int
  y : Int
  w : Int
  h : Int

/-- Where a tap fell. -/
structure Tap where
  x : Int
  y : Int

def Tap.within (t : Tap) (r : Rect) : Bool :=
  t.x ≥ r.x && t.x < r.x + r.w && t.y ≥ r.y && t.y < r.y + r.h

/-- What the calls made during one tap meet. -/
structure TapEnv where
  oracle : FileOracle
  millis : UInt32
  /-- The clock as the setter reads it in the six calls of a toggle. -/
  setterClock : SetterClock

def testToggle : Rect := ⟨288, 2, 30, 24⟩

def selectBack : Rect := ⟨20, 180, 120, 40⟩
def exitPromptLeft : Rect := ⟨20, 180, 120, 40⟩
def exitPromptRight : Rect := ⟨180, 180, 120, 40⟩
def hubButton (d : Device) : Rect := ⟨20, 30 + d.val * (40 + 10), 280, 40⟩

/-- Columns pair A/B, C/D and E/F; the first of a pair is in the lower row. -/
def portCell (p : Port) : Rect :=
  let col : Int := p.val / 2
  let row : Int := if p.val % 2 = 0 then 1 else 0
  ⟨20 + col * (80 + 20), 40 + row * (50 + 20), 80, 50⟩

def captureLeft : Rect := ⟨20, 180, 120, 40⟩
def captureRight : Rect := ⟨180, 180, 120, 40⟩

def spageInvert (t : Tap) : Bool := t.y ≥ 44 && t.y < 44 + 40 && t.x < 160
def spageMode (t : Tap) : Bool := t.y ≥ 44 && t.y < 44 + 40 && t.x ≥ 160
def spageNudgeMinus : Rect := ⟨20, 88, 40, 40⟩
def spageNudgePlus : Rect := ⟨260, 88, 40, 40⟩
def spageSlider : Rect := ⟨68, 88, 184, 40⟩
def spagePrev : Rect := ⟨20, 132, 50, 40⟩
def spageAdd : Rect := ⟨80, 132, 70, 40⟩
def spageRemove : Rect := ⟨160, 132, 70, 40⟩
def spageNext : Rect := ⟨240, 132, 60, 40⟩
def spageBack : Rect := ⟨20, 180, 80, 40⟩
def spageReset : Rect := ⟨120, 180, 80, 40⟩
def spageSave : Rect := ⟨220, 180, 80, 40⟩

def settingsHit : Rect := ⟨0, 0, 54, 40⟩
def idleSleepButton : Rect := ⟨210, 198, 96, 38⟩

/-! ### Hub select -/

/-- `MKH_EDIT_MAX_ACTIVE_DEVICE`. -/
def mkhEditMaxActiveDevice : Nat := 2

/-- Leave the editor with nothing kept. -/
def leaveEditor (env : TapEnv) (cfg : MkhConfig) (ui : Ui) : Ui :=
  goToPage .dashboard env.millis cfg (clearEditorSession ui)

/-- RESET ALL confirmed: straight to the live table, then saved. -/
def confirmResetAll (env : TapEnv) (s : Sketch) : Sketch :=
  let s := { s with live := resetAllBindings s.live }
  (s.saveConfig env.oracle).withUi fun cfg ui =>
    leaveEditor env cfg { ui with resetAllPromptActive := false }

def selectHub (env : TapEnv) (d : Device) (cfg : MkhConfig) (ui : Ui) : Ui :=
  goToPage .editPorts env.millis cfg (ui.withCtx fun ctx =>
    { ctx with selectedDevice := some d, selectedPort := none, selectedValid := false })

def dispatchHubSelectTouch (env : TapEnv) (s : Sketch) (t : Tap) : Sketch :=
  if s.ui.exitPromptActive then
    if t.within exitPromptLeft then
      performSaveAndExit env.oracle env.millis
        (s.withUi fun _ ui => { ui with exitPromptActive := false })
    else if t.within exitPromptRight then
      s.withUi fun cfg ui => leaveEditor env cfg { ui with exitPromptActive := false }
    else s
  else if s.ui.resetAllPromptActive then
    if t.within exitPromptLeft then confirmResetAll env s
    else if t.within exitPromptRight then
      s.withUi fun _ ui => { ui with exitPromptActive := false, resetAllPromptActive := false }
    else s
  else if t.within testToggle then handleTestToggleTap s
  else if t.within exitPromptRight then
    s.withUi fun _ ui => { ui with resetAllPromptActive := true }
  else if t.within selectBack then
    if sessionHasPendingEdits s.ui then s.withUi fun _ ui => { ui with exitPromptActive := true }
    else s.withUi (leaveEditor env)
  else
    match Device.all.find? fun d => t.within (hubButton d) with
    | some d => if d.val ≥ mkhEditMaxActiveDevice then s else s.withUi (selectHub env d)
    | none => s

/-! ### Port select -/

/-- The tapped port becomes the one selected; a capture made for another port is dropped. -/
def focusPort (ui : Ui) (p : Port) : Ui :=
  let samePort : Bool := ui.editCtx.selectedValid && ui.editCtx.selectedPort == some p
  (if samePort then ui else ui.clearCapture).withCtx fun ctx =>
    { ctx with selectedPort := some p, selectedValid := true, editingBindingIndex := 0 }

/-- A port with bindings opens on its first one; a port without opens on the capture page. -/
def openPort (env : TapEnv) (d : Device) (p : Port) (cfg : MkhConfig) (ui : Ui) : Ui :=
  if effectiveBindingCount cfg ui d p > 0 then
    let first := effectiveBinding cfg ui d p 0
    goToPage .editSettings env.millis cfg
      { (ui.withCtx fun ctx => ctx.setCapture first.input true).noteIndices [0] with
        settingsBackToCapture := false }
  else goToPage .editCapture env.millis cfg ui

def selectPort (env : TapEnv) (d : Device) (p : Port) (cfg : MkhConfig) (ui : Ui) : Ui :=
  openPort env d p cfg (focusPort ui p)

def dispatchPortSelectTouch (env : TapEnv) (s : Sketch) (t : Tap) : Sketch :=
  if t.within testToggle then handleTestToggleTap s
  else if t.within selectBack then
    s.withUi fun cfg ui => goToPage .editSelect env.millis cfg (clearEditContext ui)
  else
    match s.ui.editCtx.selectedDevice, Port.all.find? fun p => t.within (portCell p) with
    | some d, some p => s.withUi (selectPort env d p)
    | _, _ => s

/-! ### Capture -/

def captureHasNext (ui : Ui) : Bool := ui.editCtx.captureValid

/-- On to the settings page with the capture, for the binding at the given index. -/
def commitCapture (env : TapEnv) (idx : Nat) (cfg : MkhConfig) (ui : Ui) : Ui :=
  goToPage .editSettings env.millis cfg
    { (ui.withCtx fun ctx => { ctx with editingBindingIndex := idx }) with
      captureReplaceAddPromptActive := false
      settingsBackToCapture := true }

/-- The page's buttons, for the port selected; the Test toggle is the caller's. -/
def captureButtons (env : TapEnv) (d : Device) (p : Port) (t : Tap) (cfg : MkhConfig) (ui : Ui) :
    Ui :=
  if ui.capturePromptActive then
    if t.within captureLeft then
      -- KEEP.
      goToPage .editPorts env.millis cfg { ui with capturePromptActive := false }
    else if t.within captureRight then
      -- DISCARD.
      goToPage .editPorts env.millis cfg { ui.clearCapture with capturePromptActive := false }
    else ui
  else if ui.captureReplaceAddPromptActive then
    if t.within captureLeft then
      -- REPLACE.
      commitCapture env ui.editCtx.editingBindingIndex cfg ui
    else if t.within captureRight then
      -- ADD: the count is not held against the cap here.
      commitCapture env (effectiveBindingCount cfg ui d p) cfg ui
    else ui
  else if t.within captureLeft then
    if ui.editCtx.captureValid then { ui with capturePromptActive := true }
    else goToPage .editPorts env.millis cfg ui
  else if t.within captureRight && captureHasNext ui then
    if effectiveBindingCount cfg ui d p > 0 then { ui with captureReplaceAddPromptActive := true }
    else commitCapture env 0 cfg ui
  else ui

def dispatchCaptureTouch (env : TapEnv) (s : Sketch) (t : Tap) : Sketch :=
  match s.ui.editCtx.selectedDevice, s.ui.editCtx.selectedPort with
  | some d, some p =>
    if !s.ui.capturePromptActive && !s.ui.captureReplaceAddPromptActive && t.within testToggle then
      handleTestToggleTap s
    else s.withUi (captureButtons env d p t)
  | _, _ => s

/-! ### Settings -/

def nextModeFor : InputMode → InputMode
  | .proportional => .momentary
  | .momentary => .latched
  | .latched => .pulse
  | .pulse => .thl
  | .thl => .proportional

/-- `SPAGE_MAX_SNAP_BAND_PERCENT`. -/
def spageMaxSnapBandPercent : Int := 2

def applyMaxEndSnap (percent : Int) : Nat :=
  let percent := max 0 (min 100 percent)
  if percent ≤ spageMaxSnapBandPercent then 0
  else if percent ≥ 100 - spageMaxSnapBandPercent then 100
  else percent.toNat

/-- The slider's position under a tap. -/
def sliderPercent (t : Tap) : Int :=
  let rel := max 0 (min spageSlider.w (t.x - spageSlider.x))
  (rel * 100).tdiv spageSlider.w

/-- INVERT, MODE, the nudge buttons and the slider; the MAX row is not there for a heading lock. -/
def editFields (t : Tap) (w : SettingsFields) : SettingsFields :=
  let maxRow : Bool := w.mode ≠ .thl
  if spageInvert t then { w with invert := !w.invert }
  else if spageMode t then { w with mode := nextModeFor w.mode }
  else if maxRow && t.within spageNudgeMinus then { w with max := applyMaxEndSnap (w.max - 1) }
  else if maxRow && t.within spageNudgePlus then { w with max := applyMaxEndSnap (w.max + 1) }
  else if maxRow && t.within spageSlider then { w with max := applyMaxEndSnap (sliderPercent t) }
  else w

/-- Where BACK leads. -/
def backTarget (ui : Ui) : UiPage :=
  if ui.settingsBackToCapture then .editCapture else .editPorts

/-- KEEP and SAVE commit the binding that is shown, input included. -/
def commitShown (cfg : MkhConfig) (ui : Ui) (d : Device) (p : Port) : Ui :=
  storeInList (settingsSeedPendingIfNeeded cfg ui d p) d p ui.editCtx.editingBindingIndex
    (ui.settingsWorking.withInput ui.editCtx.capturedInput)

/-- Page to another binding; an edit of the one left behind is kept. -/
def pageTo (cfg : MkhConfig) (ui : Ui) (d : Device) (p : Port) (idx target : Nat) : Ui :=
  settingsLoadBindingAt cfg (settingsCommitWorkingIfDirty cfg ui d p idx) d p target

/-- `bindings[i] = bindings[i + 1]` from `idx` on, and one binding fewer. -/
def PendingPortEdit.removeAt (edit : PendingPortEdit) (idx : Nat) : PendingPortEdit where
  dirty := true
  slots i :=
    if idx ≤ i.val ∧ i.val < edit.bindingCount - 1 then edit.bindings (i.val + 1) else edit.slots i
  bindingCount := edit.bindingCount - 1
  ninth := edit.ninth

/-- Take the binding shown off the working copy, when it is on it. -/
def removeShown (ui : Ui) (d : Device) (p : Port) (idx : Nat) : Ui :=
  let edit := ui.pendingEdits d p
  if idx < edit.bindingCount then
    (ui.setPending d p (edit.removeAt idx)).noteIndices
      ((List.range' idx (edit.bindingCount - 1 - idx)).flatMap fun i => [i, i + 1])
  else ui

/-- What is shown once a binding is gone: nothing is left, and the page is left too, or the binding
that took its place, or the last one. -/
def showRemaining (env : TapEnv) (cfg : MkhConfig) (ui : Ui) (d : Device) (p : Port) (idx : Nat) :
    Ui :=
  let count := (ui.pendingEdits d p).bindingCount
  if count = 0 then goToPage (backTarget ui) env.millis cfg ui.clearCapture
  else settingsLoadBindingAt cfg ui d p (if idx ≥ count then count - 1 else idx)

def removeBinding (env : TapEnv) (cfg : MkhConfig) (ui : Ui) (d : Device) (p : Port) (idx : Nat) :
    Ui :=
  showRemaining env cfg (removeShown (settingsSeedPendingIfNeeded cfg ui d p) d p idx) d p idx

/-- What the page shows after RESET: the port's first binding, or blank fields. -/
def showReset (d : Device) (p : Port) (cfg : MkhConfig) (ui : Ui) : Ui :=
  let ui := { (clearPendingSession ui).withCtx fun ctx => { ctx with editingBindingIndex := 0 } with
    testActive := false }
  if (cfg.table d p).bindings.length > 0 then
    showBinding (ui.noteIndices [0]) (liveBinding cfg d p 0) true
  else showBinding ui blankBinding false

/-- RESET: the table is read from the file again, and the session is dropped. -/
def settingsReset (env : TapEnv) (d : Device) (p : Port) (s : Sketch) : Sketch :=
  (s.reloadConfig env.oracle).withUi (showReset d p)

/-- ADD leads to the capture page, unless the port is full. -/
def addBinding (env : TapEnv) (cfg : MkhConfig) (ui : Ui) (d : Device) (p : Port) : Ui :=
  if effectiveBindingCount cfg ui d p ≥ mkhMaxBindingsPerPort then ui
  else goToPage .editCapture env.millis cfg { ui.clearCapture with settingsBackToCapture := true }

/-- PREV, ADD, REMOVE, NEXT and BACK, for the port selected. -/
def settingsButtons (env : TapEnv) (d : Device) (p : Port) (t : Tap) (cfg : MkhConfig) (ui : Ui) :
    Ui :=
  let idx := ui.editCtx.editingBindingIndex
  let count := effectiveBindingCount cfg ui d p
  if t.within spagePrev then
    if count > 1 ∧ idx > 0 then pageTo cfg ui d p idx (idx - 1) else ui
  else if t.within spageNext then
    if count > 1 ∧ idx + 1 < count then pageTo cfg ui d p idx (idx + 1) else ui
  else if t.within spageAdd then addBinding env cfg ui d p
  else if t.within spageRemove then removeBinding env cfg ui d p idx
  else if t.within spageBack then
    if settingsUncommitted ui then { ui with settingsPromptActive := true }
    else goToPage (backTarget ui) env.millis cfg ui
  else ui

/-- The two answers to the page's prompt. -/
def settingsPrompt (env : TapEnv) (d : Device) (p : Port) (t : Tap) (cfg : MkhConfig) (ui : Ui) :
    Ui :=
  if t.within exitPromptLeft then
    -- KEEP.
    goToPage (backTarget ui) env.millis cfg
      { commitShown cfg ui d p with settingsPromptActive := false }
  else if t.within exitPromptRight then
    -- DISCARD.
    goToPage (backTarget ui) env.millis cfg { ui with settingsPromptActive := false }
  else ui

/-- The zones in which the working fields are edited. -/
def inFieldRows (t : Tap) (ui : Ui) : Bool :=
  spageInvert t || spageMode t ||
    (decide (ui.settingsWorking.mode ≠ .thl) &&
      (t.within spageNudgeMinus || t.within spageNudgePlus || t.within spageSlider))

/-- The page's zones, for the port selected. -/
def settingsTouch (env : TapEnv) (d : Device) (p : Port) (s : Sketch) (t : Tap) : Sketch :=
  if s.ui.settingsPromptActive then s.withUi (settingsPrompt env d p t)
  else if t.within testToggle then handleTestToggleTap s
  else if inFieldRows t s.ui then
    s.withUi fun _ ui => { ui with settingsWorking := editFields t ui.settingsWorking }
  else if t.within spageReset then settingsReset env d p s
  else if t.within spageSave then
    performSaveAndExit env.oracle env.millis (s.withUi fun cfg ui => commitShown cfg ui d p)
  else s.withUi (settingsButtons env d p t)

def dispatchSettingsTouch (env : TapEnv) (s : Sketch) (t : Tap) : Sketch :=
  match s.ui.editCtx.selectedDevice, s.ui.editCtx.selectedPort with
  | some d, some p => settingsTouch env d p s t
  | _, _ => s

end MK1Tank
