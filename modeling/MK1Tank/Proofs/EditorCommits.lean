/-
What the editor commits, and when.

Editing goes to the session: the working copies of the ports touched.  The table and the
file are reached by four taps only, Test-ON, SAVE, RESET and the confirmed RESET ALL;
everything else leaves both as they are, and every way back to the dashboard ends the
session.  Test-ON and SAVE write the dirty lists whole, as long as none has outgrown its
array.
-/
import MK1Tank.Proofs.EditorCap

namespace MK1Tank

open FileProgram Runs

/-! ### What a tap means to the session -/

inductive SessionTap where
  | testOn
  /-- On the settings page, or at the exit prompt. -/
  | save
  | reset
  | resetAll
  /-- At the exit prompt. -/
  | discard
  /-- BACK to the dashboard, with nothing pending. -/
  | back
deriving DecidableEq

def SessionTap.commits : SessionTap → Bool
  | .testOn | .save | .reset | .resetAll => true
  | .discard | .back => false

/-- Test-ON or SAVE. -/
def SessionTap.pushes : SessionTap → Bool
  | .testOn | .save => true
  | .reset | .resetAll | .discard | .back => false

/-- The toggle is ON already when it is tapped to OFF. -/
def toggleTap (ui : Ui) : Option SessionTap := if ui.testActive then none else some .testOn

def hubSelectTap (ui : Ui) (t : Tap) : Option SessionTap :=
  if ui.exitPromptActive then
    if t.within exitPromptLeft then some .save
    else if t.within exitPromptRight then some .discard
    else none
  else if ui.resetAllPromptActive then
    if t.within exitPromptLeft then some .resetAll else none
  else if t.within testToggle then toggleTap ui
  else if t.within exitPromptRight then none
  else if t.within selectBack then
    if sessionHasPendingEdits ui then none else some .back
  else none

def portSelectTap (ui : Ui) (t : Tap) : Option SessionTap :=
  if t.within testToggle then toggleTap ui else none

def captureTap (ui : Ui) (t : Tap) : Option SessionTap :=
  if !ui.capturePromptActive && !ui.captureReplaceAddPromptActive && t.within testToggle then
    toggleTap ui
  else none

def settingsTap (ui : Ui) (t : Tap) : Option SessionTap :=
  if ui.settingsPromptActive then none
  else if t.within testToggle then toggleTap ui
  else if inFieldRows t ui then none
  else if t.within spageReset then some .reset
  else if t.within spageSave then some .save
  else none

/-- A tap of the page that is up; the capture and the settings page need a port selected. -/
def sessionTap (ui : Ui) (t : Tap) : Option SessionTap :=
  match ui.currentPage with
  | .editSelect => hubSelectTap ui t
  | .editPorts => portSelectTap ui t
  | .editCapture =>
    match ui.editCtx.selectedDevice, ui.editCtx.selectedPort with
    | some _, some _ => captureTap ui t
    | _, _ => none
  | .editSettings =>
    match ui.editCtx.selectedDevice, ui.editCtx.selectedPort with
    | some _, some _ => settingsTap ui t
    | _, _ => none
  | .splash | .stats | .dashboard | .idle => none

/-- The session that Test-ON or SAVE pushes: SAVE on the settings page takes the binding shown
with it. -/
def pushedSession (cfg : MkhConfig) (ui : Ui) : SessionTap → PendingEdits
  | .save =>
    match ui.currentPage, ui.editCtx.selectedDevice, ui.editCtx.selectedPort with
    | .editSettings, some d, some p => (commitShown cfg ui d p).pendingEdits
    | _, _, _ => ui.pendingEdits
  | _ => ui.pendingEdits

/-! ### Stores -/

/-- The table and the file are the same. -/
structure SameStore (s s' : Sketch) : Prop where
  config : s'.live.config = s.live.config
  files : s'.files = s.files

theorem SameStore.refl (s : Sketch) : SameStore s s := ⟨rfl, rfl⟩

theorem SameStore.trans {s₁ s₂ s₃ : Sketch} (h₁ : SameStore s₁ s₂) (h₂ : SameStore s₂ s₃) :
    SameStore s₁ s₃ := ⟨h₂.config.trans h₁.config, h₂.files.trans h₁.files⟩

/-- A step within the pages' own state. -/
theorem withUi_sameStore (s : Sketch) (f : MkhConfig → Ui → Ui) : SameStore s (s.withUi f) :=
  ⟨rfl, rfl⟩

/-- No port has a pending edit. -/
def Ui.NoPending (ui : Ui) : Prop := ∀ d p, (ui.pendingEdits d p).dirty = false

/-- The dirty ports' lists are written, and no other list. -/
def Writes (pending : PendingEdits) (s s' : Sketch) : Prop :=
  ∀ d p, (s'.live.config.table d p).bindings =
    if (pending d p).dirty then writtenBindings (pending d p).bindings (pending d p).bindingCount
    else (s.live.config.table d p).bindings

/-- What becomes of the stores and the session when a tap means this to the session. -/
def SessionEffect (s s' : Sketch) : Option SessionTap → Prop
  | none => SameStore s s'
  | some .testOn => Writes (pushedSession s.live.config s.ui .testOn) s s'
  | some .save => Writes (pushedSession s.live.config s.ui .save) s s'
  | some .reset | some .resetAll => True
  | some .discard | some .back => SameStore s s' ∧ s'.ui.NoPending

theorem push_writes {pending : PendingEdits} {s s' : Sketch}
    (h : s'.live = (TableChange.push pending).apply s.live) : Writes pending s s' := by
  intro d p
  rw [h]
  exact push_bindings pending s.live d p

theorem save_writes {pending : PendingEdits} {s s' : Sketch} {oracle : FileOracle}
    (h : s'.live = (TableChange.save pending s.files oracle).apply s.live) : Writes pending s s' := by
  intro d p
  rw [h, TableChange.apply, Live.noteSave_table]
  exact push_bindings pending s.live d p

/-! ### Page by page -/

theorem handleTestToggleTap_session (s : Sketch) :
    SessionEffect s (handleTestToggleTap s) (toggleTap s.ui) := by
  have hlive := handleTestToggleTap_live s
  unfold toggleTap
  by_cases hactive : s.ui.testActive = true
  · rw [if_pos hactive]
    unfold handleTestToggleTap
    rw [if_pos hactive]
    exact withUi_sameStore s _
  · rw [if_neg hactive] at hlive ⊢
    exact push_writes hlive

theorem leaveEditor_noPending (env : TapEnv) (cfg : MkhConfig) (ui : Ui) :
    (leaveEditor env cfg ui).NoPending := fun _ _ => rfl

theorem performSaveAndExit_session (oracle : FileOracle) (millis : UInt32) {s : Sketch}
    (f : MkhConfig → Ui → Ui) :
    Writes (f s.live.config s.ui).pendingEdits s
      (performSaveAndExit oracle millis (s.withUi f)) :=
  save_writes (performSaveAndExit_live oracle millis (s.withUi f))

theorem dispatchHubSelectTouch_session (env : TapEnv) {s : Sketch} (t : Tap)
    (hpage : s.ui.currentPage = .editSelect) :
    SessionEffect s (dispatchHubSelectTouch env s t) (hubSelectTap s.ui t) := by
  unfold dispatchHubSelectTouch hubSelectTap
  by_cases hexit : s.ui.exitPromptActive = true
  · rw [if_pos hexit, if_pos hexit]
    split
    · have hpushed : pushedSession s.live.config s.ui .save = s.ui.pendingEdits := by
        simp [pushedSession, hpage]
      show Writes (pushedSession s.live.config s.ui .save) s _
      rw [hpushed]
      exact performSaveAndExit_session env.oracle env.millis _
    · split
      · exact ⟨withUi_sameStore s _, leaveEditor_noPending env s.live.config _⟩
      · exact SameStore.refl s
  · rw [if_neg hexit, if_neg hexit]
    by_cases hreset : s.ui.resetAllPromptActive = true
    · rw [if_pos hreset, if_pos hreset]
      split
      · trivial
      · split
        · exact withUi_sameStore s _
        · exact SameStore.refl s
    · rw [if_neg hreset, if_neg hreset]
      split
      · exact handleTestToggleTap_session s
      · split
        · exact withUi_sameStore s _
        · split
          · split
            · exact withUi_sameStore s _
            · exact ⟨withUi_sameStore s _, leaveEditor_noPending env s.live.config _⟩
          · split
            · split
              · exact SameStore.refl s
              · exact withUi_sameStore s _
            · exact SameStore.refl s

theorem dispatchPortSelectTouch_session (env : TapEnv) (s : Sketch) (t : Tap) :
    SessionEffect s (dispatchPortSelectTouch env s t) (portSelectTap s.ui t) := by
  unfold dispatchPortSelectTouch portSelectTap
  split
  · exact handleTestToggleTap_session s
  · split
    · exact withUi_sameStore s _
    · split
      · exact withUi_sameStore s _
      · exact SameStore.refl s

/-- The settings page, for the port selected. -/
theorem settingsTouch_session (env : TapEnv) {d : Device} {p : Port} {s : Sketch} (t : Tap)
    (hpage : s.ui.currentPage = .editSettings) (hselects : s.ui.selects d p) :
    SessionEffect s (settingsTouch env d p s t) (settingsTap s.ui t) := by
  unfold settingsTouch settingsTap
  split
  · exact withUi_sameStore s _
  · split
    · exact handleTestToggleTap_session s
    · split
      · exact withUi_sameStore s _
      · split
        · trivial
        · split
          · have hpushed : pushedSession s.live.config s.ui .save =
                (commitShown s.live.config s.ui d p).pendingEdits := by
              simp [pushedSession, hpage, hselects.1, hselects.2]
            show Writes (pushedSession s.live.config s.ui .save) s _
            rw [hpushed]
            exact performSaveAndExit_session env.oracle env.millis _
          · exact withUi_sameStore s _

theorem rowTap_sameStore (env : TapEnv) (s : Sketch) (d : Device) :
    SameStore s (rowTap env s d) := by
  unfold rowTap
  split
  · exact SameStore.refl s
  · split
    · unfold toggleRow
      split <;> exact ⟨rfl, rfl⟩
    · exact SameStore.refl s

/-- **A tap reaches the stores as its meaning says**, and only so. -/
theorem pageTouch_session (env : TapEnv) (s : Sketch) (t : Tap) :
    SessionEffect s (pageTouch env s t) (sessionTap s.ui t) := by
  unfold pageTouch sessionTap
  cases hpage : s.ui.currentPage with
  | splash => exact SameStore.refl s
  | stats => exact withUi_sameStore s _
  | dashboard =>
    show SameStore s (dashboardTouch env s t)
    unfold dashboardTouch
    split
    · exact withUi_sameStore s _
    · exact rowTap_sameStore env s _
  | editSelect => exact dispatchHubSelectTouch_session env t hpage
  | editPorts => exact dispatchPortSelectTouch_session env s t
  | editCapture =>
    show SessionEffect s (dispatchCaptureTouch env s t) _
    unfold dispatchCaptureTouch captureTap
    rcases hdevice : s.ui.editCtx.selectedDevice with _ | d
    · exact SameStore.refl s
    rcases hport : s.ui.editCtx.selectedPort with _ | p
    · exact SameStore.refl s
    simp only
    split
    · exact handleTestToggleTap_session s
    · exact withUi_sameStore s _
  | editSettings =>
    show SessionEffect s (dispatchSettingsTouch env s t) _
    unfold dispatchSettingsTouch
    rcases hdevice : s.ui.editCtx.selectedDevice with _ | d
    · exact SameStore.refl s
    rcases hport : s.ui.editCtx.selectedPort with _ | p
    · exact SameStore.refl s
    exact settingsTouch_session env t hpage ⟨hdevice, hport⟩
  | idle =>
    show SameStore s (idleTouch env s t)
    unfold idleTouch
    split <;> exact withUi_sameStore s _

/-! ### What is pushed -/

/-- The working copy that a page starts from. -/
def PendingPortEdit.seeded (edit : PendingPortEdit) (cfg : MkhConfig) (d : Device) (p : Port) :
    PendingPortEdit := if edit.dirty then edit else edit.seed cfg d p

theorem seeded_pending (cfg : MkhConfig) (ui : Ui) (d d' : Device) (p p' : Port) :
    (settingsSeedPendingIfNeeded cfg ui d p).pendingEdits d' p' =
      if d' = d ∧ p' = p then (ui.pendingEdits d p).seeded cfg d p else ui.pendingEdits d' p' := by
  unfold settingsSeedPendingIfNeeded PendingPortEdit.seeded
  split
  · split
    · rename_i hsame
      rw [hsame.1, hsame.2]
    · rfl
  · exact ui.setPending_apply d d' p p' _

/-- A store into the list is a store into the port's working copy. -/
theorem storeInList_pending (ui : Ui) (d : Device) (p : Port) (idx : Nat) (b : Binding) :
    (storeInList ui d p idx b).pendingEdits d p =
      if idx < (ui.pendingEdits d p).bindingCount then (ui.pendingEdits d p).store idx b
      else ui.pendingEdits d p := by
  unfold storeInList
  split
  · exact Ui.setStored_same ..
  · rfl

/-- In a list that fits its array it touches no other. -/
theorem storeInList_others {ui : Ui} {d d' : Device} {p p' : Port} (idx : Nat) (b : Binding)
    (hfits : (ui.pendingEdits d p).bindingCount ≤ mkhMaxBindingsPerPort)
    (hother : ¬ (d' = d ∧ p' = p)) :
    (storeInList ui d p idx b).pendingEdits d' p' = ui.pendingEdits d' p' := by
  unfold storeInList
  split
  · rename_i hidx
    rw [storePending_pending ui d p b (Nat.lt_of_lt_of_le hidx hfits), Ui.setPending_apply,
      if_neg hother]
  · rfl

/-- KEEP and SAVE put the binding shown into the working copy of its port. -/
theorem commitShown_pending (cfg : MkhConfig) (ui : Ui) (d : Device) (p : Port) :
    (commitShown cfg ui d p).pendingEdits d p =
      if ui.editCtx.editingBindingIndex < effectiveBindingCount cfg ui d p then
        ((ui.pendingEdits d p).seeded cfg d p).store ui.editCtx.editingBindingIndex
          (ui.settingsWorking.withInput ui.editCtx.capturedInput)
      else (ui.pendingEdits d p).seeded cfg d p := by
  have hseeded : (settingsSeedPendingIfNeeded cfg ui d p).pendingEdits d p =
      (ui.pendingEdits d p).seeded cfg d p := (seeded_pending cfg ui d d p p).trans (if_pos ⟨rfl, rfl⟩)
  unfold commitShown
  rw [storeInList_pending, (seeded_count cfg ui d p).1, hseeded]

theorem commitShown_others {cfg : MkhConfig} {ui : Ui} {d d' : Device} {p p' : Port}
    (hfits : effectiveBindingCount cfg ui d p ≤ mkhMaxBindingsPerPort)
    (hother : ¬ (d' = d ∧ p' = p)) :
    (commitShown cfg ui d p).pendingEdits d' p' = ui.pendingEdits d' p' := by
  unfold commitShown
  rw [storeInList_others _ _ (by rw [(seeded_count cfg ui d p).1]; exact hfits) hother,
    seeded_pending, if_neg hother]

/-- Every dirty list is within its array. -/
def ListsFit (pending : PendingEdits) : Prop :=
  ∀ d p, (pending d p).dirty = true → (pending d p).bindingCount ≤ mkhMaxBindingsPerPort

instance (pending : PendingEdits) : Decidable (ListsFit pending) := by
  unfold ListsFit
  infer_instance

/-- Where the editor is within its arrays, so is what it pushes. -/
theorem pushedSession_fits {s : Sketch} (h : s.Good) (k : SessionTap) :
    ListsFit (pushedSession s.live.config s.ui k) := by
  have hpending : ListsFit s.ui.pendingEdits := fun d p _ => (h.ui.pending d p).count
  unfold pushedSession
  split
  · split
    · rename_i d p hpage hdevice hport
      have hshown := h.ui.shown d p ⟨hdevice, hport⟩ hpage
      exact fun d' p' _ => ((commitShown_sound h.table h.ui.toSound hshown).pending d' p').count
    · exact hpending
  · exact hpending

/-- The list of a working copy, as long as it is. -/
def PendingPortEdit.list (edit : PendingPortEdit) : List Binding :=
  (List.range edit.bindingCount).map edit.bindings

theorem writtenBindings_eq_list {edit : PendingPortEdit} :
    writtenBindings edit.bindings edit.bindingCount = edit.list ↔
      edit.bindingCount ≤ mkhMaxBindingsPerPort := by
  unfold writtenBindings PendingPortEdit.list
  constructor
  · intro h
    have hlength := congrArg List.length h
    simp only [List.length_map, List.length_range] at hlength
    omega
  · intro h
    rw [Nat.min_eq_left h]

/-- The dirty ports' live lists become exactly their pending lists, and no other changes. -/
def WritesExactly (pending : PendingEdits) (s s' : Sketch) : Prop :=
  ∀ d p, (s'.live.config.table d p).bindings =
    if (pending d p).dirty then (pending d p).list else (s.live.config.table d p).bindings

theorem writesExactly_iff {pending : PendingEdits} {s s' : Sketch} (h : Writes pending s s') :
    WritesExactly pending s s' ↔ ListsFit pending := by
  constructor
  · intro hexact d p hdirty
    have hwritten := h d p
    rw [hexact d p, if_pos hdirty, if_pos hdirty] at hwritten
    exact writtenBindings_eq_list.mp hwritten.symm
  · intro hfits d p
    rw [h d p]
    by_cases hdirty : (pending d p).dirty = true
    · rw [if_pos hdirty, if_pos hdirty]
      exact writtenBindings_eq_list.mpr (hfits d p hdirty)
    · rw [if_neg hdirty, if_neg hdirty]

/-! ### The rest of an iteration -/

/-- The stores and the working copies are the same. -/
structure SameSession (s s' : Sketch) : Prop extends SameStore s s' where
  pending : s'.ui.pendingEdits = s.ui.pendingEdits

theorem SameSession.refl (s : Sketch) : SameSession s s := ⟨SameStore.refl s, rfl⟩

theorem SameSession.trans {s₁ s₂ s₃ : Sketch} (h₁ : SameSession s₁ s₂) (h₂ : SameSession s₂ s₃) :
    SameSession s₁ s₃ := ⟨h₁.toSameStore.trans h₂.toSameStore, h₂.pending.trans h₁.pending⟩

theorem idleEntry_session (millis : UInt32) (s : Sketch) : SameSession s (idleEntry millis s) := by
  unfold idleEntry
  split
  · exact ⟨withUi_sameStore s _, rfl⟩
  · exact SameSession.refl s

theorem idleTick_session (tick : Tick) (s : Sketch) : SameSession s (idleTick tick s).1 := by
  unfold idleTick
  split
  · exact ⟨withUi_sameStore s _, rfl⟩
  · split
    · simp only
      split
      · exact ⟨⟨rfl, rfl⟩, rfl⟩
      · split
        · exact ⟨⟨rfl, rfl⟩, rfl⟩
        · exact SameSession.refl s
    · split
      · exact ⟨⟨rfl, rfl⟩, rfl⟩
      · exact SameSession.refl s

theorem checkCapture_session (bp : Bluepad32) (s : Sketch) : SameSession s (checkCapture bp s) := by
  unfold checkCapture
  split
  · exact SameSession.refl s
  · simp only
    split
    · split
      · exact ⟨withUi_sameStore s _, rfl⟩
      · exact SameSession.refl s
    · exact SameSession.refl s

/-- What follows the tap touches neither the stores nor the session. -/
theorem pageTick_session (tick : Tick) (bp : Bluepad32) (s : Sketch) :
    SameSession s (pageTick tick bp s).1 := by
  unfold pageTick
  split
  · exact idleTick_session tick s
  · show SameSession s (if s.ui.capturePromptActive then s else checkCapture bp s)
    split
    · exact SameSession.refl s
    · exact checkCapture_session bp s
  · exact SameSession.refl s

theorem onConnectedController_sameStore (i : Seat) (s : Sketch) :
    SameStore s (onConnectedController i s) := by
  unfold onConnectedController
  split <;> exact ⟨rfl, rfl⟩

theorem onDisconnectedController_sameStore (now : SetterClock) (i : Seat) (s : Sketch) :
    SameStore s (onDisconnectedController now i s) := by
  refine ⟨(onDisconnectedController_editor now i s).2, ?_⟩
  unfold onDisconnectedController
  split
  · rfl
  · simp only
    split <;> rfl

theorem processControllers_sameStore (bp : Bluepad32) (s : Sketch) :
    SameStore s (processControllers bp s) := by
  obtain ⟨xwcState, hnote⟩ := processControllers_note bp s
  rw [hnote]
  exact ⟨rfl, rfl⟩

/-- Neither the callbacks nor the sweep reach the file. -/
theorem swept_sameStore (tick : Tick) (t : Tank) :
    SameStore t.sketch (sweepHeld tick (fetchControllers tick t)).sketch := by
  have hfetch : SameStore t.sketch (fetchControllers tick t).sketch :=
    fetchControllers_keeps (fun i s hs => hs.trans (onConnectedController_sameStore i s))
      (fun i s hs => hs.trans (onDisconnectedController_sameStore tick.failsafeClock i s))
      (fun bp s hs => hs.trans (processControllers_sameStore bp s)) (SameStore.refl t.sketch)
  refine hfetch.trans ⟨(sweepHeld_editor tick _).2, ?_⟩
  unfold sweepHeld
  split <;> rfl

/-- An iteration is the pages' part of it, from the same editor, table and files. -/
theorem loop_session (t : Tank) (tick : Tick) :
    (t.asleep = true ∧ loop t tick = t) ∨
      (t.asleep = false ∧ ∃ swept : Tank, SameStore t.sketch swept.sketch ∧
        swept.sketch.ui = t.sketch.ui ∧ loop t tick = runPages tick swept) := by
  unfold loop
  cases hasleep : t.asleep with
  | true => exact Or.inl ⟨rfl, rfl⟩
  | false => exact Or.inr ⟨rfl, _, swept_sameStore tick t, (swept_editor tick t).1, rfl⟩

/-! ### Every step -/

/-- The tap that a step dispatches: a tank that sleeps dispatches none. -/
def Tank.tapOf (t : Tank) : TankStep → Option Tap
  | .loop tick => if t.asleep then none else tick.tap
  | .btstack _ => none

/-- What a step means to the session. -/
def Tank.sessionTap (t : Tank) (step : TankStep) : Option SessionTap :=
  (t.tapOf step).bind (MK1Tank.sessionTap t.sketch.ui)

theorem SessionEffect.of_same {s s₁ s₂ s₃ : Sketch} {k : Option SessionTap}
    (hbefore : SameStore s s₁)
    (hpushed : ∀ k, pushedSession s₁.live.config s₁.ui k = pushedSession s.live.config s.ui k)
    (h : SessionEffect s₁ s₂ k) (hafter : SameSession s₂ s₃) : SessionEffect s s₃ k := by
  have hwrites : ∀ {k}, Writes (pushedSession s₁.live.config s₁.ui k) s₁ s₂ →
      Writes (pushedSession s.live.config s.ui k) s s₃ := by
    intro k hwrites d p
    rw [hafter.config, ← hpushed, ← hbefore.config]
    exact hwrites d p
  have hstore : SameStore s₁ s₂ → SameStore s s₃ := fun hstore =>
    (hbefore.trans hstore).trans hafter.toSameStore
  have hclean : s₂.ui.NoPending → s₃.ui.NoPending := by
    intro hclean d p
    rw [hafter.pending]
    exact hclean d p
  match k, h with
  | none, h => exact hstore h
  | some .testOn, h => exact hwrites h
  | some .save, h => exact hwrites h
  | some .reset, _ => trivial
  | some .resetAll, _ => trivial
  | some .discard, h => exact ⟨hstore h.1, hclean h.2⟩
  | some .back, h => exact ⟨hstore h.1, hclean h.2⟩

/-- Seeding and storing go by the working copies alone. -/
theorem seeded_congr {ui ui' : Ui} (h : ui'.pendingEdits = ui.pendingEdits) (cfg : MkhConfig)
    (d : Device) (p : Port) :
    (settingsSeedPendingIfNeeded cfg ui' d p).pendingEdits =
      (settingsSeedPendingIfNeeded cfg ui d p).pendingEdits := by
  funext d' p'
  rw [seeded_pending, seeded_pending, h]

theorem storeInList_congr {ui ui' : Ui} (h : ui'.pendingEdits = ui.pendingEdits) (d : Device)
    (p : Port) (idx : Nat) (b : Binding) :
    (storeInList ui' d p idx b).pendingEdits = (storeInList ui d p idx b).pendingEdits := by
  unfold storeInList storePending Ui.setStored Ui.setPending Ui.noteIndices
  rw [h]
  split
  · rfl
  · exact h

/-- The note of the time of a tap is no part of what it pushes. -/
theorem pushedSession_noted (cfg : MkhConfig) (ui : Ui) (millis : UInt32) (k : SessionTap) :
    pushedSession cfg { ui with lastTouchActivityMs := millis } k = pushedSession cfg ui k := by
  unfold pushedSession
  split
  · simp only
    split
    · rename_i d p _ _ _
      have hnoted : ({ ui with lastTouchActivityMs := millis } : Ui).pendingEdits =
          ui.pendingEdits := rfl
      exact storeInList_congr (seeded_congr hnoted cfg d p) d p _ _
    · rfl
  · rfl

theorem dispatchTouch_session (env : TapEnv) (s : Sketch) (t : Tap) :
    SessionEffect s (dispatchTouch env s t) (sessionTap s.ui t) := by
  have htouch :=
    pageTouch_session env (s.withUi fun _ ui => { ui with lastTouchActivityMs := env.millis }) t
  refine SessionEffect.of_same ?_ ?_ htouch (SameSession.refl _)
  · exact withUi_sameStore s _
  · exact pushedSession_noted s.live.config s.ui env.millis

/-- **Every step of both tasks reaches the stores as its tap says.** -/
theorem step_session (t : Tank) (step : TankStep) :
    SessionEffect t.sketch (t.step step).sketch (t.sessionTap step) := by
  cases step with
  | btstack step => exact ⟨rfl, rfl⟩
  | loop tick =>
    show SessionEffect t.sketch (loop t tick).sketch (t.sessionTap (.loop tick))
    unfold Tank.sessionTap Tank.tapOf
    rcases loop_session t tick with ⟨hasleep, heq⟩ | ⟨hawake, swept, hswept, hui, heq⟩
    · simp only [hasleep, if_true, Option.bind_none]
      rw [heq]
      exact SameStore.refl t.sketch
    · simp only [hawake, Bool.false_eq_true, if_false]
      rw [heq, ← hui]
      have hpushed : ∀ k, pushedSession swept.sketch.live.config swept.sketch.ui k =
          pushedSession t.sketch.live.config t.sketch.ui k := fun k => by rw [hui, hswept.config]
      cases htap : tick.tap with
      | none =>
        have hafter : SameSession swept.sketch (runPages tick swept).sketch := by
          unfold runPages
          simp only [htap]
          exact (idleEntry_session _ _).trans (pageTick_session _ _ _)
        exact SessionEffect.of_same hswept hpushed (SameStore.refl swept.sketch) hafter
      | some tap =>
        have hafter : SameSession (dispatchTouch tick.tapEnv swept.sketch tap)
            (runPages tick swept).sketch := by
          unfold runPages
          simp only [htap]
          exact (idleEntry_session _ _).trans (pageTick_session _ _ _)
        exact SessionEffect.of_same hswept hpushed
          (dispatchTouch_session tick.tapEnv swept.sketch tap) hafter

/-! ### Nothing is left behind -/

/-- The pages of the editor. -/
def UiPage.inEditor : UiPage → Bool
  | .editSelect | .editPorts | .editCapture | .editSettings => true
  | .splash | .stats | .dashboard | .idle => false

/-- Off the editor's pages no edit is pending. -/
def Ui.NoneBehind (ui : Ui) : Prop := ui.currentPage.inEditor = true ∨ ui.NoPending

theorem goToPage_currentPage (page : UiPage) (millis : UInt32) (cfg : MkhConfig) (ui : Ui) :
    (goToPage page millis cfg ui).currentPage = page := by
  unfold goToPage
  cases page with
  | splash | stats | dashboard | editSelect | editCapture | idle => rfl
  | editPorts =>
    show (drawPortSelect cfg { ui with currentPage := .editPorts }).currentPage = _
    unfold drawPortSelect
    split <;> rfl
  | editSettings =>
    unfold drawPage
    simp only
    split
    · exact (enterSettings_frame _ _ _ _).2.2
    · rfl

/-- Within the editor. -/
theorem goToPage_noneBehind {page : UiPage} (hpage : page.inEditor = true) (millis : UInt32)
    (cfg : MkhConfig) (ui : Ui) : (goToPage page millis cfg ui).NoneBehind := by
  refine Or.inl ?_
  rw [goToPage_currentPage]
  exact hpage

/-- Pages that draw no binding keep the working copies. -/
theorem goToPage_dashboard_noneBehind {ui : Ui} (h : ui.NoPending) (millis : UInt32)
    (cfg : MkhConfig) : (goToPage .dashboard millis cfg ui).NoneBehind := Or.inr h

theorem backTarget_inEditor (ui : Ui) : (backTarget ui).inEditor = true := by
  rcases backTarget_cases ui with h | h <;> rw [h] <;> rfl

theorem handleTestToggleTap_noneBehind {s : Sketch} (h : s.ui.NoneBehind) :
    (handleTestToggleTap s).ui.NoneBehind := by
  unfold handleTestToggleTap
  split <;> exact h

theorem performSaveAndExit_noneBehind (oracle : FileOracle) (millis : UInt32) (s : Sketch) :
    (performSaveAndExit oracle millis s).ui.NoneBehind := by
  rw [performSaveAndExit_ui]
  exact goToPage_dashboard_noneBehind (fun _ _ => rfl) millis _

theorem leaveEditor_noneBehind (env : TapEnv) (cfg : MkhConfig) (ui : Ui) :
    (leaveEditor env cfg ui).NoneBehind := Or.inr (leaveEditor_noPending env cfg ui)

theorem dispatchHubSelectTouch_noneBehind (env : TapEnv) {s : Sketch} (t : Tap)
    (h : s.ui.NoneBehind) : (dispatchHubSelectTouch env s t).ui.NoneBehind := by
  unfold dispatchHubSelectTouch
  split
  · split
    · exact performSaveAndExit_noneBehind _ _ _
    · split
      · exact leaveEditor_noneBehind env s.live.config _
      · exact h
  · split
    · split
      · rw [confirmResetAll_ui]
        exact leaveEditor_noneBehind _ _ _
      · split <;> exact h
    · split
      · exact handleTestToggleTap_noneBehind h
      · split
        · exact h
        · split
          · split
            · exact h
            · exact leaveEditor_noneBehind env s.live.config _
          · split
            · split
              · exact h
              · exact goToPage_noneBehind rfl _ _ _
            · exact h

theorem dispatchPortSelectTouch_noneBehind (env : TapEnv) {s : Sketch} (t : Tap)
    (h : s.ui.NoneBehind) : (dispatchPortSelectTouch env s t).ui.NoneBehind := by
  unfold dispatchPortSelectTouch
  split
  · exact handleTestToggleTap_noneBehind h
  · split
    · exact goToPage_noneBehind rfl _ _ _
    · split
      · show (openPort env _ _ s.live.config _).NoneBehind
        unfold openPort
        split <;> exact goToPage_noneBehind rfl _ _ _
      · exact h

theorem captureButtons_noneBehind (env : TapEnv) {d : Device} {p : Port} (t : Tap) (cfg : MkhConfig)
    {ui : Ui} (h : ui.NoneBehind) : (captureButtons env d p t cfg ui).NoneBehind := by
  unfold captureButtons
  split
  · split
    · exact goToPage_noneBehind rfl _ _ _
    · split
      · exact goToPage_noneBehind rfl _ _ _
      · exact h
  · split
    · split
      · exact goToPage_noneBehind rfl _ _ _
      · split
        · exact goToPage_noneBehind rfl _ _ _
        · exact h
    · split
      · split
        · exact h
        · exact goToPage_noneBehind rfl _ _ _
      · split
        · split
          · exact h
          · exact goToPage_noneBehind rfl _ _ _
        · exact h

theorem settingsButtons_noneBehind (env : TapEnv) {d : Device} {p : Port} (t : Tap)
    (cfg : MkhConfig) {ui : Ui} (hpage : ui.currentPage = .editSettings) :
    (settingsButtons env d p t cfg ui).NoneBehind := by
  have hstay : ui.NoneBehind := Or.inl (by rw [hpage]; rfl)
  have hpaged : ∀ idx target, (pageTo cfg ui d p idx target).NoneBehind := by
    intro idx target
    have hsame : (settingsCommitWorkingIfDirty cfg ui d p idx).currentPage = .editSettings :=
      (settingsCommitWorkingIfDirty_frame cfg ui d p idx).2.trans hpage
    exact Or.inl (congrArg UiPage.inEditor hsame)
  unfold settingsButtons
  simp only
  split
  · split
    · exact hpaged _ _
    · exact hstay
  · split
    · split
      · exact hpaged _ _
      · exact hstay
    · split
      · unfold addBinding
        split
        · exact hstay
        · exact goToPage_noneBehind rfl _ _ _
      · split
        · unfold removeBinding showRemaining
          simp only
          split
          · exact goToPage_noneBehind (backTarget_inEditor _) _ _ _
          · have hsame : (removeShown (settingsSeedPendingIfNeeded cfg ui d p) d p
                ui.editCtx.editingBindingIndex).currentPage = .editSettings :=
              ((removeShown_frame _ d p _).2.trans (seeded_frame cfg ui d p).2.2).trans hpage
            exact Or.inl (congrArg UiPage.inEditor hsame)
        · split
          · split
            · exact hstay
            · exact goToPage_noneBehind (backTarget_inEditor _) _ _ _
          · exact hstay

theorem settingsTouch_noneBehind (env : TapEnv) {d : Device} {p : Port} {s : Sketch} (t : Tap)
    (hpage : s.ui.currentPage = .editSettings) : (settingsTouch env d p s t).ui.NoneBehind := by
  have hstay : s.ui.NoneBehind := Or.inl (by rw [hpage]; rfl)
  unfold settingsTouch
  split
  · show (settingsPrompt env d p t s.live.config s.ui).NoneBehind
    unfold settingsPrompt
    split
    · exact goToPage_noneBehind (backTarget_inEditor _) _ _ _
    · split
      · exact goToPage_noneBehind (backTarget_inEditor _) _ _ _
      · exact hstay
  · split
    · exact handleTestToggleTap_noneBehind hstay
    · split
      · exact hstay
      · split
        · have hsame : ∀ cfg, (showReset d p cfg s.ui).currentPage = .editSettings := by
            intro cfg
            unfold showReset
            simp only
            split <;> exact hpage
          exact Or.inl (congrArg UiPage.inEditor (hsame _))
        · split
          · exact performSaveAndExit_noneBehind _ _ _
          · exact settingsButtons_noneBehind env t s.live.config hpage

/-- **A tap leaves nothing behind**: every way out of the editor ends the session. -/
theorem pageTouch_noneBehind (env : TapEnv) {s : Sketch} (t : Tap) (h : s.ui.NoneBehind) :
    (pageTouch env s t).ui.NoneBehind := by
  unfold pageTouch
  split
  · unfold dashboardTouch
    split
    · exact goToPage_noneBehind rfl _ _ _
    · have hrow : (rowTap env s (touchYToDeviceId t.y)).ui.currentPage = s.ui.currentPage ∧
          (rowTap env s (touchYToDeviceId t.y)).ui.pendingEdits = s.ui.pendingEdits := by
        unfold rowTap
        split
        · exact ⟨rfl, rfl⟩
        · split
          · unfold toggleRow
            split <;> exact ⟨rfl, rfl⟩
          · exact ⟨rfl, rfl⟩
      unfold Ui.NoneBehind Ui.NoPending
      rw [hrow.1, hrow.2]
      exact h
  · rename_i hpage
    refine Or.inr (h.resolve_left ?_)
    rw [hpage]
    exact Bool.false_ne_true
  · exact h
  · exact dispatchHubSelectTouch_noneBehind env t h
  · exact dispatchPortSelectTouch_noneBehind env t h
  · unfold dispatchCaptureTouch
    split
    · split
      · exact handleTestToggleTap_noneBehind h
      · exact captureButtons_noneBehind env t s.live.config h
    · exact h
  · rename_i hpage
    unfold dispatchSettingsTouch
    split
    · exact settingsTouch_noneBehind env t hpage
    · exact h
  · rename_i hpage
    unfold idleTouch
    split
    · exact h
    · refine Or.inr (h.resolve_left ?_)
      rw [hpage]
      exact Bool.false_ne_true

/-- The end of an iteration moves between pages that are not the editor's. -/
theorem pageTick_noneBehind (tick : Tick) (bp : Bluepad32) {s : Sketch} (h : s.ui.NoneBehind) :
    (pageTick tick bp s).1.ui.NoneBehind := by
  have hkept := (pageTick_session tick bp s).pending
  rcases h with hin | hclean
  · refine Or.inl ?_
    unfold pageTick
    split
    · rename_i hpage
      rw [hpage] at hin
      cases hin
    · show (if s.ui.capturePromptActive then s else checkCapture bp s).ui.currentPage.inEditor = true
      split
      · exact hin
      · unfold checkCapture
        split
        · exact hin
        · simp only
          split
          · split <;> exact hin
          · exact hin
    · exact hin
  · refine Or.inr fun d p => ?_
    rw [hkept]
    exact hclean d p

theorem idleEntry_noneBehind (millis : UInt32) {s : Sketch} (h : s.ui.NoneBehind) :
    (idleEntry millis s).ui.NoneBehind := by
  unfold idleEntry
  split
  · rename_i hentry
    refine Or.inr (h.resolve_left ?_)
    rw [hentry.1]
    exact Bool.false_ne_true
  · exact h

theorem step_noneBehind (t : Tank) (step : TankStep) (h : t.sketch.ui.NoneBehind) :
    (t.step step).sketch.ui.NoneBehind := by
  have hsame : ∀ s s' : Sketch, SameEditor s s' → s.ui.NoneBehind → s'.ui.NoneBehind := by
    rintro s s' ⟨hui, -⟩ hs
    rw [hui]
    exact hs
  exact step_invariant hsame (fun _ _ _ hs => pageTouch_noneBehind _ _ hs)
    (fun _ _ hs => idleEntry_noneBehind _ hs) (fun tick _ _ hs => pageTick_noneBehind tick _ hs) t step h

/-! ### Runs -/

/-- No tap of the step goes to the table or the file. -/
def OnlyEdits (t : Tank) (step : TankStep) : Prop :=
  (t.sessionTap step).all (fun k => !k.commits) = true

/-- Every dirty list of the session that Test-ON or SAVE pushes is within its array. -/
def PushFits (t : Tank) (step : TankStep) : Prop :=
  ∀ k ∈ t.sessionTap step, k.pushes = true →
    ListsFit (pushedSession t.sketch.live.config t.sketch.ui k)

instance (t : Tank) (step : TankStep) : Decidable (PushFits t step) := by
  unfold PushFits
  infer_instance

/-- What the editor does to the table, the file and the session, along a run. -/
structure EditingContract (config : MkhConfig) (files : Files Path) (steps : List TankStep) :
    Prop where
  /-- Steps that commit nothing leave the table and the file as they are. -/
  untouched : ∀ front edits back, steps = front ++ edits ++ back →
    Meets Tank.step OnlyEdits (after Tank.step (Tank.boot config files) front) edits →
    SameStore (after Tank.step (Tank.boot config files) front).sketch
      (after Tank.step (Tank.boot config files) (front ++ edits)).sketch
  /-- DISCARD and a plain BACK to the dashboard leave no edit pending. -/
  leaves : ∀ front step back, steps = front ++ step :: back →
    ((after Tank.step (Tank.boot config files) front).sessionTap step = some .discard ∨
      (after Tank.step (Tank.boot config files) front).sessionTap step = some .back) →
    (after Tank.step (Tank.boot config files) (front ++ [step])).sketch.ui.NoPending
  /-- Off the editor's pages there is no edit pending. -/
  behind : ∀ front back, steps = front ++ back →
    (after Tank.step (Tank.boot config files) front).sketch.ui.NoneBehind
  /-- Test-ON and SAVE make the dirty ports' live lists exactly their pending lists. -/
  pushes : ∀ front step back, steps = front ++ step :: back → ∀ k, k.pushes = true →
    (after Tank.step (Tank.boot config files) front).sessionTap step = some k →
    WritesExactly
      (pushedSession (after Tank.step (Tank.boot config files) front).sketch.live.config
        (after Tank.step (Tank.boot config files) front).sketch.ui k)
      (after Tank.step (Tank.boot config files) front).sketch
      (after Tank.step (Tank.boot config files) (front ++ [step])).sketch

/-- Steps that commit nothing keep the stores, however many they are. -/
theorem onlyEdits_sameStore (edits : List TankStep) :
    ∀ t : Tank, Meets Tank.step OnlyEdits t edits →
      SameStore t.sketch (after Tank.step t edits).sketch := by
  induction edits with
  | nil => exact fun t _ => SameStore.refl t.sketch
  | cons step rest ih =>
    intro t hmeets
    have heffect := step_session t step
    have honly := hmeets.1
    unfold OnlyEdits at honly
    have hstep : SameStore t.sketch (t.step step).sketch := by
      match hmeaning : t.sessionTap step with
      | none =>
        rw [hmeaning] at heffect
        exact heffect
      | some k =>
        rw [hmeaning] at honly heffect
        cases k with
        | testOn | save | reset | resetAll => cases honly
        | discard | back => exact heffect.1
    rw [after_cons]
    exact hstep.trans (ih (t.step step) hmeets.2)

/-- One push: exact when the lists fit, and only then. -/
theorem step_writesExactly_iff {t : Tank} {step : TankStep} {k : SessionTap} (hk : k.pushes = true)
    (hmeaning : t.sessionTap step = some k) :
    WritesExactly (pushedSession t.sketch.live.config t.sketch.ui k) t.sketch (t.step step).sketch ↔
      ListsFit (pushedSession t.sketch.live.config t.sketch.ui k) := by
  have heffect := step_session t step
  rw [hmeaning] at heffect
  cases k with
  | testOn | save => exact writesExactly_iff heffect
  | reset | resetAll | discard | back => cases hk

/-- A contract that is kept met the condition at every push. -/
theorem EditingContract.pushFits {config : MkhConfig} {files : Files Path} {steps : List TankStep}
    (h : EditingContract config files steps) :
    Meets Tank.step PushFits (Tank.boot config files) steps := by
  rw [meets_iff_forall]
  intro front step back hsplit k hmeaning hpushes
  have hexact := h.pushes front step back hsplit k hpushes hmeaning
  rw [after_append] at hexact
  exact (step_writesExactly_iff hpushes hmeaning).mp hexact

/-- **Where every push finds its lists within their arrays**, the contract is kept. -/
theorem contract_of_pushFits {config : MkhConfig} {files : Files Path} {steps : List TankStep}
    (hmeets : Meets Tank.step PushFits (Tank.boot config files) steps) :
    EditingContract config files steps := by
  refine ⟨?_, ?_, ?_, ?_⟩
  · intro front edits back _ hedits
    rw [after_append]
    exact onlyEdits_sameStore edits _ hedits
  · intro front step back _ hleaves
    have heffect := step_session (after Tank.step (Tank.boot config files) front) step
    rw [after_append]
    rcases hleaves with hmeaning | hmeaning <;> rw [hmeaning] at heffect <;> exact heffect.2
  · intro front back _
    have hboot : (Tank.boot config files).sketch.ui.NoneBehind := Or.inr fun _ _ => rfl
    have hbehind := invariant_always step_noneBehind front hboot
    exact hbehind
  · intro front step back hsplit k hk hmeaning
    rw [after_append]
    exact (step_writesExactly_iff hk hmeaning).mpr
      (meets_iff_forall.mp hmeets front step back hsplit k hmeaning hk)

/-! ### What is within reach -/

/-- The port that is edited is followed by another port's entry. -/
def Ui.editsBeforeLast (ui : Ui) : Bool :=
  match ui.editCtx.selectedDevice, ui.editCtx.selectedPort with
  | some d, some p => (entryAfter d p).isSome
  | _, _ => false

/-- No index past `bindings[8]` is used, which would reach into the other ports' bindings, and none is
added to a full list that is the last, with nothing known behind it. -/
def StaysNear (t : Tank) (step : TankStep) : Prop :=
  (∀ idx ∈ (t.step step).sketch.ui.bindingIndices, idx ≤ mkhMaxBindingsPerPort) ∧
    (AddFits t step ∨ t.sketch.ui.editsBeforeLast = true)

instance (t : Tank) (step : TankStep) : Decidable (StaysNear t step) := by
  unfold StaysNear
  infer_instance

/-- Nobody gets further who does not add to a full port. -/
theorem staysNear_of_addFits {config : MkhConfig} {files : Files Path} {steps : List TankStep}
    (hconfig : TableWellFormed config.table)
    (h : Meets Tank.step AddFits (Tank.boot config files) steps) :
    Meets Tank.step StaysNear (Tank.boot config files) steps :=
  meets_of_invariant step_good
    (fun t step hgood hfits => ⟨fun idx hidx =>
      Nat.le_of_lt ((step_good t step hgood hfits).withinCap.indices idx hidx), Or.inl hfits⟩)
    steps _ (boot_good hconfig files) h

/-- Where nobody adds to a full port, every push finds its lists within their arrays. -/
theorem pushFits_of_addFits {config : MkhConfig} {files : Files Path} {steps : List TankStep}
    (hconfig : TableWellFormed config.table)
    (h : Meets Tank.step AddFits (Tank.boot config files) steps) :
    Meets Tank.step PushFits (Tank.boot config files) steps :=
  meets_of_invariant step_good (fun _ _ hgood _ k _ _ => pushedSession_fits hgood k) steps _
    (boot_good hconfig files) h

end MK1Tank
