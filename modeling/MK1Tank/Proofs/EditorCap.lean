/-
The binding cap of the editor.

The cap is held along exactly those runs in which nobody answers ADD at the capture
page's prompt for a port that is full.  Everything else that taps, captures, reports and
reloads can do keeps every list within its array, and every binding stored one that has
an input and a cap of at most 100 percent.
-/
import MK1Tank.Proofs.Failsafe
import MK1Tank.Lib.Run
import MK1Tank.Proofs.EditorTaps

namespace MK1Tank

open FileProgram Runs

/-! ### The sketch's steps -/

/-- The table is well formed, and the editor's invariant holds over it. -/
structure Sketch.Good (s : Sketch) : Prop where
  table : TableWellFormed s.live.config.table
  ui : s.ui.Good s.live.config

theorem Sketch.Good.withUi {s : Sketch} (h : s.Good) {f : MkhConfig → Ui → Ui}
    (hf : (f s.live.config s.ui).Good s.live.config) : (s.withUi f).Good := ⟨h.table, hf⟩

/-- A push leaves the effective lists as long as they were. -/
theorem push_effectiveCount (s : Sketch) (ui : Ui) (hpending : ui.pendingEdits = s.ui.pendingEdits)
    (d : Device) (p : Port) :
    effectiveBindingCount (pushPendingSessionToLiveTable s.ui.pendingEdits s.live).config ui d p =
      effectiveBindingCount s.live.config ui d p := by
  unfold effectiveBindingCount
  rw [hpending, push_bindings]
  by_cases hdirty : (s.ui.pendingEdits d p).dirty = true
  · rw [if_pos hdirty, if_pos hdirty]
  · rw [if_neg hdirty, if_neg hdirty, if_neg hdirty]

theorem Ui.Placed.of_count {cfg cfg' : MkhConfig} {ui : Ui} (h : ui.Placed cfg)
    (hcount : ∀ d p, effectiveBindingCount cfg' ui d p = effectiveBindingCount cfg ui d p) :
    ui.Placed cfg' where
  index d p := by
    rw [hcount]
    exact h.index d p
  prompt d p := by
    rw [hcount]
    exact h.prompt d p
  shown d p := by
    unfold Shown
    rw [hcount]
    exact h.shown d p

theorem handleTestToggleTap_good {s : Sketch} (h : s.Good) : (handleTestToggleTap s).Good := by
  have hui := h.ui
  unfold handleTestToggleTap
  split
  · exact ⟨h.table, ⟨⟨hui.pending, hui.indices, hui.captured, hui.working⟩,
      ⟨hui.index, hui.prompt, hui.shown⟩⟩⟩
  · refine ⟨push_wellFormed h.table hui.pending, ?_⟩
    refine ⟨⟨hui.pending, hui.indices, hui.captured, hui.working⟩, ?_⟩
    have hplaced : ({ s.ui with testActive := true } : Ui).Placed s.live.config :=
      ⟨hui.index, hui.prompt, hui.shown⟩
    exact hplaced.of_count (push_effectiveCount s _ rfl)

theorem performSaveAndExit_ui (oracle : FileOracle) (millis : UInt32) (s : Sketch) :
    (performSaveAndExit oracle millis s).ui = goToPage .dashboard millis
      (performSaveAndExit oracle millis s).live.config (clearEditorSession s.ui) := by
  unfold performSaveAndExit
  simp only [Sketch.withUi_ui, Sketch.withUi_live, Sketch.saveConfig_ui]

theorem confirmResetAll_ui (env : TapEnv) (s : Sketch) :
    (confirmResetAll env s).ui = leaveEditor env (confirmResetAll env s).live.config
      { s.ui with resetAllPromptActive := false } := by
  unfold confirmResetAll
  simp only [Sketch.withUi_ui, Sketch.withUi_live, Sketch.saveConfig_ui]

theorem performSaveAndExit_good (oracle : FileOracle) (millis : UInt32) {s : Sketch}
    (htable : TableWellFormed s.live.config.table) (hui : s.ui.Sound) :
    (performSaveAndExit oracle millis s).Good := by
  refine ⟨?_, ?_⟩
  · rw [performSaveAndExit_live]
    exact TableChange.apply_wellFormed htable hui.pending
  · rw [performSaveAndExit_ui]
    exact goToPage_elsewhere (clearEditorSession_sound hui) (by simp) (by simp) millis

theorem confirmResetAll_good (env : TapEnv) {s : Sketch} (h : s.Good) :
    (confirmResetAll env s).Good := by
  have hsound : ({ s.ui with resetAllPromptActive := false } : Ui).Sound :=
    ⟨h.ui.pending, h.ui.indices, h.ui.captured, h.ui.working⟩
  have hfits : (TableChange.resetAll s.files env.oracle).fits := trivial
  refine ⟨?_, ?_⟩
  · rw [confirmResetAll_live]
    exact TableChange.apply_wellFormed h.table hfits
  · rw [confirmResetAll_ui]
    exact leaveEditor_good env hsound

theorem settingsReset_good (env : TapEnv) {d : Device} {p : Port} {s : Sketch} (h : s.Good)
    (hpage : s.ui.currentPage = .editSettings) (hselects : s.ui.selects d p) :
    (settingsReset env d p s).Good := by
  have htable := reload_wellFormed env.oracle s.live.config s.files
  exact ⟨htable, showReset_good htable h.ui.toSound hpage hselects⟩

theorem dispatchHubSelectTouch_good (env : TapEnv) {s : Sketch} (h : s.Good) (t : Tap) :
    (dispatchHubSelectTouch env s t).Good := by
  have hui := h.ui
  unfold dispatchHubSelectTouch
  by_cases hexit : s.ui.exitPromptActive = true
  · rw [if_pos hexit]
    split
    · refine performSaveAndExit_good env.oracle env.millis h.table ?_
      exact ⟨hui.pending, hui.indices, hui.captured, hui.working⟩
    · split
      · refine h.withUi (leaveEditor_good env ?_)
        exact ⟨hui.pending, hui.indices, hui.captured, hui.working⟩
      · exact h
  · rw [if_neg hexit]
    by_cases hreset : s.ui.resetAllPromptActive = true
    · rw [if_pos hreset]
      split
      · exact confirmResetAll_good env h
      · split
        · exact ⟨h.table, ⟨⟨hui.pending, hui.indices, hui.captured, hui.working⟩,
            ⟨hui.index, hui.prompt, hui.shown⟩⟩⟩
        · exact h
    · rw [if_neg hreset]
      split
      · exact handleTestToggleTap_good h
      · split
        · exact ⟨h.table, ⟨⟨hui.pending, hui.indices, hui.captured, hui.working⟩,
            ⟨hui.index, hui.prompt, hui.shown⟩⟩⟩
        · split
          · split
            · exact ⟨h.table, ⟨⟨hui.pending, hui.indices, hui.captured, hui.working⟩,
                ⟨hui.index, hui.prompt, hui.shown⟩⟩⟩
            · exact h.withUi (leaveEditor_good env hui.toSound)
          · split
            · split
              · exact h
              · exact h.withUi (selectHub_good env hui.toSound)
            · exact h

theorem dispatchPortSelectTouch_good (env : TapEnv) {s : Sketch} (h : s.Good) (t : Tap) :
    (dispatchPortSelectTouch env s t).Good := by
  have hui := h.ui
  unfold dispatchPortSelectTouch
  split
  · exact handleTestToggleTap_good h
  · split
    · refine h.withUi (goToPage_elsewhere ?_ (by simp) (by simp) env.millis)
      exact ⟨hui.pending, hui.indices, fun hvalid => absurd hvalid Bool.false_ne_true, hui.working⟩
    · split
      · rename_i hdevice _
        exact h.withUi (selectPort_good env h.table hui.toSound hdevice)
      · exact h

/-- The tap answers ADD at the prompt, and the port selected is full. -/
def addsToFull (s : Sketch) (t : Tap) : Bool :=
  match s.ui.editCtx.selectedDevice, s.ui.editCtx.selectedPort with
  | some d, some p => s.ui.currentPage == .editCapture && answersAdd s.ui t &&
      mkhMaxBindingsPerPort ≤ effectiveBindingCount s.live.config s.ui d p
  | _, _ => false

theorem dispatchCaptureTouch_good (env : TapEnv) {s : Sketch} (h : s.Good) (t : Tap)
    (hpage : s.ui.currentPage = .editCapture) (hadd : addsToFull s t = false) :
    (dispatchCaptureTouch env s t).Good := by
  unfold dispatchCaptureTouch
  split
  · rename_i d p hdevice hport
    split
    · exact handleTestToggleTap_good h
    · refine h.withUi (captureButtons_good env t h.table h.ui hpage ⟨hdevice, hport⟩ ?_)
      intro hanswer
      unfold addsToFull at hadd
      simpa [hdevice, hport, hpage, hanswer] using hadd
  · exact h

theorem settingsTouch_good (env : TapEnv) {d : Device} {p : Port} {s : Sketch} (h : s.Good)
    (t : Tap) (hpage : s.ui.currentPage = .editSettings) (hselects : s.ui.selects d p) :
    (settingsTouch env d p s t).Good := by
  have hui := h.ui
  unfold settingsTouch
  split
  · exact h.withUi (settingsPrompt_good env t h.table hui hpage hselects)
  · split
    · exact handleTestToggleTap_good h
    · split
      · exact ⟨h.table, ⟨⟨hui.pending, hui.indices, hui.captured, editFields_max t hui.working⟩,
          ⟨hui.index, hui.prompt, hui.shown⟩⟩⟩
      · split
        · exact settingsReset_good env h hpage hselects
        · split
          · exact performSaveAndExit_good env.oracle env.millis h.table
              (commitShown_sound h.table hui.toSound (hui.shown d p hselects hpage))
          · exact h.withUi (settingsButtons_good env t h.table hui hpage hselects)

theorem dispatchSettingsTouch_good (env : TapEnv) {s : Sketch} (h : s.Good) (t : Tap)
    (hpage : s.ui.currentPage = .editSettings) : (dispatchSettingsTouch env s t).Good := by
  unfold dispatchSettingsTouch
  split
  · rename_i hdevice hport
    exact settingsTouch_good env h t hpage ⟨hdevice, hport⟩
  · exact h

theorem toggleRow_good (env : TapEnv) {s : Sketch} (h : s.Good) (d : Device) :
    (toggleRow env s d).Good := by
  unfold toggleRow
  split <;> exact ⟨h.table, h.ui⟩

theorem rowTap_good (env : TapEnv) {s : Sketch} (h : s.Good) (d : Device) :
    (rowTap env s d).Good := by
  have hui := h.ui
  unfold rowTap
  split
  · exact h
  · split
    · refine toggleRow_good env (h.withUi ?_) d
      exact ⟨⟨hui.pending, hui.indices, hui.captured, hui.working⟩,
        ⟨hui.index, hui.prompt, hui.shown⟩⟩
    · exact h

theorem dashboardTouch_good (env : TapEnv) {s : Sketch} (h : s.Good) (t : Tap) :
    (dashboardTouch env s t).Good := by
  unfold dashboardTouch
  split
  · exact h.withUi (goToPage_elsewhere (clearEditorSession_sound h.ui.toSound) (by simp) (by simp)
      env.millis)
  · exact rowTap_good env h _

theorem idleTouch_good (env : TapEnv) {s : Sketch} (h : s.Good) (t : Tap) :
    (idleTouch env s t).Good := by
  have hui := h.ui
  unfold idleTouch
  split
  · exact ⟨h.table, ⟨⟨hui.pending, hui.indices, hui.captured, hui.working⟩,
      ⟨hui.index, hui.prompt, hui.shown⟩⟩⟩
  · exact h.withUi (goToPage_elsewhere hui.toSound (by simp) (by simp) env.millis)

/-- **A tap keeps the invariant**, unless it adds to a full port. -/
theorem pageTouch_good (env : TapEnv) {s : Sketch} (h : s.Good) (t : Tap)
    (hadd : addsToFull s t = false) : (pageTouch env s t).Good := by
  unfold pageTouch
  split
  · exact dashboardTouch_good env h t
  · exact h.withUi (goToPage_elsewhere h.ui.toSound (by simp) (by simp) env.millis)
  · exact h
  · exact dispatchHubSelectTouch_good env h t
  · exact dispatchPortSelectTouch_good env h t
  · rename_i hpage
    exact dispatchCaptureTouch_good env h t hpage hadd
  · rename_i hpage
    exact dispatchSettingsTouch_good env h t hpage
  · exact idleTouch_good env h t

theorem dispatchTouch_good (env : TapEnv) {s : Sketch} (h : s.Good) (t : Tap)
    (hadd : addsToFull s t = false) : (dispatchTouch env s t).Good := by
  have hui := h.ui
  refine pageTouch_good env (h.withUi ?_) t hadd
  exact ⟨⟨hui.pending, hui.indices, hui.captured, hui.working⟩,
    ⟨hui.index, hui.prompt, hui.shown⟩⟩

/-! ### The end of an iteration -/

theorem idleEntry_good (millis : UInt32) {s : Sketch} (h : s.Good) : (idleEntry millis s).Good := by
  unfold idleEntry
  split
  · exact h.withUi (goToPage_elsewhere h.ui.toSound (by simp) (by simp) millis)
  · exact h

theorem enterDeepSleep_good (now : SetterClock) {s : Sketch} (h : s.Good) :
    (enterDeepSleep now s).Good := ⟨h.table, h.ui⟩

theorem idleTick_good (tick : Tick) {s : Sketch} (h : s.Good) : (idleTick tick s).1.Good := by
  have hui := h.ui
  have hreleased : (s.withUi fun _ ui => { ui with idleSleepHoldActive := false }).Good :=
    h.withUi ⟨⟨hui.pending, hui.indices, hui.captured, hui.working⟩,
      ⟨hui.index, hui.prompt, hui.shown⟩⟩
  unfold idleTick
  split
  · exact h.withUi (goToPage_elsewhere hui.toSound (by simp) (by simp) tick.idleMillis)
  · split
    · simp only
      split
      · exact hreleased.withUi
          (goToPage_elsewhere hreleased.ui.toSound (by simp) (by simp) tick.idleMillis)
      · split
        · exact enterDeepSleep_good _ hreleased
        · exact h
    · split
      · exact enterDeepSleep_good _ h
      · exact h

theorem captureChecks_input (ctl : ControllerData) :
    ∀ check ∈ captureChecks ctl, check.2 ≠ .none := by
  unfold captureChecks
  simp

/-- A capture is a real input, and it takes no prompt down that rests on one. -/
theorem checkCapture_good (bp : Bluepad32) {s : Sketch} (h : s.Good)
    (hpage : s.ui.currentPage = .editCapture) : (checkCapture bp s).Good := by
  have hui := h.ui
  unfold checkCapture
  split
  · exact h
  · simp only
    split
    · split
      · rename_i check hfind
        have hinput := captureChecks_input _ check (List.mem_of_find?_eq_some hfind)
        refine h.withUi ⟨⟨hui.pending, hui.indices, fun _ => hinput, hui.working⟩,
          ⟨hui.index, ?_, ?_⟩⟩
        · intro d p hselects hup hprompt
          exact ⟨rfl, (hui.prompt d p hselects hup hprompt).2⟩
        · intro d p _ hup
          exact absurd (hpage.symm.trans hup) (by simp)
      · exact h
    · exact h

theorem pageTick_good (tick : Tick) (bp : Bluepad32) {s : Sketch} (h : s.Good) :
    (pageTick tick bp s).1.Good := by
  unfold pageTick
  split
  · exact idleTick_good tick h
  · rename_i hpage
    show (if s.ui.capturePromptActive then s else checkCapture bp s).Good
    split
    · exact h
    · exact checkCapture_good bp h hpage
  · exact h

/-! ### Both tasks -/

/-- The editor and the table are the same. -/
def SameEditor (s s' : Sketch) : Prop := s'.ui = s.ui ∧ s'.live.config = s.live.config

theorem SameEditor.refl (s : Sketch) : SameEditor s s := ⟨rfl, rfl⟩

theorem SameEditor.trans {s₁ s₂ s₃ : Sketch} (h₁ : SameEditor s₁ s₂) (h₂ : SameEditor s₂ s₃) :
    SameEditor s₁ s₃ := ⟨h₂.1.trans h₁.1, h₂.2.trans h₁.2⟩

theorem SameEditor.good {s s' : Sketch} (h : SameEditor s s') (hs : s.Good) : s'.Good := by
  obtain ⟨hui, hconfig⟩ := h
  refine ⟨?_, ?_⟩
  · rw [hconfig]
    exact hs.table
  · rw [hui, hconfig]
    exact hs.ui

theorem SameEditor.addsToFull {s s' : Sketch} (h : SameEditor s s') (t : Tap) :
    addsToFull s' t = addsToFull s t := by
  obtain ⟨hui, hconfig⟩ := h
  unfold MK1Tank.addsToFull
  rw [hui, hconfig]

theorem onConnectedController_editor (i : Seat) (s : Sketch) :
    SameEditor s (onConnectedController i s) := by
  unfold onConnectedController
  split <;> exact SameEditor.refl s

theorem onDisconnectedController_editor (now : SetterClock) (i : Seat) (s : Sketch) :
    SameEditor s (onDisconnectedController now i s) := by
  unfold onDisconnectedController
  split
  · exact SameEditor.refl s
  · simp only
    split
    · exact ⟨rfl, disconnectFailsafe_config now s.live⟩
    · exact SameEditor.refl s

theorem processControllers_editor (bp : Bluepad32) (s : Sketch) :
    SameEditor s (processControllers bp s) := by
  obtain ⟨xwcState, hnote⟩ := processControllers_note bp s
  rw [hnote]
  exact SameEditor.refl s

/-- Neither the callbacks nor the note touch the editor or the table. -/
theorem fetchControllers_editor (tick : Tick) (t : Tank) :
    SameEditor t.sketch (fetchControllers tick t).sketch :=
  fetchControllers_keeps (fun i s hs => hs.trans (onConnectedController_editor i s))
    (fun i s hs => hs.trans (onDisconnectedController_editor tick.failsafeClock i s))
    (fun bp s hs => hs.trans (processControllers_editor bp s)) (SameEditor.refl t.sketch)

theorem sweepHeld_editor (tick : Tick) (t : Tank) :
    SameEditor t.sketch (sweepHeld tick t).sketch := by
  cases hheld : t.sketch.myControllers 0 with
  | none =>
    rw [sweepHeld_none tick hheld]
    exact SameEditor.refl t.sketch
  | some ctl =>
    refine ⟨?_, ?_⟩
    · unfold sweepHeld
      rw [hheld]
    · rw [sweepHeld_some tick hheld, processMappedInputs_config]

/-- The pages of an iteration start from the editor and the table the iteration started from. -/
theorem swept_editor (tick : Tick) (t : Tank) :
    SameEditor t.sketch (sweepHeld tick (fetchControllers tick t)).sketch :=
  (fetchControllers_editor tick t).trans (sweepHeld_editor tick _)

theorem runPages_good {tick : Tick} {t : Tank} (h : t.sketch.Good)
    (hadd : tick.tap.any (addsToFull t.sketch) = false) : (runPages tick t).sketch.Good := by
  show (pageTick tick t.bp32 (idleEntry tick.idleMillis _)).1.Good
  refine pageTick_good tick _ (idleEntry_good _ ?_)
  split
  · rename_i tap htap
    rw [htap] at hadd
    exact dispatchTouch_good tick.tapEnv h tap hadd
  · exact h

/-- No tap answers ADD at the prompt for a port that is full. -/
def AddFits (t : Tank) : TankStep → Prop
  | .loop tick => t.asleep = true ∨ tick.tap.any (addsToFull t.sketch) = false
  | .btstack _ => True

instance (t : Tank) (step : TankStep) : Decidable (AddFits t step) := by
  cases step <;> unfold AddFits <;> infer_instance

/-- An iteration is the pages' part of it, from the same editor and table, unless the tank sleeps. -/
theorem loop_cases (t : Tank) (tick : Tick) :
    (t.asleep = true ∧ loop t tick = t) ∨
      (t.asleep = false ∧ ∃ swept : Tank, SameEditor t.sketch swept.sketch ∧
        loop t tick = runPages tick swept) := by
  unfold loop
  cases hasleep : t.asleep with
  | true => exact Or.inl ⟨rfl, rfl⟩
  | false => exact Or.inr ⟨rfl, _, swept_editor tick t, rfl⟩

/-- **What the taps and the moments between them keep, every step keeps**, when it is about the editor
and the table. -/
theorem step_invariant {P : Sketch → Prop} (hsame : ∀ s s', SameEditor s s' → P s → P s')
    (htap : ∀ env s tap, P s → P (dispatchTouch env s tap))
    (hidle : ∀ millis s, P s → P (idleEntry millis s))
    (hpages : ∀ tick bp s, P s → P (pageTick tick bp s).1) (t : Tank) (step : TankStep)
    (h : P t.sketch) : P (t.step step).sketch := by
  cases step with
  | btstack step => exact hsame t.sketch _ ⟨rfl, rfl⟩ h
  | loop tick =>
    show P (loop t tick).sketch
    rcases loop_cases t tick with ⟨-, heq⟩ | ⟨-, swept, heditor, heq⟩
    · rw [heq]
      exact h
    · have hswept := hsame _ _ heditor h
      rw [heq, runPages_eq]
      refine hpages tick _ _ (hidle _ _ ?_)
      unfold afterTap
      split
      · exact htap _ _ _ hswept
      · exact hswept

theorem step_good (t : Tank) (step : TankStep) (h : t.sketch.Good) (hfits : AddFits t step) :
    (t.step step).sketch.Good := by
  cases step with
  | loop tick =>
    show (loop t tick).sketch.Good
    rcases loop_cases t tick with ⟨-, heq⟩ | ⟨hawake, swept, hsame, heq⟩
    · rw [heq]
      exact h
    · rw [heq]
      refine runPages_good (hsame.good h) ?_
      rw [funext hsame.addsToFull]
      exact hfits.resolve_left (by simp [hawake])
  | btstack step => exact ⟨h.table, h.ui⟩

/-! ### The cap -/

/-- The editor is within its arrays: every count and every index used is, and every binding stored,
in the table or in a working copy, has a real input and a cap of at most 100 percent. -/
structure Sketch.WithinCap (s : Sketch) : Prop where
  liveCount : ∀ d p, (s.live.config.table d p).bindings.length ≤ mkhMaxBindingsPerPort
  liveStored : TableWellFormed s.live.config.table
  pending : ∀ d p, (s.ui.pendingEdits d p).Fits
  indices : ∀ i ∈ s.ui.bindingIndices, i < mkhMaxBindingsPerPort

theorem Sketch.Good.withinCap {s : Sketch} (h : s.Good) : s.WithinCap where
  liveCount d p := (s.live.config.table d p).count_le
  liveStored := h.table
  pending := h.ui.pending
  indices := h.ui.indices

/-- ADD for a full port: the index one past the array is used. -/
theorem pageTouch_full (env : TapEnv) {s : Sketch} (h : s.Good) (t : Tap)
    (hadd : addsToFull s t = true) :
    mkhMaxBindingsPerPort ∈ (pageTouch env s t).ui.bindingIndices ∧
      (pageTouch env s t).ui.currentPage = .editSettings := by
  unfold addsToFull at hadd
  split at hadd
  · rename_i d p hdevice hport
    simp only [Bool.and_eq_true, beq_iff_eq, decide_eq_true_eq] at hadd
    obtain ⟨⟨hpage, hanswer⟩, hfull⟩ := hadd
    have hnotoggle : (!s.ui.capturePromptActive && !s.ui.captureReplaceAddPromptActive &&
        t.within testToggle) = false := by
      unfold answersAdd at hanswer
      simp only [Bool.and_eq_true] at hanswer
      simp [hanswer.1.1.2]
    have htouch : (pageTouch env s t).ui = captureButtons env d p t s.live.config s.ui := by
      unfold pageTouch
      simp only [hpage]
      unfold dispatchCaptureTouch
      simp only [hdevice, hport, hnotoggle, Bool.false_eq_true, if_false]
      rfl
    rw [htouch]
    exact captureButtons_full env t h.ui hpage ⟨hdevice, hport⟩ hanswer (Nat.not_lt.mpr hfull)
  · exact absurd hadd Bool.false_ne_true

theorem dispatchTouch_full (env : TapEnv) {s : Sketch} (h : s.Good) (t : Tap)
    (hadd : addsToFull s t = true) :
    mkhMaxBindingsPerPort ∈ (dispatchTouch env s t).ui.bindingIndices ∧
      (dispatchTouch env s t).ui.currentPage = .editSettings := by
  have hui := h.ui
  refine pageTouch_full env (h.withUi ?_) t hadd
  exact ⟨⟨hui.pending, hui.indices, hui.captured, hui.working⟩,
    ⟨hui.index, hui.prompt, hui.shown⟩⟩

/-- Off the dashboard, the capture page and the idle screen, nothing follows the tap. -/
theorem endOfIteration_still (tick : Tick) (bp : Bluepad32) {s : Sketch}
    (hdashboard : s.ui.currentPage ≠ .dashboard) (hcapture : s.ui.currentPage ≠ .editCapture)
    (hidle : s.ui.currentPage ≠ .idle) :
    pageTick tick bp (idleEntry tick.idleMillis s) = (s, false) := by
  have hentry : idleEntry tick.idleMillis s = s := by
    unfold idleEntry
    rw [if_neg fun h => hdashboard h.1]
  rw [hentry]
  unfold pageTick
  split
  · rename_i hpage
    exact absurd hpage hidle
  · rename_i hpage
    exact absurd hpage hcapture
  · rfl

theorem runPages_settings {tick : Tick} {t : Tank} {tap : Tap} (htap : tick.tap = some tap)
    (hpage : (dispatchTouch tick.tapEnv t.sketch tap).ui.currentPage = .editSettings) :
    (runPages tick t).sketch = dispatchTouch tick.tapEnv t.sketch tap := by
  unfold runPages
  simp only [htap]
  rw [endOfIteration_still tick t.bp32 (by simp [hpage]) (by simp [hpage]) (by simp [hpage])]

theorem step_breaks (t : Tank) (step : TankStep) (h : t.sketch.Good) (hfits : ¬ AddFits t step) :
    ¬ (t.step step).sketch.WithinCap := by
  cases step with
  | btstack step => exact absurd trivial hfits
  | loop tick =>
    intro hwithin
    have hwithin' : (loop t tick).sketch.WithinCap := hwithin
    unfold AddFits at hfits
    rw [not_or] at hfits
    rcases loop_cases t tick with ⟨hasleep, -⟩ | ⟨-, swept, hsame, heq⟩
    · exact hfits.1 hasleep
    · rcases htap : tick.tap with _ | tap
      · exact hfits.2 (by rw [htap]; rfl)
      · have hadd : addsToFull swept.sketch tap = true := by
          rw [hsame.addsToFull]
          simpa [htap] using hfits.2
        obtain ⟨hindex, hpage⟩ := dispatchTouch_full tick.tapEnv (hsame.good h) tap hadd
        rw [heq, runPages_settings htap hpage] at hwithin'
        exact absurd (hwithin'.indices _ hindex) (Nat.lt_irrefl _)

theorem boot_good {config : MkhConfig} (hconfig : TableWellFormed config.table) (files : Files Path) :
    (Tank.boot config files).sketch.Good := by
  refine ⟨hconfig, Ui.Sound.good_elsewhere ?_ (by simp [Tank.boot]) (by simp [Tank.boot])⟩
  refine ⟨?_, ?_, ?_, ?_⟩
  · exact fun d p => ⟨Nat.zero_le _, fun i hi => absurd hi (Nat.not_lt_zero i)⟩
  · exact fun i hi => absurd hi (by simp [Tank.boot, Ui.boot])
  · exact fun hvalid => absurd hvalid Bool.false_ne_true
  · exact Nat.le_refl 100

/-- **The editor stays within its cap** in a run, from any well-formed table, exactly when no tap of
the run answers ADD at the prompt for a full port. -/
theorem editor_within_cap (config : MkhConfig) (files : Files Path) (steps : List TankStep)
    (hconfig : TableWellFormed config.table) :
    (∀ front back, steps = front ++ back →
      (after Tank.step (Tank.boot config files) front).sketch.WithinCap) ↔
      Meets Tank.step AddFits (Tank.boot config files) steps :=
  always_iff_meets step_good (fun _ h => h.withinCap) step_breaks steps _ (boot_good hconfig files)

/-! ### At eight bindings -/

/-- Seven bindings on port A of hub 1. -/
def sevenBindings : MkhConfig :=
  blankConfig.setPort 0 mkhPortA
    { bindings := List.replicate 7 (compiledInBinding .lsns), fromFile := true, count_le := by decide }

/-- An iteration with a tap, the controller silent. -/
def tapAt (x y : Int) : TankStep := .loop (tickOf .noData (some ⟨x, y⟩))

/-- From start-up to the capture page of port A, through ADD, and a press of these buttons there. -/
def pressForEighth (buttons : UInt16) : List TankStep :=
  [tapAt 0 0, tapAt 5 5, tapAt 30 40, tapAt 30 120, tapAt 90 140,
    .loop (tickOf (.success { ControllerData.zero with
      klass := .gamepad, gamepadButtons := buttons }) none)]

/-- The A button. -/
def captureForEighth : List TankStep := pressForEighth 0x0001

/-- NEXT, then ADD. -/
def nextAdd : List TankStep := [tapAt 200 190, tapAt 200 190]

theorem editor_within_cap_eighth :
    (after Tank.step (Tank.boot sevenBindings fun _ => none)
      (captureForEighth ++ nextAdd)).sketch.WithinCap :=
  (editor_within_cap sevenBindings (fun _ => none) (captureForEighth ++ nextAdd)
    (by decide +kernel)).mpr (by decide +kernel) (captureForEighth ++ nextAdd) []
    (List.append_nil _).symm

/-- BACK leads to the capture page with the capture still held, and ADD takes a ninth binding. -/
theorem ninth_binding_added :
    ¬ ∀ config files steps, TableWellFormed config.table →
      (after Tank.step (Tank.boot config files) steps).sketch.WithinCap := by
  intro hall
  have hwithin := hall sevenBindings (fun _ => none)
    (captureForEighth ++ nextAdd ++ [tapAt 30 190] ++ nextAdd) (by decide +kernel)
  exact absurd (hwithin.indices mkhMaxBindingsPerPort (by decide +kernel)) (Nat.lt_irrefl _)

end MK1Tank
