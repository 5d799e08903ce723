/-
The capture page, and what is captured there.

The capture and the settings page are reached with a port selected.  The two prompts of
the capture page are up on that page only, one at a time, and only over a capture: so
much holds in every state.  Whether the capture that a prompt asks about stays is another
matter.  The page's own taps leave it alone until the prompt is answered, but the
controller is looked at between two taps, and only one of the prompts keeps it out.
-/
import MK1Tank.Proofs.SettingsExits

namespace MK1Tank

open FileProgram Runs

/-! ### The selection and the prompts -/

/-- A port is selected for editing. -/
def Ui.focused (ui : Ui) : Prop := ui.editCtx.selectedValid = true ∧ ∃ d p, ui.selects d p

/-- Neither prompt of the capture page is up. -/
def Ui.quiet (ui : Ui) : Prop :=
  ui.capturePromptActive = false ∧ ui.captureReplaceAddPromptActive = false

/-- What the editor's pages leave alone when they edit. -/
structure SameFocus (ui ui' : Ui) : Prop where
  device : ui'.editCtx.selectedDevice = ui.editCtx.selectedDevice
  port : ui'.editCtx.selectedPort = ui.editCtx.selectedPort
  valid : ui'.editCtx.selectedValid = ui.editCtx.selectedValid
  keep : ui'.capturePromptActive = ui.capturePromptActive
  replace : ui'.captureReplaceAddPromptActive = ui.captureReplaceAddPromptActive

theorem SameFocus.trans {ui₁ ui₂ ui₃ : Ui} (h₁ : SameFocus ui₁ ui₂) (h₂ : SameFocus ui₂ ui₃) :
    SameFocus ui₁ ui₃ :=
  ⟨h₂.device.trans h₁.device, h₂.port.trans h₁.port, h₂.valid.trans h₁.valid,
    h₂.keep.trans h₁.keep, h₂.replace.trans h₁.replace⟩

theorem SameFocus.focused {ui ui' : Ui} (h : SameFocus ui ui') (hfocus : ui.focused) :
    ui'.focused := by
  obtain ⟨hvalid, d, p, hdevice, hport⟩ := hfocus
  exact ⟨h.valid.trans hvalid, d, p, h.device.trans hdevice, h.port.trans hport⟩

theorem SameFocus.quiet {ui ui' : Ui} (h : SameFocus ui ui') (hquiet : ui.quiet) : ui'.quiet :=
  ⟨h.keep.trans hquiet.1, h.replace.trans hquiet.2⟩

section Focus

variable (cfg : MkhConfig) (ui : Ui) (d : Device) (p : Port)

theorem seeded_focus : SameFocus ui (settingsSeedPendingIfNeeded cfg ui d p) := by
  unfold settingsSeedPendingIfNeeded
  split <;> exact ⟨rfl, rfl, rfl, rfl, rfl⟩

theorem storeInList_focus (idx : Nat) (b : Binding) :
    SameFocus ui (storeInList ui d p idx b) := by
  unfold storeInList
  split <;> exact ⟨rfl, rfl, rfl, rfl, rfl⟩

theorem settingsCommitWorkingIfDirty_focus (idx : Nat) :
    SameFocus ui (settingsCommitWorkingIfDirty cfg ui d p idx) := by
  unfold settingsCommitWorkingIfDirty
  split
  · exact (seeded_focus cfg ui d p).trans (storeInList_focus _ d p idx _)
  · exact ⟨rfl, rfl, rfl, rfl, rfl⟩

theorem commitShown_focus : SameFocus ui (commitShown cfg ui d p) :=
  (seeded_focus cfg ui d p).trans (storeInList_focus _ d p _ _)

theorem pageTo_focus (idx target : Nat) : SameFocus ui (pageTo cfg ui d p idx target) :=
  (settingsCommitWorkingIfDirty_focus cfg ui d p idx).trans ⟨rfl, rfl, rfl, rfl, rfl⟩

theorem removeShown_focus (idx : Nat) : SameFocus ui (removeShown ui d p idx) := by
  unfold removeShown
  simp only
  split <;> exact ⟨rfl, rfl, rfl, rfl, rfl⟩

theorem enterSettings_focus : SameFocus ui (enterSettings cfg ui d p) := by
  refine (seeded_focus cfg ui d p).trans ?_
  unfold enterSettings
  generalize settingsSeedPendingIfNeeded cfg ui d p = seeded
  generalize ui.editCtx.editingBindingIndex = idx
  rcases Nat.lt_or_ge idx (seeded.pendingEdits d p).bindingCount with hlisted | hnew
  · rw [enterSeeded_listed hlisted]
    split <;> exact ⟨rfl, rfl, rfl, rfl, rfl⟩
  · rw [enterSeeded_new hnew]
    split <;> exact ⟨rfl, rfl, rfl, rfl, rfl⟩

theorem showReset_focus : SameFocus ui (showReset d p cfg ui) := by
  unfold showReset
  simp only
  split <;> exact ⟨rfl, rfl, rfl, rfl, rfl⟩

/-- Every page but the capture page is entered with the selection and the prompts as they are. -/
theorem goToPage_focus {page : UiPage} (hpage : page ≠ .editCapture) (millis : UInt32) :
    SameFocus ui (goToPage page millis cfg ui) := by
  unfold goToPage
  cases page with
  | editCapture => exact absurd rfl hpage
  | splash | stats | dashboard | editSelect | idle => exact ⟨rfl, rfl, rfl, rfl, rfl⟩
  | editPorts =>
    show SameFocus ui (drawPortSelect cfg { ui with currentPage := .editPorts })
    unfold drawPortSelect
    split <;> exact ⟨rfl, rfl, rfl, rfl, rfl⟩
  | editSettings =>
    unfold drawPage
    simp only
    split
    · have henter : ∀ d p, SameFocus { ui with currentPage := .editSettings }
          (enterSettings cfg { ui with currentPage := .editSettings } d p) :=
        enterSettings_focus cfg _
      exact ⟨(henter _ _).device, (henter _ _).port, (henter _ _).valid, (henter _ _).keep,
        (henter _ _).replace⟩
    · exact ⟨rfl, rfl, rfl, rfl, rfl⟩

end Focus

/-! ### In every state -/

/-- Where the capture page's flags stand. -/
structure Ui.Oriented (ui : Ui) : Prop where
  selected : ui.currentPage = .editCapture ∨ ui.currentPage = .editSettings → ui.focused
  prompts : ui.capturePromptActive = true ∨ ui.captureReplaceAddPromptActive = true →
    ui.currentPage = .editCapture ∧ ui.editCtx.captureValid = true
  single : ui.capturePromptActive = true → ui.captureReplaceAddPromptActive = false

section Oriented

variable {cfg : MkhConfig} {ui : Ui} {d : Device} {p : Port}

theorem Ui.Oriented.of_quiet (hquiet : ui.quiet)
    (hfocus : ui.currentPage = .editCapture ∨ ui.currentPage = .editSettings → ui.focused) :
    ui.Oriented where
  selected := hfocus
  prompts hup := by
    rcases hup with hup | hup
    · exact absurd (hquiet.1.symm.trans hup) Bool.false_ne_true
    · exact absurd (hquiet.2.symm.trans hup) Bool.false_ne_true
  single _ := hquiet.2

theorem Ui.Oriented.quiet (h : ui.Oriented) (hpage : ui.currentPage ≠ .editCapture) : ui.quiet := by
  constructor
  · by_contra hup
    exact hpage (h.prompts (Or.inl (by simpa using hup))).1
  · by_contra hup
    exact hpage (h.prompts (Or.inr (by simpa using hup))).1

theorem goToPage_oriented {page : UiPage} (hquiet : page ≠ .editCapture → ui.quiet)
    (hfocus : page = .editCapture ∨ page = .editSettings → ui.focused) (millis : UInt32)
    (cfg : MkhConfig) : (goToPage page millis cfg ui).Oriented := by
  by_cases hpage : page = .editCapture
  · subst hpage
    exact Ui.Oriented.of_quiet ⟨rfl, rfl⟩ fun _ => hfocus (Or.inl rfl)
  · have hsame := goToPage_focus cfg ui hpage millis
    refine Ui.Oriented.of_quiet (hsame.quiet (hquiet hpage)) fun hup => hsame.focused (hfocus ?_)
    rw [goToPage_currentPage] at hup
    exact hup

/-- A page that needs no selection. -/
theorem goToPage_oriented_free (page : UiPage) (hquiet : ui.quiet) (hcapture : page ≠ .editCapture)
    (hsettings : page ≠ .editSettings) (millis : UInt32) (cfg : MkhConfig) :
    (goToPage page millis cfg ui).Oriented :=
  goToPage_oriented (fun _ => hquiet) (fun hup => (hup.elim hcapture hsettings).elim) millis cfg

theorem goToPage_back_oriented (hquiet : ui.quiet) (hfocus : ui.focused) (shownUi : Ui)
    (millis : UInt32) (cfg : MkhConfig) :
    (goToPage (backTarget shownUi) millis cfg ui).Oriented :=
  goToPage_oriented (fun _ => hquiet) (fun _ => hfocus) millis cfg

theorem leaveEditor_oriented (env : TapEnv) (cfg : MkhConfig) (hquiet : ui.quiet) :
    (leaveEditor env cfg ui).Oriented := by
  have hcleared : (clearEditorSession ui).quiet := hquiet
  exact goToPage_oriented_free .dashboard hcleared (by simp) (by simp) env.millis cfg

theorem handleTestToggleTap_oriented {s : Sketch} (h : s.ui.Oriented) :
    (handleTestToggleTap s).ui.Oriented := by
  unfold handleTestToggleTap
  split <;> exact ⟨h.selected, h.prompts, h.single⟩

theorem performSaveAndExit_oriented (oracle : FileOracle) (millis : UInt32) {s : Sketch}
    (hquiet : s.ui.quiet) : (performSaveAndExit oracle millis s).ui.Oriented := by
  rw [performSaveAndExit_ui]
  have hcleared : (clearEditorSession s.ui).quiet := hquiet
  exact goToPage_oriented_free .dashboard hcleared (by simp) (by simp) millis _

/-! ### The pages -/

theorem dispatchHubSelectTouch_oriented (env : TapEnv) {s : Sketch} (t : Tap)
    (h : s.ui.Oriented) (hpage : s.ui.currentPage = .editSelect) :
    (dispatchHubSelectTouch env s t).ui.Oriented := by
  have hquiet := h.quiet (by simp [hpage])
  unfold dispatchHubSelectTouch
  split
  · split
    · exact performSaveAndExit_oriented _ _ hquiet
    · split
      · exact leaveEditor_oriented env s.live.config hquiet
      · exact h
  · split
    · split
      · rw [confirmResetAll_ui]
        exact leaveEditor_oriented env _ hquiet
      · split
        · exact ⟨h.selected, h.prompts, h.single⟩
        · exact h
    · split
      · exact handleTestToggleTap_oriented h
      · split
        · exact ⟨h.selected, h.prompts, h.single⟩
        · split
          · split
            · exact ⟨h.selected, h.prompts, h.single⟩
            · exact leaveEditor_oriented env s.live.config hquiet
          · split
            · split
              · exact h
              · show (selectHub env _ s.live.config s.ui).Oriented
                refine goToPage_oriented_free .editPorts ?_ (by simp) (by simp) env.millis _
                exact hquiet
            · exact h

theorem focusPort_focused (hdevice : ui.editCtx.selectedDevice = some d) (p : Port) :
    (focusPort ui p).focused := by
  obtain ⟨hsame, hport, -⟩ := focusPort_ctx ui p
  exact ⟨rfl, d, p, hsame.trans hdevice, hport⟩

theorem focusPort_quiet (hquiet : ui.quiet) (p : Port) : (focusPort ui p).quiet := by
  unfold focusPort
  simp only
  split <;> exact hquiet

theorem openPort_oriented (env : TapEnv) (d : Device) (p : Port) (cfg : MkhConfig)
    (hquiet : ui.quiet) (hfocus : ui.focused) : (openPort env d p cfg ui).Oriented := by
  unfold openPort
  split
  · show (goToPage .editSettings env.millis cfg _).Oriented
    refine goToPage_oriented (fun _ => ?_) (fun _ => ?_) env.millis cfg
    · exact hquiet
    · exact hfocus
  · exact goToPage_oriented (fun _ => hquiet) (fun _ => hfocus) env.millis cfg

theorem dispatchPortSelectTouch_oriented (env : TapEnv) {s : Sketch} (t : Tap)
    (h : s.ui.Oriented) (hpage : s.ui.currentPage = .editPorts) :
    (dispatchPortSelectTouch env s t).ui.Oriented := by
  have hquiet := h.quiet (by simp [hpage])
  unfold dispatchPortSelectTouch
  split
  · exact handleTestToggleTap_oriented h
  · split
    · have hcleared : (clearEditContext s.ui).quiet := hquiet
      exact goToPage_oriented_free .editSelect hcleared (by simp) (by simp) env.millis s.live.config
    · split
      · rename_i d p hdevice _
        exact openPort_oriented env d p s.live.config (focusPort_quiet hquiet p)
          (focusPort_focused hdevice p)
      · exact h

theorem captureButtons_oriented (env : TapEnv) (t : Tap) (h : ui.Oriented)
    (hpage : ui.currentPage = .editCapture) : (captureButtons env d p t cfg ui).Oriented := by
  have hfocus := h.selected (Or.inl hpage)
  unfold captureButtons
  split
  · rename_i hkeep
    have hreplace := h.single hkeep
    split
    · have hdown : ({ ui with capturePromptActive := false } : Ui).quiet := ⟨rfl, hreplace⟩
      exact goToPage_oriented_free .editPorts hdown (by simp) (by simp) env.millis cfg
    · split
      · have hdown : ({ ui.clearCapture with capturePromptActive := false } : Ui).quiet :=
          ⟨rfl, hreplace⟩
        exact goToPage_oriented_free .editPorts hdown (by simp) (by simp) env.millis cfg
      · exact h
  · rename_i hkeep
    have hkeepDown : ui.capturePromptActive = false := by simpa using hkeep
    have hcommit : ∀ idx, (commitCapture env idx cfg ui).Oriented := by
      intro idx
      refine goToPage_oriented (fun _ => ⟨?_, rfl⟩) (fun _ => ?_) env.millis cfg
      · exact hkeepDown
      · exact hfocus
    split
    · split
      · exact hcommit _
      · split
        · exact hcommit _
        · exact h
    · rename_i hreplace
      have hquiet : ui.quiet := ⟨hkeepDown, by simpa using hreplace⟩
      split
      · split
        · rename_i hvalid
          exact ⟨h.selected, fun _ => ⟨hpage, hvalid⟩, fun _ => hquiet.2⟩
        · exact goToPage_oriented_free .editPorts hquiet (by simp) (by simp) env.millis cfg
      · split
        · rename_i hnext
          split
          · refine ⟨h.selected, fun _ => ⟨hpage, Bool.and_elim_right hnext⟩, fun hup => ?_⟩
            exact absurd (hkeepDown.symm.trans hup) Bool.false_ne_true
          · exact hcommit 0
        · exact h

theorem settingsPrompt_oriented (env : TapEnv) (t : Tap) (h : ui.Oriented)
    (hpage : ui.currentPage = .editSettings) : (settingsPrompt env d p t cfg ui).Oriented := by
  have hquiet := h.quiet (by simp [hpage])
  have hfocus := h.selected (Or.inr hpage)
  have hcommitted := commitShown_focus cfg ui d p
  unfold settingsPrompt
  split
  · have hdown : SameFocus ui { commitShown cfg ui d p with settingsPromptActive := false } :=
      hcommitted.trans ⟨rfl, rfl, rfl, rfl, rfl⟩
    exact goToPage_back_oriented (hdown.quiet hquiet) (hdown.focused hfocus) ui env.millis cfg
  · split
    · have hdown : SameFocus ui { ui with settingsPromptActive := false } := ⟨rfl, rfl, rfl, rfl, rfl⟩
      exact goToPage_back_oriented (hdown.quiet hquiet) (hdown.focused hfocus) ui env.millis cfg
    · exact h

/-- From the settings page, whatever keeps the focus. -/
theorem oriented_of_sameFocus {ui' : Ui} (h : ui.Oriented) (hpage : ui.currentPage = .editSettings)
    (hsame : SameFocus ui ui') : ui'.Oriented :=
  Ui.Oriented.of_quiet (hsame.quiet (h.quiet (by simp [hpage])))
    fun _ => hsame.focused (h.selected (Or.inr hpage))

theorem settingsButtons_oriented (env : TapEnv) (t : Tap) (h : ui.Oriented)
    (hpage : ui.currentPage = .editSettings) : (settingsButtons env d p t cfg ui).Oriented := by
  have hquiet := h.quiet (by simp [hpage])
  have hfocus := h.selected (Or.inr hpage)
  have hpaged : ∀ idx target, (pageTo cfg ui d p idx target).Oriented := by
    intro idx target
    exact oriented_of_sameFocus h hpage (pageTo_focus cfg ui d p idx target)
  unfold settingsButtons
  simp only
  split
  · split
    · exact hpaged _ _
    · exact h
  · split
    · split
      · exact hpaged _ _
      · exact h
    · split
      · unfold addBinding
        split
        · exact h
        · refine goToPage_oriented (fun hne => absurd rfl hne) (fun _ => ?_) env.millis cfg
          exact hfocus
      · split
        · have hremoved : SameFocus ui (removeShown (settingsSeedPendingIfNeeded cfg ui d p) d p
              ui.editCtx.editingBindingIndex) :=
            (seeded_focus cfg ui d p).trans (removeShown_focus _ d p _)
          unfold removeBinding
          generalize removeShown (settingsSeedPendingIfNeeded cfg ui d p) d p
            ui.editCtx.editingBindingIndex = removed at hremoved
          unfold showRemaining
          simp only
          split
          · have hcleared : SameFocus ui removed.clearCapture := hremoved.trans ⟨rfl, rfl, rfl, rfl, rfl⟩
            exact goToPage_back_oriented (hcleared.quiet hquiet) (hcleared.focused hfocus) _ _ _
          · exact oriented_of_sameFocus h hpage (hremoved.trans ⟨rfl, rfl, rfl, rfl, rfl⟩)
        · split
          · split
            · exact ⟨h.selected, h.prompts, h.single⟩
            · exact goToPage_back_oriented hquiet hfocus _ _ _
          · exact h

end Oriented

theorem settingsTouch_oriented (env : TapEnv) {d : Device} {p : Port} {s : Sketch} (t : Tap)
    (h : s.ui.Oriented) (hpage : s.ui.currentPage = .editSettings) :
    (settingsTouch env d p s t).ui.Oriented := by
  unfold settingsTouch
  split
  · exact settingsPrompt_oriented env t h hpage
  · split
    · exact handleTestToggleTap_oriented h
    · split
      · exact ⟨h.selected, h.prompts, h.single⟩
      · split
        · exact oriented_of_sameFocus h hpage (showReset_focus _ s.ui d p)
        · split
          · have hcommitted := commitShown_focus s.live.config s.ui d p
            exact performSaveAndExit_oriented _ _
              (hcommitted.quiet (h.quiet (by simp [hpage])))
          · exact settingsButtons_oriented env t h hpage

theorem pageTouch_oriented (env : TapEnv) {s : Sketch} (t : Tap) (h : s.ui.Oriented) :
    (pageTouch env s t).ui.Oriented := by
  unfold pageTouch
  split
  · rename_i hpage
    have hquiet := h.quiet (by simp [hpage])
    unfold dashboardTouch
    split
    · have hcleared : (clearEditorSession s.ui).quiet := hquiet
      exact goToPage_oriented_free .editSelect hcleared (by simp) (by simp) env.millis s.live.config
    · unfold rowTap
      split
      · exact h
      · split
        · unfold toggleRow
          split <;> exact ⟨h.selected, h.prompts, h.single⟩
        · exact h
  · rename_i hpage
    exact goToPage_oriented_free .dashboard (h.quiet (by simp [hpage])) (by simp) (by simp) _
      s.live.config
  · exact h
  · rename_i hpage
    exact dispatchHubSelectTouch_oriented env t h hpage
  · rename_i hpage
    exact dispatchPortSelectTouch_oriented env t h hpage
  · rename_i hpage
    unfold dispatchCaptureTouch
    split
    · split
      · exact handleTestToggleTap_oriented h
      · exact captureButtons_oriented env t h hpage
    · exact h
  · rename_i hpage
    unfold dispatchSettingsTouch
    split
    · exact settingsTouch_oriented env t h hpage
    · exact h
  · rename_i hpage
    unfold idleTouch
    split
    · exact ⟨h.selected, h.prompts, h.single⟩
    · exact goToPage_oriented_free .dashboard (h.quiet (by simp [hpage])) (by simp) (by simp) _
        s.live.config

theorem idleEntry_oriented (millis : UInt32) {s : Sketch} (h : s.ui.Oriented) :
    (idleEntry millis s).ui.Oriented := by
  unfold idleEntry
  split
  · rename_i hentry
    have hquiet := h.quiet (by simp [hentry.1])
    exact goToPage_oriented_free .idle hquiet (by simp) (by simp) millis s.live.config
  · exact h

/-- The first input that is past its threshold, when slot 0's controller is connected. -/
def capturable (bp : Bluepad32) (s : Sketch) : Option InputSource :=
  (s.myControllers 0).bind fun ctl =>
    if (bp.controllers ctl).connected then
      ((captureChecks (bp.controllers ctl).data).find? (·.1)).map (·.2)
    else none

theorem checkCapture_eq (bp : Bluepad32) (s : Sketch) :
    checkCapture bp s = (capturable bp s).elim s (applyCapture s) := by
  unfold checkCapture capturable
  cases s.myControllers 0 with
  | none => rfl
  | some ctl =>
    simp only [Option.bind_some]
    by_cases hconnected : (bp.controllers ctl).connected = true
    · rw [if_pos hconnected, if_pos hconnected]
      cases (captureChecks (bp.controllers ctl).data).find? (·.1) <;> rfl
    · rw [if_neg hconnected, if_neg hconnected]
      rfl

theorem pageTick_oriented (tick : Tick) (bp : Bluepad32) {s : Sketch} (h : s.ui.Oriented) :
    (pageTick tick bp s).1.ui.Oriented := by
  unfold pageTick
  split
  · rename_i hpage
    have hquiet := h.quiet (by simp [hpage])
    have hhome : ∀ s' : Sketch, s'.ui.quiet →
        (s'.withUi (goToPage .dashboard tick.idleMillis)).ui.Oriented := fun s' hquiet =>
      goToPage_oriented_free .dashboard hquiet (by simp) (by simp) tick.idleMillis s'.live.config
    show (idleTick tick s).1.ui.Oriented
    unfold idleTick
    split
    · exact hhome s hquiet
    · split
      · simp only
        split
        · exact hhome _ hquiet
        · split
          · exact ⟨h.selected, h.prompts, h.single⟩
          · exact h
      · split <;> exact ⟨h.selected, h.prompts, h.single⟩
  · rename_i hpage
    show (if s.ui.capturePromptActive then s else checkCapture bp s).ui.Oriented
    split
    · exact h
    · rw [checkCapture_eq]
      cases capturable bp s with
      | none => exact h
      | some token => exact ⟨h.selected, fun hup => ⟨hpage, rfl⟩, h.single⟩
  · exact h

/-- The note of the time of a tap is no part of it. -/
theorem dispatchTouch_oriented (env : TapEnv) {s : Sketch} (t : Tap) (h : s.ui.Oriented) :
    (dispatchTouch env s t).ui.Oriented :=
  pageTouch_oriented env (s := s.withUi fun _ ui => { ui with lastTouchActivityMs := env.millis }) t
    ⟨h.selected, h.prompts, h.single⟩

theorem step_oriented (t : Tank) (step : TankStep) (h : t.sketch.ui.Oriented) :
    (t.step step).sketch.ui.Oriented := by
  have hsame : ∀ s s' : Sketch, SameEditor s s' → s.ui.Oriented → s'.ui.Oriented := by
    rintro s s' ⟨hui, -⟩ hs
    rw [hui]
    exact hs
  exact step_invariant hsame (fun _ _ _ hs => dispatchTouch_oriented _ _ hs)
    (fun _ _ hs => idleEntry_oriented _ hs) (fun tick _ _ hs => pageTick_oriented tick _ hs) t step h

theorem boot_oriented (config : MkhConfig) (files : Files Path) :
    (Tank.boot config files).sketch.ui.Oriented :=
  Ui.Oriented.of_quiet ⟨rfl, rfl⟩ fun hpage => absurd hpage (by simp [Tank.boot])

/-! ### A port that is opened -/

section Opening

variable {cfg : MkhConfig} {ui : Ui} {d : Device} {p : Port}

/-- Entered for a binding of the list, with no other input captured, the page shows that binding and
commits nothing. -/
theorem enterSettings_shows
    (hlisted : ui.editCtx.editingBindingIndex < effectiveBindingCount cfg ui d p)
    (hinput : ui.editCtx.captureValid = true → ui.editCtx.capturedInput =
      (effectiveBinding cfg ui d p ui.editCtx.editingBindingIndex).input) :
    enterSettings cfg ui d p =
      showBinding ((settingsSeedPendingIfNeeded cfg ui d p).noteIndices
          [ui.editCtx.editingBindingIndex])
        (effectiveBinding cfg ui d p ui.editCtx.editingBindingIndex)
        ((effectiveBinding cfg ui d p ui.editCtx.editingBindingIndex).input != .none) := by
  have hctx := (seeded_frame cfg ui d p).1
  have hstored := (seeded_effective cfg ui d p hlisted).1
  have hseeded : ui.editCtx.editingBindingIndex <
      ((settingsSeedPendingIfNeeded cfg ui d p).pendingEdits d p).bindingCount := by
    rw [(seeded_count cfg ui d p).1]
    exact hlisted
  unfold enterSettings
  rw [enterSeeded_listed hseeded, hstored, hctx, if_neg]
  intro hcommits
  obtain ⟨hvalid, hdiffers⟩ := Bool.and_eq_true_iff.mp hcommits
  rw [hinput hvalid] at hdiffers
  simp at hdiffers

/-- The pages' state as an occupied port is opened, before the settings page is drawn. -/
def Ui.opened (cfg : MkhConfig) (ui : Ui) (d : Device) (p : Port) : Ui :=
  { (ui.withCtx fun ctx => ctx.setCapture (effectiveBinding cfg ui d p 0).input true).noteIndices
      [0] with
    settingsBackToCapture := false
    currentPage := .editSettings }

/-- **An occupied port opens on its first binding**, and nothing is committed. -/
theorem openPort_occupied (env : TapEnv) (hselects : ui.selects d p)
    (hidx : ui.editCtx.editingBindingIndex = 0) (hcount : 0 < effectiveBindingCount cfg ui d p) :
    openPort env d p cfg ui =
      showBinding ((settingsSeedPendingIfNeeded cfg (ui.opened cfg d p) d p).noteIndices [0])
        (effectiveBinding cfg ui d p 0) ((effectiveBinding cfg ui d p 0).input != .none) := by
  have hopened : openPort env d p cfg ui = drawPage cfg (ui.opened cfg d p) env.millis .editSettings :=
    if_pos hcount
  have hdraw : drawPage cfg (ui.opened cfg d p) env.millis .editSettings =
      enterSettings cfg (ui.opened cfg d p) d p := by
    have hdevice : (ui.opened cfg d p).editCtx.selectedDevice = some d := hselects.1
    have hport : (ui.opened cfg d p).editCtx.selectedPort = some p := hselects.2
    unfold drawPage
    simp only [hdevice, hport]
  have hcountOpened : effectiveBindingCount cfg (ui.opened cfg d p) d p =
      effectiveBindingCount cfg ui d p := rfl
  have hindex : (ui.opened cfg d p).editCtx.editingBindingIndex = 0 := hidx
  rw [hopened, hdraw, enterSettings_shows]
  · rw [hindex]
    rfl
  · rw [hindex, hcountOpened]
    exact hcount
  · rw [hindex]
    exact fun _ => rfl

/-- A port without bindings opens on the capture page. -/
theorem openPort_empty (env : TapEnv) (hcount : effectiveBindingCount cfg ui d p = 0) :
    openPort env d p cfg ui = goToPage .editCapture env.millis cfg ui :=
  if_neg (by omega)

/-- The port that is selected already keeps its capture. -/
theorem focusPort_same (hvalid : ui.editCtx.selectedValid = true)
    (hport : ui.editCtx.selectedPort = some p) :
    (focusPort ui p).editCtx.capturedInput = ui.editCtx.capturedInput ∧
      (focusPort ui p).editCtx.captureValid = ui.editCtx.captureValid := by
  have hsame : (ui.editCtx.selectedValid && ui.editCtx.selectedPort == some p) = true := by
    simp [hvalid, hport]
  unfold focusPort
  simp only
  rw [if_pos hsame]
  exact ⟨rfl, rfl⟩

theorem focusPort_pending (ui : Ui) (p : Port) : (focusPort ui p).pendingEdits = ui.pendingEdits := by
  unfold focusPort
  simp only
  split <;> rfl

theorem effectiveBinding_congr {ui' : Ui} (h : ui'.pendingEdits d p = ui.pendingEdits d p)
    (idx : Nat) : effectiveBinding cfg ui' d p idx = effectiveBinding cfg ui d p idx := by
  unfold effectiveBinding
  rw [h]

/-! ### Opening a port with nothing pending -/

theorem Ui.NoPending.effectiveCount (h : ui.NoPending) (cfg : MkhConfig) (d : Device) (p : Port) :
    effectiveBindingCount cfg ui d p = (cfg.table d p).bindings.length := by
  unfold effectiveBindingCount
  rw [if_neg (by simp [h d p])]

/-- A seed is not an edit. -/
theorem Ui.NoPending.seeded (h : ui.NoPending) (cfg : MkhConfig) (d : Device) (p : Port) :
    (settingsSeedPendingIfNeeded cfg ui d p).NoPending := by
  intro d' p'
  rw [seeded_pending]
  split
  · unfold PendingPortEdit.seeded
    rw [if_neg (by simp [h d p])]
    exact h d p
  · exact h d' p'

theorem focusPort_selects (hdevice : ui.editCtx.selectedDevice = some d) (p : Port) :
    (focusPort ui p).selects d p := by
  obtain ⟨hsame, hport, -⟩ := focusPort_ctx ui p
  exact ⟨hsame.trans hdevice, hport⟩

theorem focusPort_exitPrompt (ui : Ui) (p : Port) :
    (focusPort ui p).exitPromptActive = ui.exitPromptActive := by
  unfold focusPort
  simp only
  split <;> rfl

theorem focusPort_clean (h : ui.NoPending) (p : Port) : (focusPort ui p).NoPending := by
  unfold Ui.NoPending
  rw [focusPort_pending]
  exact h

/-- The pages' state as the first binding of a port is shown, nothing being pending. -/
structure OpensClean (ui seeded : Ui) (d : Device) (p : Port) : Prop where
  clean : seeded.NoPending
  page : seeded.currentPage = .editSettings
  selects : seeded.selects d p
  index : seeded.editCtx.editingBindingIndex = 0
  back : seeded.settingsBackToCapture = false
  exitPrompt : seeded.exitPromptActive = ui.exitPromptActive

/-- **With nothing pending an occupied port opens on the first binding of its live list.** -/
theorem selectPort_clean (env : TapEnv) (hclean : ui.NoPending)
    (hdevice : ui.editCtx.selectedDevice = some d) (hcount : 0 < (cfg.table d p).bindings.length) :
    ∃ seeded valid, OpensClean ui seeded d p ∧
      selectPort env d p cfg ui =
        showBinding (seeded.noteIndices [0])
          (effectiveBinding cfg seeded d p seeded.editCtx.editingBindingIndex) valid := by
  obtain ⟨-, -, hindex⟩ := focusPort_ctx ui p
  have hselects := focusPort_selects hdevice p
  have hfocused := focusPort_clean hclean p
  have hoccupied : 0 < effectiveBindingCount cfg (focusPort ui p) d p := by
    rw [hfocused.effectiveCount]
    exact hcount
  have hopened : ((focusPort ui p).opened cfg d p).NoPending := hfocused
  have hseeded := hopened.seeded cfg d p
  have hfirst := (seeded_effective cfg ((focusPort ui p).opened cfg d p) d p hoccupied).2
  have hctx := (seeded_frame cfg ((focusPort ui p).opened cfg d p) d p).1
  refine ⟨settingsSeedPendingIfNeeded cfg ((focusPort ui p).opened cfg d p) d p,
    (effectiveBinding cfg (focusPort ui p) d p 0).input != .none, ?_, ?_⟩
  · obtain ⟨pending, indices, heq⟩ := seeded_eq cfg ((focusPort ui p).opened cfg d p) d p
    rw [heq] at hseeded ⊢
    exact ⟨hseeded, rfl, hselects, hindex, rfl, focusPort_exitPrompt ui p⟩
  · have hzero : ((focusPort ui p).opened cfg d p).editCtx.editingBindingIndex = 0 := hindex
    unfold selectPort
    rw [openPort_occupied env hselects hindex hoccupied, hctx, hzero, hfirst]
    rfl

end Opening

/-! ### Where a tap falls on port select -/

theorem portCell_within {t : Tap} {p : Port} : t.within (portCell p) = true ↔
    (20 + (p.val / 2 : Nat) * 100 ≤ t.x ∧ t.x < 20 + (p.val / 2 : Nat) * 100 + 80) ∧
      (40 + (1 - (p.val % 2 : Nat) : Int) * 70 ≤ t.y ∧
        t.y < 40 + (1 - (p.val % 2 : Nat) : Int) * 70 + 50) := by
  have hrow : (if p.val % 2 = 0 then 1 else 0 : Int) = 1 - (p.val % 2 : Nat) := by
    split <;> omega
  simp only [Tap.within, portCell, hrow, ge_iff_le, Bool.and_eq_true, decide_eq_true_eq]
  push_cast
  constructor
  · rintro ⟨⟨⟨hleft, hright⟩, htop⟩, hbottom⟩
    exact ⟨⟨by omega, by omega⟩, by omega, by omega⟩
  · rintro ⟨⟨hleft, hright⟩, htop, hbottom⟩
    exact ⟨⟨⟨by omega, by omega⟩, by omega⟩, by omega⟩

theorem portCell_unique {t : Tap} {p q : Port} (hp : t.within (portCell p) = true)
    (hq : t.within (portCell q) = true) : p = q := by
  obtain ⟨⟨hpLeft, hpRight⟩, hpTop, hpBottom⟩ := portCell_within.mp hp
  obtain ⟨⟨hqLeft, hqRight⟩, hqTop, hqBottom⟩ := portCell_within.mp hq
  exact Fin.ext (by omega)

/-- A tap in a port's cell is in no other zone of the page. -/
theorem portCell_tap {t : Tap} {p : Port} (h : t.within (portCell p) = true) :
    t.within testToggle = false ∧ t.within selectBack = false ∧
      Port.all.find? (fun q => t.within (portCell q)) = some p := by
  obtain ⟨⟨hleft, hright⟩, htop, hbottom⟩ := portCell_within.mp h
  refine ⟨?_, ?_, ?_⟩
  · have habove : decide (t.y < testToggle.y + testToggle.h) = false :=
      decide_eq_false (show ¬ t.y < 2 + 24 by omega)
    rw [Tap.within, habove, Bool.and_false]
  · have hbelow : decide (t.y ≥ selectBack.y) = false :=
      decide_eq_false (show ¬ t.y ≥ 180 by omega)
    rw [Tap.within, hbelow, Bool.and_false, Bool.false_and]
  · cases hfind : Port.all.find? fun q => t.within (portCell q) with
    | none => exact absurd h (List.find?_eq_none.mp hfind p (Port.mem_all p))
    | some q =>
      have hq : t.within (portCell q) = true := by simpa using List.find?_some hfind
      rw [portCell_unique h hq]

end MK1Tank
