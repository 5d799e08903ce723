/-
Looking is not editing.

Opening a port, paging through its bindings and going back seeds the working copies and
runs the code that commits a capture.  None of it makes a port dirty as long as nothing
is captured and no field is left changed: the capture that the settings page is entered
with is the input of the binding it is entered for, and a capture is held on port select
only for a port that has bindings, so that it never reaches the capture page.
-/
import MK1Tank.Proofs.CapturePrompts

namespace MK1Tank

open FileProgram Runs

/-! ### The session of someone who looks -/

/-- A capture is held for an occupied port only. -/
def Ui.HeldOccupied (cfg : MkhConfig) (ui : Ui) : Prop :=
  ui.editCtx.captureValid = true → ∀ d p, ui.selects d p → 0 < effectiveBindingCount cfg ui d p

/-- Nothing was edited, and no page is on its way to an edit. -/
structure Ui.Unedited (cfg : MkhConfig) (ui : Ui) : Prop where
  clean : ui.NoPending
  unasked : ui.exitPromptActive = false
  ports : ui.currentPage = .editPorts → ui.HeldOccupied cfg
  capture : ui.currentPage = .editCapture → ui.editCtx.captureValid = false ∧ ui.quiet
  settings : ui.currentPage = .editSettings → ui.HeldOccupied cfg ∧
    ui.settingsBackToCapture = false ∧ (ui.settingsPromptActive = true → settingsUncommitted ui = true)

def Sketch.Unedited (s : Sketch) : Prop := s.ui.Unedited s.live.config

section Unedited

variable {cfg : MkhConfig} {ui : Ui} {d : Device} {p : Port} {s : Sketch}

theorem Ui.NoPending.not_hasPending (h : ui.NoPending) : sessionHasPendingEdits ui = false := by
  unfold sessionHasPendingEdits
  simp [h _ _]

/-- Off port select, the capture page and the settings page. -/
theorem Ui.Unedited.of_elsewhere (hclean : ui.NoPending) (hunasked : ui.exitPromptActive = false)
    (hports : ui.currentPage ≠ .editPorts) (hcapture : ui.currentPage ≠ .editCapture)
    (hsettings : ui.currentPage ≠ .editSettings) : ui.Unedited cfg :=
  ⟨hclean, hunasked, fun hpage => absurd hpage hports, fun hpage => absurd hpage hcapture,
    fun hpage => absurd hpage hsettings⟩

/-- The dashboard, hub select and the idle screen. -/
theorem goToPage_unedited (hclean : ui.NoPending) (hunasked : ui.exitPromptActive = false)
    {page : UiPage} (hpage : page = .dashboard ∨ page = .editSelect ∨ page = .idle)
    (millis : UInt32) (cfg : MkhConfig) : (goToPage page millis cfg ui).Unedited cfg := by
  rcases hpage with rfl | rfl | rfl
  · exact .of_elsewhere hclean hunasked (by simp [goToPage, drawPage]) (by simp [goToPage, drawPage])
      (by simp [goToPage, drawPage])
  · exact .of_elsewhere hclean rfl (by simp [goToPage, drawPage]) (by simp [goToPage, drawPage])
      (by simp [goToPage, drawPage])
  · exact .of_elsewhere hclean hunasked (by simp [goToPage, drawPage]) (by simp [goToPage, drawPage])
      (by simp [goToPage, drawPage])

theorem goToPage_ports_unedited (hclean : ui.NoPending) (hunasked : ui.exitPromptActive = false)
    (hheld : ui.HeldOccupied cfg) (millis : UInt32) :
    (goToPage .editPorts millis cfg ui).Unedited cfg := by
  have hmoved : ({ ui with currentPage := .editPorts } : Ui).Unedited cfg :=
    ⟨hclean, hunasked, fun _ => hheld, fun hpage => absurd hpage (by simp),
      fun hpage => absurd hpage (by simp)⟩
  show (drawPortSelect cfg { ui with currentPage := .editPorts }).Unedited cfg
  unfold drawPortSelect
  split
  · exact hmoved
  · exact ⟨hmoved.clean, hmoved.unasked, hmoved.ports, hmoved.capture, hmoved.settings⟩

theorem goToPage_capture_unedited (hclean : ui.NoPending) (hunasked : ui.exitPromptActive = false)
    (hvalid : ui.editCtx.captureValid = false) (millis : UInt32) :
    (goToPage .editCapture millis cfg ui).Unedited cfg :=
  ⟨hclean, hunasked, fun hpage => absurd hpage (by simp [goToPage, drawPage]),
    fun _ => ⟨hvalid, rfl, rfl⟩, fun hpage => absurd hpage (by simp [goToPage, drawPage])⟩

/-! ### The pages -/

theorem leaveEditor_unedited (env : TapEnv) (cfg : MkhConfig)
    (hunasked : ui.exitPromptActive = false) : (leaveEditor env cfg ui).Unedited cfg :=
  goToPage_unedited (show (clearEditorSession ui).NoPending from fun _ _ => rfl) hunasked (Or.inl rfl)
    env.millis cfg

/-- The Test toggle pushes nothing when nothing is dirty. -/
theorem handleTestToggleTap_unedited (h : s.Unedited) : (handleTestToggleTap s).Unedited := by
  unfold handleTestToggleTap
  split
  · exact ⟨h.clean, h.unasked, h.ports, h.capture, h.settings⟩
  · have hheld : s.ui.HeldOccupied s.live.config → ({ s.ui with testActive := true } : Ui).HeldOccupied
        (pushPendingSessionToLiveTable s.ui.pendingEdits s.live).config := by
      intro hheld hvalid d p hselects
      rw [push_effectiveCount s { s.ui with testActive := true } rfl]
      exact hheld hvalid d p hselects
    refine ⟨h.clean, h.unasked, fun hpage => hheld (h.ports hpage), h.capture, fun hpage => ?_⟩
    obtain ⟨hoccupied, hback, hprompt⟩ := h.settings hpage
    exact ⟨hheld hoccupied, hback, hprompt⟩

theorem dispatchHubSelectTouch_unedited (env : TapEnv) (t : Tap) (h : s.Unedited)
    (hpage : s.ui.currentPage = .editSelect) : (dispatchHubSelectTouch env s t).Unedited := by
  have hstays : ∀ ui : Ui, ui.NoPending → ui.exitPromptActive = false →
      ui.currentPage = .editSelect → ui.Unedited s.live.config := fun ui hclean hunasked hpage =>
    .of_elsewhere hclean hunasked (by simp [hpage]) (by simp [hpage]) (by simp [hpage])
  unfold dispatchHubSelectTouch
  rw [if_neg (by simp [h.unasked])]
  split
  · split
    · exact leaveEditor_unedited env _ h.unasked
    · split
      · exact hstays _ h.clean rfl hpage
      · exact h
  · split
    · exact handleTestToggleTap_unedited h
    · split
      · exact hstays _ h.clean h.unasked hpage
      · split
        · rw [if_neg (by simp [h.clean.not_hasPending])]
          exact leaveEditor_unedited env _ h.unasked
        · split
          · split
            · exact h
            · -- A hub is selected, and no port of it yet.
              rename_i d _ _
              have hclean : (s.ui.withCtx fun ctx => { ctx with
                  selectedDevice := some d, selectedPort := none, selectedValid := false }).NoPending :=
                h.clean
              exact goToPage_ports_unedited hclean h.unasked
                (fun _ d p hselects => absurd hselects.2 (by simp [Ui.withCtx])) env.millis
          · exact h

/-- A binding of an occupied port is shown. -/
theorem showBinding_unedited (hclean : ui.NoPending) (hunasked : ui.exitPromptActive = false)
    (hpage : ui.currentPage = .editSettings) (hback : ui.settingsBackToCapture = false)
    (indices : List Nat) (b : Binding) {valid : Bool} (hselects : ui.selects d p)
    (hoccupied : valid = true → 0 < effectiveBindingCount cfg ui d p) :
    (showBinding (ui.noteIndices indices) b valid).Unedited cfg := by
  refine ⟨hclean, hunasked, fun hports => absurd (hpage.symm.trans hports) (by simp),
    fun hcapture => absurd (hpage.symm.trans hcapture) (by simp), fun _ => ⟨?_, hback, ?_⟩⟩
  · intro hvalid d' p' hselects'
    obtain ⟨rfl, rfl⟩ := Ui.selects_unique hselects hselects'
    rw [showBinding_count, noteIndices_count]
    exact hoccupied hvalid
  · exact fun hup => absurd hup Bool.false_ne_true

/-- A capture made for another port is dropped, so that the port has one only if it had it before. -/
theorem focusPort_held (hdevice : ui.editCtx.selectedDevice = some d)
    (hvalid : (focusPort ui p).editCtx.captureValid = true) :
    ui.editCtx.captureValid = true ∧ ui.selects d p := by
  cases hsame : ui.editCtx.selectedValid && ui.editCtx.selectedPort == some p with
  | false =>
    have hdropped : (focusPort ui p).editCtx.captureValid = false := by
      unfold focusPort
      simp only [hsame]
      rfl
    exact absurd (hdropped.symm.trans hvalid) Bool.false_ne_true
  | true =>
    obtain ⟨hselected, hport⟩ := Bool.and_eq_true_iff.mp hsame
    have hport := beq_iff_eq.mp hport
    exact ⟨(focusPort_same hselected hport).2.symm.trans hvalid, hdevice, hport⟩

/-- An occupied port opens on its first binding and an empty one on a capture page with no capture. -/
theorem selectPort_unedited (env : TapEnv) (h : ui.Unedited cfg) (hpage : ui.currentPage = .editPorts)
    (hdevice : ui.editCtx.selectedDevice = some d) (p : Port) :
    (selectPort env d p cfg ui).Unedited cfg := by
  by_cases hcount : 0 < (cfg.table d p).bindings.length
  · obtain ⟨seeded, valid, hopened, heq⟩ := selectPort_clean env h.clean hdevice hcount
    rw [heq]
    refine showBinding_unedited hopened.clean (hopened.exitPrompt.trans h.unasked) hopened.page
      hopened.back [0] _ hopened.selects fun _ => ?_
    rw [hopened.clean.effectiveCount]
    exact hcount
  · have hclean := focusPort_clean h.clean p
    have hempty : effectiveBindingCount cfg (focusPort ui p) d p = 0 := by
      rw [hclean.effectiveCount]
      omega
    unfold selectPort
    rw [openPort_empty env hempty]
    refine goToPage_capture_unedited hclean ((focusPort_exitPrompt ui p).trans h.unasked) ?_ _
    by_contra hvalid
    -- A capture held for this very port would be one for an occupied port.
    obtain ⟨hheld, hbefore⟩ := focusPort_held hdevice (Bool.eq_true_of_not_eq_false hvalid)
    have hoccupied := h.ports hpage hheld d p hbefore
    rw [h.clean.effectiveCount] at hoccupied
    exact hcount hoccupied

theorem dispatchPortSelectTouch_unedited (env : TapEnv) (t : Tap) (h : s.Unedited)
    (hpage : s.ui.currentPage = .editPorts) : (dispatchPortSelectTouch env s t).Unedited := by
  unfold dispatchPortSelectTouch
  split
  · exact handleTestToggleTap_unedited h
  · split
    · exact goToPage_unedited (show (clearEditContext s.ui).NoPending from h.clean) h.unasked
        (Or.inr (Or.inl rfl)) env.millis s.live.config
    · split
      · rename_i d p hdevice _
        exact selectPort_unedited env h hpage hdevice p
      · exact h

/-- With no capture the page's buttons lead back to port select, or nowhere. -/
theorem captureButtons_unedited (env : TapEnv) (d : Device) (p : Port) (t : Tap)
    (h : ui.Unedited cfg) (hpage : ui.currentPage = .editCapture) :
    (captureButtons env d p t cfg ui).Unedited cfg := by
  obtain ⟨hvalid, hkeep, hreplace⟩ := h.capture hpage
  unfold captureButtons captureHasNext
  simp only [hkeep, hreplace, hvalid, Bool.false_eq_true, if_false, Bool.and_false]
  split
  · refine goToPage_ports_unedited h.clean h.unasked ?_ _
    exact fun hheld => absurd (hvalid.symm.trans hheld) Bool.false_ne_true
  · exact h

theorem dispatchCaptureTouch_unedited (env : TapEnv) (t : Tap) (h : s.Unedited)
    (hpage : s.ui.currentPage = .editCapture) : (dispatchCaptureTouch env s t).Unedited := by
  unfold dispatchCaptureTouch
  split
  · split
    · exact handleTestToggleTap_unedited h
    · exact captureButtons_unedited env _ _ t h hpage
  · exact h

/-! ### The settings page -/

/-- The binding shown is not taken off or saved, and left only with the fields of its entry. -/
def LeftAsEntered (ui : Ui) : SettingsMove → Prop
  | .remove | .save => False
  | .prev | .next | .back => settingsUncommitted ui = false
  | .stays _ | .add | .discard | .reset => True

instance (ui : Ui) : (move : SettingsMove) → Decidable (LeftAsEntered ui move)
  | .remove | .save => inferInstanceAs (Decidable False)
  | .prev | .next | .back => inferInstanceAs (Decidable (settingsUncommitted ui = false))
  | .stays _ | .add | .discard | .reset => inferInstanceAs (Decidable True)

/-- Back to port select with the binding's capture. -/
theorem settingsBack_unedited (env : TapEnv) (h : ui.Unedited cfg)
    (hpage : ui.currentPage = .editSettings) :
    (goToPage (backTarget ui) env.millis cfg { ui with settingsPromptActive := false }).Unedited
      cfg := by
  obtain ⟨hheld, hback, -⟩ := h.settings hpage
  unfold backTarget
  rw [if_neg (by simp [hback])]
  exact goToPage_ports_unedited
    (show Ui.NoPending { ui with settingsPromptActive := false } from h.clean) h.unasked hheld env.millis

theorem settingsPrompt_unedited (env : TapEnv) (t : Tap) (h : ui.Unedited cfg)
    (hpage : ui.currentPage = .editSettings) (hup : ui.settingsPromptActive = true)
    (hleft : LeftAsEntered ui (promptMove ui t)) :
    (settingsPrompt env d p t cfg ui).Unedited cfg := by
  obtain ⟨-, -, hprompt⟩ := h.settings hpage
  unfold promptMove at hleft
  unfold settingsPrompt
  split
  · rename_i hkeep
    rw [if_pos hkeep] at hleft
    exact absurd (hleft.symm.trans (hprompt hup)) Bool.false_ne_true
  · split
    · exact settingsBack_unedited env h hpage
    · exact h

/-- Paging from a binding whose fields are those of its entry. -/
theorem pageTo_unedited (h : ui.Unedited cfg) (hpage : ui.currentPage = .editSettings)
    (hselects : ui.selects d p) (hcount : 0 < effectiveBindingCount cfg ui d p)
    (hsame : settingsUncommitted ui = false) (idx target : Nat) :
    (pageTo cfg ui d p idx target).Unedited cfg := by
  obtain ⟨-, hback, -⟩ := h.settings hpage
  unfold pageTo settingsCommitWorkingIfDirty settingsLoadBindingAt
  rw [if_neg (by simp [hsame])]
  have hclean : (ui.withCtx fun ctx => { ctx with editingBindingIndex := target }).NoPending := h.clean
  exact showBinding_unedited hclean h.unasked hpage hback [target] _ hselects fun _ => hcount

theorem addBinding_unedited (env : TapEnv) (h : ui.Unedited cfg) :
    (addBinding env cfg ui d p).Unedited cfg := by
  unfold addBinding
  split
  · exact h
  · exact goToPage_capture_unedited
      (show Ui.NoPending { ui.clearCapture with settingsBackToCapture := true } from h.clean) h.unasked
      rfl env.millis

theorem settingsButtons_unedited (env : TapEnv) (t : Tap) (h : ui.Unedited cfg)
    (hpage : ui.currentPage = .editSettings) (hselects : ui.selects d p)
    (hdown : ui.settingsPromptActive = false)
    (hleft : LeftAsEntered ui (buttonsMove cfg ui d p t)) :
    (settingsButtons env d p t cfg ui).Unedited cfg := by
  obtain ⟨hheld, hback, -⟩ := h.settings hpage
  unfold buttonsMove at hleft
  unfold settingsButtons
  simp only at hleft ⊢
  split
  · rename_i hzone
    rw [if_pos hzone] at hleft
    split
    · rename_i hprev
      rw [if_pos hprev] at hleft
      exact pageTo_unedited h hpage hselects (by omega) hleft _ _
    · exact h
  · rename_i hnotPrev
    rw [if_neg hnotPrev] at hleft
    split
    · rename_i hzone
      rw [if_pos hzone] at hleft
      split
      · rename_i hnext
        rw [if_pos hnext] at hleft
        exact pageTo_unedited h hpage hselects (by omega) hleft _ _
      · exact h
    · rename_i hnotNext
      rw [if_neg hnotNext] at hleft
      split
      · exact addBinding_unedited env h
      · rename_i hnotAdd
        rw [if_neg hnotAdd] at hleft
        split
        · rename_i hremove
          rw [if_pos hremove] at hleft
          exact hleft.elim
        · split
          · split
            · rename_i hchanged
              exact ⟨h.clean, h.unasked, h.ports, h.capture, fun _ => ⟨hheld, hback, fun _ => hchanged⟩⟩
            · have hsame : ({ ui with settingsPromptActive := false } : Ui) = ui := by
                rw [← hdown]
              have hgone := settingsBack_unedited env h hpage
              rw [hsame] at hgone
              exact hgone
          · exact h

/-- RESET shows the first binding of the table that was read again. -/
theorem showReset_unedited (h : ui.Unedited cfg) (hpage : ui.currentPage = .editSettings)
    (hselects : ui.selects d p) (cfg' : MkhConfig) : (showReset d p cfg' ui).Unedited cfg' := by
  obtain ⟨-, hback, -⟩ := h.settings hpage
  unfold showReset
  simp only
  generalize hcleared : ({ (clearPendingSession ui).withCtx fun ctx =>
    { ctx with editingBindingIndex := 0 } with testActive := false } : Ui) = cleared
  have hclean : cleared.NoPending := by
    rw [← hcleared]
    exact fun _ _ => rfl
  subst hcleared
  split
  · rename_i hlist
    refine showBinding_unedited hclean h.unasked hpage hback [0] _ hselects fun _ => ?_
    rw [hclean.effectiveCount]
    exact hlist
  · exact showBinding_unedited hclean h.unasked hpage hback [] blankBinding hselects
      fun hvalid => absurd hvalid Bool.false_ne_true

theorem settingsTouch_unedited (env : TapEnv) (t : Tap) (h : s.Unedited)
    (hpage : s.ui.currentPage = .editSettings) (hselects : s.ui.selects d p)
    (hleft : LeftAsEntered s.ui (settingsMove s.live.config s.ui d p t)) :
    (settingsTouch env d p s t).Unedited := by
  obtain ⟨hheld, hback, -⟩ := h.settings hpage
  unfold settingsMove at hleft
  unfold settingsTouch
  split
  · rename_i hup
    rw [if_pos hup] at hleft
    exact settingsPrompt_unedited env t h hpage hup hleft
  · rename_i hdown
    rw [if_neg hdown] at hleft
    split
    · exact handleTestToggleTap_unedited h
    · rename_i htest
      rw [if_neg htest] at hleft
      split
      · exact ⟨h.clean, h.unasked, h.ports, h.capture,
          fun _ => ⟨hheld, hback, fun hup => absurd hup hdown⟩⟩
      · rename_i hfields
        rw [if_neg hfields] at hleft
        split
        · exact showReset_unedited h hpage hselects _
        · rename_i hreset
          rw [if_neg hreset] at hleft
          split
          · rename_i hsave
            rw [if_pos hsave] at hleft
            exact hleft.elim
          · rename_i hsave
            rw [if_neg hsave] at hleft
            exact settingsButtons_unedited env t h hpage hselects
              (Bool.eq_false_of_not_eq_true hdown) hleft

/-! ### Every tap -/

/-- What a tap does to the binding shown, on the settings page. -/
def LooksOnly (s : Sketch) (t : Tap) : Prop :=
  s.ui.currentPage = .editSettings → ∀ d p, s.ui.selects d p →
    LeftAsEntered s.ui (settingsMove s.live.config s.ui d p t)

theorem dashboardTouch_unedited (env : TapEnv) (t : Tap) (h : s.Unedited) :
    (dashboardTouch env s t).Unedited := by
  unfold dashboardTouch
  split
  · exact goToPage_unedited (show (clearEditorSession s.ui).NoPending from fun _ _ => rfl) h.unasked
      (Or.inr (Or.inl rfl)) env.millis s.live.config
  · unfold rowTap
    split
    · exact h
    · split
      · unfold toggleRow
        split <;> exact ⟨h.clean, h.unasked, h.ports, h.capture, h.settings⟩
      · exact h

theorem pageTouch_unedited (env : TapEnv) (t : Tap) (h : s.Unedited) (hlooks : LooksOnly s t) :
    (pageTouch env s t).Unedited := by
  unfold pageTouch
  split
  · exact dashboardTouch_unedited env t h
  · exact goToPage_unedited h.clean h.unasked (Or.inl rfl) env.millis s.live.config
  · exact h
  · rename_i hpage
    exact dispatchHubSelectTouch_unedited env t h hpage
  · rename_i hpage
    exact dispatchPortSelectTouch_unedited env t h hpage
  · rename_i hpage
    exact dispatchCaptureTouch_unedited env t h hpage
  · rename_i hpage
    unfold dispatchSettingsTouch
    split
    · rename_i d p hdevice hport
      exact settingsTouch_unedited env t h hpage ⟨hdevice, hport⟩ (hlooks hpage d p ⟨hdevice, hport⟩)
    · exact h
  · unfold idleTouch
    split
    · exact ⟨h.clean, h.unasked, h.ports, h.capture, h.settings⟩
    · exact goToPage_unedited h.clean h.unasked (Or.inl rfl) env.millis s.live.config

theorem dispatchTouch_unedited (env : TapEnv) (t : Tap) (h : s.Unedited) (hlooks : LooksOnly s t) :
    (dispatchTouch env s t).Unedited := by
  have hnoted : (s.withUi fun _ ui => { ui with lastTouchActivityMs := env.millis }).Unedited :=
    ⟨h.clean, h.unasked, h.ports, h.capture, h.settings⟩
  exact pageTouch_unedited env t hnoted hlooks

/-- The end of an iteration, with nothing to capture on the capture page. -/
theorem endOfIteration_unedited (tick : Tick) (bp : Bluepad32) (h : s.Unedited)
    (hnothing : s.ui.currentPage = .editCapture → capturable bp s = none) :
    (pageTick tick bp (idleEntry tick.idleMillis s)).1.Unedited := by
  have hentry : (idleEntry tick.idleMillis s).Unedited := by
    unfold idleEntry
    split
    · exact goToPage_unedited h.clean h.unasked (Or.inr (Or.inr rfl)) tick.idleMillis s.live.config
    · exact h
  have hcapture : (idleEntry tick.idleMillis s).ui.currentPage = .editCapture →
      capturable bp (idleEntry tick.idleMillis s) = none := by
    unfold idleEntry
    split
    · exact fun hpage => absurd hpage (by simp [goToPage_currentPage])
    · exact hnothing
  generalize idleEntry tick.idleMillis s = s at hentry hcapture
  have hhome : ∀ s' : Sketch, s'.Unedited →
      (s'.withUi (goToPage .dashboard tick.idleMillis)).Unedited := fun s' h' =>
    goToPage_unedited h'.clean h'.unasked (Or.inl rfl) tick.idleMillis s'.live.config
  have hreleased : (s.withUi fun _ ui => { ui with idleSleepHoldActive := false }).Unedited :=
    ⟨hentry.clean, hentry.unasked, hentry.ports, hentry.capture, hentry.settings⟩
  unfold pageTick
  split
  · show (idleTick tick s).1.Unedited
    unfold idleTick
    split
    · exact hhome s hentry
    · split
      · simp only
        split
        · exact hhome _ hreleased
        · split
          · exact hreleased
          · exact hentry
      · split <;> exact hentry
  · rename_i hpage
    show (if s.ui.capturePromptActive then s else checkCapture bp s).Unedited
    rw [checkCapture_eq, hcapture hpage]
    split <;> exact hentry
  · exact hentry

end Unedited

/-! ### Runs -/

/-- On the capture page no input is past its threshold. -/
def CapturesNothing (t : Tank) : TankStep → Prop
  | .loop tick => t.asleep = true ∨ ((t.tapped tick).ui.currentPage = .editCapture →
      capturable (sweepHeld tick (fetchControllers tick t)).bp32 (t.tapped tick) = none)
  | .btstack _ => True

/-- Nothing but looking: no input is captured, no binding is taken off or saved, and the fields of one
that is left are those of its entry. -/
def Looks (t : Tank) (step : TankStep) : Prop :=
  CapturesNothing t step ∧ (t.sketch.ui.currentPage = .editSettings → ∀ d p,
    t.sketch.ui.selects d p → LeftAsEntered t.sketch.ui (t.settingsMove d p step))

instance (t : Tank) : (step : TankStep) → Decidable (CapturesNothing t step)
  | .loop _ => inferInstanceAs (Decidable (_ ∨ _))
  | .btstack _ => inferInstanceAs (Decidable True)

instance (ui : Ui) (d : Device) (p : Port) : Decidable (ui.selects d p) :=
  inferInstanceAs (Decidable (_ ∧ _))

instance (t : Tank) (step : TankStep) : Decidable (Looks t step) :=
  inferInstanceAs (Decidable (_ ∧ _))

theorem SameEditor.unedited {s s' : Sketch} (h : SameEditor s s') (hs : s.Unedited) :
    s'.Unedited := by
  obtain ⟨hui, hconfig⟩ := h
  unfold Sketch.Unedited
  rw [hui, hconfig]
  exact hs

theorem SameEditor.looksOnly {s s' : Sketch} (h : SameEditor s s') {t : Tap} (hs : LooksOnly s t) :
    LooksOnly s' t := by
  obtain ⟨hui, hconfig⟩ := h
  unfold LooksOnly
  rw [hui, hconfig]
  exact hs

/-- **Who looks edits nothing**, whatever both tasks do. -/
theorem step_unedited (t : Tank) (step : TankStep) (h : t.sketch.Unedited) (hlooks : Looks t step) :
    (t.step step).sketch.Unedited := by
  cases step with
  | btstack step => exact h
  | loop tick =>
    show (loop t tick).sketch.Unedited
    unfold loop
    split
    · exact h
    · rename_i hawake
      have hnothing := hlooks.1.resolve_left hawake
      have hsame := swept_editor tick t
      have hlooksOnly : ∀ tap, tick.tap = some tap → LooksOnly t.sketch tap := by
        intro tap htap hpage d p hselects
        have hleft := hlooks.2 hpage d p hselects
        unfold Tank.settingsMove Tank.tapOf at hleft
        simpa only [if_neg hawake, htap] using hleft
      rw [runPages_eq]
      refine endOfIteration_unedited tick _ ?_ hnothing
      unfold afterTap
      split
      · rename_i tap htap
        exact dispatchTouch_unedited tick.tapEnv tap (hsame.unedited h)
          (hsame.looksOnly (hlooksOnly tap htap))
      · exact hsame.unedited h

/-- A tap on the gear opens the editor, from whatever the pages held before. -/
structure OpensEditor (t : Tank) (gear : Tick) : Prop where
  awake : t.asleep = false
  dashboard : t.sketch.ui.currentPage = .dashboard
  tapped : gear.tap.any (·.within settingsHit) = true

/-- A session starts with nothing edited. -/
theorem OpensEditor.unedited {t : Tank} {gear : Tick} (h : OpensEditor t gear) :
    (t.step (.loop gear)).sketch.Unedited := by
  obtain ⟨tap, htap, hgear⟩ : ∃ tap, gear.tap = some tap ∧ tap.within settingsHit = true := by
    simpa [Option.any_eq_true] using h.tapped
  obtain ⟨hui, -⟩ := swept_editor gear t
  have hpage := h.dashboard
  rw [← hui] at hpage
  show (loop t gear).sketch.Unedited
  unfold loop
  rw [if_neg (by simp [h.awake]), runPages_eq]
  generalize sweepHeld gear (fetchControllers gear t) = swept at hpage
  have htapped : afterTap gear swept = (swept.sketch.withUi fun _ ui =>
      { ui with lastTouchActivityMs := gear.tapEnv.millis }).withUi fun cfg ui =>
        goToPage .editSelect gear.tapEnv.millis cfg (clearEditorSession ui) := by
    unfold afterTap dispatchTouch pageTouch dashboardTouch
    simp only [htap, Sketch.withUi_ui, hpage, hgear, if_true]
  have hup : (afterTap gear swept).ui.currentPage = .editSelect := by
    rw [htapped]
    rfl
  rw [endOfIteration_still gear swept.bp32 (by simp [hup]) (by simp [hup]) (by simp [hup])]
  refine .of_elsewhere ?_ ?_ (by simp [hup]) (by simp [hup]) (by simp [hup])
  · rw [htapped]
    exact fun _ _ => rfl
  · rw [htapped]
    rfl

/-- **Looking is not editing**: in a session in which nothing is captured, taken off, saved or left
with other fields no port's pending edit becomes dirty, and the prompt to save the changes never
comes up. -/
theorem looking_leaves_clean (t : Tank) (gear : Tick) (hopens : OpensEditor t gear)
    (steps : List TankStep) (hlooks : Meets Tank.step Looks (t.step (.loop gear)) steps) :
    (after Tank.step (t.step (.loop gear)) steps).sketch.ui.NoPending ∧
      (after Tank.step (t.step (.loop gear)) steps).sketch.ui.exitPromptActive = false := by
  have hunedited : (after Tank.step (t.step (.loop gear)) steps).sketch.Unedited :=
    invariant_after step_unedited steps _ hopens.unedited hlooks
  exact ⟨hunedited.clean, hunedited.unasked⟩

/-- Hub 1, port A, ADD and back again; then INVERT twice, and out of the editor. -/
def lookAround : List TankStep :=
  [tapAt 30 40, tapAt 30 120, tapAt 90 140, tapAt 30 190, tapAt 30 120, tapAt 10 50, tapAt 10 50,
    tapAt 30 190, tapAt 30 190, tapAt 30 190]

theorem looking_leaves_clean_around :
    (after Tank.step ((after Tank.step (Tank.boot stickConfig fun _ => none) [tapAt 0 0]).step
      (.loop (tickAt 5 5))) lookAround).sketch.ui.NoPending ∧
    (after Tank.step ((after Tank.step (Tank.boot stickConfig fun _ => none) [tapAt 0 0]).step
      (.loop (tickAt 5 5))) lookAround).sketch.ui.exitPromptActive = false :=
  looking_leaves_clean _ _ ⟨by decide +kernel, by decide +kernel, by decide +kernel⟩ lookAround
    (by decide +kernel)

end MK1Tank
