/-
The capture page's prompts: what they ask about, and what their answers do.

A run is watched for the capture that was held when the prompt that is up came up.  While
BACK's prompt is up the controller is not looked at, so the capture stays until the
answer.  The prompt between REPLACE and ADD has no such guard: the capture stays along
exactly the runs in which no other input is past its threshold while it is up.

KEEP goes back to port select with the capture held, and the port may be tapped again.
What comes of it then depends on the port's list: an empty one leads back to the capture
page and the capture, an occupied one opens on its first binding, which takes the
capture's place.
-/
import MK1Tank.Proofs.CapturePage
import MK1Tank.Proofs.Earned

namespace MK1Tank

open FileProgram Runs

theorem pageTouch_ports (env : TapEnv) {s : Sketch} (t : Tap) (hpage : s.ui.currentPage = .editPorts) :
    pageTouch env s t = dispatchPortSelectTouch env s t := by
  unfold pageTouch
  simp only [hpage]

theorem pageTouch_capture (env : TapEnv) {s : Sketch} (t : Tap)
    (hpage : s.ui.currentPage = .editCapture) :
    pageTouch env s t = dispatchCaptureTouch env s t := by
  unfold pageTouch
  simp only [hpage]

/-- The sketch right after the tap of an iteration. -/
def Tank.tapped (t : Tank) (tick : Tick) : Sketch :=
  afterTap tick (sweepHeld tick (fetchControllers tick t))

/-! ### What a prompt asks about -/

/-- One of the capture page's prompts is up. -/
def Ui.prompting (ui : Ui) : Bool := ui.capturePromptActive || ui.captureReplaceAddPromptActive

/-- The tank, and the input that was captured when the prompt that is up came up. -/
structure PromptWatch where
  tank : Tank
  asked : InputSource

/-- A prompt comes up with the tap, before the controller is looked at. -/
def PromptWatch.step (w : PromptWatch) (step : TankStep) : PromptWatch where
  tank := w.tank.step step
  asked := match step with
    | .loop tick =>
      if w.tank.sketch.ui.prompting then w.asked
      else (w.tank.tapped tick).ui.editCtx.capturedInput
    | .btstack _ => w.asked

def PromptWatch.boot (config : MkhConfig) (files : Files Path) : PromptWatch where
  tank := .boot config files
  asked := .none

/-- While a prompt is up, the capture is the one it asks about. -/
def Frozen (asked : InputSource) (ui : Ui) : Prop :=
  ui.prompting = true → ui.editCtx.captureValid = true ∧ ui.editCtx.capturedInput = asked

/-- The answers that keep the capture or commit it. -/
def answersKeeping (ui : Ui) (t : Tap) : Bool :=
  if ui.capturePromptActive then t.within captureLeft
  else ui.captureReplaceAddPromptActive && (t.within captureLeft || t.within captureRight)

/-- The input is still captured, and where the settings page came up for a binding of the list, it is
that binding's. -/
structure AnsweredWith (input : InputSource) (s : Sketch) : Prop where
  captured : s.ui.editCtx.capturedInput = input
  committed : s.ui.currentPage = .editSettings → ∀ d p, s.ui.selects d p →
    s.ui.editCtx.editingBindingIndex < effectiveBindingCount s.live.config s.ui d p →
    (effectiveBinding s.live.config s.ui d p s.ui.editCtx.editingBindingIndex).input = input

section Answers

variable {cfg : MkhConfig} {ui : Ui} {d : Device} {p : Port}

/-- **Entering the settings page with a capture commits that input and no other.** -/
theorem enterSettings_commits (hvalid : ui.editCtx.captureValid = true) (cfg : MkhConfig)
    (d : Device) (p : Port) :
    (enterSettings cfg ui d p).editCtx.capturedInput = ui.editCtx.capturedInput ∧
      ((enterSettings cfg ui d p).editCtx.editingBindingIndex <
          effectiveBindingCount cfg (enterSettings cfg ui d p) d p →
        (effectiveBinding cfg (enterSettings cfg ui d p) d p
          (enterSettings cfg ui d p).editCtx.editingBindingIndex).input =
            ui.editCtx.capturedInput) := by
  obtain ⟨shown, b, valid, heq, hctx, hlist, hinput⟩ := enterSettings_current cfg ui d p
  rw [heq]
  refine ⟨hinput hvalid, fun hidx => ?_⟩
  rw [← hctx] at hlist
  exact (congrArg Binding.input (hlist hidx)).trans (hinput hvalid)

/-- NEXT, REPLACE and ADD. -/
theorem commitCapture_answers (env : TapEnv) {s : Sketch} (idx : Nat)
    (hvalid : s.ui.editCtx.captureValid = true) :
    AnsweredWith s.ui.editCtx.capturedInput (s.withUi (commitCapture env idx)) := by
  have hcommit : ∃ moved : Ui, moved.editCtx.captureValid = true ∧
      moved.editCtx.capturedInput = s.ui.editCtx.capturedInput ∧
      commitCapture env idx s.live.config s.ui =
        drawPage s.live.config moved env.millis .editSettings :=
    ⟨{ (s.ui.withCtx fun ctx => { ctx with editingBindingIndex := idx }) with
        captureReplaceAddPromptActive := false
        settingsBackToCapture := true
        currentPage := .editSettings }, hvalid, rfl, rfl⟩
  obtain ⟨moved, hmovedValid, hmoved, heq⟩ := hcommit
  rw [← hmoved]
  have hcases : (∃ d p, moved.selects d p ∧
      drawPage s.live.config moved env.millis .editSettings = enterSettings s.live.config moved d p) ∨
      ((∀ d p, ¬ moved.selects d p) ∧
        drawPage s.live.config moved env.millis .editSettings = moved) := by
    unfold drawPage
    simp only
    split
    · rename_i d p hdevice hport
      exact Or.inl ⟨d, p, ⟨hdevice, hport⟩, rfl⟩
    · rename_i hnone
      exact Or.inr ⟨fun d p hselects => hnone d p hselects.1 hselects.2, rfl⟩
  rcases hcases with ⟨d, p, hselects, hdraw⟩ | ⟨hnone, hdraw⟩
  · obtain ⟨hcaptured, hlisted⟩ := enterSettings_commits hmovedValid s.live.config d p
    constructor
    · rw [Sketch.withUi_ui, heq, hdraw, hcaptured]
    · rw [Sketch.withUi_ui, Sketch.withUi_live, heq, hdraw]
      intro _ d' p' hselects' hidx
      obtain ⟨rfl, rfl⟩ := Ui.selects_unique (enterSettings_selects hselects d p) hselects'
      exact hlisted hidx
  · constructor
    · rw [Sketch.withUi_ui, heq, hdraw]
    · rw [Sketch.withUi_ui, Sketch.withUi_live, heq, hdraw]
      exact fun _ d' p' hselects' => absurd hselects' (hnone d' p')

theorem goToPage_ports_ctx (millis : UInt32) (cfg : MkhConfig) (ui : Ui) :
    (goToPage .editPorts millis cfg ui).editCtx = ui.editCtx := by
  show (drawPortSelect cfg { ui with currentPage := .editPorts }).editCtx = _
  unfold drawPortSelect
  split <;> rfl

/-- KEEP leads to port select with the capture held. -/
theorem captureButtons_keep (env : TapEnv) {t : Tap} (cfg : MkhConfig) {ui : Ui}
    (hprompt : ui.capturePromptActive = true) (hleft : t.within captureLeft = true) :
    captureButtons env d p t cfg ui =
      goToPage .editPorts env.millis cfg { ui with capturePromptActive := false } := by
  unfold captureButtons
  rw [if_pos hprompt, if_pos hleft]

/-- **An answer at a prompt keeps or commits the capture.** -/
theorem captureButtons_answered (env : TapEnv) (d : Device) (p : Port) {t : Tap} {s : Sketch}
    (h : s.ui.Oriented) (hanswer : answersKeeping s.ui t = true) :
    AnsweredWith s.ui.editCtx.capturedInput (s.withUi (captureButtons env d p t)) := by
  unfold answersKeeping at hanswer
  cases hkeep : s.ui.capturePromptActive with
  | true =>
    have hleft : t.within captureLeft = true := by simpa [hkeep] using hanswer
    have hbuttons : captureButtons env d p t s.live.config s.ui = _ :=
      captureButtons_keep env s.live.config hkeep hleft
    constructor
    · rw [Sketch.withUi_ui, hbuttons, goToPage_ports_ctx]
    · rw [Sketch.withUi_ui, hbuttons, goToPage_currentPage]
      exact fun hpage => absurd hpage (by simp)
  | false =>
    obtain ⟨hreplace, hbutton⟩ : s.ui.captureReplaceAddPromptActive = true ∧
        (t.within captureLeft || t.within captureRight) = true := by
      simpa [hkeep] using hanswer
    have hvalid := (h.prompts (Or.inr hreplace)).2
    have hcommit : ∃ idx, s.withUi (captureButtons env d p t) = s.withUi (commitCapture env idx) := by
      cases hleft : t.within captureLeft with
      | true =>
        refine ⟨s.ui.editCtx.editingBindingIndex, ?_⟩
        simp [Sketch.withUi, captureButtons, hkeep, hreplace, hleft]
      | false =>
        have hright : t.within captureRight = true := by simpa [hleft] using hbutton
        refine ⟨effectiveBindingCount s.live.config s.ui d p, ?_⟩
        simp [Sketch.withUi, captureButtons, hkeep, hreplace, hleft, hright]
    obtain ⟨idx, heq⟩ := hcommit
    rw [heq]
    exact commitCapture_answers env idx hvalid

end Answers

/-! ### While a prompt is up -/

section Frozen

variable {asked : InputSource} {ui : Ui} {s : Sketch}

/-- Off the capture page no prompt is up. -/
theorem Frozen.of_page (h : ui.Oriented) (hpage : ui.currentPage ≠ .editCapture) :
    Frozen asked ui := by
  intro hup
  obtain ⟨hkeep, hreplace⟩ := h.quiet hpage
  simp [Ui.prompting, hkeep, hreplace] at hup

theorem Ui.Oriented.of_prompting (h : ui.Oriented) (hup : ui.prompting = true) :
    ui.currentPage = .editCapture ∧ ui.editCtx.captureValid = true :=
  h.prompts (by simpa [Ui.prompting] using hup)

/-- The page's taps leave the capture until they answer the prompt. -/
theorem captureButtons_frozen (env : TapEnv) (d : Device) (p : Port) (t : Tap) {cfg : MkhConfig}
    (h : ui.Oriented) (hup : ui.prompting = true) (hfrozen : Frozen asked ui) :
    Frozen asked (captureButtons env d p t cfg ui) := by
  have horiented : (captureButtons env d p t cfg ui).Oriented :=
    captureButtons_oriented env t h (h.of_prompting hup).1
  have hleaves : ∀ {page moved}, page ≠ .editCapture →
      captureButtons env d p t cfg ui = goToPage page env.millis cfg moved →
      Frozen asked (captureButtons env d p t cfg ui) := by
    intro page moved hpage heq
    refine Frozen.of_page horiented ?_
    rw [heq, goToPage_currentPage]
    exact hpage
  cases hkeep : ui.capturePromptActive with
  | true =>
    cases hleft : t.within captureLeft with
    | true => exact hleaves (by simp) (captureButtons_keep env cfg hkeep hleft)
    | false =>
      cases hright : t.within captureRight with
      | true =>
        have heq : captureButtons env d p t cfg ui = goToPage .editPorts env.millis cfg
            { ui.clearCapture with capturePromptActive := false } := by
          simp [captureButtons, hkeep, hleft, hright]
        exact hleaves (by simp) heq
      | false =>
        have heq : captureButtons env d p t cfg ui = ui := by
          simp [captureButtons, hkeep, hleft, hright]
        rw [heq]
        exact hfrozen
  | false =>
    have hreplace : ui.captureReplaceAddPromptActive = true := by
      simpa [Ui.prompting, hkeep] using hup
    cases hleft : t.within captureLeft with
    | true =>
      have heq : captureButtons env d p t cfg ui =
          commitCapture env ui.editCtx.editingBindingIndex cfg ui := by
        simp [captureButtons, hkeep, hreplace, hleft]
      exact hleaves (by simp) heq
    | false =>
      cases hright : t.within captureRight with
      | true =>
        have heq : captureButtons env d p t cfg ui =
            commitCapture env (effectiveBindingCount cfg ui d p) cfg ui := by
          simp [captureButtons, hkeep, hreplace, hleft, hright]
        exact hleaves (by simp) heq
      | false =>
        have heq : captureButtons env d p t cfg ui = ui := by
          simp [captureButtons, hkeep, hreplace, hleft, hright]
        rw [heq]
        exact hfrozen

/-- A tap at a prompt is the page's, for the port selected. -/
theorem dispatchTouch_prompting (env : TapEnv) (t : Tap) (hpage : s.ui.currentPage = .editCapture)
    (hselects : s.ui.selects d p) (hup : s.ui.prompting = true) :
    dispatchTouch env s t =
      (s.withUi fun _ ui => { ui with lastTouchActivityMs := env.millis }).withUi
        (captureButtons env d p t) := by
  obtain ⟨hdevice, hport⟩ := hselects
  have hnoted : (s.withUi fun _ ui => { ui with lastTouchActivityMs := env.millis }).ui.currentPage =
      .editCapture := hpage
  unfold dispatchTouch
  rw [pageTouch_capture env t hnoted]
  unfold dispatchCaptureTouch
  simp only [Sketch.withUi_ui, hdevice, hport]
  have hclosed : ¬ (!s.ui.capturePromptActive && !s.ui.captureReplaceAddPromptActive &&
      t.within testToggle) = true := by
    rcases (Bool.or_eq_true _ _).mp hup with hkeep | hreplace
    · simp [hkeep]
    · simp [hreplace]
  exact if_neg hclosed

theorem dispatchTouch_frozen (env : TapEnv) (t : Tap) (h : s.ui.Oriented)
    (hup : s.ui.prompting = true) (hfrozen : Frozen asked s.ui) :
    Frozen asked (dispatchTouch env s t).ui := by
  have hpage := (h.of_prompting hup).1
  obtain ⟨-, d, p, hselects⟩ := h.selected (Or.inl hpage)
  rw [dispatchTouch_prompting env t hpage hselects hup]
  have hnoted : ({ s.ui with lastTouchActivityMs := env.millis } : Ui).Oriented :=
    ⟨h.selected, h.prompts, h.single⟩
  exact captureButtons_frozen env d p t hnoted hup hfrozen

/-- The end of an iteration raises no prompt and takes none down. -/
theorem endOfIteration_prompting (tick : Tick) (bp : Bluepad32) (s : Sketch) :
    (pageTick tick bp (idleEntry tick.idleMillis s)).1.ui.prompting = s.ui.prompting := by
  have hgo : ∀ (page : UiPage) (millis : UInt32) (s : Sketch), page ≠ .editCapture →
      (s.withUi (goToPage page millis)).ui.prompting = s.ui.prompting := by
    intro page millis s hpage
    obtain ⟨-, -, -, hkeep, hreplace⟩ := goToPage_focus s.live.config s.ui hpage millis
    simp only [Sketch.withUi_ui, Ui.prompting, hkeep, hreplace]
  have hentry : (idleEntry tick.idleMillis s).ui.prompting = s.ui.prompting := by
    unfold idleEntry
    split
    · exact hgo _ _ _ (by simp)
    · rfl
  rw [← hentry]
  generalize idleEntry tick.idleMillis s = s
  unfold pageTick
  split
  · show (idleTick tick s).1.ui.prompting = _
    unfold idleTick
    split
    · exact hgo _ _ _ (by simp)
    · split
      · simp only
        split
        · exact hgo _ _ _ (by simp)
        · split <;> rfl
      · split <;> rfl
  · show (if s.ui.capturePromptActive then s else checkCapture bp s).ui.prompting = _
    split
    · rfl
    · rw [checkCapture_eq]
      cases capturable bp s <;> rfl
  · rfl

/-- No input but the captured one is taken while the prompt between REPLACE and ADD is up. -/
def LeavesCapture (bp : Bluepad32) (s : Sketch) : Prop :=
  s.ui.captureReplaceAddPromptActive = true → ∀ token, capturable bp s = some token →
    token = s.ui.editCtx.capturedInput

/-- **What follows the tap leaves the capture exactly when the controller offers no other.** -/
theorem endOfIteration_frozen_iff (tick : Tick) (bp : Bluepad32) (h : s.ui.Oriented)
    (hfrozen : Frozen asked s.ui) :
    Frozen asked (pageTick tick bp (idleEntry tick.idleMillis s)).1.ui ↔ LeavesCapture bp s := by
  cases hup : s.ui.prompting with
  | false =>
    have hreplace : s.ui.captureReplaceAddPromptActive = false := (Bool.or_eq_false_iff.mp hup).2
    refine iff_of_true ?_ fun hraised => absurd (hreplace.symm.trans hraised) Bool.false_ne_true
    intro hafter
    rw [endOfIteration_prompting, hup] at hafter
    cases hafter
  | true =>
    have hpage := (h.of_prompting hup).1
    obtain ⟨hvalid, hcaptured⟩ := hfrozen hup
    have hentry : idleEntry tick.idleMillis s = s := by
      unfold idleEntry
      rw [if_neg (by simp [hpage])]
    have htick : (pageTick tick bp s).1 =
        if s.ui.capturePromptActive then s else checkCapture bp s := by
      unfold pageTick
      simp only [hpage]
    rw [hentry, htick]
    cases hkeep : s.ui.capturePromptActive with
    | true =>
      have hreplace := h.single hkeep
      rw [if_pos rfl]
      exact iff_of_true hfrozen fun hraised => absurd (hreplace.symm.trans hraised) Bool.false_ne_true
    | false =>
      have hreplace : s.ui.captureReplaceAddPromptActive = true := by
        simpa [Ui.prompting, hkeep] using hup
      rw [if_neg Bool.false_ne_true, checkCapture_eq]
      unfold LeavesCapture
      cases htoken : capturable bp s with
      | none => exact iff_of_true hfrozen fun _ token heq => absurd heq (by simp)
      | some token =>
        constructor
        · intro hafter _ token' heq
          obtain rfl : token = token' := Option.some.inj heq
          exact (hafter hup).2.trans hcaptured.symm
        · intro hleaves _
          exact ⟨rfl, (hleaves hreplace token rfl).trans hcaptured⟩

end Frozen

/-! ### Runs with the prompts watched -/

/-- The condition: the prompt between REPLACE and ADD finds the controller at rest, or at the input
that is captured. -/
def PromptUndisturbed (w : PromptWatch) : TankStep → Prop
  | .loop tick => w.tank.asleep = true ∨
      LeavesCapture (sweepHeld tick (fetchControllers tick w.tank)).bp32 (w.tank.tapped tick)
  | .btstack _ => True

/-- The invariant of the watch. -/
structure WatchedPrompt (w : PromptWatch) : Prop where
  oriented : w.tank.sketch.ui.Oriented
  frozen : Frozen w.asked w.tank.sketch.ui

theorem afterTap_oriented {tick : Tick} {t : Tank} (h : t.sketch.ui.Oriented) :
    (afterTap tick t).ui.Oriented := by
  unfold afterTap
  split
  · exact dispatchTouch_oriented _ _ h
  · exact h

/-- The tap of an iteration, watched: where it raises a prompt, the prompt asks about the capture that
is held. -/
theorem WatchedPrompt.tapped {w : PromptWatch} (h : WatchedPrompt w) (tick : Tick) :
    (w.tank.tapped tick).ui.Oriented ∧
      Frozen (w.step (.loop tick)).asked (w.tank.tapped tick).ui := by
  obtain ⟨hui, -⟩ := swept_editor tick w.tank
  have horiented := h.oriented
  have hfrozen := h.frozen
  rw [← hui] at horiented hfrozen
  have htapped : (w.tank.tapped tick).ui.Oriented := afterTap_oriented horiented
  refine ⟨htapped, ?_⟩
  show Frozen (if w.tank.sketch.ui.prompting then w.asked
    else (w.tank.tapped tick).ui.editCtx.capturedInput) _
  cases hup : w.tank.sketch.ui.prompting with
  | false => exact fun hraised => ⟨(htapped.of_prompting hraised).2, rfl⟩
  | true =>
    rw [← hui] at hup
    rw [if_pos rfl]
    unfold Tank.tapped afterTap
    split
    · exact dispatchTouch_frozen _ _ horiented hup hfrozen
    · exact hfrozen

/-- A step leaves the capture that a prompt asks about exactly when it meets the condition. -/
theorem WatchedPrompt.step_iff {w : PromptWatch} (h : WatchedPrompt w) (step : TankStep) :
    WatchedPrompt (w.step step) ↔ PromptUndisturbed w step := by
  have horiented : (w.step step).tank.sketch.ui.Oriented := step_oriented w.tank step h.oriented
  suffices hfrozen : Frozen (w.step step).asked (w.step step).tank.sketch.ui ↔
      PromptUndisturbed w step from
    ⟨fun hafter => hfrozen.mp hafter.frozen, fun hok => ⟨horiented, hfrozen.mpr hok⟩⟩
  cases step with
  | btstack step => exact iff_of_true h.frozen trivial
  | loop tick =>
    obtain ⟨htapped, hasked⟩ := h.tapped tick
    show Frozen _ (loop w.tank tick).sketch.ui ↔ _
    unfold PromptUndisturbed loop
    cases hasleep : w.tank.asleep with
    | true =>
      refine iff_of_true ?_ (Or.inl rfl)
      intro hup
      have hasked' : (w.step (.loop tick)).asked = w.asked := if_pos hup
      rw [hasked']
      exact h.frozen hup
    | false =>
      rw [if_neg Bool.false_ne_true, runPages_eq]
      exact (endOfIteration_frozen_iff tick _ htapped hasked).trans
        ⟨Or.inr, fun hor => hor.resolve_left Bool.false_ne_true⟩

theorem WatchedPrompt.boot (config : MkhConfig) (files : Files Path) :
    WatchedPrompt (.boot config files) := by
  refine ⟨boot_oriented config files, fun hup => ?_⟩
  cases hup

/-- What the capture page's prompts promise, along a run. -/
structure PromptContract (config : MkhConfig) (files : Files Path) (steps : List TankStep) : Prop where
  frozen : ∀ front back, steps = front ++ back →
    Frozen (after PromptWatch.step (.boot config files) front).asked
      (after PromptWatch.step (.boot config files) front).tank.sketch.ui
  answered : ∀ front tick tap back, steps = front ++ .loop tick :: back → tick.tap = some tap →
    answersKeeping (after PromptWatch.step (.boot config files) front).tank.sketch.ui tap = true →
      AnsweredWith (after PromptWatch.step (.boot config files) front).asked
        ((after PromptWatch.step (.boot config files) front).tank.tapped tick)

/-- An answer given in a state whose prompt asks about the capture held. -/
theorem WatchedPrompt.answered {w : PromptWatch} (h : WatchedPrompt w) {tick : Tick} {tap : Tap}
    (htap : tick.tap = some tap) (hanswer : answersKeeping w.tank.sketch.ui tap = true) :
    AnsweredWith w.asked (w.tank.tapped tick) := by
  have hup : w.tank.sketch.ui.prompting = true := by
    unfold answersKeeping at hanswer
    unfold Ui.prompting
    split at hanswer
    · rename_i hkeep
      rw [hkeep, Bool.true_or]
    · rw [Bool.and_elim_left hanswer, Bool.or_true]
  obtain ⟨-, hcaptured⟩ := h.frozen hup
  obtain ⟨hui, -⟩ := swept_editor tick w.tank
  have horiented := h.oriented
  rw [← hui] at horiented hup hanswer hcaptured
  rw [← hcaptured]
  unfold Tank.tapped afterTap
  simp only [htap]
  have hpage := (horiented.of_prompting hup).1
  obtain ⟨-, d, p, hselects⟩ := horiented.selected (Or.inl hpage)
  rw [dispatchTouch_prompting tick.tapEnv tap hpage hselects hup]
  have hnoted : ((sweepHeld tick (fetchControllers tick w.tank)).sketch.withUi fun _ ui =>
      { ui with lastTouchActivityMs := tick.tapEnv.millis }).ui.Oriented :=
    ⟨horiented.selected, horiented.prompts, horiented.single⟩
  exact captureButtons_answered tick.tapEnv d p hnoted hanswer

/-- **A prompt keeps the capture it asks about along exactly the runs in which the prompt between
REPLACE and ADD is not disturbed by another input.** -/
theorem prompt_contract_iff (config : MkhConfig) (files : Files Path) (steps : List TankStep) :
    PromptContract config files steps ↔
      Meets PromptWatch.step PromptUndisturbed (.boot config files) steps := by
  have hstep : ∀ w step, WatchedPrompt w → PromptUndisturbed w step → WatchedPrompt (w.step step) :=
    fun w step h => (h.step_iff step).mpr
  have hbreak : ∀ w step, WatchedPrompt w → ¬ PromptUndisturbed w step →
      ¬ Frozen (w.step step).asked (w.step step).tank.sketch.ui := fun w step h hnot hfrozen =>
    hnot ((h.step_iff step).mp ⟨step_oriented w.tank step h.oriented, hfrozen⟩)
  have hexact := always_iff_meets hstep (fun w (h : WatchedPrompt w) => h.frozen) hbreak steps _
    (WatchedPrompt.boot config files)
  constructor
  · exact fun hcontract => hexact.mp hcontract.frozen
  · intro hmeets
    refine ⟨hexact.mpr hmeets, ?_⟩
    intro front tick tap back hsplit htap hanswer
    have hfront : Meets PromptWatch.step PromptUndisturbed (.boot config files) front := by
      rw [hsplit, meets_append] at hmeets
      exact hmeets.1
    have hwatched := invariant_after hstep front _ (WatchedPrompt.boot config files) hfront
    exact hwatched.answered htap hanswer

/-- Button B held, and nothing else. -/
def buttonBReport : ControllerData :=
  { ControllerData.zero with klass := .gamepad, gamepadButtons := 0x0002 }

/-- The prompt between REPLACE and ADD comes up over a capture of A, and B is pressed. -/
def pressAtPrompt : List TankStep :=
  captureForEighth ++ [tapAt 200 190, .loop (tickOf (.success buttonBReport) none)]

/-- The prompt that came up for A commits B. -/
theorem prompt_capture_replaced :
    (after PromptWatch.step (.boot stickConfig fun _ => none) pressAtPrompt).asked = .btnA ∧
      ¬ ∀ config files steps, PromptContract config files steps := by
  refine ⟨by decide +kernel, fun hall => ?_⟩
  have hfrozen := (hall stickConfig (fun _ => none) pressAtPrompt).frozen pressAtPrompt []
    (List.append_nil _).symm (by decide +kernel)
  exact absurd hfrozen.2 (by decide +kernel)

/-! ### KEEP, and the way back -/

/-- A tap that leaves port select up and selects nothing. -/
def staysOnPorts (t : Tap) : Bool :=
  t.within testToggle || (!t.within selectBack && Port.all.all fun q => !t.within (portCell q))

/-- On port select, with the context of an earlier state and its list for one port. -/
structure KeptOn (s₀ : Sketch) (d : Device) (p : Port) (s : Sketch) : Prop where
  page : s.ui.currentPage = .editPorts
  ctx : s.ui.editCtx = s₀.ui.editCtx
  count : effectiveBindingCount s.live.config s.ui d p =
    effectiveBindingCount s₀.live.config s₀.ui d p
  first : effectiveBinding s.live.config s.ui d p 0 = effectiveBinding s₀.live.config s₀.ui d p 0

section Keep

variable {s₀ s : Sketch} {d : Device} {p : Port}

theorem KeptOn.congr {s' : Sketch} (h : KeptOn s₀ d p s) (hsame : SameEditor s s') :
    KeptOn s₀ d p s' := by
  obtain ⟨hui, hconfig⟩ := hsame
  refine ⟨?_, ?_, ?_, ?_⟩
  · rw [hui]
    exact h.page
  · rw [hui]
    exact h.ctx
  · rw [hui, hconfig]
    exact h.count
  · rw [hui, hconfig]
    exact h.first

theorem KeptOn.noted (h : KeptOn s₀ d p s) (millis : UInt32) :
    KeptOn s₀ d p (s.withUi fun _ ui => { ui with lastTouchActivityMs := millis }) :=
  ⟨h.page, h.ctx, h.count, h.first⟩

theorem KeptOn.testToggle (h : KeptOn s₀ d p s) : KeptOn s₀ d p (handleTestToggleTap s) := by
  unfold handleTestToggleTap
  split
  · exact ⟨h.page, h.ctx, h.count, h.first⟩
  · refine ⟨h.page, h.ctx, ?_, ?_⟩
    · exact (push_effectiveCount s { s.ui with testActive := true } rfl d p).trans h.count
    · exact (push_effectiveBinding s { s.ui with testActive := true } rfl d p 0).trans h.first

theorem KeptOn.dispatchTouch (h : KeptOn s₀ d p s) (env : TapEnv) {t : Tap}
    (hstays : staysOnPorts t = true) : KeptOn s₀ d p (dispatchTouch env s t) := by
  have hnoted := h.noted env.millis
  unfold MK1Tank.dispatchTouch
  rw [pageTouch_ports env t hnoted.page]
  generalize (s.withUi fun _ ui => { ui with lastTouchActivityMs := env.millis }) = noted at hnoted
  unfold dispatchPortSelectTouch
  by_cases htest : t.within MK1Tank.testToggle = true
  · rw [if_pos htest]
    exact hnoted.testToggle
  · obtain ⟨hback, hcells⟩ : t.within selectBack = false ∧ ∀ q, t.within (portCell q) = false := by
      simpa [staysOnPorts, htest] using hstays
    have hnone : Port.all.find? (fun q => t.within (portCell q)) = none :=
      List.find?_eq_none.mpr fun q _ => by simp [hcells q]
    rw [if_neg htest, if_neg (by simp [hback]), hnone]
    cases noted.ui.editCtx.selectedDevice <;> exact hnoted

/-- Nothing follows a tap on port select. -/
theorem KeptOn.runPages {t : Tank} {tick : Tick} (h : KeptOn s₀ d p (afterTap tick t)) :
    KeptOn s₀ d p (runPages tick t).sketch ∧ (runPages tick t).asleep = false := by
  have hstill := endOfIteration_still tick t.bp32 (s := afterTap tick t) (by simp [h.page])
    (by simp [h.page]) (by simp [h.page])
  rw [runPages_eq, hstill]
  exact ⟨h, rfl⟩

/-- **Between KEEP and the tap on the port**, whatever else is tapped on the page and whatever both
tasks do. -/
theorem KeptOn.step {t : Tank} (h : KeptOn s₀ d p t.sketch) (hawake : t.asleep = false)
    (step : TankStep) (hstays : (t.tapOf step).all staysOnPorts = true) :
    KeptOn s₀ d p (t.step step).sketch ∧ (t.step step).asleep = false := by
  cases step with
  | btstack step => exact ⟨h.congr ⟨rfl, rfl⟩, hawake⟩
  | loop tick =>
    show KeptOn s₀ d p (loop t tick).sketch ∧ (loop t tick).asleep = false
    rcases loop_cases t tick with ⟨hasleep, -⟩ | ⟨-, swept, hsame, heq⟩
    · exact absurd (hawake.symm.trans hasleep) Bool.false_ne_true
    · have hswept := h.congr hsame
      have htaps : tick.tap.all staysOnPorts = true := by simpa [Tank.tapOf, hawake] using hstays
      rw [heq]
      refine KeptOn.runPages ?_
      unfold afterTap
      split
      · rename_i tap htap
        rw [htap] at htaps
        exact hswept.dispatchTouch tick.tapEnv htaps
      · exact hswept

theorem keptOn_keep_tap (env : TapEnv) {t : Tap} (hpage : s.ui.currentPage = .editCapture)
    (hselects : s.ui.selects d p) (hprompt : s.ui.capturePromptActive = true)
    (hleft : t.within captureLeft = true) : KeptOn s d p (dispatchTouch env s t) := by
  have hup : s.ui.prompting = true := by simp [Ui.prompting, hprompt]
  rw [dispatchTouch_prompting env t hpage hselects hup]
  have hbuttons : captureButtons env d p t s.live.config
      { s.ui with lastTouchActivityMs := env.millis } = goToPage .editPorts env.millis s.live.config
        { s.ui with lastTouchActivityMs := env.millis, capturePromptActive := false } :=
    captureButtons_keep env s.live.config hprompt hleft
  have hpending : (captureButtons env d p t s.live.config
      { s.ui with lastTouchActivityMs := env.millis }).pendingEdits = s.ui.pendingEdits := by
    rw [hbuttons, goToPage_pending (by simp)]
  refine ⟨?_, ?_, ?_, ?_⟩
  · exact (congrArg Ui.currentPage hbuttons).trans (goToPage_currentPage _ _ _ _)
  · exact (congrArg Ui.editCtx hbuttons).trans (goToPage_ports_ctx _ _ _)
  · exact effectiveBindingCount_congr (congrFun (congrFun hpending d) p)
  · exact effectiveBinding_congr (congrFun (congrFun hpending d) p) 0

theorem keptOn_keep {t : Tank} {tick : Tick} {tap : Tap} (hawake : t.asleep = false)
    (hpage : t.sketch.ui.currentPage = .editCapture) (hselects : t.sketch.ui.selects d p)
    (hprompt : t.sketch.ui.capturePromptActive = true) (htap : tick.tap = some tap)
    (hleft : tap.within captureLeft = true) :
    KeptOn t.sketch d p (t.step (.loop tick)).sketch ∧ (t.step (.loop tick)).asleep = false := by
  show KeptOn t.sketch d p (loop t tick).sketch ∧ (loop t tick).asleep = false
  rcases loop_cases t tick with ⟨hasleep, -⟩ | ⟨-, swept, ⟨hui, hconfig⟩, heq⟩
  · exact absurd (hawake.symm.trans hasleep) Bool.false_ne_true
  rw [heq]
  refine KeptOn.runPages ?_
  unfold afterTap
  simp only [htap]
  rw [← hui] at hpage hselects hprompt
  have hkept := keptOn_keep_tap tick.tapEnv hpage hselects hprompt hleft
  refine ⟨hkept.page, ?_, ?_, ?_⟩
  · exact hkept.ctx.trans (congrArg Ui.editCtx hui)
  · rw [hkept.count, hui, hconfig]
  · rw [hkept.first, hui, hconfig]

/-- The capture of an earlier state is held. -/
def HoldsCapture (s₀ s : Sketch) : Prop :=
  s.ui.editCtx.capturedInput = s₀.ui.editCtx.capturedInput ∧ s.ui.editCtx.captureValid = true

/-- **The tap on the port**: an empty list leads back to the capture, and the first binding of any
other takes its place. -/
theorem KeptOn.retap_iff (h : KeptOn s₀ d p s) (hfocus : s₀.ui.editCtx.selectedValid = true)
    (hselects : s₀.ui.selects d p) (hvalid : s₀.ui.editCtx.captureValid = true) (env : TapEnv)
    {t : Tap} (hcell : t.within (portCell p) = true) :
    HoldsCapture s₀ (MK1Tank.dispatchTouch env s t) ↔
      effectiveBindingCount s₀.live.config s₀.ui d p = 0 ∨
        (effectiveBinding s₀.live.config s₀.ui d p 0).input = s₀.ui.editCtx.capturedInput ∧
          s₀.ui.editCtx.capturedInput ≠ .none := by
  obtain ⟨htest, hback, hfind⟩ := portCell_tap hcell
  have hnoted := h.noted env.millis
  unfold MK1Tank.dispatchTouch
  rw [pageTouch_ports env t hnoted.page]
  generalize (s.withUi fun _ ui => { ui with lastTouchActivityMs := env.millis }) = s at hnoted
  have hselected : s.ui.selects d p := by
    unfold Ui.selects
    rw [hnoted.ctx]
    exact hselects
  have hdispatch : dispatchPortSelectTouch env s t = s.withUi (selectPort env d p) := by
    unfold dispatchPortSelectTouch
    rw [if_neg (by simp [htest]), if_neg (by simp [hback]), hfind]
    simp only [hselected.1]
  have hvalidPort : s.ui.editCtx.selectedValid = true := by rw [hnoted.ctx, hfocus]
  have hcapture := focusPort_same hvalidPort hselected.2
  have hcount : effectiveBindingCount s.live.config (focusPort s.ui p) d p =
      effectiveBindingCount s₀.live.config s₀.ui d p :=
    (effectiveBindingCount_congr (congrFun (congrFun (focusPort_pending s.ui p) d) p)).trans
      hnoted.count
  have hfirst : effectiveBinding s.live.config (focusPort s.ui p) d p 0 =
      effectiveBinding s₀.live.config s₀.ui d p 0 :=
    (effectiveBinding_congr (congrFun (congrFun (focusPort_pending s.ui p) d) p) 0).trans
      hnoted.first
  obtain ⟨hdevice, hport, hindex⟩ := focusPort_ctx s.ui p
  rw [hdispatch]
  unfold HoldsCapture
  simp only [Sketch.withUi_ui, selectPort]
  rcases Nat.eq_zero_or_pos (effectiveBindingCount s₀.live.config s₀.ui d p) with hempty | hoccupied
  · rw [openPort_empty env (hcount.trans hempty)]
    refine iff_of_true ⟨?_, ?_⟩ (Or.inl hempty)
    · exact hcapture.1.trans (by rw [hnoted.ctx])
    · exact hcapture.2.trans (by rw [hnoted.ctx, hvalid])
  · rw [openPort_occupied env ⟨hdevice.trans hselected.1, hport⟩ hindex (by rw [hcount]; exact hoccupied),
      hfirst]
    show (effectiveBinding s₀.live.config s₀.ui d p 0).input = s₀.ui.editCtx.capturedInput ∧
      ((effectiveBinding s₀.live.config s₀.ui d p 0).input != .none) = true ↔ _
    constructor
    · rintro ⟨hinput, hreal⟩
      rw [hinput] at hreal
      exact Or.inr ⟨hinput, ne_none_of_bne hreal⟩
    · rintro (hempty | ⟨hinput, hreal⟩)
      · exact absurd hempty hoccupied.ne'
      · refine ⟨hinput, ?_⟩
        rw [hinput]
        simpa using hreal

end Keep

/-- KEEP is answered for the port, and the port is tapped again with nothing else tapped in between
that leads off port select. -/
structure KeepAndRetap (t : Tank) (d : Device) (p : Port) (keep retap : Tick)
    (between : List TankStep) : Prop where
  awake : t.asleep = false
  page : t.sketch.ui.currentPage = .editCapture
  prompt : t.sketch.ui.capturePromptActive = true
  selects : t.sketch.ui.selects d p
  answer : keep.tap.any (·.within captureLeft) = true
  stays : Meets Tank.step (fun t step => (t.tapOf step).all staysOnPorts = true)
    (t.step (.loop keep)) between
  again : retap.tap.any (·.within (portCell p)) = true

/-- **A kept capture comes back with the tap on its port exactly when the port has no binding**, or
has the captured input in its first one already. -/
theorem kept_capture_iff (config : MkhConfig) (files : Files Path) (steps : List TankStep)
    (t : Tank) (ht : t = after Tank.step (Tank.boot config files) steps) (d : Device) (p : Port)
    (keep retap : Tick) (between : List TankStep) (h : KeepAndRetap t d p keep retap between) :
    HoldsCapture t.sketch ((after Tank.step (t.step (.loop keep)) between).tapped retap) ↔
      effectiveBindingCount t.sketch.live.config t.sketch.ui d p = 0 ∨
        (effectiveBinding t.sketch.live.config t.sketch.ui d p 0).input =
            t.sketch.ui.editCtx.capturedInput ∧
          t.sketch.ui.editCtx.capturedInput ≠ .none := by
  have horiented : t.sketch.ui.Oriented := by
    rw [ht]
    exact invariant_always step_oriented steps (boot_oriented config files)
  obtain ⟨keepTap, hkeep, hleft⟩ : ∃ tap, keep.tap = some tap ∧ tap.within captureLeft = true := by
    simpa [Option.any_eq_true] using h.answer
  obtain ⟨cellTap, hretap, hcell⟩ :
      ∃ tap, retap.tap = some tap ∧ tap.within (portCell p) = true := by
    simpa [Option.any_eq_true] using h.again
  have hkept := keptOn_keep h.awake h.page h.selects h.prompt hkeep hleft
  have hstep : ∀ (t' : Tank) (step : TankStep),
      (KeptOn t.sketch d p t'.sketch ∧ t'.asleep = false) →
      (t'.tapOf step).all staysOnPorts = true →
      KeptOn t.sketch d p (t'.step step).sketch ∧ (t'.step step).asleep = false :=
    fun t' step hinv hstays => hinv.1.step hinv.2 step hstays
  have hrun := invariant_after hstep between _ hkept h.stays
  have hswept := hrun.1.congr (swept_editor retap _)
  have hvalid := (horiented.prompts (Or.inl h.prompt)).2
  have hfocus := (horiented.selected (Or.inl h.page)).1
  unfold Tank.tapped afterTap
  simp only [hretap]
  exact hswept.retap_iff hfocus h.selects hvalid retap.tapEnv hcell

/-- From start-up to the capture page of hub 1's empty port A, a press of the A button there, and
BACK. -/
def captureThenBack : List TankStep :=
  [tapAt 0 0, tapAt 5 5, tapAt 30 40, tapAt 30 120, .loop (tickOf (.success buttonAReport) none),
    tapAt 30 190]

/-- An iteration's tap, the controller silent. -/
def tickAt (x y : Int) : Tick := tickOf .noData (some ⟨x, y⟩)

theorem kept_capture_empty :
    HoldsCapture (after Tank.step (Tank.boot blankConfig fun _ => none) captureThenBack).sketch
      ((after Tank.step ((after Tank.step (Tank.boot blankConfig fun _ => none)
        captureThenBack).step (.loop (tickAt 30 190))) [tapAt 300 10]).tapped (tickAt 30 120)) :=
  (kept_capture_iff blankConfig (fun _ => none) captureThenBack _ rfl 0 mkhPortA (tickAt 30 190)
    (tickAt 30 120) [tapAt 300 10]
    ⟨by decide +kernel, by decide +kernel, by decide +kernel,
      ⟨by decide +kernel, by decide +kernel⟩, by decide +kernel, by decide +kernel,
      by decide +kernel⟩).mpr (Or.inl (by decide +kernel))

/-- The same on a port that has a binding, reached through ADD. -/
theorem kept_capture_overwritten :
    ¬ ∀ (config : MkhConfig) (files : Files Path) (steps : List TankStep) (t : Tank),
      t = after Tank.step (Tank.boot config files) steps →
      ∀ (d : Device) (p : Port) (keep retap : Tick) (between : List TankStep),
        KeepAndRetap t d p keep retap between →
        HoldsCapture t.sketch ((after Tank.step (t.step (.loop keep)) between).tapped retap) := by
  intro hall
  have hholds := hall stickConfig (fun _ => none) (captureForEighth ++ [tapAt 30 190]) _ rfl 0
    mkhPortA (tickAt 30 190) (tickAt 30 120) []
    ⟨by decide +kernel, by decide +kernel, by decide +kernel,
      ⟨by decide +kernel, by decide +kernel⟩, by decide +kernel, by decide +kernel,
      by decide +kernel⟩
  exact absurd hholds.1 (by decide +kernel)

end MK1Tank
