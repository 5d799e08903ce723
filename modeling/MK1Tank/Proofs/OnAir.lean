/-
The firmware on the air.

All that the sketch does to the broadcaster is to call its setter and its two toggles.  A
run of the firmware is therefore, to the broadcaster, one of the interleavings that its
own proofs are about, with the steps of its task in their order.
-/
import MK1Tank.Proofs.Board
import MK1Tank.Proofs.Air

namespace MK1Tank

open FileProgram Runs

/-! ### The sketch's steps -/

/-- A call of the setter. -/
def BroadcastStep.sets : BroadcastStep → Prop
  | .setChannel _ _ _ _ => True
  | _ => False

/-- A step of the BTstack task. -/
def BtstackStep.toBroadcast : BtstackStep → BroadcastStep
  | .stateWorking => .stateWorking
  | .controlTick => .controlTick
  | .runCallback => .runCallback

/-- Which step of the BTstack task it is, if it is one. -/
def BroadcastStep.ofBtstack : BroadcastStep → Option BtstackStep
  | .stateWorking => some .stateWorking
  | .controlTick => some .controlTick
  | .runCallback => some .runCallback
  | _ => none

/-- A call of the sketch. -/
def BroadcastStep.bySketch (step : BroadcastStep) : Prop := step.ofBtstack = none

theorem BroadcastStep.sets.bySketch {step : BroadcastStep} (h : step.sets) : step.bySketch := by
  cases step with
  | setChannel => rfl
  | _ => exact h.elim

/-- The setter is called, and nothing else. -/
abbrev SetsOnly (b b' : Broadcast) : Prop := ReachedBy Broadcast.step BroadcastStep.sets b b'

/-- The sketch's calls lead from the one state to the other. -/
abbrev SketchOnly (b b' : Broadcast) : Prop :=
  ReachedBy Broadcast.step BroadcastStep.bySketch b b'

theorem SetsOnly.sketchOnly {b b' : Broadcast} (h : SetsOnly b b') : SketchOnly b b' :=
  h.mono fun _ => BroadcastStep.sets.bySketch

theorem setChannel_sets (s : Live) (d : Device) (p : Port) (value : UInt8) (now : Int) :
    SetsOnly s.broadcast (s.setChannel d p value now).broadcast :=
  ReachedBy.single s.broadcast (show BroadcastStep.sets (.setChannel d.val p.val value now) from trivial)

/-! ### The iteration up to the pages -/

theorem sweepPort_sets (sw : Sweep) (now : SetterClock) (s : Live) (d : Device) (p : Port) :
    SetsOnly s.broadcast (sweepPort sw now s d p).broadcast := by
  unfold sweepPort
  split
  · exact ReachedBy.refl _
  · exact setChannel_sets _ d p _ _

theorem processMappedInputs_sets (sw : Sweep) (now : SetterClock) (s : Live) :
    SetsOnly s.broadcast (processMappedInputs sw now s).broadcast := by
  have hkeep : ∀ (s' : Live) d p, SetsOnly s.broadcast s'.broadcast →
      SetsOnly s.broadcast (sweepPort sw now s' d p).broadcast :=
    fun s' d p h => h.trans (sweepPort_sets sw now s' d p)
  exact forEachPort_keeps hkeep (ReachedBy.refl s.broadcast)

theorem stopPort_sets (now : SetterClock) (s : Live) (d : Device) (p : Port) :
    SetsOnly s.broadcast (stopPort now s d p).broadcast := by
  unfold stopPort
  split
  · exact setChannel_sets s d p _ _
  · exact ReachedBy.refl _

theorem disconnectFailsafe_sets (now : SetterClock) (s : Live) :
    SetsOnly s.broadcast (disconnectFailsafe now s).broadcast := by
  have hkeep : ∀ (s' : Live) d p, SetsOnly s.broadcast s'.broadcast →
      SetsOnly s.broadcast (stopPort now s' d p).broadcast :=
    fun s' d p h => h.trans (stopPort_sets now s' d p)
  have hstop : SetsOnly s.broadcast (forEachPort (stopPort now) s).broadcast :=
    forEachPort_keeps hkeep (ReachedBy.refl s.broadcast)
  unfold disconnectFailsafe
  generalize forEachPort (stopPort now) s = stopped at hstop
  exact hstop

theorem fetchControllers_sets (tick : Tick) (t : Tank) :
    SetsOnly t.sketch.live.broadcast (fetchControllers tick t).sketch.live.broadcast := by
  have hconnect : ∀ i s, SetsOnly t.sketch.live.broadcast s.live.broadcast →
      SetsOnly t.sketch.live.broadcast (onConnectedController i s).live.broadcast := by
    intro i s h
    rwa [onConnectedController_live]
  have hdisconnect : ∀ i s, SetsOnly t.sketch.live.broadcast s.live.broadcast →
      SetsOnly t.sketch.live.broadcast
        (onDisconnectedController tick.failsafeClock i s).live.broadcast := by
    intro i s h
    unfold onDisconnectedController
    split
    · exact h
    · simp only
      split
      · exact h.trans (disconnectFailsafe_sets tick.failsafeClock s.live)
      · exact h
  have hnote : ∀ bp s, SetsOnly t.sketch.live.broadcast s.live.broadcast →
      SetsOnly t.sketch.live.broadcast (processControllers bp s).live.broadcast := by
    intro bp s h
    obtain ⟨xwcState, hnote⟩ := processControllers_note bp s
    rw [hnote]
    exact h
  exact fetchControllers_keeps hconnect hdisconnect hnote (ReachedBy.refl t.sketch.live.broadcast)

theorem sweepHeld_sets (tick : Tick) (t : Tank) :
    SetsOnly t.sketch.live.broadcast (sweepHeld tick t).sketch.live.broadcast := by
  unfold sweepHeld
  split
  · exact ReachedBy.refl _
  · rename_i ctl _
    have hsweep := processMappedInputs_sets (tick.sweep (t.bp32.controllers ctl).data) tick.sweepClock
      t.sketch.live
    generalize processMappedInputs (tick.sweep (t.bp32.controllers ctl).data) tick.sweepClock
      t.sketch.live = live at hsweep
    exact hsweep

/-! ### The pages -/

/-- A step of the editor's pages leaves the broadcaster alone. -/
def SameAir (s s' : Sketch) : Prop := s'.live.broadcast = s.live.broadcast

theorem handleTestToggleTap_air (s : Sketch) : SameAir s (handleTestToggleTap s) := by
  unfold SameAir
  rw [handleTestToggleTap_live]
  split
  · rfl
  · exact TableChange.apply_broadcast s.live _

theorem performSaveAndExit_air (oracle : FileOracle) (millis : UInt32) (s : Sketch) :
    SameAir s (performSaveAndExit oracle millis s) := by
  unfold SameAir
  rw [performSaveAndExit_live, TableChange.apply_broadcast]

theorem confirmResetAll_air (env : TapEnv) (s : Sketch) : SameAir s (confirmResetAll env s) := by
  unfold SameAir
  rw [confirmResetAll_live, TableChange.apply_broadcast]

theorem settingsReset_air (env : TapEnv) (s : Sketch) (d : Device) (p : Port) :
    SameAir s (settingsReset env d p s) := by
  unfold SameAir
  rw [settingsReset_live, TableChange.apply_broadcast]

theorem withUi_air (s : Sketch) (f : MkhConfig → Ui → Ui) : SameAir s (s.withUi f) := rfl

theorem SameAir.refl (s : Sketch) : SameAir s s := rfl

theorem dispatchHubSelectTouch_air (env : TapEnv) (s : Sketch) (t : Tap) :
    SameAir s (dispatchHubSelectTouch env s t) := by
  unfold dispatchHubSelectTouch
  split
  · split
    · exact performSaveAndExit_air _ _ (s.withUi _)
    · split
      · exact withUi_air s _
      · exact SameAir.refl s
  · split
    · split
      · exact confirmResetAll_air env s
      · split
        · exact withUi_air s _
        · exact SameAir.refl s
    · split
      · exact handleTestToggleTap_air s
      · split
        · exact withUi_air s _
        · split
          · split <;> exact withUi_air s _
          · split
            · split
              · exact SameAir.refl s
              · exact withUi_air s _
            · exact SameAir.refl s

theorem dispatchPortSelectTouch_air (env : TapEnv) (s : Sketch) (t : Tap) :
    SameAir s (dispatchPortSelectTouch env s t) := by
  unfold dispatchPortSelectTouch
  split
  · exact handleTestToggleTap_air s
  · split
    · exact withUi_air s _
    · split
      · exact withUi_air s _
      · exact SameAir.refl s

theorem dispatchCaptureTouch_air (env : TapEnv) (s : Sketch) (t : Tap) :
    SameAir s (dispatchCaptureTouch env s t) := by
  unfold dispatchCaptureTouch
  split
  · split
    · exact handleTestToggleTap_air s
    · exact withUi_air s _
  · exact SameAir.refl s

theorem dispatchSettingsTouch_air (env : TapEnv) (s : Sketch) (t : Tap) :
    SameAir s (dispatchSettingsTouch env s t) := by
  unfold dispatchSettingsTouch
  split
  · unfold settingsTouch
    split
    · exact withUi_air s _
    · split
      · exact handleTestToggleTap_air s
      · split
        · exact withUi_air s _
        · split
          · exact settingsReset_air env s _ _
          · split
            · exact performSaveAndExit_air _ _ (s.withUi _)
            · exact withUi_air s _
  · exact SameAir.refl s

/-- Only a tap on a row of the dashboard reaches the broadcaster. -/
theorem pageTouch_air (env : TapEnv) (s : Sketch) (t : Tap) :
    SameAir s (pageTouch env s t) ∨
      s.ui.currentPage = .dashboard ∧ ∃ d, pageTouch env s t = rowTap env s d := by
  unfold pageTouch
  split
  · rename_i hpage
    unfold dashboardTouch
    split
    · exact Or.inl (withUi_air s _)
    · exact Or.inr ⟨hpage, _, rfl⟩
  · exact Or.inl (withUi_air s _)
  · exact Or.inl (SameAir.refl s)
  · exact Or.inl (dispatchHubSelectTouch_air env s t)
  · exact Or.inl (dispatchPortSelectTouch_air env s t)
  · exact Or.inl (dispatchCaptureTouch_air env s t)
  · exact Or.inl (dispatchSettingsTouch_air env s t)
  · refine Or.inl ?_
    unfold idleTouch
    split <;> exact withUi_air s _

theorem rowTap_sketchOnly (env : TapEnv) (s : Sketch) (d : Device) :
    SketchOnly s.live.broadcast (rowTap env s d).live.broadcast := by
  rw [rowTap_broadcast]
  unfold mkhRowTap
  split
  · exact ReachedBy.refl _
  · split
    · split
      · exact ReachedBy.single _
          (show BroadcastStep.bySketch (.toggleOff d.val (env.setterClock d)) from rfl)
      · exact ReachedBy.single _
          (show BroadcastStep.bySketch (.toggleOn d.val (env.setterClock d)) from rfl)
    · exact ReachedBy.refl _

theorem enterDeepSleep_sketchOnly (now : SetterClock) (s : Sketch) :
    SketchOnly s.live.broadcast (enterDeepSleep now s).live.broadcast := by
  have hkeep : ∀ (b : Broadcast) (d : Device), SketchOnly s.live.broadcast b →
      SketchOnly s.live.broadcast (mkhBroadcastToggleOff b d.val (now d)) := by
    intro b d h
    exact h.trans (ReachedBy.single b (show BroadcastStep.bySketch (.toggleOff d.val (now d)) from rfl))
  exact ForEach.foldl_keeps hkeep Device.all s.live.broadcast (ReachedBy.refl _)

theorem pageTick_sketchOnly (tick : Tick) (bp : Bluepad32) (s : Sketch) :
    SketchOnly s.live.broadcast (pageTick tick bp s).1.live.broadcast := by
  unfold pageTick
  split
  · unfold idleTick
    split
    · exact ReachedBy.refl _
    · split
      · simp only
        split
        · exact ReachedBy.refl _
        · split
          · exact enterDeepSleep_sketchOnly _ (s.withUi _)
          · exact ReachedBy.refl _
      · split
        · exact enterDeepSleep_sketchOnly _ s
        · exact ReachedBy.refl _
  · show SketchOnly s.live.broadcast (if _ then s else checkCapture bp s).live.broadcast
    split
    · exact ReachedBy.refl _
    · unfold checkCapture
      split
      · exact ReachedBy.refl _
      · simp only
        split
        · split <;> exact ReachedBy.refl _
        · exact ReachedBy.refl _
  · exact ReachedBy.refl _

theorem dispatchTouch_sketchOnly (env : TapEnv) (s : Sketch) (t : Tap) :
    SketchOnly s.live.broadcast (dispatchTouch env s t).live.broadcast := by
  unfold dispatchTouch
  rcases pageTouch_air env (s.withUi fun _ ui => { ui with lastTouchActivityMs := env.millis }) t with
    hsame | ⟨-, d, hrow⟩
  · rw [show (pageTouch env _ t).live.broadcast = s.live.broadcast from hsame]
    exact ReachedBy.refl _
  · rw [hrow]
    exact rowTap_sketchOnly env (s.withUi _) d

theorem afterTap_sketchOnly (tick : Tick) (t : Tank) :
    SketchOnly t.sketch.live.broadcast (afterTap tick t).live.broadcast := by
  unfold afterTap
  split
  · exact dispatchTouch_sketchOnly _ _ _
  · exact ReachedBy.refl _

theorem idleEntry_air (millis : UInt32) (s : Sketch) : SameAir s (idleEntry millis s) := by
  unfold idleEntry
  split
  · exact withUi_air s _
  · exact SameAir.refl s

theorem runPages_sketchOnly (tick : Tick) (t : Tank) :
    SketchOnly t.sketch.live.broadcast (runPages tick t).sketch.live.broadcast := by
  have hend := pageTick_sketchOnly tick t.bp32 (idleEntry tick.idleMillis (afterTap tick t))
  rw [show (idleEntry tick.idleMillis (afterTap tick t)).live.broadcast =
    (afterTap tick t).live.broadcast from idleEntry_air _ _] at hend
  rw [runPages_eq]
  exact (afterTap_sketchOnly tick t).trans hend

/-! ### The firmware and its broadcaster -/

/-- An iteration is a run of the setter and the toggles. -/
theorem loop_sketchOnly (t : Tank) (tick : Tick) :
    SketchOnly t.sketch.live.broadcast (t.step (.loop tick)).sketch.live.broadcast := by
  show SketchOnly _ (loop t tick).sketch.live.broadcast
  unfold loop
  split
  · exact ReachedBy.refl _
  · have hswept : SetsOnly t.sketch.live.broadcast
        (sweepHeld tick (fetchControllers tick t)).sketch.live.broadcast :=
      (fetchControllers_sets tick t).trans (sweepHeld_sets tick _)
    exact hswept.sketchOnly.trans (runPages_sketchOnly tick _)

/-- Which step of the BTstack task it is, if it is one. -/
def TankStep.ofBtstack : TankStep → Option BtstackStep
  | .btstack step => some step
  | .loop _ => none

/-- What a step of the firmware is to the broadcaster. -/
noncomputable def Tank.onAir (t : Tank) : TankStep → List BroadcastStep
  | .btstack step => [step.toBroadcast]
  | .loop tick => (loop_sketchOnly t tick).choose

theorem step_onAir (t : Tank) (step : TankStep) :
    (t.step step).sketch.live.broadcast =
      after Broadcast.step t.sketch.live.broadcast (t.onAir step) := by
  cases step with
  | btstack step => cases step <;> rfl
  | loop tick => exact (loop_sketchOnly t tick).choose_spec.2.symm

theorem BtstackStep.ofBtstack_toBroadcast (step : BtstackStep) :
    step.toBroadcast.ofBtstack = some step := by cases step <;> rfl

/-- The task's steps are the task's steps. -/
theorem onAir_ofBtstack (t : Tank) (step : TankStep) :
    (t.onAir step).filterMap BroadcastStep.ofBtstack = step.ofBtstack.toList := by
  cases step with
  | btstack step => simp [Tank.onAir, step.ofBtstack_toBroadcast, TankStep.ofBtstack]
  | loop tick => exact List.filterMap_eq_nil_iff.mpr (loop_sketchOnly t tick).choose_spec.1

/-- A run of the firmware, to the broadcaster. -/
noncomputable def Tank.airing (t : Tank) (steps : List TankStep) : List BroadcastStep :=
  (trace Tank.step Tank.onAir t steps).flatten

theorem run_onAir (steps : List TankStep) (t : Tank) :
    (after Tank.step t steps).sketch.live.broadcast =
      after Broadcast.step t.sketch.live.broadcast (t.airing steps) :=
  refines_run (a := fun t : Tank => t.sketch.live.broadcast) step_onAir steps t

theorem airing_ofBtstack (steps : List TankStep) (t : Tank) :
    (t.airing steps).filterMap BroadcastStep.ofBtstack = steps.filterMap TankStep.ofBtstack := by
  induction steps generalizing t with
  | nil => rfl
  | cons step rest ih =>
    have hrest := ih (t.step step)
    unfold Tank.airing at hrest ⊢
    rw [trace_cons, List.flatten_cons, List.filterMap_append, hrest, onAir_ofBtstack,
      List.filterMap_cons]
    cases step.ofBtstack <;> rfl

/-- The broadcaster after a run of the firmware from boot. -/
def airAfter (config : MkhConfig) (files : Files Path) (steps : List TankStep) : Broadcast :=
  (after Tank.step (Tank.boot config files) steps).sketch.live.broadcast

theorem airAfter_eq (config : MkhConfig) (files : Files Path) (steps : List TankStep) :
    airAfter config files steps = broadcastAfter ((Tank.boot config files).airing steps) :=
  run_onAir steps (Tank.boot config files)

/-- **The firmware is one of the broadcaster's interleavings**: whatever its iterations do, the table
and the air are what some order of setter calls and toggles makes of them, between the steps of the
BTstack task that the run took. -/
theorem tank_on_air (config : MkhConfig) (files : Files Path) (steps : List TankStep) :
    ∃ bsteps, airAfter config files steps = broadcastAfter bsteps ∧
      bsteps.filterMap BroadcastStep.ofBtstack = steps.filterMap TankStep.ofBtstack :=
  ⟨_, airAfter_eq config files steps, airing_ofBtstack steps _⟩

/-- Every hub is in some phase, and the round has its place, in every state of the firmware. -/
theorem airAfter_inPhase (config : MkhConfig) (files : Files Path) (steps : List TankStep)
    (d : Device) :
    (∃ ph, InPhase (airAfter config files steps) d ph) ∧ InRound (airAfter config files steps) := by
  rw [airAfter_eq]
  exact ⟨exists_inPhase _ d, inRound_after _⟩

/-! ### On the air within three ticks -/

/-- The step is a firing of the timer. -/
def BtstackStep.isTick (step : BtstackStep) : Bool := MK1Tank.isTick step.toBroadcast

/-- How many of the steps are firings of the timer. -/
def ticksOf (steps : List TankStep) : Nat :=
  (steps.filterMap TankStep.ofBtstack).countP BtstackStep.isTick

theorem airing_ticks (steps : List TankStep) (t : Tank) :
    (t.airing steps).countP isTick = ticksOf steps := by
  have hsame : ∀ i : BroadcastStep, isTick i = (i.ofBtstack.map BtstackStep.isTick).getD false := by
    intro i
    cases i <;> rfl
  unfold ticksOf
  rw [← airing_ofBtstack steps t, List.countP_filterMap]
  exact List.countP_congr fun i _ => by rw [hsame i]

/-- A tick in what a step was to the broadcaster is the step itself. -/
theorem onAir_tick {t : Tank} {step : TankStep} {pre post : List BroadcastStep}
    (h : t.onAir step = pre ++ .controlTick :: post) :
    step = .btstack .controlTick ∧ pre = [] := by
  have hmem : .controlTick ∈ t.onAir step := by simp [h]
  cases step with
  | loop tick =>
    exact absurd ((loop_sketchOnly t tick).choose_spec.1 _ hmem) (by simp [BroadcastStep.bySketch,
      BroadcastStep.ofBtstack])
  | btstack step =>
    have hone : [step.toBroadcast] = pre ++ .controlTick :: post := h
    have hpre : pre = [] := by
      cases pre with
      | nil => rfl
      | cons x pre =>
        obtain ⟨-, hrest⟩ := List.cons_eq_cons.mp hone
        simp at hrest
    subst hpre
    obtain ⟨hstep, -⟩ := List.cons_eq_cons.mp hone
    refine ⟨?_, rfl⟩
    cases step with
    | controlTick => rfl
    | stateWorking => cases hstep
    | runCallback => cases hstep

/-- **A hub in rotation is on the air within three ticks**, whatever the driver and the pages do
meanwhile, and with the channel values that the table holds when its turn comes. -/
theorem hub_aired_within (config : MkhConfig) (files : Files Path) (steps since : List TankStep)
    (d : Device) (hup : (airAfter config files steps).advertisingStarted = true)
    (hactive : (airAfter config files steps).deviceActive d = true) (hticks : 3 ≤ ticksOf since) :
    ∃ front back, since = front ++ .btstack .controlTick :: back ∧
      servedBy (airAfter config files (steps ++ front)) = some d ∧
      heard (airAfter config files (steps ++ front ++ [.btstack .controlTick])) =
        baseWithRow d ((airAfter config files (steps ++ front)).channelValue d) := by
  obtain ⟨⟨ph, hph⟩, hround⟩ := airAfter_inPhase config files steps d
  have hturn : InTurn d (airAfter config files steps) :=
    ⟨hup, ⟨ph, hph, hph.active.symm.trans hactive⟩, hround⟩
  obtain ⟨bfront, bback, hsplit, hserved⟩ :=
    served_within ((after Tank.step (Tank.boot config files) steps).airing since) hturn (by
      have hlt := turnsBefore_lt d (airAfter config files steps).timeSliceLastDevice
      rw [airing_ticks]
      simp only [mkhMk6NumDevices] at hlt
      omega)
  obtain ⟨front, step, back, pre, post, rfl, hstep, rfl⟩ := trace_flatten_split hsplit
  obtain ⟨rfl, rfl⟩ := onAir_tick hstep
  have hair : airAfter config files (steps ++ front) = after Broadcast.step
      (airAfter config files steps)
      ((after Tank.step (Tank.boot config files) steps).airing front) := by
    unfold airAfter
    rw [after_append, run_onAir]
  rw [List.append_nil] at hserved
  have hfront : servedBy (airAfter config files (steps ++ front)) = some d := by
    rw [hair]
    exact hserved
  refine ⟨front, back, rfl, hfront, ?_⟩
  have htick : airAfter config files (steps ++ front ++ [.btstack .controlTick]) =
      (airAfter config files (steps ++ front)).step .controlTick := by
    unfold airAfter
    rw [after_append]
    rfl
  rw [htick]
  exact heard_step (i := .controlTick) hfront

/-- The driver taps the dashboard open, and turns the second hub off, among three ticks. -/
private def tappedBetween : List TankStep :=
  [.loop (tickOf .invalidDevice (some ⟨0, 0⟩)), .btstack .controlTick,
    .loop { tickOf .invalidDevice (some ⟨0, 120⟩) with
      tapEnv := { oracle := fun _ => .ok, millis := 500, setterClock := fun _ _ => 0 } },
    .btstack .controlTick, .btstack .runCallback, .btstack .controlTick]

theorem hub_aired_within_tapped :
    ∃ front back, tappedBetween = front ++ .btstack .controlTick :: back ∧
      servedBy (airAfter stickConfig (fun _ => none) ([.btstack .stateWorking] ++ front)) = some 1 ∧
      heard (airAfter stickConfig (fun _ => none)
          ([.btstack .stateWorking] ++ front ++ [.btstack .controlTick])) =
        baseWithRow 1 ((airAfter stickConfig (fun _ => none)
          ([.btstack .stateWorking] ++ front)).channelValue 1) :=
  hub_aired_within stickConfig (fun _ => none) [.btstack .stateWorking] tappedBetween 1
    (by decide +kernel) (by decide +kernel) (by decide)

end MK1Tank
