/-
Deep sleep.

Before it powers down the sketch turns every hub off, and waits until none is shown and
none is on its way; after two seconds it stops waiting.  The wait leaves everything to the
BTstack task, and nine of its ticks, nine tenths of a second, are enough to take every hub
out of rotation.  What can keep the wait from coming to its end is a send that was queued
out of turn: it shows its hub again when it runs after the drop, and nothing is left that
would take it off.
-/
import MK1Tank.Proofs.OnAir

namespace MK1Tank

open FileProgram Runs

/-! ### Out within three rounds -/

theorem exists_prefix_countP {α : Type*} {p : α → Bool} {n : Nat} {l : List α}
    (h : n ≤ l.countP p) : ∃ front back, l = front ++ back ∧ front.countP p = n := by
  induction l generalizing n with
  | nil => exact ⟨[], [], rfl, (Nat.le_zero.mp h).symm⟩
  | cons x rest ih =>
    cases n with
    | zero => exact ⟨[], x :: rest, rfl, rfl⟩
    | succ n =>
      rw [List.countP_cons] at h
      by_cases hx : p x = true
      · obtain ⟨front, back, rfl, hcount⟩ := ih (n := n) (by simpa [hx] using h)
        exact ⟨x :: front, back, rfl, by simp [hx, hcount]⟩
      · obtain ⟨front, back, rfl, hcount⟩ := ih (n := n + 1) (by simpa [hx] using h)
        exact ⟨x :: front, back, rfl, by simp [hx, hcount]⟩

theorem up_run (steps : List BroadcastStep) {s : Broadcast} (h : s.advertisingStarted = true) :
    (after Broadcast.step s steps).advertisingStarted = true := by
  induction steps generalizing s with
  | nil => exact h
  | cons i rest ih => exact ih ((step_round s i).1 h)

theorem round_run (steps : List BroadcastStep) {s : Broadcast} (h : InRound s) :
    InRound (after Broadcast.step s steps) :=
  invariant_always inRound_step steps h

/-- A service in the run is counted. -/
theorem servicesOf_pos {d : Device} {front back : List BroadcastStep} {s : Broadcast}
    (h : servedBy (after Broadcast.step s front) = some d) :
    0 < servicesOf d s (front ++ .controlTick :: back) := by
  refine List.count_pos_iff.mpr ?_
  induction front generalizing s with
  | nil =>
    have hevent : hubEvent d s .controlTick = .service := if_pos h
    rw [List.nil_append, trace_cons, hevent]
    exact List.mem_cons_self
  | cons i rest ih => exact List.mem_cons_of_mem _ (ih h)

/-- **A hub that leaves is out after three ticks for each service it waits for**, when nothing turns
it on. -/
theorem off_within {d : Device} {n : Nat} (steps : List BroadcastStep) {s : Broadcast}
    {ph : HubPhase} (hup : s.advertisingStarted = true) (hround : InRound s) (h : InPhase s d ph)
    (hon : ph ≠ .on) (hquiet : ∀ i ∈ steps, ∀ s, hubEvent d s i ≠ .turnOn)
    (hpending : ph.pending ≤ n) (hticks : 3 * n ≤ steps.countP isTick) :
    InPhase (after Broadcast.step s steps) d .off := by
  induction n generalizing steps s ph with
  | zero =>
    obtain ⟨ph', hph', hne, hsum⟩ := countdown_run steps h hon hquiet
    have hoff : ph' = .off := by
      cases ph' with
      | off => rfl
      | on => exact absurd rfl hne
      | leaving more =>
        have hmore : 0 < (HubPhase.leaving more).pending := Nat.succ_pos _
        omega
    rwa [hoff] at hph'
  | succ n ih =>
    obtain ⟨front, back, rfl, hfront⟩ := exists_prefix_countP (p := isTick)
      (show 3 ≤ steps.countP isTick by omega)
    have hquietFront : ∀ i ∈ front, ∀ s, hubEvent d s i ≠ .turnOn :=
      fun i hi => hquiet i (List.mem_append_left back hi)
    obtain ⟨ph', hph', hne, hsum⟩ := countdown_run front h hon hquietFront
    have hcount : ph'.pending ≤ n := by
      by_cases hfew : ph.pending ≤ n
      · omega
      · have hturn : InTurn d s := ⟨hup, ⟨ph, h, HubPhase.active_of_pending (by omega)⟩, hround⟩
        have hsoon : turnsBefore d s.timeSliceLastDevice < front.countP isTick := by
          have hlt := turnsBefore_lt d s.timeSliceLastDevice
          simp only [mkhMk6NumDevices] at hlt
          omega
        obtain ⟨before, later, hsplit, hserved⟩ := served_within front hturn hsoon
        have hpos : 0 < servicesOf d s (before ++ .controlTick :: later) := servicesOf_pos hserved
        rw [← hsplit] at hpos
        omega
    rw [List.countP_append] at hticks
    rw [after_append]
    exact ih back (up_run front hup) (round_run front hround) hph' hne
      (fun i hi => hquiet i (List.mem_append_right front hi)) hcount (by omega)

/-! ### Turning every hub off -/

/-- The toggle-offs of the devices, in order. -/
def stopSteps (now : SetterClock) (devices : List Device) : List BroadcastStep :=
  devices.map fun d => .toggleOff d.val (now d)

theorem enterDeepSleep_broadcast (now : SetterClock) (s : Sketch) :
    (enterDeepSleep now s).live.broadcast =
      after Broadcast.step s.live.broadcast (stopSteps now Device.all) := by
  unfold after stopSteps
  rw [List.foldl_map]
  rfl

theorem stopSteps_quiet (now : SetterClock) (devices : List Device) (d : Device) :
    ∀ i ∈ stopSteps now devices, ∀ s, hubEvent d s i ≠ .turnOn := by
  intro i hi s
  obtain ⟨d', -, rfl⟩ := List.mem_map.mp hi
  exact hubEvent_ne_turnOn rfl

/-- A hub that is turned off, among others, is not on after it. -/
theorem stopSteps_not_on (now : SetterClock) {d : Device} (devices : List Device) {s : Broadcast}
    {ph : HubPhase} (h : InPhase s d ph) (hd : d ∈ devices) :
    ∃ ph', InPhase (after Broadcast.step s (stopSteps now devices)) d ph' ∧ ph' ≠ .on := by
  induction devices generalizing s ph with
  | nil => exact absurd hd List.not_mem_nil
  | cons d' rest ih =>
    by_cases hself : d' = d
    · subst hself
      have hoff : ph.step .turnOff ≠ .on := by cases ph <;> simp [HubPhase.step]
      obtain ⟨ph', hph', hne, -⟩ := countdown_run (stopSteps now rest)
        (inPhase_toggleOff_self h (now d')) hoff (stopSteps_quiet now rest d')
      exact ⟨ph', hph', hne⟩
    · have hrest : d ∈ rest := (List.mem_cons.mp hd).resolve_left fun hc => hself hc.symm
      exact ih (inPhase_step (.toggleOff d'.val (now d')) h) hrest

/-- A toggle-off moves no row away from neutral. -/
theorem mkhBroadcastToggleOff_neutral {s : Broadcast} {d : Device} (deviceId : Int)
    (now : Port → Int) (h : ∀ p, s.channelValue d p = neutral) (p : Port) :
    (mkhBroadcastToggleOff s deviceId now).channelValue d p = neutral := by
  rcases mkhBroadcastToggleOff_cases s deviceId now with heq | ⟨d', -, -, -, t, -, hrow, heq⟩
  · rw [heq]
    exact h p
  · rw [heq]
    show t.channelValue d p = neutral
    rw [hrow]
    split
    · rfl
    · exact h p

theorem stopSteps_neutral (now : SetterClock) {d : Device} (devices : List Device) {s : Broadcast}
    (h : ∀ p, s.channelValue d p = neutral) (p : Port) :
    (after Broadcast.step s (stopSteps now devices)).channelValue d p = neutral := by
  induction devices generalizing s with
  | nil => exact h p
  | cons d' rest ih => exact ih (mkhBroadcastToggleOff_neutral d'.val (now d') h)

/-- A hub that is on is told to rest. -/
theorem stopSteps_row (now : SetterClock) {d : Device} (devices : List Device) {s : Broadcast}
    (h : InPhase s d .on) (hd : d ∈ devices) (p : Port) :
    (after Broadcast.step s (stopSteps now devices)).channelValue d p = neutral := by
  induction devices generalizing s with
  | nil => exact absurd hd List.not_mem_nil
  | cons d' rest ih =>
    by_cases hself : d' = d
    · subst hself
      refine stopSteps_neutral now rest (fun p => ?_) p
      show (mkhBroadcastToggleOff s d'.val (now d')).channelValue d' p = neutral
      have hidle : (!s.deviceActive d' || decide (s.pendingOffServices d' > 0)) = false := by
        simp [h.active, h.pending, HubPhase.active, HubPhase.pending]
      simp only [mkhBroadcastToggleOff, Device.ofId?_coe, hidle, Bool.false_eq_true, if_false]
      exact (setAllNeutral_apply _ d' (now d') d' p).trans (if_pos rfl)
    · have hrest : d ∈ rest := (List.mem_cons.mp hd).resolve_left fun hc => hself hc.symm
      have hevent : hubEvent d s (.toggleOff d'.val (now d')) = .other := by
        simp [hubEvent, hself]
      have hstep := inPhase_step (.toggleOff d'.val (now d')) h
      rw [hevent] at hstep
      exact ih hstep hrest

/-! ### The iteration that goes to sleep -/

theorem idleTick_asleep {tick : Tick} {s : Sketch} (h : (idleTick tick s).2 = true) :
    ∃ s' now, s'.live.broadcast = s.live.broadcast ∧ (idleTick tick s).1 = enterDeepSleep now s' := by
  unfold idleTick at h ⊢
  split at h
  · exact absurd h Bool.false_ne_true
  · rename_i hactive
    simp only [if_neg hactive]
    split at h
    · rename_i hheld
      simp only [if_pos hheld]
      split at h
      · exact absurd h Bool.false_ne_true
      · rename_i hpressed
        simp only [if_neg hpressed]
        split at h
        · rename_i hlong
          simp only [if_pos hlong]
          exact ⟨s.withUi fun _ ui => { ui with idleSleepHoldActive := false },
            tick.tapEnv.setterClock, rfl, rfl⟩
        · exact absurd h Bool.false_ne_true
    · rename_i hheld
      simp only [if_neg hheld]
      split at h
      · rename_i hlate
        simp only [if_pos hlate]
        exact ⟨s, tick.tapEnv.setterClock, rfl, rfl⟩
      · exact absurd h Bool.false_ne_true

/-- The idle screen does not put the tank to sleep in the iteration that brings it up. -/
theorem idleTick_entered (tick : Tick) {s : Sketch} (hactive : s.xwcState ≠ .active) :
    (idleTick tick (s.withUi (goToPage .idle tick.idleMillis))).2 = false := by
  have hheld : (s.withUi (goToPage .idle tick.idleMillis)).ui.idleSleepHoldActive = false := rfl
  have hsince : (s.withUi (goToPage .idle tick.idleMillis)).ui.idleEnteredMs = tick.idleMillis := rfl
  have hnote : ¬ (s.withUi (goToPage .idle tick.idleMillis)).xwcState = .active := hactive
  unfold idleTick
  rw [if_neg hnote, hheld, if_neg Bool.false_ne_true, hsince, UInt32.sub_self]
  rfl

/-- Deep sleep is entered from the idle screen, which was up before the iteration's timers ran. -/
theorem pageTick_asleep {tick : Tick} {bp : Bluepad32} {s : Sketch}
    (h : (pageTick tick bp (idleEntry tick.idleMillis s)).2 = true) :
    s.ui.currentPage = .idle ∧ ∃ s' now, s'.live.broadcast = s.live.broadcast ∧
      (pageTick tick bp (idleEntry tick.idleMillis s)).1 = enterDeepSleep now s' := by
  unfold idleEntry at h ⊢
  split at h
  · rename_i hentered
    exact absurd ((idleTick_entered tick hentered.2.1).symm.trans h) Bool.false_ne_true
  · rename_i hstays
    simp only [if_neg hstays]
    unfold pageTick at h ⊢
    split at h
    · rename_i hpage
      exact ⟨hpage, idleTick_asleep h⟩
    · exact absurd h Bool.false_ne_true
    · exact absurd h Bool.false_ne_true

theorem rowTap_page (env : TapEnv) (s : Sketch) (d : Device) :
    (rowTap env s d).ui.currentPage = s.ui.currentPage := by
  unfold rowTap
  split
  · rfl
  · split
    · unfold toggleRow
      split <;> rfl
    · rfl

/-- A tap that leaves the idle screen up does not reach the broadcaster. -/
theorem afterTap_idle {tick : Tick} {t : Tank} (h : (afterTap tick t).ui.currentPage = .idle) :
    (afterTap tick t).live.broadcast = t.sketch.live.broadcast := by
  unfold afterTap at h ⊢
  split at h
  · rename_i tap _
    unfold dispatchTouch at h ⊢
    rcases pageTouch_air tick.tapEnv (t.sketch.withUi fun _ ui =>
      { ui with lastTouchActivityMs := tick.tapEnv.millis }) tap with hsame | ⟨hpage, d, hrow⟩
    · exact hsame
    · rw [hrow, rowTap_page, hpage] at h
      exact absurd h (by decide)
  · rfl

/-- **The iteration that goes to sleep** calls the setter, and then turns every hub off. -/
theorem loop_sleeps {t : Tank} {tick : Tick} (hawake : t.asleep = false)
    (hasleep : (t.step (.loop tick)).asleep = true) :
    ∃ b now, SetsOnly t.sketch.live.broadcast b ∧
      (t.step (.loop tick)).sketch.live.broadcast =
        after Broadcast.step b (stopSteps now Device.all) := by
  have hloop : t.step (.loop tick) = runPages tick (sweepHeld tick (fetchControllers tick t)) := by
    show loop t tick = _
    unfold loop
    rw [if_neg (by simp [hawake])]
  have hsets : SetsOnly t.sketch.live.broadcast
      (sweepHeld tick (fetchControllers tick t)).sketch.live.broadcast :=
    (fetchControllers_sets tick t).trans (sweepHeld_sets tick _)
  generalize sweepHeld tick (fetchControllers tick t) = swept at hloop hsets
  rw [hloop, runPages_eq] at hasleep ⊢
  obtain ⟨hpage, s', now, hair, hsleep⟩ := pageTick_asleep hasleep
  refine ⟨swept.sketch.live.broadcast, now, hsets, ?_⟩
  show (pageTick tick swept.bp32 (idleEntry tick.idleMillis (afterTap tick swept))).1.live.broadcast = _
  rw [hsleep, enterDeepSleep_broadcast, hair, afterTap_idle hpage]

/-- The setter leaves every hub in its phase. -/
theorem SetsOnly.inPhase {b b' : Broadcast} (h : SetsOnly b b') {d : Device} {ph : HubPhase}
    (hph : InPhase b d ph) : InPhase b' d ph := by
  refine ReachedBy.invariant (I := fun b => InPhase b d ph) h ?_ hph
  intro s i hi hs
  cases i with
  | setChannel deviceId port value now => exact hs.of_frame (mkhSetChannel_frame s deviceId port value now)
  | _ => exact hi.elim

/-! ### The wait -/

/-- The broadcaster after steps of its own task. -/
def waited (b : Broadcast) (wait : List BtstackStep) : Broadcast :=
  after Broadcast.step b (wait.map BtstackStep.toBroadcast)

theorem waited_append (b : Broadcast) (front back : List BtstackStep) :
    waited b (front ++ back) = waited (waited b front) back := by
  unfold waited
  rw [List.map_append, after_append]

theorem waited_snoc (b : Broadcast) (wait : List BtstackStep) (step : BtstackStep) :
    waited b (wait ++ [step]) = (waited b wait).step step.toBroadcast := by
  rw [waited_append]
  rfl

theorem tank_waited (t : Tank) (wait : List BtstackStep) :
    (after Tank.step t (wait.map .btstack)).sketch.live.broadcast =
      waited t.sketch.live.broadcast wait := by
  induction wait generalizing t with
  | nil => rfl
  | cons step rest ih =>
    have hstep : (t.step (.btstack step)).sketch.live.broadcast =
        t.sketch.live.broadcast.step step.toBroadcast := by cases step <;> rfl
    rw [List.map_cons, after_cons, ih, hstep]
    rfl

/-- The task's own steps turn no hub on or off. -/
theorem btstack_event (d : Device) (b : Broadcast) (step : BtstackStep) :
    hubEvent d b step.toBroadcast = .service ∨ hubEvent d b step.toBroadcast = .other := by
  cases step with
  | controlTick =>
    by_cases hserved : servedBy b = some d
    · exact Or.inl (if_pos hserved)
    · exact Or.inr (if_neg hserved)
  | stateWorking => exact Or.inr rfl
  | runCallback => exact Or.inr rfl

theorem btstack_quiet (d : Device) (wait : List BtstackStep) :
    ∀ i ∈ wait.map BtstackStep.toBroadcast, ∀ s, hubEvent d s i ≠ .turnOn := by
  intro i hi s
  obtain ⟨step, -, rfl⟩ := List.mem_map.mp hi
  rcases btstack_event d s step with heq | heq <;> simp [heq]

/-- The task writes no row. -/
theorem waited_row (b : Broadcast) (wait : List BtstackStep) (d : Device) :
    (waited b wait).channelValue d = b.channelValue d := by
  refine run_row _ b ?_
  intro i hi
  obtain ⟨step, -, rfl⟩ := List.mem_map.mp hi
  cases step <;> rfl

/-! ### Who is shown -/

/-- The step runs a send that was queued for the hub. -/
def Calls (b : Broadcast) (step : BtstackStep) (d : Device) : Prop :=
  step = .runCallback ∧ b.runLoopCallbacks.head? = some d

/-- What a step of the task does to one hub's place in rotation and on the dashboard. -/
inductive ShownMove (b : Broadcast) (step : BtstackStep) (d : Device) (b' : Broadcast) : Prop
  | same (hcalls : ¬ Calls b step d) (hactive : b'.deviceActive d = b.deviceActive d)
      (hshown : b.deviceActive d = false → b'.hubBroadcasting d = b.hubBroadcasting d)
  | dropped (hcalls : ¬ Calls b step d) (hactive : b.deviceActive d = true)
      (hshown : b'.hubBroadcasting d = false)
  | called (hcalls : Calls b step d) (hactive : b'.deviceActive d = b.deviceActive d)
      (hshown : b'.hubBroadcasting d = true)

theorem shownMove (b : Broadcast) (step : BtstackStep) (d : Device) :
    ShownMove b step d (b.step step.toBroadcast) := by
  cases step with
  | stateWorking =>
    refine .same (by simp [Calls]) ?_ fun _ => ?_
    · show (btstackEventState b).deviceActive d = _
      rcases btstackEventState_cases b with ⟨-, heq⟩ | ⟨-, heq⟩
      · rw [heq]
      · rw [heq]
        rfl
    · show (btstackEventState b).hubBroadcasting d = _
      rcases btstackEventState_cases b with ⟨-, heq⟩ | ⟨-, heq⟩
      · rw [heq]
      · rw [heq]
        rfl
  | controlTick =>
    have hcalls : ¬ Calls b .controlTick d := by simp [Calls]
    show ShownMove b .controlTick d (controlTimer b)
    rcases controlTimer_cases b with ⟨-, heq⟩ | ⟨d', -, hactive, ⟨-, heq⟩ | ⟨-, heq⟩⟩
    · rw [heq]
      exact .same hcalls rfl fun _ => rfl
    · rw [heq]
      refine .same hcalls rfl fun hoff => Function.update_of_ne ?_ ..
      rintro rfl
      exact absurd (hactive.symm.trans hoff) (by decide)
    · rw [heq]
      by_cases hself : d = d'
      · subst hself
        exact .dropped hcalls hactive (Function.update_self ..)
      · refine .same hcalls (Function.update_of_ne hself ..) fun _ => ?_
        show Function.update (Function.update b.hubBroadcasting d' true) d' false d = _
        rw [Function.update_of_ne hself, Function.update_of_ne hself]
  | runCallback =>
    show ShownMove b .runCallback d (runLoopCallback b)
    rcases runLoopCallback_cases b with ⟨hnone, heq⟩ | ⟨d', rest, hsome, heq⟩
    · rw [heq]
      exact .same (by simp [Calls, hnone]) rfl fun _ => rfl
    · rw [heq]
      by_cases hself : d = d'
      · subst hself
        exact .called ⟨rfl, by rw [hsome]; rfl⟩ rfl (Function.update_self ..)
      · refine .same ?_ rfl fun _ => Function.update_of_ne hself ..
        rintro ⟨-, hhead⟩
        rw [hsome] at hhead
        exact hself (Option.some.inj hhead).symm

/-- A send runs for a hub that is out of rotation. -/
def StraySend (b : Broadcast) (wait : List BtstackStep) (d : Device) : Prop :=
  ∃ front step back, wait = front ++ step :: back ∧ Calls (waited b front) step d ∧
    (waited b front).deviceActive d = false

theorem straySend_snoc {b : Broadcast} {wait : List BtstackStep} {step : BtstackStep} {d : Device} :
    StraySend b (wait ++ [step]) d ↔ StraySend b wait d ∨
      Calls (waited b wait) step d ∧ (waited b wait).deviceActive d = false := by
  constructor
  · rintro ⟨front, step', back, hsplit, hcalls, hoff⟩
    rcases List.eq_nil_or_concat back with rfl | ⟨back, last, rfl⟩
    · obtain ⟨rfl, heq⟩ := List.append_inj' hsplit rfl
      obtain rfl := List.head_eq_of_cons_eq heq
      exact Or.inr ⟨hcalls, hoff⟩
    · have hback : wait ++ [step] = (front ++ step' :: back) ++ [last] := by simpa using hsplit
      obtain ⟨rfl, -⟩ := List.append_inj' hback rfl
      exact Or.inl ⟨front, step', back, rfl, hcalls, hoff⟩
  · rintro (⟨front, step', back, rfl, hcalls, hoff⟩ | ⟨hcalls, hoff⟩)
    · exact ⟨front, step', back ++ [step], by simp, hcalls, hoff⟩
    · exact ⟨wait, step, [], rfl, hcalls, hoff⟩

theorem waited_inactive {b : Broadcast} {d : Device} (wait : List BtstackStep)
    (h : b.deviceActive d = false) : (waited b wait).deviceActive d = false := by
  induction wait generalizing b with
  | nil => exact h
  | cons step rest ih =>
    refine ih ?_
    cases shownMove b step d with
    | same _ hactive _ => exact hactive.trans h
    | dropped _ hactive _ => exact absurd (hactive.symm.trans h) (by decide)
    | called _ hactive _ => exact hactive.trans h

theorem StraySend.inactive {b : Broadcast} {wait : List BtstackStep} {d : Device}
    (h : StraySend b wait d) : (waited b wait).deviceActive d = false := by
  obtain ⟨front, step, back, rfl, -, hoff⟩ := h
  rw [waited_append]
  exact waited_inactive _ hoff

/-- **A hub that is out of rotation is shown by a stray send**, if it was not shown like that before. -/
theorem shown_waited {b : Broadcast} {d : Device} (wait : List BtstackStep)
    (hoff : (waited b wait).deviceActive d = false) :
    (waited b wait).hubBroadcasting d = true ↔
      b.deviceActive d = false ∧ b.hubBroadcasting d = true ∨ StraySend b wait d := by
  induction wait using List.reverseRecOn with
  | nil =>
    have hnone : ¬ StraySend b [] d := by
      rintro ⟨front, step, back, hsplit, -⟩
      simp at hsplit
    refine ⟨fun h => Or.inl ⟨hoff, h⟩, ?_⟩
    rintro (⟨-, h⟩ | h)
    · exact h
    · exact absurd h hnone
  | append_singleton wait step ih =>
    rw [waited_snoc] at hoff ⊢
    rw [straySend_snoc]
    cases shownMove (waited b wait) step d with
    | same hcalls hactive hshown =>
      have hbefore := hactive.symm.trans hoff
      rw [hshown hbefore, ih hbefore]
      simp [hcalls]
    | dropped hcalls hactive hshown =>
      rw [hshown]
      refine ⟨fun h => absurd h Bool.false_ne_true, ?_⟩
      rintro (⟨hwas, -⟩ | hstray | ⟨hcalls', -⟩)
      · exact absurd (hactive.symm.trans (waited_inactive wait hwas)) (by decide)
      · exact absurd (hactive.symm.trans hstray.inactive) (by decide)
      · exact absurd hcalls' hcalls
    | called hcalls hactive hshown =>
      exact ⟨fun _ => Or.inr (Or.inr ⟨hcalls, hactive.symm.trans hoff⟩), fun _ => hshown⟩

/-! ### What deep sleep leaves behind -/

/-- The run goes to sleep with the iteration. -/
structure FallsAsleep (config : MkhConfig) (files : Files Path) (steps : List TankStep)
    (tick : Tick) : Prop where
  awake : (after Tank.step (Tank.boot config files) steps).asleep = false
  asleep : (after Tank.step (Tank.boot config files) (steps ++ [.loop tick])).asleep = true

section Asleep

variable {config : MkhConfig} {files : Files Path} {steps : List TankStep} {tick : Tick}

theorem airAfter_snoc (step : TankStep) :
    airAfter config files (steps ++ [step]) =
      ((after Tank.step (Tank.boot config files) steps).step step).sketch.live.broadcast := by
  unfold airAfter
  rw [after_append]
  rfl

theorem airAfter_waited (wait : List BtstackStep) :
    airAfter config files (steps ++ .loop tick :: wait.map .btstack) =
      waited (airAfter config files (steps ++ [.loop tick])) wait := by
  have hsplit : steps ++ .loop tick :: wait.map .btstack =
      (steps ++ [.loop tick]) ++ wait.map .btstack := by simp
  rw [hsplit]
  unfold airAfter
  rw [after_append, tank_waited]

theorem FallsAsleep.stops (h : FallsAsleep config files steps tick) :
    ∃ b now, SetsOnly (airAfter config files steps) b ∧
      airAfter config files (steps ++ [.loop tick]) =
        after Broadcast.step b (stopSteps now Device.all) := by
  have hasleep := h.asleep
  rw [after_append] at hasleep
  obtain ⟨b, now, hsets, hstop⟩ := loop_sleeps h.awake hasleep
  exact ⟨b, now, hsets, (airAfter_snoc _).trans hstop⟩

/-- No hub stays on. -/
theorem FallsAsleep.leaves (h : FallsAsleep config files steps tick) (d : Device) :
    ∃ ph, InPhase (airAfter config files (steps ++ [.loop tick])) d ph ∧ ph ≠ .on := by
  obtain ⟨b, now, hsets, hstop⟩ := h.stops
  obtain ⟨ph, hph⟩ := (airAfter_inPhase config files steps d).1
  rw [hstop]
  exact stopSteps_not_on now Device.all (hsets.inPhase hph) (Device.mem_all d)

/-- A hub that was on has nothing but neutral in its row. -/
theorem FallsAsleep.row (h : FallsAsleep config files steps tick) {d : Device}
    (hactive : (airAfter config files steps).deviceActive d = true)
    (hpending : (airAfter config files steps).pendingOffServices d = 0) (p : Port) :
    (airAfter config files (steps ++ [.loop tick])).channelValue d p = neutral := by
  obtain ⟨b, now, hsets, hstop⟩ := h.stops
  obtain ⟨ph, hph⟩ := (airAfter_inPhase config files steps d).1
  rw [hstop]
  exact stopSteps_row now Device.all (hsets.inPhase (inPhase_on_of_ready hph hactive hpending))
    (Device.mem_all d) p

/-- The wait takes every hub out. -/
theorem FallsAsleep.off (h : FallsAsleep config files steps tick)
    (hup : (airAfter config files (steps ++ [.loop tick])).advertisingStarted = true)
    {wait : List BtstackStep} (hticks : 9 ≤ wait.countP BtstackStep.isTick) (d : Device) :
    InPhase (airAfter config files (steps ++ .loop tick :: wait.map .btstack)) d .off := by
  obtain ⟨ph, hph, hon⟩ := h.leaves d
  have hcount : (wait.map BtstackStep.toBroadcast).countP isTick =
      wait.countP BtstackStep.isTick := List.countP_map
  rw [airAfter_waited]
  exact off_within (n := 3) _ hup (airAfter_inPhase config files _ d).2 hph hon
    (btstack_quiet d wait) ph.pending_le (by omega)

end Asleep

/-- **The wait comes to its end within nine ticks**, at most: by then every hub is out of rotation.  It
finds all clear unless a hub was shown that was out of rotation when the wait began, or a send that
had been queued for a hub ran after the hub was out. -/
theorem sleep_clear_iff (config : MkhConfig) (files : Files Path) (steps : List TankStep) (tick : Tick)
    (wait : List BtstackStep) (hsleeps : FallsAsleep config files steps tick)
    (hup : (airAfter config files (steps ++ [.loop tick])).advertisingStarted = true)
    (hticks : 9 ≤ wait.countP BtstackStep.isTick) :
    (∀ d, (airAfter config files (steps ++ .loop tick :: wait.map .btstack)).deviceActive d = false) ∧
    (allClear (airAfter config files (steps ++ .loop tick :: wait.map .btstack)) = true ↔
      ∀ d, ¬ ((airAfter config files (steps ++ [.loop tick])).deviceActive d = false ∧
          (airAfter config files (steps ++ [.loop tick])).hubBroadcasting d = true) ∧
        ¬ StraySend (airAfter config files (steps ++ [.loop tick])) wait d) := by
  have hoff := hsleeps.off hup hticks
  refine ⟨fun d => (hoff d).active, ?_⟩
  have hclear : allClear (airAfter config files (steps ++ .loop tick :: wait.map .btstack)) = true ↔
      ∀ d, ¬ (airAfter config files
        (steps ++ .loop tick :: wait.map .btstack)).hubBroadcasting d = true := by
    unfold allClear
    rw [List.all_eq_true]
    refine ⟨fun h d => ?_, fun h d _ => ?_⟩
    · have hd := h d (Device.mem_all d)
      simp only [Bool.not_eq_true', Bool.or_eq_false_iff] at hd
      simp [hd.1]
    · have htrans := (hoff d).transitioning
      have hshown := h d
      simp only [Bool.not_eq_true] at hshown
      simp [mkhBroadcastIsTransitioning, hshown, htrans, HubPhase.transitioning]
  rw [hclear]
  refine forall_congr' fun d => ?_
  have hactive := (hoff d).active
  rw [airAfter_waited] at hactive ⊢
  rw [shown_waited wait hactive, not_or]

/-- The tank is left alone on the idle screen. -/
private def leftAlone : List TankStep :=
  [.btstack .stateWorking, .loop (tickOf .invalidDevice (some ⟨0, 0⟩)),
    .loop { tickOf .invalidDevice none with idleMillis := 30000 }]

private def lateTick : Tick := { tickOf .invalidDevice none with idleMillis := 630000 }

private theorem leftAlone_sleeps : FallsAsleep stickConfig (fun _ => none) leftAlone lateTick :=
  ⟨by decide +kernel, by decide +kernel⟩

private def nineTicks : List BtstackStep := List.replicate 9 .controlTick

theorem sleep_clear_alone :
    (∀ d, (airAfter stickConfig (fun _ => none)
      (leftAlone ++ .loop lateTick :: nineTicks.map .btstack)).deviceActive d = false) ∧
    (allClear (airAfter stickConfig (fun _ => none)
        (leftAlone ++ .loop lateTick :: nineTicks.map .btstack)) = true ↔
      ∀ d, ¬ ((airAfter stickConfig (fun _ => none)
          (leftAlone ++ [.loop lateTick])).deviceActive d = false ∧
          (airAfter stickConfig (fun _ => none)
            (leftAlone ++ [.loop lateTick])).hubBroadcasting d = true) ∧
        ¬ StraySend (airAfter stickConfig (fun _ => none) (leftAlone ++ [.loop lateTick])) nineTicks d) :=
  sleep_clear_iff stickConfig (fun _ => none) leftAlone lateTick nineTicks leftAlone_sleeps
    (by decide +kernel) (by decide +kernel)

/-- **A sleeping tank says stop**: every telegram that goes out in the wait, for a hub that was on when
the iteration began, has neutral on each of its six channels. -/
theorem sleep_airs_neutral (config : MkhConfig) (files : Files Path) (steps : List TankStep)
    (tick : Tick) (d : Device) (hsleeps : FallsAsleep config files steps tick)
    (hactive : (airAfter config files steps).deviceActive d = true)
    (hpending : (airAfter config files steps).pendingOffServices d = 0)
    (wait : List BtstackStep) (step : BtstackStep)
    (hairs : airs (airAfter config files (steps ++ .loop tick :: wait.map .btstack))
      step.toBroadcast = some d) :
    heard (airAfter config files (steps ++ .loop tick :: (wait ++ [step]).map .btstack)) =
      baseWithRow d fun _ => neutral := by
  rw [airAfter_waited] at hairs ⊢
  have hrow : (waited (airAfter config files (steps ++ [.loop tick])) wait).channelValue d =
      fun _ => neutral := by
    rw [waited_row]
    exact funext fun p => hsleeps.row hactive hpending p
  rw [waited_snoc, heard_step hairs, hrow]

theorem sleep_airs_neutral_alone :
    heard (airAfter stickConfig (fun _ => none)
        (leftAlone ++ .loop lateTick :: ([] ++ [BtstackStep.controlTick]).map .btstack)) =
      baseWithRow 0 fun _ => neutral :=
  sleep_airs_neutral stickConfig (fun _ => none) leftAlone lateTick 0 leftAlone_sleeps
    (by decide +kernel) (by decide +kernel) [] BtstackStep.controlTick (by decide +kernel)

end MK1Tank
