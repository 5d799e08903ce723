/-
What the published lock status is worth.

A sweep publishes ENGAGED only for a binding whose slot it leaves engaged, and a slot
that changes is published, so after a sweep the status is true.  What clears runtime
state outside the sweep publishes nothing.  It leaves the status true exactly when it
leaves an engaged slot, and until the next sweep passes over a lock nothing sets it
right.
-/
import MK1Tank.Proofs.Failsafe
import MK1Tank.Proofs.Idempotent

namespace MK1Tank

open FileProgram Runs

/-- The status says a lock is engaged only when a slot holds one. -/
def Drive.honest (drive : Drive) : Prop :=
  drive.thlStatus.state = .engaged → ∃ d p i, (drive.slots d p i).thlEngaged = true

instance (drive : Drive) : Decidable drive.honest := by
  unfold Drive.honest
  infer_instance

/-! ### The sweep -/

/-- A binding's pass publishes what its slot holds, or it publishes nothing and the lock is left. -/
theorem bindingPass_status (sw : Sweep) (b : Binding) (slot : Slot) :
    (bindingPass sw b slot).thlStatus = none ∧
        (bindingPass sw b slot).slot.thlEngaged = slot.thlEngaged ∨
      ∃ v, (bindingPass sw b slot).thlStatus = some v ∧
        (v.state = .engaged → (bindingPass sw b slot).slot.thlEngaged = true) := by
  cases hedge : b.onEdge with
  | false =>
    refine Or.inl ⟨?_, by rw [bindingPass_slot_of_level hedge]⟩
    unfold bindingPass
    split
    · rfl
    · rename_i haxis
      split
      · rfl
      · cases hmode : b.mode with
        | thl => simp [Binding.onEdge, haxis, hmode] at hedge
        | _ => rfl
  | true =>
    rw [bindingPass_of_onEdge hedge]
    cases hmode : b.mode with
    | latched =>
      refine Or.inl ⟨rfl, ?_⟩
      simp only [latchPass]
      split <;> rfl
    | pulse =>
      refine Or.inl ⟨rfl, ?_⟩
      simp only [pulsePass, pulseStart]
      split_ifs <;> rfl
    | thl =>
      right
      simp only [thlPass]
      split
      · rename_i hengaged
        exact ⟨_, rfl, fun _ => hengaged⟩
      · refine ⟨_, rfl, fun hstate => ?_⟩
        cases hready : sw.imuReady <;> simp [hready] at hstate
    | proportional => simp [Binding.onEdge, hmode] at hedge
    | momentary => simp [Binding.onEdge, hmode] at hedge

section Port

variable {sw : Sweep} {cfg : PortConfig} {slots : PortSlots} {status : ThlStatus}

/-- Pass 1 ends at ENGAGED when it began there and no lock was passed over, or with a slot that is
engaged. -/
theorem bindingsPass_engaged (h : (bindingsPass sw cfg slots status).thlStatus.state = .engaged) :
    (status.state = .engaged ∧ ∀ i, (passedSlot sw cfg slots i).thlEngaged = (slots i).thlEngaged) ∨
      ∃ i, (passedSlot sw cfg slots i).thlEngaged = true := by
  have hbound : ∀ entry ∈ cfg.boundSlots, cfg.bindings[entry.1.val]? = some entry.2 := by
    intro entry hentry
    obtain ⟨i, -, hmap⟩ := List.mem_filterMap.mp hentry
    obtain ⟨b, hb, rfl⟩ := Option.map_eq_some_iff.mp hmap
    exact hb
  have hback : ∀ status : ThlStatus, ∀ entry ∈ cfg.boundSlots,
      ((bindingPass sw entry.2 (slots entry.1)).thlStatus.getD status).state = .engaged →
      status.state = .engaged ∧ (passedSlot sw cfg slots entry.1).thlEngaged =
          (slots entry.1).thlEngaged ∨
        ∃ i, (passedSlot sw cfg slots i).thlEngaged = true := by
    intro status entry hentry hstate
    have hpassed : passedSlot sw cfg slots entry.1 =
        (bindingPass sw entry.2 (slots entry.1)).slot := by
      simp only [passedSlot, hbound entry hentry]
    rcases bindingPass_status sw entry.2 (slots entry.1) with ⟨hnone, hkept⟩ | ⟨v, hv, hslot⟩
    · rw [hnone] at hstate
      exact Or.inl ⟨hstate, by rw [hpassed, hkept]⟩
    · rw [hv] at hstate
      exact Or.inr ⟨entry.1, by rw [hpassed, hslot hstate]⟩
  rcases ForEach.foldl_traced (fun status : ThlStatus => status.state = .engaged)
    cfg.boundSlots hback status h with ⟨hstate, hkept⟩ | hfound
  · refine Or.inl ⟨hstate, fun i => ?_⟩
    cases hb : cfg.bindings[i.val]? with
    | none => simp only [passedSlot, hb]
    | some b =>
      exact hkept (i, b) (List.mem_filterMap.mpr
        ⟨i, BindingSlot.mem_all i, Option.map_eq_some_iff.mpr ⟨b, hb, rfl⟩⟩)
  · exact Or.inr hfound

/-- Pass 2 publishes OFF, or it leaves slots and status. -/
theorem overridePass_engaged {tuning : ThlTuning} {pass : PortPass}
    (h : (overridePass tuning cfg pass).thlStatus.state = .engaged) :
    (overridePass tuning cfg pass).slots = pass.slots ∧ pass.thlStatus.state = .engaged := by
  unfold overridePass at h ⊢
  cases hlock : engagedLock cfg pass.slots with
  | none =>
    rw [hlock] at h
    exact ⟨rfl, h⟩
  | some lock =>
    rw [hlock] at h
    simp only at h ⊢
    split
    · rename_i hany
      rw [if_pos hany] at h
      cases h
    · rename_i hany
      rw [if_neg hany] at h
      exact ⟨rfl, h⟩

/-- A port's turn ends at ENGAGED when it began there and left the port's locks, or with a slot that
is engaged. -/
theorem sweptStatus_engaged (h : (sweptStatus sw cfg slots status).state = .engaged) :
    (status.state = .engaged ∧ ∀ i, (sweptSlots sw cfg slots i).thlEngaged = (slots i).thlEngaged) ∨
      ∃ i, (sweptSlots sw cfg slots i).thlEngaged = true := by
  unfold sweptStatus at h
  split at h
  · rename_i hnone
    exact Or.inl ⟨h, fun i => by rw [sweptSlots_unbound hnone]⟩
  · obtain ⟨hslots, hstate⟩ := overridePass_engaged h
    have hswept : sweptSlots sw cfg slots = passedSlot sw cfg slots :=
      (portPass_status sw cfg slots status).1.symm.trans hslots
    rw [hswept]
    exact bindingsPass_engaged hstate

end Port

/-- **After a sweep the status is true**, if it was before. -/
theorem processMappedInputs_honest (sw : Sweep) (now : SetterClock) {s : Live}
    (h : s.drive.honest) : (processMappedInputs sw now s).drive.honest := by
  intro hstate
  rw [processMappedInputs_status] at hstate
  simp only [processMappedInputs_slots]
  have hback : ∀ (status : ThlStatus), ∀ cell ∈ allPorts,
      (sweptStatus sw (s.config.table cell.1 cell.2) (s.drive.slots cell.1 cell.2) status).state =
        .engaged →
      (status.state = .engaged ∧ ∀ i,
        (sweptSlots sw (s.config.table cell.1 cell.2) (s.drive.slots cell.1 cell.2) i).thlEngaged =
          (s.drive.slots cell.1 cell.2 i).thlEngaged) ∨
      ∃ d p i, (sweptSlots sw (s.config.table d p) (s.drive.slots d p) i).thlEngaged = true := by
    intro status cell _ hmid
    rcases sweptStatus_engaged hmid with hquiet | ⟨i, hi⟩
    · exact Or.inl hquiet
    · exact Or.inr ⟨cell.1, cell.2, i, hi⟩
  rcases ForEach.foldl_traced (fun status : ThlStatus => status.state = .engaged)
    allPorts hback s.drive.thlStatus hstate with ⟨hbegin, hkept⟩ | hfound
  · obtain ⟨d, p, i, hengaged⟩ := h hbegin
    exact ⟨d, p, i, (hkept (d, p) (mem_allPorts (d, p)) i).trans hengaged⟩
  · exact hfound

/-! ### What a tap clears -/

/-- Test-ON pushes the session. -/
def testToggleClear (s : Sketch) : Option RuntimeClear :=
  if s.ui.testActive then none else some (.push s.ui.pendingEdits)

/-- A hub's row turns it off when it is on and the row answers. -/
def rowClear (env : TapEnv) (s : Sketch) (d : Device) : Option RuntimeClear :=
  if mkhBroadcastIsTransitioning s.live.broadcast d.val then none
  else if env.millis - s.ui.lastToggleMs d ≥ mkhToggleDebounceMs then
    if s.live.broadcast.hubBroadcasting d then some (.hubOff d (env.setterClock d)) else none
  else none

/-- SAVE pushes the session with the binding shown. -/
def settingsClear (env : TapEnv) (d : Device) (p : Port) (s : Sketch) (t : Tap) :
    Option RuntimeClear :=
  if s.ui.settingsPromptActive then none
  else if t.within testToggle then testToggleClear s
  else if inFieldRows t s.ui then none
  else if t.within spageReset then none
  else if t.within spageSave then
    some (.save (commitShown s.live.config s.ui d p).pendingEdits s.files env.oracle)
  else none

/-- What a tap clears of the runtime state, on the page that is up. -/
def tapClear (env : TapEnv) (s : Sketch) (t : Tap) : Option RuntimeClear :=
  match s.ui.currentPage with
  | .dashboard => if t.within settingsHit then none else rowClear env s (touchYToDeviceId t.y)
  | .editSelect =>
    if s.ui.exitPromptActive then
      if t.within exitPromptLeft then some (.save s.ui.pendingEdits s.files env.oracle) else none
    else if s.ui.resetAllPromptActive then
      if t.within exitPromptLeft then some (.resetAll s.files env.oracle) else none
    else if t.within testToggle then testToggleClear s
    else none
  | .editPorts => if t.within testToggle then testToggleClear s else none
  | .editCapture =>
    if s.ui.editCtx.selectedDevice.isSome && s.ui.editCtx.selectedPort.isSome &&
        !s.ui.capturePromptActive && !s.ui.captureReplaceAddPromptActive && t.within testToggle then
      testToggleClear s
    else none
  | .editSettings =>
    s.ui.editCtx.selectedDevice.bind fun d => s.ui.editCtx.selectedPort.bind fun p =>
      settingsClear env d p s t
  | .stats | .splash | .idle => none

/-- The live state, with the clear if there is one. -/
def Live.clearedBy (s : Live) (c : Option RuntimeClear) : Live := c.elim s (·.apply s)

theorem handleTestToggleTap_cleared (s : Sketch) :
    (handleTestToggleTap s).live = s.live.clearedBy (testToggleClear s) := by
  rw [handleTestToggleTap_live]
  unfold testToggleClear
  split <;> rfl

theorem rowTap_cleared (env : TapEnv) (s : Sketch) (d : Device) :
    (rowTap env s d).live.drive = (s.live.clearedBy (rowClear env s d)).drive := by
  unfold rowTap rowClear
  split
  · rfl
  · split
    · unfold toggleRow
      rw [Sketch.withUi_live]
      by_cases hon : s.live.broadcast.hubBroadcasting d = true
      · rw [if_pos hon, if_pos hon]
        rfl
      · rw [if_neg hon, if_neg hon]
        rfl
    · rfl

theorem settingsTouch_cleared (env : TapEnv) (d : Device) (p : Port) (s : Sketch) (t : Tap) :
    (settingsTouch env d p s t).live.drive =
      (s.live.clearedBy (settingsClear env d p s t)).drive := by
  unfold settingsTouch settingsClear
  by_cases hprompt : s.ui.settingsPromptActive = true
  · rw [if_pos hprompt, if_pos hprompt]
    rfl
  · rw [if_neg hprompt, if_neg hprompt]
    by_cases htest : t.within testToggle = true
    · rw [if_pos htest, if_pos htest, handleTestToggleTap_cleared]
    · rw [if_neg htest, if_neg htest]
      by_cases hrows : inFieldRows t s.ui = true
      · rw [if_pos hrows, if_pos hrows]
        rfl
      · rw [if_neg hrows, if_neg hrows]
        by_cases hreset : t.within spageReset = true
        · rw [if_pos hreset, if_pos hreset, settingsReset_live]
          rfl
        · rw [if_neg hreset, if_neg hreset]
          split
          · rw [performSaveAndExit_live]
            rfl
          · rfl

/-! ### What a tap clears, page by page -/

theorem dashboardTouch_cleared (env : TapEnv) {s : Sketch} (t : Tap)
    (hpage : s.ui.currentPage = .dashboard) :
    (dashboardTouch env s t).live.drive = (s.live.clearedBy (tapClear env s t)).drive := by
  unfold dashboardTouch tapClear
  simp only [hpage]
  split
  · rfl
  · exact rowTap_cleared env s _

theorem dispatchHubSelectTouch_cleared (env : TapEnv) {s : Sketch} (t : Tap)
    (hpage : s.ui.currentPage = .editSelect) :
    (dispatchHubSelectTouch env s t).live.drive = (s.live.clearedBy (tapClear env s t)).drive := by
  unfold dispatchHubSelectTouch tapClear
  simp only [hpage]
  by_cases hexit : s.ui.exitPromptActive = true
  · rw [if_pos hexit, if_pos hexit]
    split
    · rw [performSaveAndExit_live]
      rfl
    · split <;> rfl
  · rw [if_neg hexit, if_neg hexit]
    by_cases hreset : s.ui.resetAllPromptActive = true
    · rw [if_pos hreset, if_pos hreset]
      split
      · rw [confirmResetAll_live]
        rfl
      · split <;> rfl
    · rw [if_neg hreset, if_neg hreset]
      by_cases htest : t.within testToggle = true
      · rw [if_pos htest, if_pos htest, handleTestToggleTap_cleared]
      · rw [if_neg htest, if_neg htest]
        split
        · rfl
        · split
          · split <;> rfl
          · split
            · split <;> rfl
            · rfl

theorem dispatchPortSelectTouch_cleared (env : TapEnv) {s : Sketch} (t : Tap)
    (hpage : s.ui.currentPage = .editPorts) :
    (dispatchPortSelectTouch env s t).live.drive = (s.live.clearedBy (tapClear env s t)).drive := by
  unfold dispatchPortSelectTouch tapClear
  simp only [hpage]
  by_cases htest : t.within testToggle = true
  · rw [if_pos htest, if_pos htest, handleTestToggleTap_cleared]
  · rw [if_neg htest, if_neg htest]
    split
    · rfl
    · split <;> rfl

theorem dispatchCaptureTouch_cleared (env : TapEnv) {s : Sketch} (t : Tap)
    (hpage : s.ui.currentPage = .editCapture) :
    (dispatchCaptureTouch env s t).live.drive = (s.live.clearedBy (tapClear env s t)).drive := by
  unfold dispatchCaptureTouch tapClear
  simp only [hpage]
  cases s.ui.editCtx.selectedDevice with
  | none => rfl
  | some d =>
    cases s.ui.editCtx.selectedPort with
    | none => rfl
    | some p =>
      simp only [Option.isSome_some, Bool.true_and]
      split
      · exact congrArg Live.drive (handleTestToggleTap_cleared s)
      · rfl

theorem dispatchSettingsTouch_cleared (env : TapEnv) {s : Sketch} (t : Tap)
    (hpage : s.ui.currentPage = .editSettings) :
    (dispatchSettingsTouch env s t).live.drive = (s.live.clearedBy (tapClear env s t)).drive := by
  unfold dispatchSettingsTouch tapClear
  simp only [hpage]
  cases s.ui.editCtx.selectedDevice with
  | none => rfl
  | some d =>
    cases s.ui.editCtx.selectedPort with
    | none => rfl
    | some p => exact settingsTouch_cleared env d p s t

/-- **What a tap does to the runtime state is what it clears.** -/
theorem pageTouch_cleared (env : TapEnv) (s : Sketch) (t : Tap) :
    (pageTouch env s t).live.drive = (s.live.clearedBy (tapClear env s t)).drive := by
  unfold pageTouch
  cases hpage : s.ui.currentPage with
  | splash =>
    unfold tapClear
    simp only [hpage]
    rfl
  | stats =>
    unfold tapClear
    simp only [hpage]
    rfl
  | idle =>
    unfold tapClear idleTouch
    simp only [hpage]
    split <;> rfl
  | dashboard => exact dashboardTouch_cleared env t hpage
  | editSelect => exact dispatchHubSelectTouch_cleared env t hpage
  | editPorts => exact dispatchPortSelectTouch_cleared env t hpage
  | editCapture => exact dispatchCaptureTouch_cleared env t hpage
  | editSettings => exact dispatchSettingsTouch_cleared env t hpage

/-! ### The phases -/

theorem clearLatchStateForDevice_status (drive : Drive) (d : Device) :
    (clearLatchStateForDevice drive d).thlStatus = drive.thlStatus := by
  have hport : ∀ (drive' : Drive) (p : Port), drive'.thlStatus = drive.thlStatus →
      (clearLatchStateForPort drive' d p).thlStatus = drive.thlStatus := fun _ _ hsame => hsame
  exact ForEach.foldl_keeps hport Port.all drive rfl

theorem clearAllLatchState_status (drive : Drive) :
    (clearAllLatchState drive).thlStatus = drive.thlStatus := by
  have hdevice : ∀ (drive' : Drive) (d : Device), drive'.thlStatus = drive.thlStatus →
      (clearLatchStateForDevice drive' d).thlStatus = drive.thlStatus := by
    intro drive' d hsame
    rw [clearLatchStateForDevice_status, hsame]
  exact ForEach.foldl_keeps hdevice Device.all drive rfl

/-- No clear publishes. -/
theorem RuntimeClear.apply_status (s : Live) (c : RuntimeClear) :
    (c.apply s).drive.thlStatus = s.drive.thlStatus := by
  have hpush : ∀ pending : PendingEdits,
      (pushPendingSessionToLiveTable pending s).drive.thlStatus = s.drive.thlStatus := by
    intro pending
    have hport : ∀ (s' : Live) (d : Device) (p : Port), s'.drive.thlStatus = s.drive.thlStatus →
        (pushPort pending s' d p).drive.thlStatus = s.drive.thlStatus := by
      intro s' d p hsame
      unfold pushPort
      split <;> exact hsame
    exact forEachPort_keeps hport rfl
  cases c with
  | hubOff d now => exact clearLatchStateForDevice_status s.drive d
  | push pending => exact hpush pending
  | save pending files oracle => exact hpush pending
  | resetAll files oracle => exact clearAllLatchState_status s.drive

/-- The phase clears the slots of the port: the controller in slot 0 is lost, or a tap clears them. -/
def Tank.clears (t : Tank) (phase : Phase) (d : Device) (p : Port) : Bool :=
  match phase with
  | .callback tick i =>
    t.losesSeat tick i && findSlot t.sketch (fun held => held == some i) == some 0
  | .pages tick => tick.tap.any fun tap =>
      (tapClear tick.tapEnv (t.sketch.withUi fun _ ui =>
        { ui with lastTouchActivityMs := tick.tapEnv.millis }) tap).any fun c => c.clears d p
  | _ => false

/-- A phase that is no sweep: what it clears is clear, the rest and the status are left. -/
structure ClearsOnly (t : Tank) (phase : Phase) (drive : Drive) : Prop where
  status : drive.thlStatus = t.sketch.live.drive.thlStatus
  slots : ∀ d p i, drive.slots d p i =
    if t.clears phase d p then .clear else t.sketch.live.drive.slots d p i

theorem ClearsOnly.of_same {t : Tank} {phase : Phase} {drive : Drive}
    (h : drive = t.sketch.live.drive) (hclears : ∀ d p, t.clears phase d p = false) :
    ClearsOnly t phase drive where
  status := by rw [h]
  slots d p i := by rw [h, hclears, if_neg Bool.false_ne_true]

theorem callback_clearsOnly (t : Tank) (tick : Tick) (i : Seat) :
    ClearsOnly t (.callback tick i) (t.phase (.callback tick i)).sketch.live.drive := by
  rcases callback_cases t tick i with ⟨hkept, heq⟩ | ⟨hlost, heq⟩
  · refine ClearsOnly.of_same ?_ fun d p => by simp [Tank.clears, hkept]
    rcases heq with heq | heq
    · rw [heq]
    · rw [heq, onConnectedController_live]
  · rw [heq]
    unfold onDisconnectedController
    cases hslot : findSlot t.sketch fun held => held == some i with
    | none => exact ClearsOnly.of_same rfl fun d p => by simp [Tank.clears, hslot]
    | some slot =>
      simp only
      by_cases hzero : slot = 0
      · have hclears : ∀ d p, t.clears (.callback tick i) d p = true := by
          intro d p
          simp [Tank.clears, hlost, hslot, hzero]
        rw [if_pos hzero]
        refine ⟨?_, fun d p i => ?_⟩
        · refine (clearAllLatchState_status _).trans ?_
          have hstop : ∀ (s : Live) (d : Device) (p : Port),
              s.drive.thlStatus = t.sketch.live.drive.thlStatus →
              (stopPort tick.failsafeClock s d p).drive.thlStatus =
                t.sketch.live.drive.thlStatus := by
            intro s d p hsame
            unfold stopPort
            split <;> exact hsame
          exact forEachPort_keeps hstop rfl
        · rw [hclears, if_pos rfl]
          show (disconnectFailsafe tick.failsafeClock t.sketch.live).drive.slots d p i = _
          rw [disconnectFailsafe_slots]
      · rw [if_neg hzero]
        exact ClearsOnly.of_same rfl fun d p => by simp [Tank.clears, hslot, hzero]

/-- After the tap, the page's part of an iteration leaves the runtime state. -/
theorem pageTick_drive (tick : Tick) (bp : Bluepad32) (s : Sketch) :
    (pageTick tick bp s).1.live.drive = s.live.drive := by
  unfold pageTick
  split
  · show (idleTick tick s).1.live.drive = _
    unfold idleTick
    split_ifs <;> rfl
  · show (if _ then s else checkCapture bp s).live.drive = _
    split
    · rfl
    · unfold checkCapture
      split
      · rfl
      · simp only
        split
        · split <;> rfl
        · rfl
  · rfl

theorem idleEntry_drive (millis : UInt32) (s : Sketch) :
    (idleEntry millis s).live.drive = s.live.drive := by
  unfold idleEntry
  split <;> rfl

theorem pages_clearsOnly (t : Tank) (tick : Tick) :
    ClearsOnly t (.pages tick) (t.phase (.pages tick)).sketch.live.drive := by
  have hphase : (t.phase (.pages tick)).sketch.live.drive = (afterTap tick t).live.drive := by
    show (runPages tick t).sketch.live.drive = _
    rw [runPages_eq, pageTick_drive, idleEntry_drive]
  unfold afterTap at hphase
  cases htap : tick.tap with
  | none =>
    rw [htap] at hphase
    exact ClearsOnly.of_same hphase fun d p => by simp [Tank.clears, htap]
  | some tap =>
    rw [htap] at hphase
    simp only [dispatchTouch, pageTouch_cleared, Sketch.withUi_live] at hphase
    rw [hphase]
    cases hclear : tapClear tick.tapEnv (t.sketch.withUi fun _ ui =>
        { ui with lastTouchActivityMs := tick.tapEnv.millis }) tap with
    | none => exact ClearsOnly.of_same rfl fun d p => by simp [Tank.clears, htap, hclear]
    | some c =>
      refine ⟨c.apply_status t.sketch.live, fun d p i => ?_⟩
      have hclears : t.clears (.pages tick) d p = c.clears d p := by
        simp [Tank.clears, htap, hclear]
      rw [hclears]
      cases hreach : c.clears d p with
      | true => exact RuntimeClear.apply_cleared t.sketch.live hreach i
      | false => exact congrFun (RuntimeClear.apply_other t.sketch.live hreach).1 i

theorem processControllers_drive (bp : Bluepad32) (s : Sketch) :
    (processControllers bp s).live.drive = s.live.drive := by
  obtain ⟨xwcState, hnote⟩ := processControllers_note bp s
  rw [hnote]

/-- The condition: while the status is ENGAGED, some engaged slot is outside what is cleared. -/
def LeavesLock (t : Tank) (phase : Phase) : Prop :=
  t.sketch.live.drive.thlStatus.state = .engaged →
    ∃ d p i, (t.sketch.live.drive.slots d p i).thlEngaged = true ∧ t.clears phase d p = false

instance (t : Tank) (phase : Phase) : Decidable (LeavesLock t phase) := by
  unfold LeavesLock
  infer_instance

theorem ClearsOnly.honest_iff {t : Tank} {phase : Phase} {drive : Drive}
    (h : ClearsOnly t phase drive) : drive.honest ↔ LeavesLock t phase := by
  unfold Drive.honest LeavesLock
  rw [h.status]
  refine imp_congr Iff.rfl (exists_congr fun d => exists_congr fun p => exists_congr fun i => ?_)
  rw [h.slots]
  cases t.clears phase d p with
  | true => simp [Slot.clear]
  | false => simp

/-- A phase leaves a true status true exactly when it meets the condition. -/
theorem honest_phase_iff (t : Tank) (phase : Phase) (h : t.sketch.live.drive.honest) :
    (t.phase phase).sketch.live.drive.honest ↔ LeavesLock t phase := by
  have hquiet : ∀ phase, (∀ d p, t.clears phase d p = false) → LeavesLock t phase := by
    intro phase hclears hstate
    obtain ⟨d, p, i, hengaged⟩ := h hstate
    exact ⟨d, p, i, hengaged, hclears d p⟩
  cases phase with
  | receive tick =>
    have hclears : ∀ d p, t.clears (.receive tick) d p = false := fun _ _ => rfl
    exact (ClearsOnly.of_same rfl hclears).honest_iff
  | callback tick i => exact (callback_clearsOnly t tick i).honest_iff
  | remember tick =>
    have hclears : ∀ d p, t.clears (.remember tick) d p = false := fun _ _ => rfl
    exact (ClearsOnly.of_same rfl hclears).honest_iff
  | note =>
    exact (ClearsOnly.of_same (processControllers_drive t.bp32 t.sketch) fun _ _ => rfl).honest_iff
  | sweep tick =>
    refine iff_of_true ?_ (hquiet _ fun _ _ => rfl)
    show (sweepHeld tick t).sketch.live.drive.honest
    cases hheld : t.sketch.myControllers 0 with
    | none => rwa [sweepHeld_none tick hheld]
    | some ctl =>
      rw [sweepHeld_some tick hheld]
      exact processMappedInputs_honest _ _ h
  | pages tick => exact (pages_clearsOnly t tick).honest_iff
  | btstack step =>
    have hclears : ∀ d p, t.clears (.btstack step) d p = false := fun _ _ => rfl
    exact (ClearsOnly.of_same rfl hclears).honest_iff

/-! ### Runs -/

/-- **The status is true along exactly the runs in which no clear takes the last engaged lock while
ENGAGED is published.** -/
theorem lock_status_honest_iff (config : MkhConfig) (files : Files Path) (phases : List Phase) :
    (∀ front back, phases = front ++ back →
      (after Tank.phase (Tank.boot config files) front).sketch.live.drive.honest) ↔
    Meets Tank.phase LeavesLock (Tank.boot config files) phases := by
  have hboot : (Tank.boot config files).sketch.live.drive.honest := by
    intro hstate
    cases hstate
  exact always_iff_meets (fun t phase h => (honest_phase_iff t phase h).mpr) (fun _ h => h)
    (fun t phase h hnot hnow => hnot ((honest_phase_iff t phase h).mp hnow)) phases _ hboot

/-- A heading lock on button A, on port A of hub 1. -/
def lockConfig : MkhConfig :=
  mkhConfigSetPortBindings blankConfig 0 0
    (fun _ => { input := .btnA, invert := false, maxPercent := 100, mode := .thl }) 1

/-- The lock is engaged, and the controller is lost. -/
def lostWhileLocked : List TankStep :=
  [.loop (tickOf (.success buttonAReport) none), .loop (tickOf .invalidDevice none)]

/-- Nothing holds a lock, the status says ENGAGED, and no sweep comes to correct it. -/
theorem lock_status_outlives_lock :
    (after Tank.step (Tank.boot lockConfig fun _ => none) lostWhileLocked).sketch.myControllers 0 =
        none ∧
      ¬ ∀ (config : MkhConfig) (files : Files Path) (steps : List TankStep),
        (after Tank.step (Tank.boot config files) steps).sketch.live.drive.honest := by
  refine ⟨by decide +kernel, fun hall => ?_⟩
  exact absurd (hall lockConfig (fun _ => none) lostWhileLocked) (by decide +kernel)

end MK1Tank
