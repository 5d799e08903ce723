/-
What the sketch reads from a seat.

A seat is a mailbox: the Bluetooth task posts to it, the sketch takes from it, and a
device that leaves clears it.  A device's report is handled while nothing else happens
to the table, so it is posted to the seat of a device that still sits there.  What the
sketch gets is then the last report of the seat, and never one of an earlier guest.  The
clearing takes no mutex, so a call that falls into it can get anything, once.
-/
import MK1Tank.Proofs.SeatRuns
import MK1Tank.Lib.Mailbox

namespace MK1Tank

open Runs

/-! ### The seat as a mailbox -/

/-- The report that waits in a seat. -/
def Bridge.box (s : Bridge) (i : Seat) : Option ControllerData :=
  if (s.controllers i).dataUpdated then some (s.controllers i).data else none

/-- A step posts the device's report to the seat. -/
def Bridge.posting (s : Bridge) (i : Seat) (step : BridgeStep) (d : HidSlot) (ctl : ControllerData) :
    Prop :=
  step = .post ∧ s.phase = .posting d ctl ∧ Seat.ofIdx? (s.devices d).controllerIdx = some i

/-- The report that an answer brings. -/
def DataStatus.report : DataStatus → Option ControllerData
  | .success ctl => some ctl
  | _ => none

/-- What a step does to the seat's mailbox. -/
def mailOp (i : Seat) (s : Bridge) : BridgeStep → Option (Mailbox.Op ControllerData)
  | .event e => if s.taken i = true ∧ (s.step (.event e)).taken i = false then some .clear else none
  | .cleared => if s.taken i = true ∧ (s.step .cleared).taken i = false then some .clear else none
  | .post =>
    match s.phase with
    | .posting d ctl =>
      if Seat.ofIdx? (s.devices d).controllerIdx = some i then some (.post ctl) else none
    | _ => none
  | .fetch j => if j = i then some .take else none
  | .tear j torn =>
    if s.clears j = true ∧ j = i then some ((fetchTorn s j torn).2.report.elim .clear .garble) else none
  | _ => none

/-- The copy that a call makes of a report of the seat while the seat is being cleared. -/
def tornFrom (i : Seat) (s : Bridge) : BridgeStep → List ControllerData
  | .tear j torn => if s.clears j = true ∧ j = i then (fetchTorn s j torn).2.report.toList else []
  | _ => []

/-- What a call of the sketch gets from the seat. -/
def fetchedFrom (i : Seat) (s : Bridge) : BridgeStep → List ControllerData
  | .fetch j => if j = i then (fetchData s j).2.report.toList else []
  | step => tornFrom i s step

/-- What the Bluetooth task posts to the seat. -/
def postedTo (i : Seat) (s : Bridge) : BridgeStep → List ControllerData
  | .post =>
    match s.phase with
    | .posting d ctl => if Seat.ofIdx? (s.devices d).controllerIdx = some i then [ctl] else []
    | _ => []
  | _ => []

/-- The seats agree with the mailboxes: a free seat's is empty, and a report that is being handled is
that of a ready device. -/
structure Bridge.Mailed (s : Bridge) : Prop extends s.Placed where
  blank : ∀ i, s.taken i = false → s.box i = none
  handling : ∀ d ctl, s.phase = .draining d ctl ∨ s.phase = .posting d ctl →
    (s.devices d).state = .deviceReady

theorem bridge_boot_mailed : Bridge.boot.Mailed where
  toPlaced := bridge_boot_seated.toPlaced
  blank _ _ := rfl
  handling d ctl h := by rcases h with h | h <;> exact absurd h (by simp [Bridge.boot])

/-! ### What an event does to the mailboxes -/

/-- A seat that is given up is emptied, and no other mailbox is touched. -/
def BoxStep (s s' : Bridge) : Prop :=
  ∀ i, s'.box i = if s.taken i = true ∧ s'.taken i = false then none else s.box i

theorem BoxStep.of_controllers {s s' : Bridge} (h : s'.controllers = s.controllers) : BoxStep s s' := by
  intro i
  have htaken : s'.taken i = s.taken i := by
    unfold Bridge.taken
    rw [h]
  have hbox : s'.box i = s.box i := by
    unfold Bridge.box
    rw [h]
  rw [hbox, htaken, if_neg (by simp)]

theorem BoxStep.after {s s₁ s' : Bridge} (h : s₁.controllers = s.controllers) (hstep : BoxStep s₁ s') :
    BoxStep s s' := by
  intro i
  have htaken : s₁.taken i = s.taken i := by
    unfold Bridge.taken
    rw [h]
  have hbox : s₁.box i = s.box i := by
    unfold Bridge.box
    rw [h]
  rw [← htaken, ← hbox]
  exact hstep i

theorem Bridge.Placed.drop_boxStep {s : Bridge} (h : s.Placed) (d : HidSlot) :
    BoxStep s (dropDevicePair s d) := by
  rcases h.drop_cases d with ⟨-, heq⟩ | ⟨i, hi, heq⟩
  · rw [heq]
    exact .of_controllers rfl
  · rw [heq]
    intro j
    rw [vacate_taken]
    by_cases hj : j = i
    · subst hj
      rw [if_pos ⟨h.taken hi, by simp⟩]
      simp [Bridge.box, Bridge.vacate, ArduinoController.unassigned]
    · rw [if_neg (by simp [hj])]
      simp [Bridge.box, Bridge.vacate, hj]

/-- A device that sits down finds the mailbox as it is. -/
theorem occupy_box (s : Bridge) (d : HidSlot) (i j : Seat) : (s.occupy d i).box j = s.box j := by
  unfold Bridge.box Bridge.occupy
  by_cases hj : j = i
  · subst hj
    simp
  · simp [hj]

theorem Bridge.Placed.complete_boxStep {s : Bridge} (h : s.Placed) (d : HidSlot) :
    BoxStep s (uniHidDeviceSetReadyComplete s d) := by
  rcases setReadyComplete_cases s d with ⟨-, heq⟩ | ⟨-, -, heq⟩ | ⟨hroom, -, -, heq⟩
  · rw [heq]
    exact .of_controllers rfl
  · rw [heq]
    exact h.drop_boxStep d
  · obtain ⟨i, hi⟩ := firstFree_of_count h.count hroom
    rw [heq i hi]
    intro j
    rw [occupy_box, occupy_taken, if_neg]
    rintro ⟨htaken, hfree⟩
    simp [htaken] at hfree

theorem BoxStep.before {s s₁ s' : Bridge} (h : s'.controllers = s₁.controllers) (hstep : BoxStep s s₁) :
    BoxStep s s' := by
  intro i
  have htaken : s'.taken i = s₁.taken i := by
    unfold Bridge.taken
    rw [h]
  have hbox : s'.box i = s₁.box i := by
    unfold Bridge.box
    rw [h]
  rw [htaken, hbox]
  exact hstep i

theorem guess_controllers (s : Bridge) (d : HidSlot) (type : UInt16) (parser : ReportParser) :
    (uniHidDeviceGuessControllerType s d type parser).controllers = s.controllers := by
  unfold uniHidDeviceGuessControllerType
  split_ifs <;> rfl

theorem Bridge.Placed.cleared_boxStep {s : Bridge} (h : s.Placed) : BoxStep s (finishDeparture s) := by
  by_cases hphase : ∃ d i, s.phase = .clearing d i
  · obtain ⟨d, i, hphase⟩ := hphase
    rw [finishDeparture_eq hphase]
    exact .before rfl (h.drop_boxStep d)
  · push Not at hphase
    rw [finishDeparture_idle hphase]
    exact .of_controllers rfl

theorem SeatMove.boxStep {s s' : Bridge} {e : BtEvent} (hmove : SeatMove s (.event e) s')
    (h : s.Placed) : BoxStep s s' := by
  generalize hstep : BridgeStep.event e = step at hmove
  cases hmove with
  | same _ hquiet => exact .of_controllers (hquiet e hstep.symm)
  | create _ => exact .of_controllers rfl
  | complete d => exact h.complete_boxStep d
  | drop d _ hquiet => exact .before hquiet (h.drop_boxStep d)
  | @service cid type parser d _ _ =>
    obtain ⟨device, hconn, hidx, hstate, -, heq⟩ :=
      connectReady_cases (uniHidDeviceGuessControllerType s d type parser) d
    have hsame := guess_controllers s d type parser
    rcases heq with heq | heq
    · rw [heq]
      exact .of_controllers hsame
    · rw [heq]
      have hplaced := (h.same (sameSeats_guess s d type parser)).unseat d hconn hidx hstate
      exact .after hsame (hplaced.complete_boxStep d)

/-! ### The handling of a report -/

/-- Neither the handling of a report nor the queue is touched, and a device is told its number at
most, when it is given a seat. -/
structure EventKeeps (s s' : Bridge) : Prop where
  phase : s'.phase = s.phase
  queue : s'.pendingQueue = s.pendingQueue
  outputs : s'.outputs = s.outputs ∨ ∃ d i,
    s'.outputs = (d, .playerLeds (UInt8.ofInt (i.val + 1))) :: s.outputs ∧ s'.sits d i ∧
      s.taken i = false

theorem EventKeeps.setDevice (s : Bridge) (d : HidSlot) (device : HidDevice) :
    EventKeeps s (s.setDevice d device) := ⟨rfl, rfl, Or.inl rfl⟩

theorem EventKeeps.refl (s : Bridge) : EventKeeps s s := ⟨rfl, rfl, Or.inl rfl⟩

/-- A drop tells the devices nothing. -/
theorem Bridge.Placed.drop_quiet {s : Bridge} (h : s.Placed) (d : HidSlot) :
    (dropDevicePair s d).pendingQueue = s.pendingQueue ∧ (dropDevicePair s d).outputs = s.outputs := by
  rcases h.drop_cases d with ⟨-, heq⟩ | ⟨i, -, heq⟩
  · rw [heq]
    exact ⟨rfl, rfl⟩
  · rw [heq]
    exact ⟨rfl, rfl⟩

theorem Bridge.Placed.finish_keeps {s : Bridge} (h : s.Placed) :
    (finishDeparture s).pendingQueue = s.pendingQueue ∧ (finishDeparture s).outputs = s.outputs := by
  by_cases hphase : ∃ d i, s.phase = .clearing d i
  · obtain ⟨d, i, hphase⟩ := hphase
    rw [finishDeparture_eq hphase]
    exact h.drop_quiet d
  · push Not at hphase
    rw [finishDeparture_idle hphase]
    exact ⟨rfl, rfl⟩

theorem Bridge.Placed.drop_keeps {s : Bridge} (h : s.Placed) (d : HidSlot) :
    EventKeeps s (dropDevicePair s d) := by
  rcases h.drop_cases d with ⟨-, heq⟩ | ⟨i, -, heq⟩
  · rw [heq]
    exact .setDevice s d _
  · rw [heq]
    exact ⟨rfl, rfl, Or.inl rfl⟩

theorem Bridge.Placed.complete_keeps {s : Bridge} (h : s.Placed) (d : HidSlot) :
    EventKeeps s (uniHidDeviceSetReadyComplete s d) := by
  rcases setReadyComplete_cases s d with ⟨-, heq⟩ | ⟨-, -, heq⟩ | ⟨hroom, hidx, -, heq⟩
  · rw [heq]
    exact .refl s
  · rw [heq]
    exact h.drop_keeps d
  · obtain ⟨i, hi⟩ := firstFree_of_count h.count hroom
    rw [heq i hi]
    refine ⟨rfl, rfl, ?_⟩
    cases hleds : (s.devices d).reportParser.setPlayerLeds with
    | false => exact Or.inl (by simp [Bridge.occupy, hleds])
    | true =>
      refine Or.inr ⟨d, i, by simp [Bridge.occupy, hleds], ?_, firstFree_not_taken hi⟩
      exact occupy_sits_self.mpr ⟨h.unassigned d hidx, rfl⟩

theorem Bridge.Placed.service_keeps {s : Bridge} (h : s.Placed) (d : HidSlot) (type : UInt16)
    (parser : ReportParser) :
    EventKeeps s (uniHidDeviceSetReady
      (uniHidDeviceConnect (uniHidDeviceGuessControllerType s d type parser) d) d) := by
  obtain ⟨device, hconn, hidx, hstate, -, heq⟩ :=
    connectReady_cases (uniHidDeviceGuessControllerType s d type parser) d
  have hguess : ∀ s', EventKeeps ((uniHidDeviceGuessControllerType s d type parser).setDevice d device)
      s' → EventKeeps s s' := by
    intro s' hs'
    have htaken := (sameSeats_guess s d type parser).taken
    unfold uniHidDeviceGuessControllerType at hs' htaken
    split_ifs at hs' htaken <;> exact ⟨hs'.phase, hs'.queue, hs'.outputs⟩
  rcases heq with heq | heq
  · rw [heq]
    exact hguess _ (.refl _)
  · rw [heq]
    have hplaced := (h.same (sameSeats_guess s d type parser)).unseat d hconn hidx hstate
    exact hguess _ (hplaced.complete_keeps d)

theorem EventKeeps.withDevice {s : Bridge} {found : Option HidSlot} {f : Bridge → HidSlot → Bridge}
    (hf : ∀ d, EventKeeps s (f s d)) : EventKeeps s (s.withDevice found f) := by
  cases found with
  | none => exact .refl s
  | some d => exact hf d

/-- Only a report of a ready device is handled. -/
theorem event_keeps {s : Bridge} (h : s.Placed) (e : BtEvent) :
    EventKeeps s (handleEvent s e) ∨
      ∃ cid d ctl, e = .hidReport cid ctl ∧ (s.devices d).state = .deviceReady ∧
        handleEvent s e = { s with phase := .draining d ctl } := by
  cases e with
  | hidReport cid ctl =>
    simp only [handleEvent]
    cases s.deviceForHidsCid cid with
    | none => exact Or.inl (.refl s)
    | some d =>
      simp only [Bridge.withDevice, processController]
      split_ifs with hready
      · exact Or.inr ⟨cid, d, ctl, rfl, hready, rfl⟩
      · exact Or.inl (.refl s)
  | advertisingReport addr =>
    refine Or.inl ?_
    simp only [handleEvent, uniHidDeviceCreate]
    split
    · exact .refl s
    · split
      · exact .refl s
      · exact .setDevice s _ _
  | leConnectionComplete addr handle =>
    refine Or.inl ?_
    simp only [handleEvent]
    exact .withDevice fun d => .setDevice s d _
  | pnpId handle vendorId productId =>
    refine Or.inl ?_
    simp only [handleEvent]
    exact .withDevice fun d => .setDevice s d _
  | hidsClient handle cid =>
    refine Or.inl ?_
    simp only [handleEvent]
    exact .withDevice fun d => .setDevice s d _
  | hidServiceConnected cid type parser =>
    refine Or.inl ?_
    simp only [handleEvent]
    exact .withDevice fun d => h.service_keeps d type parser
  | setupComplete d => exact Or.inl (h.complete_keeps d)
  | disconnectionComplete handle => exact Or.inl (.withDevice fun d => h.drop_keeps d)
  | connectionTimeout d =>
    refine Or.inl ?_
    simp only [handleEvent]
    split_ifs
    · exact .refl s
    · exact h.drop_keeps d
  | disconnectDevice d => exact Or.inl (h.drop_keeps d)

theorem drain_keeps (s : Bridge) :
    (drainRequest s).devices = s.devices ∧ (drainRequest s).controllers = s.controllers ∧
      ∀ d ctl, (drainRequest s).phase = .draining d ctl ∨ (drainRequest s).phase = .posting d ctl →
        s.phase = .draining d ctl ∨ s.phase = .posting d ctl := by
  unfold drainRequest
  split
  · rename_i d ctl hphase
    have hlast : ∀ d' ctl', CallbackPhase.posting d ctl = .draining d' ctl' ∨
        CallbackPhase.posting d ctl = .posting d' ctl' →
        s.phase = .draining d' ctl' ∨ s.phase = .posting d' ctl' := by
      rintro d' ctl' (h | h)
      · exact absurd h (by simp)
      · obtain ⟨rfl, rfl⟩ := CallbackPhase.posting.inj h
        exact Or.inl hphase
    split
    · exact ⟨rfl, rfl, hlast⟩
    · simp only
      split
      · exact ⟨rfl, rfl, hlast⟩
      · unfold runRequest
        split_ifs <;> exact ⟨rfl, rfl, fun _ _ h => h⟩
  · exact ⟨rfl, rfl, fun _ _ h => h⟩

/-- A report is posted to the seat of a device that sits there and is ready. -/
theorem Bridge.Mailed.sits_of_posting {s : Bridge} (h : s.Mailed) {d : HidSlot} {ctl : ControllerData}
    {i : Seat} (hphase : s.phase = .posting d ctl)
    (hidx : Seat.ofIdx? (s.devices d).controllerIdx = some i) :
    (s.devices d).state = .deviceReady ∧ s.sits d i := by
  have hready := h.handling d ctl (Or.inr hphase)
  exact ⟨hready, (h.ready d hready).1, ofIdx_eq_some.mp hidx⟩

theorem mailOp_post {s : Bridge} {i : Seat} {step : BridgeStep} {ctl : ControllerData} :
    mailOp i s step = some (.post ctl) ↔ ∃ d, s.posting i step d ctl := by
  constructor
  · intro hop
    unfold mailOp at hop
    cases step with
    | post =>
      simp only at hop
      split at hop
      · rename_i d ctl' hphase
        split_ifs at hop with hseat
        obtain rfl : ctl' = ctl := by simpa using hop
        exact ⟨d, rfl, hphase, hseat⟩
      · exact absurd hop (by simp)
    | event e =>
      simp only at hop
      split_ifs at hop
      exact absurd hop (by simp)
    | cleared =>
      simp only at hop
      split_ifs at hop
      exact absurd hop (by simp)
    | fetch j =>
      simp only at hop
      split_ifs at hop
      exact absurd hop (by simp)
    | tear j torn =>
      simp only at hop
      split_ifs at hop
      cases hgot : (fetchTorn s j torn).2.report with
      | none => simp [hgot] at hop
      | some got => simp [hgot] at hop
    | _ => exact absurd hop (by simp)
  · rintro ⟨d, rfl, hphase, hseat⟩
    simp [mailOp, hphase, hseat]

theorem post_phase (s : Bridge) : (postData s).phase = .outside ∨ postData s = s := by
  unfold postData
  split
  · simp only
    split <;> exact Or.inl rfl
  · exact Or.inr rfl

theorem post_box (s : Bridge) (i : Seat) :
    (postData s).box i = (mailOp i s .post).elim (s.box i) (Mailbox.step (s.box i)) := by
  unfold postData mailOp
  cases hphase : s.phase with
  | posting d ctl =>
    simp only
    cases hseat : Seat.ofIdx? (s.devices d).controllerIdx with
    | none => rfl
    | some j =>
      by_cases hj : i = j
      · subst hj
        simp [Bridge.box, Mailbox.step]
      · have hne : some j ≠ some i := by simpa using Ne.symm hj
        rw [if_neg hne]
        simp [Bridge.box, hj]
  | _ => rfl

theorem fetch_box (s : Bridge) (i j : Seat) :
    (fetchData s j).1.box i = (mailOp i s (.fetch j)).elim (s.box i) (Mailbox.step (s.box i)) := by
  unfold fetchData mailOp
  by_cases hj : j = i
  · subst hj
    split_ifs <;> simp_all [Bridge.box, Mailbox.step]
  · have hne : i ≠ j := Ne.symm hj
    split_ifs <;> simp [Bridge.box, hne, hj]

theorem tear_box (s : Bridge) (i j : Seat) (torn : Option ControllerData) :
    (s.step (.tear j torn)).box i =
      (mailOp i s (.tear j torn)).elim (s.box i) (Mailbox.step (s.box i)) := by
  by_cases h : s.clears j = true ∧ j = i
  · obtain ⟨hclears, rfl⟩ := h
    have hop : mailOp j s (.tear j torn) = some ((fetchTorn s j torn).2.report.elim .clear .garble) :=
      if_pos ⟨hclears, rfl⟩
    have hempty : (s.step (.tear j torn)).box j = none := by
      simp only [Bridge.step, if_pos hclears, fetchTorn]
      split_ifs with hupdated
      · simp [Bridge.box]
      · simp [Bridge.box, hupdated]
    rw [hempty, hop]
    cases (fetchTorn s j torn).2.report <;> rfl
  · have hop : mailOp i s (.tear j torn) = none := if_neg h
    rw [hop]
    simp only [Bridge.step, fetchTorn]
    split_ifs with hclears
    · have hne : i ≠ j := fun heq => h ⟨hclears, heq.symm⟩
      simp [Bridge.box, hne]
    · rfl
    · rfl

/-- Every step does to the mailbox what `mailOp` says. -/
theorem step_box {s : Bridge} (h : s.Placed) (i : Seat) (step : BridgeStep) :
    (s.step step).box i = (mailOp i s step).elim (s.box i) (Mailbox.step (s.box i)) := by
  cases step with
  | event e =>
    rw [(step_move s (.event e)).boxStep h i]
    simp only [mailOp]
    split_ifs <;> rfl
  | depart e =>
    show (s.step (.depart e)).box i = s.box i
    rcases depart_cases s e with heq | ⟨d, j, -, -, -, heq⟩
    · rw [heq]
    · rw [heq]
      rfl
  | cleared =>
    have hbox := h.cleared_boxStep i
    show (finishDeparture s).box i = _
    by_cases hfreed : s.taken i = true ∧ (finishDeparture s).taken i = false
    · have hop : mailOp i s .cleared = some .clear := if_pos hfreed
      rw [hbox, if_pos hfreed, hop]
      rfl
    · have hop : mailOp i s .cleared = none := if_neg hfreed
      rw [hbox, if_neg hfreed, hop]
      rfl
  | drain =>
    show (drainRequest s).box i = s.box i
    unfold Bridge.box
    rw [(drain_keeps s).2.1]
  | post => exact post_box s i
  | fetch j => exact fetch_box s i j
  | tear j torn => exact tear_box s i j torn
  | send request =>
    show (sendToBack s request).box i = s.box i
    unfold sendToBack
    split_ifs <;> rfl

/-- A seat is given up by an event only, which clears it. -/
theorem taken_of_mailOp_none {s : Bridge} {i : Seat} {step : BridgeStep}
    (hop : mailOp i s step = none) (hfree : (s.step step).taken i = false) : s.taken i = false := by
  cases step with
  | event e =>
    by_contra htaken
    have hop' : mailOp i s (.event e) = some .clear := if_pos ⟨by simpa using htaken, hfree⟩
    exact absurd (hop.symm.trans hop') (by simp)
  | depart e => exact (sameSeats_depart s e).taken i ▸ hfree
  | cleared =>
    by_contra htaken
    have hop' : mailOp i s .cleared = some .clear := if_pos ⟨by simpa using htaken, hfree⟩
    exact absurd (hop.symm.trans hop') (by simp)
  | drain => exact (sameSeats_drain s).taken i ▸ hfree
  | post => exact (sameSeats_post s).taken i ▸ hfree
  | fetch j => exact (sameSeats_fetch s j).taken i ▸ hfree
  | tear j torn => exact (sameSeats_tear s j torn).taken i ▸ hfree
  | send request => exact (sameSeats_send s request).taken i ▸ hfree

/-- A report that is being handled was handled before, by a device in the same state, or came in from a
ready one just now. -/
theorem step_handling {s : Bridge} (h : s.Placed) {step : BridgeStep} {d : HidSlot} {ctl : ControllerData}
    (hphase : (s.step step).phase = .draining d ctl ∨ (s.step step).phase = .posting d ctl) :
    ((s.phase = .draining d ctl ∨ s.phase = .posting d ctl) ∧
        ((s.step step).devices d).state = (s.devices d).state) ∨
      ∃ cid, step = .event (.hidReport cid ctl) ∧ ((s.step step).devices d).state = .deviceReady := by
  cases step with
  | event e =>
    simp only [Bridge.step] at hphase ⊢
    split_ifs at hphase ⊢ with houtside
    · rcases event_keeps h e with hkeeps | ⟨cid, d', ctl', rfl, hready, heq⟩
      · rw [hkeeps.phase, houtside] at hphase
        exact absurd hphase (by simp)
      · rw [heq] at hphase ⊢
        obtain ⟨rfl, rfl⟩ : d' = d ∧ ctl' = ctl := by simpa using hphase
        exact Or.inr ⟨cid, rfl, hready⟩
    · exact Or.inl ⟨hphase, rfl⟩
  | depart e =>
    rcases depart_cases s e with heq | ⟨d', j, -, -, -, heq⟩
    · rw [heq] at hphase ⊢
      exact Or.inl ⟨hphase, rfl⟩
    · rw [heq] at hphase
      exact absurd hphase (by simp)
  | cleared =>
    by_cases hclearing : ∃ d' j, s.phase = .clearing d' j
    · obtain ⟨d', j, hclearing⟩ := hclearing
      simp only [Bridge.step, finishDeparture_eq hclearing] at hphase
      exact absurd hphase (by simp)
    · push Not at hclearing
      simp only [Bridge.step, finishDeparture_idle hclearing] at hphase ⊢
      exact Or.inl ⟨hphase, trivial⟩
  | drain =>
    have hkeeps := drain_keeps s
    refine Or.inl ⟨hkeeps.2.2 d ctl hphase, ?_⟩
    show ((drainRequest s).devices d).state = _
    rw [hkeeps.1]
  | post =>
    rcases post_phase s with houtside | hsame
    · exact absurd hphase (by simp [Bridge.step, houtside])
    · simp only [Bridge.step, hsame] at hphase ⊢
      exact Or.inl ⟨hphase, trivial⟩
  | fetch j =>
    simp only [Bridge.step, fetchData] at hphase ⊢
    split_ifs at hphase ⊢ <;> exact Or.inl ⟨hphase, rfl⟩
  | tear j torn =>
    simp only [Bridge.step, fetchTorn] at hphase ⊢
    split_ifs at hphase ⊢ <;> exact Or.inl ⟨hphase, rfl⟩
  | send request =>
    simp only [Bridge.step, sendToBack] at hphase ⊢
    split_ifs at hphase ⊢ <;> exact Or.inl ⟨hphase, rfl⟩

/-- One step keeps the agreement. -/
theorem step_mailed (s : Bridge) (step : BridgeStep) (h : s.Mailed) : (s.step step).Mailed where
  toPlaced := step_placed s step h.toPlaced
  blank i hfree := by
    rw [step_box h.toPlaced]
    cases hop : mailOp i s step with
    | none => exact h.blank i (taken_of_mailOp_none hop hfree)
    | some op =>
      cases op with
      | post ctl =>
        obtain ⟨d, rfl, hphase, hseat⟩ := mailOp_post.mp hop
        have htaken := h.taken (h.sits_of_posting hphase hseat).2
        exact absurd (((sameSeats_post s).taken i).symm.trans hfree |>.symm.trans htaken) (by decide)
      | take => rfl
      | garble ctl => rfl
      | clear => rfl
  handling d ctl hphase := by
    rcases step_handling h.toPlaced hphase with ⟨hwas, hstate⟩ | ⟨-, -, hready⟩
    · rw [hstate]
      exact h.handling d ctl hwas
    · exact hready

/-- **Every seat is a mailbox**, whatever the two cores do. -/
theorem seat_mailbox (i : Seat) :
    Mailbox.Within Bridge.step (mailOp i) (fun s => s.box i) Bridge.Mailed where
  keep := step_mailed
  box _ step h := step_box h.toPlaced i step

theorem mailed_after (steps : List BridgeStep) : (after Bridge.step Bridge.boot steps).Mailed :=
  invariant_always step_mailed steps bridge_boot_mailed

/-! ### What the sketch gets -/

theorem fetchData_report (s : Bridge) (i : Seat) : (fetchData s i).2.report = s.box i := by
  unfold fetchData Bridge.box
  split_ifs <;> rfl

theorem takes_eq_fetched (i : Seat) :
    Mailbox.takes (mailOp i) (fun s => s.box i) = fetchedFrom i := by
  funext s step
  cases step with
  | fetch j =>
    simp only [Mailbox.takes, mailOp, fetchedFrom, fetchData_report]
    by_cases hj : j = i
    · subst hj
      rw [if_pos rfl, if_pos rfl]
      rfl
    · rw [if_neg hj, if_neg hj]
      rfl
  | tear j torn =>
    simp only [Mailbox.takes, mailOp, fetchedFrom, tornFrom]
    split_ifs
    · cases (fetchTorn s j torn).2.report <;> rfl
    · rfl
  | event e =>
    simp only [Mailbox.takes, mailOp, fetchedFrom, tornFrom]
    split_ifs <;> rfl
  | cleared =>
    simp only [Mailbox.takes, mailOp, fetchedFrom, tornFrom]
    split_ifs <;> rfl
  | post =>
    simp only [Mailbox.takes, mailOp, fetchedFrom, tornFrom]
    split
    · split_ifs <;> rfl
    · rfl
  | _ => rfl

/-- What is posted to the seat, or torn out of it. -/
def madeFor (i : Seat) (s : Bridge) (step : BridgeStep) : List ControllerData :=
  postedTo i s step ++ tornFrom i s step

theorem posts_eq_made (i : Seat) : Mailbox.posts (mailOp i) = madeFor i := by
  funext s step
  cases step with
  | post =>
    simp only [Mailbox.posts, mailOp, madeFor, postedTo, tornFrom]
    split
    · split_ifs <;> rfl
    · rfl
  | tear j torn =>
    simp only [Mailbox.posts, mailOp, madeFor, postedTo, tornFrom]
    split_ifs
    · cases (fetchTorn s j torn).2.report <;> rfl
    · rfl
  | event e =>
    simp only [Mailbox.posts, mailOp, madeFor, postedTo, tornFrom]
    split_ifs <;> rfl
  | cleared =>
    simp only [Mailbox.posts, mailOp, madeFor, postedTo, tornFrom]
    split_ifs <;> rfl
  | fetch j =>
    simp only [Mailbox.posts, mailOp, madeFor, postedTo, tornFrom]
    split_ifs <;> rfl
  | _ => rfl

theorem Bridge.Mailed.get_iff {s : Bridge} (h : s.Mailed) {i : Seat} {ctl : ControllerData} :
    (arduinoGetControllerData s i).2 = .success ctl ↔ s.box i = some ctl := by
  unfold arduinoGetControllerData fetchData
  cases htaken : s.taken i with
  | true =>
    rw [if_pos rfl]
    unfold Bridge.box
    split_ifs <;> simp
  | false =>
    rw [h.blank i htaken]
    simp

/-- A call that no clearing overlaps returns what a call in one piece does. -/
theorem Bridge.Mailed.canReturn_iff {s : Bridge} (h : s.Mailed) {i : Seat} (hwhole : s.clears i = false)
    {ctl : ControllerData} : s.canReturn i (.success ctl) ↔ s.box i = some ctl := by
  unfold Bridge.canReturn
  rw [hwhole, ← h.get_iff]
  constructor
  · rintro (hgot | ⟨hclears, -⟩)
    · exact hgot.symm
    · exact absurd hclears (by decide)
  · intro hgot
    exact Or.inl hgot.symm

theorem last_post_of_got {steps : List BridgeStep} {i : Seat} {ctl : ControllerData}
    (hwhole : (after Bridge.step Bridge.boot steps).clears i = false)
    (hgot : (after Bridge.step Bridge.boot steps).canReturn i (.success ctl)) :
    ∃ front back d, steps = front ++ .post :: back ∧
      (after Bridge.step Bridge.boot front).phase = .posting d ctl ∧
      ((after Bridge.step Bridge.boot front).devices d).state = .deviceReady ∧
      (after Bridge.step Bridge.boot front).sits d i ∧
      Mailbox.Untouched Bridge.step (mailOp i)
        (after Bridge.step Bridge.boot (front ++ [.post])) back := by
  rw [(mailed_after steps).canReturn_iff hwhole,
    (seat_mailbox i).full_iff steps bridge_boot_mailed ctl] at hgot
  rcases hgot with ⟨hbox, -⟩ | ⟨front, step, back, hsplit, hop, huntouched⟩
  · exact absurd hbox (by simp [Bridge.box, Bridge.boot, ArduinoController.unassigned])
  · obtain ⟨d, rfl, hphase, hseat⟩ := mailOp_post.mp hop
    have hsits := (mailed_after front).sits_of_posting hphase hseat
    exact ⟨front, back, d, hsplit, hphase, hsits.1, hsits.2, huntouched⟩

/-- **The sketch gets the last report of a seat.**  A call that the clearing of the seat does not overlap
returns a report when a device that sat there, ready, posted it, and neither a post nor a call nor a
departure has touched the seat since. -/
theorem got_iff_last_posted (steps : List BridgeStep) (i : Seat) (ctl : ControllerData)
    (hwhole : (after Bridge.step Bridge.boot steps).clears i = false) :
    (after Bridge.step Bridge.boot steps).canReturn i (.success ctl) ↔
      ∃ front back d, steps = front ++ .post :: back ∧
        (after Bridge.step Bridge.boot front).phase = .posting d ctl ∧
        ((after Bridge.step Bridge.boot front).devices d).state = .deviceReady ∧
        (after Bridge.step Bridge.boot front).sits d i ∧
        Mailbox.Untouched Bridge.step (mailOp i)
          (after Bridge.step Bridge.boot (front ++ [.post])) back := by
  refine ⟨last_post_of_got hwhole, ?_⟩
  rintro ⟨front, back, d, hsplit, hphase, -, hsits, huntouched⟩
  rw [(mailed_after steps).canReturn_iff hwhole,
    (seat_mailbox i).full_iff steps bridge_boot_mailed ctl]
  refine Or.inr ⟨front, .post, back, hsplit, mailOp_post.mpr ⟨d, rfl, hphase, ?_⟩, huntouched⟩
  exact ofIdx_eq_some.mpr hsits.2

theorem got_iff_last_posted_reporting :
    (after Bridge.step Bridge.boot reporting).canReturn 0 (.success .zero) ↔
      ∃ front back d, reporting = front ++ .post :: back ∧
        (after Bridge.step Bridge.boot front).phase = .posting d .zero ∧
        ((after Bridge.step Bridge.boot front).devices d).state = .deviceReady ∧
        (after Bridge.step Bridge.boot front).sits d 0 ∧
        Mailbox.Untouched Bridge.step (mailOp 0)
          (after Bridge.step Bridge.boot (front ++ [.post])) back :=
  got_iff_last_posted reporting 0 .zero (by decide +kernel)

/-- A call that finds the seat being cleared can bring anything. -/
example (ctl : ControllerData) : (after Bridge.step Bridge.boot
    (reporting ++ [.depart (.disconnectDevice 0)])).canReturn 0 (.success ctl) :=
  Or.inr ⟨by decide +kernel, some ctl, rfl⟩

/-! ### A guest that stays -/

theorem Bridge.Placed.stays_drop {s : Bridge} (h : s.Placed) {d d' : HidSlot} {i : Seat}
    (hsits : s.sits d i) (htaken : (dropDevicePair s d').taken i = true) :
    (dropDevicePair s d').sits d i := by
  rcases h.drop_cases d' with ⟨hunseated, heq⟩ | ⟨j, hj, heq⟩
  · have hd : d ≠ d' := by
      rintro rfl
      exact hunseated i hsits
    rw [heq]
    exact (sits_setDevice_other hd).mpr hsits
  · rw [heq] at htaken ⊢
    have hd : d ≠ d' := by
      rintro rfl
      obtain rfl := seat_val_inj (hsits.2.symm.trans hj.2)
      simp [vacate_taken] at htaken
    exact (vacate_sits_other hd).mpr hsits

theorem Bridge.Placed.stays_complete {s : Bridge} (h : s.Placed) {d d' : HidSlot} {i : Seat}
    (hsits : s.sits d i) (htaken : (uniHidDeviceSetReadyComplete s d').taken i = true) :
    (uniHidDeviceSetReadyComplete s d').sits d i := by
  rcases setReadyComplete_cases s d' with ⟨-, heq⟩ | ⟨-, -, heq⟩ | ⟨hroom, hidx, -, heq⟩
  · rw [heq]
    exact hsits
  · rw [heq] at htaken ⊢
    exact h.stays_drop hsits htaken
  · obtain ⟨j, hj⟩ := firstFree_of_count h.count hroom
    have hd : d ≠ d' := by
      rintro rfl
      exact not_sits_of_invalid hidx i hsits
    rw [heq j hj]
    exact (occupy_sits_other hd).mpr hsits

/-- A device that sits keeps its seat as long as the seat is taken and no service is reported again. -/
theorem SeatMove.stays {s s' : Bridge} {step : BridgeStep} {d : HidSlot} {i : Seat}
    (hmove : SeatMove s step s') (h : s.Seated) (hok : ServiceOnce s step) (hsits : s.sits d i)
    (htaken : s'.taken i = true) : s'.sits d i := by
  cases hmove with
  | same hsame _ => exact (hsame.sits d i).mpr hsits
  | create hfree =>
    refine (sits_setDevice_other ?_).mpr hsits
    rintro rfl
    exact absurd (hsits.1.symm.trans (h.free d hfree)) (by decide)
  | complete d' => exact h.toPlaced.stays_complete hsits htaken
  | drop d' hsame _ =>
    exact (hsame.sits d i).mpr (h.toPlaced.stays_drop hsits ((hsame.taken i).symm.trans htaken))
  | @service cid type parser d' hphase hfound =>
    have hguess := sameSeats_guess s d' type parser
    have hd : d ≠ d' := by
      rintro rfl
      exact (hok hphase d hfound).2 i hsits
    obtain ⟨device, hconn, hidx, hstate, -, heq⟩ :=
      connectReady_cases (uniHidDeviceGuessControllerType s d' type parser) d'
    have hsits' : ((uniHidDeviceGuessControllerType s d' type parser).setDevice d' device).sits d i :=
      (sits_setDevice_other hd).mpr ((hguess.sits d i).mpr hsits)
    rcases heq with heq | heq
    · rw [heq]
      exact hsits'
    · rw [heq] at htaken ⊢
      exact ((h.toPlaced.same hguess).unseat d' hconn hidx hstate).stays_complete hsits' htaken

/-- What is in the mailbox has not been touched since, so the seat was taken all along. -/
theorem stays_untouched {i : Seat} {d : HidSlot} (back : List BridgeStep) {s : Bridge}
    (h : s.Seated) (hmeets : Meets Bridge.step ServiceOnce s back)
    (huntouched : Mailbox.Untouched Bridge.step (mailOp i) s back) (hsits : s.sits d i) :
    (after Bridge.step s back).sits d i := by
  induction back generalizing s with
  | nil => exact hsits
  | cons step rest ih =>
    have htaken : (s.step step).taken i = true := by
      by_contra hfree
      have hbefore := taken_of_mailOp_none huntouched.1 (by simpa using hfree)
      exact absurd ((h.taken hsits).symm.trans hbefore) (by decide)
    exact ih (step_seated s step h hmeets.1) hmeets.2 huntouched.2
      ((step_move s step).stays h hmeets.1 hsits htaken)

/-- **What the sketch gets is the report of the device that sits there now**, as long as no service is
reported again and the seat is not being cleared. -/
theorem got_from_sitter (steps : List BridgeStep) (i : Seat) (ctl : ControllerData)
    (hmeets : Meets Bridge.step ServiceOnce Bridge.boot steps)
    (hwhole : (after Bridge.step Bridge.boot steps).clears i = false)
    (hgot : (after Bridge.step Bridge.boot steps).canReturn i (.success ctl)) :
    ∃ front back d, steps = front ++ .post :: back ∧
      (after Bridge.step Bridge.boot front).phase = .posting d ctl ∧
      (after Bridge.step Bridge.boot steps).sits d i ∧
      ∀ d', (after Bridge.step Bridge.boot steps).sits d' i → d' = d := by
  obtain ⟨front, back, d, rfl, hphase, -, hsits, huntouched⟩ :=
    last_post_of_got hwhole hgot
  have hsplit : front ++ .post :: back = (front ++ [.post]) ++ back := by simp
  rw [hsplit] at hmeets ⊢
  obtain ⟨hfront, hback⟩ := (meets_append ..).mp hmeets
  have hposted := (sameSeats_post (after Bridge.step Bridge.boot front)).sits d i
  have hsits' : (after Bridge.step Bridge.boot (front ++ [.post])).sits d i := by
    rw [after_append]
    exact hposted.mpr hsits
  have hseated := invariant_after step_seated (front ++ [.post]) _ bridge_boot_seated hfront
  have hlast := stays_untouched back hseated hback huntouched hsits'
  rw [← after_append] at hlast
  refine ⟨front, back, d, by simp, hphase, hlast, fun d' hd' => ?_⟩
  exact (placed_after ((front ++ [.post]) ++ back)).unique d' d i hd' hlast

theorem got_from_sitter_reporting :
    ∃ front back d, reporting = front ++ .post :: back ∧
      (after Bridge.step Bridge.boot front).phase = .posting d .zero ∧
      (after Bridge.step Bridge.boot reporting).sits d 0 ∧
      ∀ d', (after Bridge.step Bridge.boot reporting).sits d' 0 → d' = d :=
  got_from_sitter reporting 0 .zero (by decide +kernel) (by decide +kernel)
    (Or.inl (by decide +kernel))

end MK1Tank
