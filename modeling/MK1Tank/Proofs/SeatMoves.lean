/-
What the steps do to the seats.

Every step of either core is one of five moves: the seats stay as they are, a slot of the
table gets a new device, a device becomes ready, one is dropped, or one is connected.
What the moves keep, every step keeps.
-/
import MK1Tank.Proofs.Seats

namespace MK1Tank

open Runs

/-! ### Becoming ready and being connected -/

theorem not_sits_of_invalid {s : Bridge} {d : HidSlot}
    (hidx : (s.devices d).controllerIdx = gamepadInvalid) (i : Seat) : ¬ s.sits d i := by
  intro hsits
  exact seat_ne_invalid i (hsits.2.symm.trans hidx)

/-- A ready device has a seat. -/
theorem Bridge.Placed.ready_sits {s : Bridge} (h : s.Placed) {d : HidSlot}
    (hready : (s.devices d).state = .deviceReady) : ∃ i, s.sits d i := by
  obtain ⟨hconn, hidx⟩ := h.ready d hready
  rcases h.named d hconn with hnone | ⟨i, hi, -⟩
  · exact absurd hnone hidx
  · exact ⟨i, hi⟩

theorem Bridge.Placed.setReadyComplete {s : Bridge} (h : s.Placed) (d : HidSlot) :
    (uniHidDeviceSetReadyComplete s d).Placed := by
  rcases setReadyComplete_cases s d with ⟨-, heq⟩ | ⟨-, -, heq⟩ | ⟨hroom, hidx, -, heq⟩
  · rw [heq]
    exact h
  · rw [heq]
    exact h.drop d
  · obtain ⟨i, hi⟩ := firstFree_of_count h.count hroom
    rw [heq i hi]
    exact h.occupy hidx (firstFree_not_taken hi)

theorem Bridge.Seated.setReadyComplete {s : Bridge} (h : s.Seated) (d : HidSlot) :
    (uniHidDeviceSetReadyComplete s d).Seated := by
  rcases setReadyComplete_cases s d with ⟨-, heq⟩ | ⟨-, -, heq⟩ | ⟨hroom, hidx, -, heq⟩
  · rw [heq]
    exact h
  · rw [heq]
    exact h.drop d
  · obtain ⟨i, hi⟩ := firstFree_of_count h.count hroom
    rw [heq i hi]
    exact h.occupy hidx (firstFree_not_taken hi)

/-- Becoming ready goes through the pending state, which the seats are not about. -/
theorem setReady_cases (s : Bridge) (d : HidSlot) :
    ((s.devices d).state = .devicePendingReady ∧ uniHidDeviceSetReady s d = s) ∨
      uniHidDeviceSetReady s d = s.setDevice d { s.devices d with state := .devicePendingReady } ∨
      uniHidDeviceSetReady s d = uniHidDeviceSetReadyComplete
        (s.setDevice d { s.devices d with state := .devicePendingReady }) d := by
  unfold uniHidDeviceSetReady
  by_cases hpending : (s.devices d).state = .devicePendingReady
  · exact Or.inl ⟨hpending, if_pos hpending⟩
  · rw [if_neg hpending]
    cases hsetup : (s.devices d).reportParser.setup <;>
      simp [setDevice_devices, hsetup]

theorem sameSeats_pending (s : Bridge) (d : HidSlot) :
    s.SameSeats (s.setDevice d { s.devices d with state := .devicePendingReady }) :=
  sameSeats_setDevice s d _ rfl rfl id (fun h => absurd h (by simp))

theorem Bridge.Seated.setReady {s : Bridge} (h : s.Seated) (d : HidSlot) :
    (uniHidDeviceSetReady s d).Seated := by
  rcases setReady_cases s d with ⟨-, heq⟩ | heq | heq
  · rw [heq]
    exact h
  · rw [heq]
    exact h.same (sameSeats_pending s d)
  · rw [heq]
    exact (h.same (sameSeats_pending s d)).setReadyComplete d

theorem sameSeats_guess (s : Bridge) (d : HidSlot) (type : UInt16) (parser : ReportParser) :
    s.SameSeats (uniHidDeviceGuessControllerType s d type parser) := by
  unfold uniHidDeviceGuessControllerType
  split_ifs
  · exact ⟨fun _ => ⟨rfl, rfl, id, id⟩, fun _ => rfl, rfl⟩
  · exact sameSeats_setDevice s d _ rfl rfl id id

theorem guess_btaddr (s : Bridge) (d : HidSlot) (type : UInt16) (parser : ReportParser) :
    ((uniHidDeviceGuessControllerType s d type parser).devices d).btaddr = (s.devices d).btaddr := by
  unfold uniHidDeviceGuessControllerType
  split_ifs
  · rfl
  · rw [setDevice_devices, Function.update_self]

theorem uniHidDeviceConnect_eq (s : Bridge) (d : HidSlot) :
    uniHidDeviceConnect s d =
      s.setDevice d { s.devices d with connected := true, controllerIdx := gamepadInvalid } := by
  simp [uniHidDeviceConnect, arduinoOnDeviceConnected, Bridge.setDevice]

/-- A device can be connected without a seat, which takes it from the one it has. -/
theorem Bridge.Placed.unseat {s : Bridge} (h : s.Placed) (d : HidSlot) {device : HidDevice}
    (hconn : device.connected = true) (hidx : device.controllerIdx = gamepadInvalid)
    (hstate : device.state ≠ .deviceReady) : (s.setDevice d device).Placed := by
  have hother : ∀ {d'}, d' ≠ d → (s.setDevice d device).devices d' = s.devices d' := fun hd =>
    Function.update_of_ne hd _ _
  have hself : (s.setDevice d device).devices d = device := Function.update_self ..
  have hnot : ∀ i, ¬ (s.setDevice d device).sits d i := not_sits_of_invalid (by rw [hself, hidx])
  constructor
  · intro d' hd'
    by_cases hd : d' = d
    · rw [hd, hself, hconn]
    · rw [hother hd] at hd' ⊢
      exact h.unassigned d' hd'
  · intro d' hd'
    by_cases hd : d' = d
    · exact Or.inl (by rw [hd, hself, hidx])
    · rw [hother hd] at hd' ⊢
      rcases h.named d' hd' with hnone | ⟨i, hi, htaken⟩
      · exact Or.inl hnone
      · exact Or.inr ⟨i, (sits_setDevice_other hd).mpr hi, htaken⟩
  · intro d₁ d₂ i h₁ h₂
    have hne : ∀ d', (s.setDevice d device).sits d' i → d' ≠ d := by
      intro d' hd' heq
      exact hnot i (heq ▸ hd')
    exact h.unique d₁ d₂ i ((sits_setDevice_other (hne d₁ h₁)).mp h₁)
      ((sits_setDevice_other (hne d₂ h₂)).mp h₂)
  · exact h.count
  · intro d' hd'
    by_cases hd : d' = d
    · rw [hd, hself] at hd'
      exact absurd hd' hstate
    · rw [hother hd] at hd' ⊢
      exact h.ready d' hd'

/-- A connection and what follows it: the device loses its seat, and may become ready. -/
theorem connectReady_cases (s : Bridge) (d : HidSlot) :
    ∃ device : HidDevice, device.connected = true ∧ device.controllerIdx = gamepadInvalid ∧
      device.state ≠ .deviceReady ∧ device.btaddr = (s.devices d).btaddr ∧
      (uniHidDeviceSetReady (uniHidDeviceConnect s d) d = s.setDevice d device ∨
        uniHidDeviceSetReady (uniHidDeviceConnect s d) d =
          uniHidDeviceSetReadyComplete (s.setDevice d device) d) := by
  have hpending : (uniHidDeviceConnect s d).setDevice d
      { (uniHidDeviceConnect s d).devices d with state := .devicePendingReady } =
      s.setDevice d { s.devices d with
        connected := true, controllerIdx := gamepadInvalid, state := .devicePendingReady } := by
    simp [uniHidDeviceConnect_eq, Bridge.setDevice]
  rcases setReady_cases (uniHidDeviceConnect s d) d with ⟨hstate, heq⟩ | heq | heq
  · rw [uniHidDeviceConnect_eq, setDevice_devices, Function.update_self] at hstate
    refine ⟨{ s.devices d with connected := true, controllerIdx := gamepadInvalid }, rfl, rfl, ?_, rfl,
      Or.inl ?_⟩
    · rw [hstate]
      simp
    · rw [heq, uniHidDeviceConnect_eq]
  · exact ⟨{ s.devices d with
      connected := true, controllerIdx := gamepadInvalid, state := .devicePendingReady },
      rfl, rfl, by simp, rfl, Or.inl (heq.trans hpending)⟩
  · exact ⟨{ s.devices d with
      connected := true, controllerIdx := gamepadInvalid, state := .devicePendingReady },
      rfl, rfl, by simp, rfl, Or.inr (hpending ▸ heq)⟩

theorem Bridge.Placed.connectReady {s : Bridge} (h : s.Placed) (d : HidSlot) :
    (uniHidDeviceSetReady (uniHidDeviceConnect s d) d).Placed := by
  obtain ⟨device, hconn, hidx, hstate, -, heq | heq⟩ := connectReady_cases s d
  · rw [heq]
    exact h.unseat d hconn hidx hstate
  · rw [heq]
    exact (h.unseat d hconn hidx hstate).setReadyComplete d

/-- A device of the table that sat nowhere leaves none behind. -/
theorem Bridge.Seated.connect {s : Bridge} (h : s.Seated) {d : HidSlot}
    (haddr : (s.devices d).btaddr ≠ 0) (hunseated : ∀ i, ¬ s.sits d i) :
    (uniHidDeviceConnect s d).Seated where
  toPlaced := by
    rw [uniHidDeviceConnect_eq]
    refine h.toPlaced.unseat d rfl rfl fun hready => ?_
    obtain ⟨i, hi⟩ := h.ready_sits hready
    exact hunseated i hi
  held i hi := by
    rw [uniHidDeviceConnect_eq] at hi ⊢
    obtain ⟨d', hd'⟩ := h.held i hi
    have hd : d' ≠ d := by
      intro heq
      exact hunseated i (heq ▸ hd')
    exact ⟨d', (sits_setDevice_other hd).mpr hd'⟩
  free d' hd' := by
    rw [uniHidDeviceConnect_eq, setDevice_devices] at hd' ⊢
    by_cases hd : d' = d
    · rw [hd, Function.update_self] at hd'
      exact absurd hd' haddr
    · rw [Function.update_of_ne hd] at hd' ⊢
      exact h.free d' hd'

/-! ### The moves -/

/-- The rest of a report's handling, and the application, leave the seats as they are. -/
theorem sameSeats_drain (s : Bridge) : s.SameSeats (drainRequest s) := by
  have hrefl : ∀ s' : Bridge, s'.devices = s.devices → s'.controllers = s.controllers →
      s'.usedControllers = s.usedControllers → s.SameSeats s' := by
    intro s' hdev hctl hused
    exact ⟨fun d => by rw [hdev]; exact ⟨rfl, rfl, id, id⟩, fun i => by unfold Bridge.taken; rw [hctl],
      hused⟩
  unfold drainRequest
  split
  · split
    · exact hrefl _ rfl rfl rfl
    · simp only
      split
      · exact hrefl _ rfl rfl rfl
      · unfold runRequest
        split_ifs <;> exact hrefl _ rfl rfl rfl
  · exact hrefl _ rfl rfl rfl

/-- A seat written without its index is taken as before. -/
theorem sameSeats_setSeat (s : Bridge) (i : Seat) (c : ArduinoController) (phase : CallbackPhase)
    (hidx : c.idx = (s.controllers i).idx) :
    s.SameSeats { s with controllers := Function.update s.controllers i c, phase := phase } where
  devices _ := ⟨rfl, rfl, id, id⟩
  taken j := by
    unfold Bridge.taken
    by_cases hj : j = i
    · subst hj
      simp [hidx]
    · simp [hj]
  used := rfl

theorem sameSeats_post (s : Bridge) : s.SameSeats (postData s) := by
  unfold postData
  split
  · simp only
    split
    · exact ⟨fun _ => ⟨rfl, rfl, id, id⟩, fun _ => rfl, rfl⟩
    · exact sameSeats_setSeat s _ _ _ rfl
  · exact ⟨fun _ => ⟨rfl, rfl, id, id⟩, fun _ => rfl, rfl⟩

theorem sameSeats_fetch (s : Bridge) (i : Seat) : s.SameSeats (fetchData s i).1 := by
  unfold fetchData
  split_ifs
  · exact sameSeats_setSeat s i _ _ rfl
  · exact ⟨fun _ => ⟨rfl, rfl, id, id⟩, fun _ => rfl, rfl⟩

theorem sameSeats_tear (s : Bridge) (i : Seat) (torn : Option ControllerData) :
    s.SameSeats (s.step (.tear i torn)) := by
  simp only [Bridge.step, fetchTorn]
  split_ifs
  · exact sameSeats_setSeat s i _ _ rfl
  · exact ⟨fun _ => ⟨rfl, rfl, id, id⟩, fun _ => rfl, rfl⟩
  · exact ⟨fun _ => ⟨rfl, rfl, id, id⟩, fun _ => rfl, rfl⟩

theorem sameSeats_phase (s : Bridge) (phase : CallbackPhase) : s.SameSeats { s with phase := phase } :=
  ⟨fun _ => ⟨rfl, rfl, id, id⟩, fun _ => rfl, rfl⟩

/-- A departure begins with a device that has a seat, and only the phase says so. -/
theorem depart_cases (s : Bridge) (e : BtEvent) :
    s.step (.depart e) = s ∨
      ∃ d i, s.phase = .outside ∧ s.leaver e = some d ∧ s.sits d i ∧
        s.step (.depart e) = { s with phase := .clearing d i } := by
  simp only [Bridge.step, departEvent]
  split_ifs with houtside
  · cases hleaver : s.leaver e with
    | none => exact Or.inl rfl
    | some d =>
      simp only
      cases hseat : Seat.ofIdx? (s.devices d).controllerIdx with
      | none => exact Or.inl rfl
      | some i =>
        simp only
        split_ifs with hconn
        · exact Or.inr ⟨d, i, houtside, rfl, ⟨hconn, ofIdx_eq_some.mp hseat⟩, rfl⟩
        · exact Or.inl rfl
  · exact Or.inl rfl

theorem sameSeats_depart (s : Bridge) (e : BtEvent) : s.SameSeats (s.step (.depart e)) := by
  rcases depart_cases s e with heq | ⟨d, i, -, -, -, heq⟩
  · rw [heq]
    exact sameSeats_phase s s.phase
  · rw [heq]
    exact sameSeats_phase s (.clearing d i)

theorem sameSeats_send (s : Bridge) (request : PendingRequest) :
    s.SameSeats (sendToBack s request) := by
  unfold sendToBack
  split_ifs <;> exact ⟨fun _ => ⟨rfl, rfl, id, id⟩, fun _ => rfl, rfl⟩

/-- What a step can do to the seats.  An event that leaves them alone leaves what they hold. -/
inductive SeatMove (s : Bridge) : BridgeStep → Bridge → Prop
  | same {step s'} (h : s.SameSeats s')
      (hquiet : ∀ e, step = .event e → s'.controllers = s.controllers) : SeatMove s step s'
  | create {step d addr} (hfree : (s.devices d).btaddr = 0) : SeatMove s step
      (s.setDevice d { HidDevice.zero with btaddr := addr, state := .deviceDiscovered })
  | complete {step} (d : HidSlot) : SeatMove s step (uniHidDeviceSetReadyComplete s d)
  | drop {step s'} (d : HidSlot) (h : (dropDevicePair s d).SameSeats s')
      (hquiet : s'.controllers = (dropDevicePair s d).controllers) : SeatMove s step s'
  | service {cid type parser d} (hphase : s.phase = .outside)
      (hfound : s.deviceForHidsCid cid = some d) :
      SeatMove s (.event (.hidServiceConnected cid type parser)) (uniHidDeviceSetReady
        (uniHidDeviceConnect (uniHidDeviceGuessControllerType s d type parser) d) d)

theorem sameSeats_refl (s : Bridge) : s.SameSeats s :=
  ⟨fun _ => ⟨rfl, rfl, id, id⟩, fun _ => rfl, rfl⟩

/-- An event that does something with a device does nothing without one. -/
theorem SeatMove.withDevice {s : Bridge} {step : BridgeStep} {found : Option HidSlot}
    {f : Bridge → HidSlot → Bridge} (h : ∀ d, found = some d → SeatMove s step (f s d)) :
    SeatMove s step (s.withDevice found f) := by
  cases found with
  | none => exact .same (sameSeats_refl s) fun _ _ => rfl
  | some d => exact h d rfl

/-- A device written with its seat, its connection and its address as they are. -/
theorem SeatMove.setDevice {s : Bridge} {step : BridgeStep} (d : HidSlot) {device : HidDevice}
    (hconn : device.connected = (s.devices d).connected)
    (hidx : device.controllerIdx = (s.devices d).controllerIdx)
    (haddr : device.btaddr = (s.devices d).btaddr) (hstate : device.state = (s.devices d).state) :
    SeatMove s step (s.setDevice d device) :=
  .same (sameSeats_setDevice s d device hconn hidx (fun h => haddr ▸ h) (fun h => hstate ▸ h))
    fun _ _ => rfl

theorem event_move {s : Bridge} (e : BtEvent) (hphase : s.phase = .outside) :
    SeatMove s (.event e) (handleEvent s e) := by
  cases e with
  | advertisingReport addr =>
    simp only [handleEvent]
    cases s.deviceForAddress addr with
    | some d => exact .same (sameSeats_refl s) fun _ _ => rfl
    | none =>
      unfold uniHidDeviceCreate
      cases hfind : HidSlot.all.find? fun d => (s.devices d).btaddr == 0 with
      | none => exact .same (sameSeats_refl s) fun _ _ => rfl
      | some d => exact .create (by simpa using List.find?_some hfind)
  | leConnectionComplete addr handle =>
    simp only [handleEvent]
    refine .withDevice fun d _ => ?_
    exact .setDevice d rfl rfl rfl rfl
  | pnpId handle vendorId productId =>
    simp only [handleEvent]
    refine .withDevice fun d _ => ?_
    exact .setDevice d rfl rfl rfl rfl
  | hidsClient handle cid =>
    simp only [handleEvent]
    refine .withDevice fun d _ => ?_
    exact .setDevice d rfl rfl rfl rfl
  | hidServiceConnected cid type parser =>
    simp only [handleEvent]
    refine .withDevice fun d hd => ?_
    exact .service hphase hd
  | setupComplete d => exact .complete d
  | hidReport cid ctl =>
    refine .withDevice fun d _ => ?_
    unfold processController
    split_ifs
    · exact .same ⟨fun _ => ⟨rfl, rfl, id, id⟩, fun _ => rfl, rfl⟩ fun _ _ => rfl
    · exact .same (sameSeats_refl s) fun _ _ => rfl
  | disconnectionComplete handle => exact .withDevice fun d _ => .drop d (sameSeats_refl _) rfl
  | connectionTimeout d =>
    simp only [handleEvent]
    split_ifs
    · exact .same (sameSeats_refl s) fun _ _ => rfl
    · exact .drop d (sameSeats_refl _) rfl
  | disconnectDevice d => exact .drop d (sameSeats_refl _) rfl

/-- The seat is given up the same way in any phase. -/
theorem disconnected_phase (s : Bridge) (d : HidSlot) (phase : CallbackPhase) :
    arduinoOnDeviceDisconnected { s with phase := phase } d =
      { arduinoOnDeviceDisconnected s d with phase := phase } := by
  unfold arduinoOnDeviceDisconnected
  by_cases hseat : (s.devices d).controllerIdx ≠ gamepadInvalid
  · rw [if_pos hseat, if_pos hseat]
    cases Seat.ofIdx? (s.devices d).controllerIdx <;> rfl
  · rw [if_neg hseat, if_neg hseat]

theorem dropDevicePair_phase (s : Bridge) (d : HidSlot) (phase : CallbackPhase) :
    dropDevicePair { s with phase := phase } d = { dropDevicePair s d with phase := phase } := by
  have hphase := disconnected_phase (s.setDevice d { s.devices d with connected := false }) d phase
  unfold dropDevicePair uniHidDeviceDelete uniHidDeviceDisconnect
  simp only [Bridge.setDevice] at hphase ⊢
  split_ifs
  · rw [hphase]
  · rfl

/-- What the beginning of a departure leaves to be done is a drop. -/
theorem finishDeparture_eq {s : Bridge} {d : HidSlot} {i : Seat} (hphase : s.phase = .clearing d i) :
    finishDeparture s = { dropDevicePair s d with phase := .outside } := by
  unfold finishDeparture
  rw [hphase]
  exact dropDevicePair_phase s d .outside

theorem finishDeparture_idle {s : Bridge} (hphase : ∀ d i, s.phase ≠ .clearing d i) :
    finishDeparture s = s := by
  unfold finishDeparture
  split
  · exact absurd ‹_› (hphase _ _)
  · rfl

theorem handleEvent_leaver {s : Bridge} {e : BtEvent} {d : HidSlot} (hleaver : s.leaver e = some d) :
    handleEvent s e = dropDevicePair s d := by
  cases e with
  | setupComplete d' =>
    simp only [Bridge.leaver] at hleaver
    split_ifs at hleaver with hready
    obtain rfl := Option.some.inj hleaver
    push Not at hready
    obtain ⟨hstate, hdeclined⟩ := hready
    simp only [handleEvent, uniHidDeviceSetReadyComplete, if_neg hstate]
    unfold arduinoOnDeviceReady at hdeclined ⊢
    split_ifs at hdeclined ⊢
    · rfl
    · rfl
    · exact absurd rfl hdeclined
  | disconnectionComplete handle =>
    simp only [Bridge.leaver] at hleaver
    simp only [handleEvent, hleaver, Bridge.withDevice]
  | connectionTimeout d' =>
    simp only [Bridge.leaver] at hleaver
    split_ifs at hleaver with hstate
    obtain rfl := Option.some.inj hleaver
    simp only [handleEvent, if_neg hstate]
  | disconnectDevice d' =>
    obtain rfl := Option.some.inj hleaver
    rfl
  | _ => exact absurd hleaver (by simp [Bridge.leaver])

/-- **A departure ends the same way in one step or in two.** -/
theorem cleared_depart {s : Bridge} {e : BtEvent} {d : HidSlot} {i : Seat}
    (houtside : s.phase = .outside)
    (hphase : (s.step (.depart e)).phase = .clearing d i) :
    (s.step (.depart e)).step .cleared = s.step (.event e) := by
  rcases depart_cases s e with heq | ⟨d', i', -, hleaver, -, heq⟩
  · rw [heq, houtside] at hphase
    exact absurd hphase (by simp)
  · have hback : ({ s with phase := .outside } : Bridge) = s := by rw [← houtside]
    rw [heq]
    show dropDevicePair { s with phase := .outside } d' = _
    simp only [Bridge.step, if_pos houtside, handleEvent_leaver hleaver, hback]

theorem cleared_move (s : Bridge) : SeatMove s .cleared (finishDeparture s) := by
  by_cases hphase : ∃ d i, s.phase = .clearing d i
  · obtain ⟨d, i, hphase⟩ := hphase
    rw [finishDeparture_eq hphase]
    exact .drop d (sameSeats_phase _ _) rfl
  · push Not at hphase
    rw [finishDeparture_idle hphase]
    exact .same (sameSeats_refl s) fun _ _ => rfl

theorem step_move (s : Bridge) (step : BridgeStep) : SeatMove s step (s.step step) := by
  cases step with
  | event e =>
    simp only [Bridge.step]
    split_ifs with hphase
    · exact event_move e hphase
    · exact .same (sameSeats_refl s) fun _ _ => rfl
  | depart e => exact .same (sameSeats_depart s e) (by simp)
  | cleared => exact cleared_move s
  | drain => exact .same (sameSeats_drain s) (by simp)
  | post => exact .same (sameSeats_post s) (by simp)
  | fetch i => exact .same (sameSeats_fetch s i) (by simp)
  | tear i torn => exact .same (sameSeats_tear s i torn) (by simp)
  | send request => exact .same (sameSeats_send s request) (by simp)

theorem zero_idx_valid : HidDevice.zero.controllerIdx ≠ gamepadInvalid :=
  show (0 : Int) ≠ gamepadInvalid by decide

theorem SeatMove.placed {s s' : Bridge} {step : BridgeStep} (hmove : SeatMove s step s')
    (h : s.Placed) : s'.Placed := by
  cases hmove with
  | same hsame _ => exact h.same hsame
  | create hfree => exact h.replace _ rfl zero_idx_valid (by simp)
  | complete d => exact h.setReadyComplete d
  | drop d hsame _ => exact (h.drop d).same hsame
  | service hphase hfound => exact (h.same (sameSeats_guess s _ _ _)).connectReady _

/-- A HID service is reported for a device of the table, and for none that has a seat. -/
def ServiceOnce (s : Bridge) : BridgeStep → Prop
  | .event (.hidServiceConnected cid _ _) => s.phase = .outside → ∀ d, s.deviceForHidsCid cid = some d →
    (s.devices d).btaddr ≠ 0 ∧ ∀ i, ¬ s.sits d i
  | _ => True

instance (s : Bridge) (d : HidSlot) (i : Seat) : Decidable (s.sits d i) :=
  inferInstanceAs (Decidable (_ ∧ _))

instance (s : Bridge) : (step : BridgeStep) → Decidable (ServiceOnce s step)
  | .event (.hidServiceConnected cid _ _) =>
    inferInstanceAs (Decidable (s.phase = .outside → ∀ d, s.deviceForHidsCid cid = some d →
      (s.devices d).btaddr ≠ 0 ∧ ∀ i, ¬ s.sits d i))
  | .event (.advertisingReport _) | .event (.leConnectionComplete _ _) | .event (.pnpId _ _ _)
  | .event (.hidsClient _ _) | .event (.setupComplete _) | .event (.hidReport _ _)
  | .event (.disconnectionComplete _) | .event (.connectionTimeout _) | .event (.disconnectDevice _)
  | .depart _ | .cleared | .drain | .post | .fetch _ | .tear _ _ | .send _ => inferInstanceAs (Decidable True)

theorem SeatMove.seated {s s' : Bridge} {step : BridgeStep} (hmove : SeatMove s step s')
    (h : s.Seated) (hok : ServiceOnce s step) : s'.Seated := by
  cases hmove with
  | same hsame _ => exact h.same hsame
  | create hfree =>
    refine h.replace (fun i hi => ?_) rfl zero_idx_valid (by simp)
    exact absurd (hi.1.symm.trans (h.free _ hfree)) (by decide)
  | complete d => exact h.setReadyComplete d
  | drop d hsame _ => exact (h.drop d).same hsame
  | @service cid type parser d hphase hfound =>
    obtain ⟨haddr, hunseated⟩ := hok hphase d hfound
    have hguess := sameSeats_guess s d type parser
    exact ((h.same hguess).connect (fun hzero => haddr ((hguess.devices d).2.2.1 hzero))
      fun i hi => hunseated i ((hguess.sits d i).mp hi)).setReady d

theorem step_placed (s : Bridge) (step : BridgeStep) (h : s.Placed) : (s.step step).Placed :=
  (step_move s step).placed h

theorem step_seated (s : Bridge) (step : BridgeStep) (h : s.Seated) (hok : ServiceOnce s step) :
    (s.step step).Seated := (step_move s step).seated h hok

end MK1Tank
