/-
Seats over whole runs.
-/
import MK1Tank.Proofs.SeatMoves

namespace MK1Tank

open Runs

/-! ### A service reported again -/

theorem placed_after (steps : List BridgeStep) : (after Bridge.step Bridge.boot steps).Placed :=
  invariant_always step_placed steps bridge_boot_seated.toPlaced

/-- **No two devices share a seat**, whatever the two cores do.  A ready device has one that the sketch
sees, and the counter counts those that it sees. -/
theorem seats_never_shared (steps : List BridgeStep) :
    (∀ d d' i, (after Bridge.step Bridge.boot steps).sits d i →
      (after Bridge.step Bridge.boot steps).sits d' i → d = d') ∧
    (∀ d, ((after Bridge.step Bridge.boot steps).devices d).state = .deviceReady →
      ∃ i, (after Bridge.step Bridge.boot steps).sits d i ∧
        (after Bridge.step Bridge.boot steps).taken i = true) ∧
    (after Bridge.step Bridge.boot steps).usedControllers =
      (after Bridge.step Bridge.boot steps).takenSeats.card := by
  have h := placed_after steps
  refine ⟨h.unique, fun d hready => ?_, h.count⟩
  obtain ⟨i, hi⟩ := h.ready_sits hready
  exact ⟨i, hi, h.taken hi⟩

/-- The seat of a device that is connected again is left without one. -/
theorem Bridge.Seated.reconnected_disagree {s : Bridge} {d : HidSlot} {device : HidDevice}
    (h : s.Seated) (hconn : device.connected = true) (hidx : device.controllerIdx = gamepadInvalid)
    (hstate : device.state ≠ .deviceReady) (haddr : device.btaddr = (s.devices d).btaddr)
    (hbad : (s.devices d).btaddr = 0 ∨ ∃ i, s.sits d i) :
    ¬ (s.setDevice d device).SeatsAgree ∧
      ¬ (uniHidDeviceSetReadyComplete (s.setDevice d device) d).SeatsAgree := by
  have hself : (s.setDevice d device).devices d = device := Function.update_self ..
  -- whatever becomes of `d`, a seat it had is taken, and nobody else names it
  have habandoned : ∀ i, s.sits d i → ∀ {t : Bridge}, t.SeatsAgree → t.taken i = true →
      (∀ d', d' ≠ d → t.devices d' = s.devices d') → ¬ t.sits d i → False := by
    intro i hi t ht htaken hothers hself
    obtain ⟨d', hd', -⟩ := (ht.holder i).mp htaken
    by_cases hd : d' = d
    · exact hself (hd ▸ hd')
    · unfold Bridge.sits at hd'
      rw [hothers d' hd] at hd'
      exact hd (h.unique d' d i hd' hi)
  constructor
  · intro hagree
    rcases hbad with hzero | ⟨i, hi⟩
    · have hfree := hagree.free d (by rw [hself, haddr, hzero])
      rw [hself, hconn] at hfree
      exact absurd hfree (by decide)
    · refine habandoned i hi hagree (h.taken hi) (fun d' hd => Function.update_of_ne hd _ _) ?_
      exact not_sits_of_invalid (by rw [hself, hidx]) i
  · intro hagree
    rcases setReadyComplete_cases (s.setDevice d device) d with
      ⟨hready, -⟩ | ⟨hfull | hvalid, -, heq⟩ | ⟨hroom, -, -, hoccupy⟩
    · rw [hself] at hready
      exact hstate hready
    · rw [heq, dropDevicePair_unseated fun _ => by rw [hself, hidx]] at hagree
      rcases hbad with hzero | ⟨i, hi⟩
      · have hunseated : ∀ i, ¬ s.sits d i := by
          intro i hi
          exact absurd (hi.1.symm.trans (h.free d hzero)) (by decide)
        exact h.room hunseated hfull
      · refine habandoned i hi hagree (h.taken hi) (fun d' hd => ?_) (not_sits_unconnected rfl)
        rw [setDevice_devices, Function.update_of_ne hd, setDevice_devices, Function.update_of_ne hd]
    · rw [hself] at hvalid
      exact hvalid hidx
    · obtain ⟨j, hj⟩ := firstFree_of_count h.count hroom
      rw [hoccupy j hj] at hagree
      rcases hbad with hzero | ⟨i, hi⟩
      · have hfree := hagree.free d (by rw [occupy_self, hself]; exact haddr.trans hzero)
        rw [occupy_self, hself] at hfree
        exact absurd (hconn.symm.trans hfree) (by decide)
      · refine habandoned i hi hagree ?_ (fun d' hd => ?_) fun hsits => ?_
        · rw [occupy_taken]
          simp [h.taken hi]
        · rw [occupy_other hd, setDevice_devices, Function.update_of_ne hd]
        · obtain rfl := (occupy_sits_self.mp hsits).2
          exact absurd ((h.taken hi).symm.trans (firstFree_not_taken hj)) (by decide)

/-- **Seats and devices agree exactly as long as no HID service is reported again.** -/
theorem seats_agree_iff (steps : List BridgeStep) :
    (∀ front back, steps = front ++ back → (after Bridge.step Bridge.boot front).SeatsAgree) ↔
      Meets Bridge.step ServiceOnce Bridge.boot steps := by
  refine always_iff_meets step_seated (fun s h => h.agree) ?_ steps Bridge.boot bridge_boot_seated
  intro s step h hnot
  cases step with
  | event e =>
    cases e with
    | hidServiceConnected cid type parser =>
      simp only [ServiceOnce] at hnot
      push Not at hnot
      obtain ⟨hphase, d, hd, hbad⟩ := hnot
      have hstep : s.step (.event (.hidServiceConnected cid type parser)) =
          uniHidDeviceSetReady
            (uniHidDeviceConnect (uniHidDeviceGuessControllerType s d type parser) d) d := by
        simp only [Bridge.step, handleEvent, hd, Bridge.withDevice, if_pos hphase]
      have hguess := sameSeats_guess s d type parser
      have hbad' : ((uniHidDeviceGuessControllerType s d type parser).devices d).btaddr = 0 ∨
          ∃ i, (uniHidDeviceGuessControllerType s d type parser).sits d i := by
        by_cases hzero : (s.devices d).btaddr = 0
        · exact Or.inl ((guess_btaddr s d type parser).trans hzero)
        · obtain ⟨i, hi⟩ := hbad hzero
          exact Or.inr ⟨i, (hguess.sits d i).mpr hi⟩
      obtain ⟨device, hconn, hidx, hstate, haddr, heq⟩ :=
        connectReady_cases (uniHidDeviceGuessControllerType s d type parser) d
      obtain ⟨hplain, hcomplete⟩ :=
        (h.same hguess).reconnected_disagree hconn hidx hstate haddr hbad'
      rw [hstep]
      rcases heq with heq | heq
      · rwa [heq]
      · rwa [heq]
    | _ => exact absurd trivial hnot
  | _ => exact absurd trivial hnot

/-- A device is found, gets its handle and its client, and is connected. -/
def joiningEvents (setup : ParserSetup) : List BtEvent :=
  [.advertisingReport 1, .leConnectionComplete 1 0x40, .hidsClient 0x40 1,
    .hidServiceConnected 1 0 { ReportParser.none with setup := setup }]

def joining (setup : ParserSetup) : List BridgeStep := (joiningEvents setup).map .event

/-- A device that joins and has a report posted. -/
def reporting : List BridgeStep :=
  joining .absent ++ [.event (.hidReport 1 .zero), .drain, .post]

/-! ### A lost seat -/

/-- A taken seat that no device names. -/
def Bridge.lost (s : Bridge) (i : Seat) : Prop := s.taken i = true ∧ ∀ d, ¬ s.sits d i

theorem Bridge.lost.setDevice {s : Bridge} {i : Seat} (h : s.lost i) (d : HidSlot) {device : HidDevice}
    (hself : ¬ (s.setDevice d device).sits d i) : (s.setDevice d device).lost i := by
  refine ⟨h.1, fun d' hd' => ?_⟩
  by_cases hd : d' = d
  · exact hself (hd ▸ hd')
  · exact h.2 d' ((sits_setDevice_other hd).mp hd')

theorem Bridge.lost.same {s s' : Bridge} {i : Seat} (h : s.lost i) (hsame : s.SameSeats s') :
    s'.lost i := ⟨(hsame.taken i).trans h.1, fun d hd => h.2 d ((hsame.sits d i).mp hd)⟩

theorem Bridge.lost.drop {s : Bridge} {i : Seat} (h : s.lost i) (hplaced : s.Placed) (d : HidSlot) :
    (dropDevicePair s d).lost i := by
  rcases hplaced.drop_cases d with ⟨-, heq⟩ | ⟨j, hj, heq⟩
  · rw [heq]
    exact h.setDevice d (not_sits_unconnected rfl)
  · rw [heq]
    have hne : i ≠ j := by
      rintro rfl
      exact h.2 d hj
    refine ⟨by simp [vacate_taken, h.1, hne], fun d' hd' => ?_⟩
    by_cases hd : d' = d
    · subst hd
      exact vacate_not_sits hd'
    · exact h.2 d' ((vacate_sits_other hd).mp hd')

theorem Bridge.lost.complete {s : Bridge} {i : Seat} (h : s.lost i) (hplaced : s.Placed) (d : HidSlot) :
    (uniHidDeviceSetReadyComplete s d).lost i := by
  rcases setReadyComplete_cases s d with ⟨-, heq⟩ | ⟨-, -, heq⟩ | ⟨hroom, hidx, -, heq⟩
  · rwa [heq]
  · rw [heq]
    exact h.drop hplaced d
  · obtain ⟨j, hj⟩ := firstFree_of_count hplaced.count hroom
    rw [heq j hj]
    refine ⟨by simp [occupy_taken, h.1], fun d' hd' => ?_⟩
    by_cases hd : d' = d
    · subst hd
      obtain rfl := (occupy_sits_self.mp hd').2
      exact absurd (h.1.symm.trans (firstFree_not_taken hj)) (by decide)
    · exact h.2 d' ((occupy_sits_other hd).mp hd')

/-- No move finds a lost seat. -/
theorem SeatMove.lost {s s' : Bridge} {step : BridgeStep} {i : Seat} (hmove : SeatMove s step s')
    (hplaced : s.Placed) (h : s.lost i) : s'.lost i := by
  cases hmove with
  | same hsame _ => exact h.same hsame
  | create hfree => exact h.setDevice _ (not_sits_unconnected rfl)
  | complete d => exact h.complete hplaced d
  | drop d hsame _ => exact (h.drop hplaced d).same hsame
  | @service cid type parser d hphase hfound =>
    have hguess := sameSeats_guess s d type parser
    obtain ⟨device, hconn, hidx, hstate, -, heq⟩ :=
      connectReady_cases (uniHidDeviceGuessControllerType s d type parser) d
    have hunseated : ((uniHidDeviceGuessControllerType s d type parser).setDevice d device).lost i := by
      refine (h.same hguess).setDevice d (not_sits_of_invalid ?_ i)
      rw [setDevice_devices, Function.update_self, hidx]
    rcases heq with heq | heq
    · rwa [heq]
    · rw [heq]
      exact hunseated.complete ((hplaced.same hguess).unseat d hconn hidx hstate) d

/-- **A seat that is lost stays lost.**  It looks taken to the sketch in every state that follows, and
no device is ever given it. -/
theorem lost_after (front back : List BridgeStep) (i : Seat)
    (hlost : (after Bridge.step Bridge.boot front).lost i) :
    (after Bridge.step Bridge.boot (front ++ back)).lost i := by
  rw [after_append]
  have hkeep : ∀ (s : Bridge) step, s.Placed ∧ s.lost i → (s.step step).Placed ∧ (s.step step).lost i :=
    fun s step h => ⟨step_placed s step h.1, (step_move s step).lost h.1 h.2⟩
  have hboth := invariant_always hkeep back ⟨placed_after front, hlost⟩
  exact hboth.2

/-- Its service is reported twice. -/
def rejoining : List BridgeStep := joining .absent ++ [.event (.hidServiceConnected 1 0 .none)]

theorem lost_after_rejoining :
    (after Bridge.step Bridge.boot (rejoining ++ [.event (.disconnectDevice 0)])).lost 0 :=
  lost_after rejoining [.event (.disconnectDevice 0)] 0 ⟨by decide +kernel, by decide +kernel⟩

/-! ### Becoming ready -/

/-- **A device that becomes ready is never turned away** as long as no service is reported again: it
gets the lowest free seat. -/
theorem ready_takes_lowest (steps : List BridgeStep) (d : HidSlot)
    (hmeets : Meets Bridge.step ServiceOnce Bridge.boot steps)
    (hidx : ((after Bridge.step Bridge.boot steps).devices d).controllerIdx = gamepadInvalid) :
    ∃ i, (arduinoOnDeviceReady (after Bridge.step Bridge.boot steps) d).2 = .success ∧
      ((arduinoOnDeviceReady (after Bridge.step Bridge.boot steps) d).1.devices d).controllerIdx =
        i.val ∧
      (after Bridge.step Bridge.boot steps).taken i = false ∧
      ∀ j, (after Bridge.step Bridge.boot steps).taken j = false → i ≤ j := by
  set s := after Bridge.step Bridge.boot steps with hs
  have h : s.Seated := invariant_after step_seated steps _ bridge_boot_seated hmeets
  have hroom := h.room (not_sits_of_invalid hidx)
  obtain ⟨i, hi⟩ := firstFree_of_count h.count hroom
  refine ⟨i, ?_, ?_, firstFree_not_taken hi, fun j hj => firstFree_least hi hj⟩
  · unfold arduinoOnDeviceReady
    rw [if_neg hroom, if_neg (not_not.mpr hidx)]
  · have hfind : (Seat.all.find? fun i => !s.taken i) = some i := hi
    unfold arduinoOnDeviceReady assignSeat
    rw [if_neg hroom, if_neg (not_not.mpr hidx), hfind]
    simp only [Function.update_self]
    split_ifs <;> simp

theorem ready_takes_lowest_joining :
    ∃ i : Seat, (arduinoOnDeviceReady (after Bridge.step Bridge.boot (joining .later)) 0).2 = .success ∧
      ((arduinoOnDeviceReady (after Bridge.step Bridge.boot (joining .later)) 0).1.devices
        0).controllerIdx = i.val ∧
      (after Bridge.step Bridge.boot (joining .later)).taken i = false ∧
      ∀ j, (after Bridge.step Bridge.boot (joining .later)).taken j = false → i ≤ j :=
  ready_takes_lowest (joining .later) 0 (by decide +kernel) (by decide +kernel)

end MK1Tank
