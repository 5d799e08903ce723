/-
Seats and devices.

A seat is taken when its own index says so, a device names its seat in the platform's
data of it, and a counter counts the taken seats.  Nothing in the code looks at all three
at once.  Whatever the two cores do and in whatever order, no two devices name one seat,
a seat that is named is taken, and the counter counts.  That a taken seat is also named
holds exactly as long as no HID client reports its service for a device that has a seat
already; from the first such report on a seat is lost.
-/
import MK1Tank.Firmware.HidDevice

namespace MK1Tank

open Runs

/-! ### The invariant -/

/-- A connected device that names this seat. -/
def Bridge.sits (s : Bridge) (d : HidSlot) (i : Seat) : Prop :=
  (s.devices d).connected = true ∧ (s.devices d).controllerIdx = i.val

def Bridge.takenSeats (s : Bridge) : Finset Seat := Finset.univ.filter fun i => s.taken i = true

/-- Each taken seat has exactly one device in it, the counter counts them, and no free slot of the
table is connected. -/
structure Bridge.SeatsAgree (s : Bridge) : Prop where
  holder : ∀ i, s.taken i = true ↔ ∃! d, s.sits d i
  count : s.usedControllers = s.takenSeats.card
  free : ∀ d, (s.devices d).btaddr = 0 → (s.devices d).connected = false

/-- What every step keeps. -/
structure Bridge.Placed (s : Bridge) : Prop where
  unassigned : ∀ d, (s.devices d).controllerIdx = gamepadInvalid → (s.devices d).connected = true
  named : ∀ d, (s.devices d).connected = true →
    (s.devices d).controllerIdx = gamepadInvalid ∨ ∃ i, s.sits d i ∧ s.taken i = true
  unique : ∀ d d' i, s.sits d i → s.sits d' i → d = d'
  count : s.usedControllers = s.takenSeats.card
  ready : ∀ d, (s.devices d).state = .deviceReady →
    (s.devices d).connected = true ∧ (s.devices d).controllerIdx ≠ gamepadInvalid

/-- What the steps keep as long as no seat is lost. -/
structure Bridge.Seated (s : Bridge) : Prop extends s.Placed where
  held : ∀ i, s.taken i = true → ∃ d, s.sits d i
  free : ∀ d, (s.devices d).btaddr = 0 → (s.devices d).connected = false

theorem seat_ne_invalid (i : Seat) : (i.val : Int) ≠ gamepadInvalid := by
  unfold gamepadInvalid
  omega

theorem seat_val_inj {i j : Seat} (h : (i.val : Int) = j.val) : i = j := Fin.ext (by omega)

@[simp] theorem seat_ofIdx_val (i : Seat) : Seat.ofIdx? i.val = some i := by
  have hi : (0 : Int) ≤ i.val ∧ (i.val : Int) < bp32MaxGamepads := ⟨by omega, by have := i.isLt; omega⟩
  unfold Seat.ofIdx?
  rw [dif_pos hi]
  rfl

@[simp] theorem seat_ofIdx_invalid : Seat.ofIdx? gamepadInvalid = none := rfl

theorem ofIdx_eq_some {idx : Int} {i : Seat} : Seat.ofIdx? idx = some i ↔ idx = i.val := by
  constructor
  · intro h
    unfold Seat.ofIdx? at h
    split_ifs at h with hrange
    obtain rfl := Option.some.inj h
    simp [hrange.1]
  · rintro rfl
    exact seat_ofIdx_val i

/-- A device that sits in a seat sits in a taken one. -/
theorem Bridge.Placed.taken {s : Bridge} (h : s.Placed) {d : HidSlot} {i : Seat}
    (hsits : s.sits d i) : s.taken i = true := by
  rcases h.named d hsits.1 with hnone | ⟨j, hj, htaken⟩
  · exact absurd (hsits.2.symm.trans hnone) (seat_ne_invalid i)
  · rwa [seat_val_inj (hsits.2.symm.trans hj.2)]

theorem Bridge.Seated.agree {s : Bridge} (h : s.Seated) : s.SeatsAgree where
  holder i := by
    constructor
    · intro htaken
      obtain ⟨d, hd⟩ := h.held i htaken
      exact ⟨d, hd, fun d' hd' => h.unique d' d i hd' hd⟩
    · rintro ⟨d, hd, -⟩
      exact h.taken hd
  count := h.count
  free := h.free

theorem bridge_boot_seated : Bridge.boot.Seated where
  unassigned d h := absurd h (show (0 : Int) ≠ gamepadInvalid by decide)
  named d h := absurd h (by simp [Bridge.boot, uniHidDeviceInit, HidDevice.zero])
  unique d d' i h := absurd h.1 (by simp [Bridge.boot, uniHidDeviceInit, HidDevice.zero])
  count := by
    show (0 : Int) = _
    simp [Bridge.takenSeats, Bridge.taken, Bridge.boot, ArduinoController.unassigned]
  ready d h := absurd h (by simp [Bridge.boot, uniHidDeviceInit, HidDevice.zero])
  held i h := absurd h (by simp [Bridge.taken, Bridge.boot, ArduinoController.unassigned])
  free d _ := rfl

/-! ### What a change of one device leaves -/

@[simp] theorem setDevice_devices (s : Bridge) (d : HidSlot) (device : HidDevice) :
    (s.setDevice d device).devices = Function.update s.devices d device := rfl

@[simp] theorem setDevice_controllers (s : Bridge) (d : HidSlot) (device : HidDevice) :
    (s.setDevice d device).controllers = s.controllers := rfl

@[simp] theorem setDevice_used (s : Bridge) (d : HidSlot) (device : HidDevice) :
    (s.setDevice d device).usedControllers = s.usedControllers := rfl

@[simp] theorem setDevice_taken (s : Bridge) (d : HidSlot) (device : HidDevice) (i : Seat) :
    (s.setDevice d device).taken i = s.taken i := rfl

@[simp] theorem setDevice_takenSeats (s : Bridge) (d : HidSlot) (device : HidDevice) :
    (s.setDevice d device).takenSeats = s.takenSeats := rfl

/-- The part of the state that the seats are about is the same, and no device became ready. -/
structure Bridge.SameSeats (s s' : Bridge) : Prop where
  devices : ∀ d, (s'.devices d).connected = (s.devices d).connected ∧
    (s'.devices d).controllerIdx = (s.devices d).controllerIdx ∧
    ((s'.devices d).btaddr = 0 → (s.devices d).btaddr = 0) ∧
    ((s'.devices d).state = .deviceReady → (s.devices d).state = .deviceReady)
  taken : ∀ i, s'.taken i = s.taken i
  used : s'.usedControllers = s.usedControllers

theorem Bridge.SameSeats.sits {s s' : Bridge} (h : s.SameSeats s') (d : HidSlot) (i : Seat) :
    s'.sits d i ↔ s.sits d i := by
  unfold Bridge.sits
  rw [(h.devices d).1, (h.devices d).2.1]

theorem Bridge.SameSeats.takenSeats {s s' : Bridge} (h : s.SameSeats s') :
    s'.takenSeats = s.takenSeats := by
  unfold Bridge.takenSeats
  exact Finset.filter_congr fun i _ => by rw [h.taken i]

theorem Bridge.Placed.same {s s' : Bridge} (h : s.Placed) (hsame : s.SameSeats s') : s'.Placed where
  unassigned d hd := by
    obtain ⟨hconn, hidx, -, -⟩ := hsame.devices d
    rw [hconn]
    exact h.unassigned d (hidx ▸ hd)
  named d hd := by
    obtain ⟨hconn, hidx, -, -⟩ := hsame.devices d
    rw [hconn] at hd
    rcases h.named d hd with hnone | ⟨i, hi, htaken⟩
    · exact Or.inl (hidx.trans hnone)
    · exact Or.inr ⟨i, (hsame.sits d i).mpr hi, (hsame.taken i).trans htaken⟩
  unique d d' i hd hd' := h.unique d d' i ((hsame.sits d i).mp hd) ((hsame.sits d' i).mp hd')
  count := by rw [hsame.used, hsame.takenSeats, h.count]
  ready d hd := by
    obtain ⟨hconn, hidx, -, hready⟩ := hsame.devices d
    rw [hconn, hidx]
    exact h.ready d (hready hd)

theorem Bridge.Seated.same {s s' : Bridge} (h : s.Seated) (hsame : s.SameSeats s') : s'.Seated where
  toPlaced := h.toPlaced.same hsame
  held i hi := by
    obtain ⟨d, hd⟩ := h.held i ((hsame.taken i).symm.trans hi)
    exact ⟨d, (hsame.sits d i).mpr hd⟩
  free d hd := by
    obtain ⟨hconn, -, haddr, -⟩ := hsame.devices d
    rw [hconn]
    exact h.free d (haddr hd)

/-- A device changed in what the seats are not about. -/
theorem sameSeats_setDevice (s : Bridge) (d : HidSlot) (device : HidDevice)
    (hconn : device.connected = (s.devices d).connected)
    (hidx : device.controllerIdx = (s.devices d).controllerIdx)
    (haddr : device.btaddr = 0 → (s.devices d).btaddr = 0)
    (hready : device.state = .deviceReady → (s.devices d).state = .deviceReady) :
    s.SameSeats (s.setDevice d device) where
  devices d' := by
    by_cases hd : d' = d
    · subst hd
      simp only [setDevice_devices, Function.update_self]
      exact ⟨hconn, hidx, haddr, hready⟩
    · rw [setDevice_devices, Function.update_of_ne hd]
      exact ⟨rfl, rfl, id, id⟩
  taken _ := rfl
  used := rfl

/-! ### Giving up a seat -/

theorem taken_update_unassigned (s : Bridge) (i j : Seat) (devices : HidSlot → HidDevice)
    (used : Int) :
    ({ s with
      usedControllers := used
      controllers := Function.update s.controllers i .unassigned
      devices := devices } : Bridge).taken j = (s.taken j && j ≠ i) := by
  unfold Bridge.taken
  by_cases hj : j = i
  · subst hj
    simp [ArduinoController.unassigned]
  · simp [hj]

/-- A seat given up, with the device in it as new. -/
def Bridge.vacate (s : Bridge) (d : HidSlot) (i : Seat) : Bridge :=
  { s with
    usedControllers := s.usedControllers - 1
    controllers := Function.update s.controllers i .unassigned
    devices := Function.update s.devices d uniHidDeviceInit }

/-- A device that is dropped gives up the seat it sits in, and nothing else. -/
theorem dropDevicePair_sits {s : Bridge} {d : HidSlot} {i : Seat} (hsits : s.sits d i) :
    dropDevicePair s d = s.vacate d i := by
  obtain ⟨hconn, hidx⟩ := hsits
  simp [dropDevicePair, uniHidDeviceDelete, uniHidDeviceDisconnect, hconn,
    arduinoOnDeviceDisconnected, hidx, seat_ne_invalid, Bridge.setDevice, Bridge.vacate]

theorem dropDevicePair_unseated {s : Bridge} {d : HidSlot}
    (hunseated : (s.devices d).connected = true → (s.devices d).controllerIdx = gamepadInvalid) :
    dropDevicePair s d = s.setDevice d uniHidDeviceInit := by
  cases hconn : (s.devices d).connected with
  | false => simp [dropDevicePair, uniHidDeviceDelete, uniHidDeviceDisconnect, hconn, Bridge.setDevice]
  | true =>
    simp [dropDevicePair, uniHidDeviceDelete, uniHidDeviceDisconnect, hconn,
      arduinoOnDeviceDisconnected, hunseated hconn, Bridge.setDevice]

theorem Bridge.Placed.drop_cases {s : Bridge} (h : s.Placed) (d : HidSlot) :
    ((∀ i, ¬ s.sits d i) ∧ dropDevicePair s d = s.setDevice d uniHidDeviceInit) ∨
      ∃ i, s.sits d i ∧ dropDevicePair s d = s.vacate d i := by
  by_cases hsits : ∃ i, s.sits d i
  · obtain ⟨i, hi⟩ := hsits
    exact Or.inr ⟨i, hi, dropDevicePair_sits hi⟩
  · have hsits : ∀ i, ¬ s.sits d i := fun i hi => hsits ⟨i, hi⟩
    refine Or.inl ⟨hsits, dropDevicePair_unseated fun hconn => ?_⟩
    rcases h.named d hconn with hnone | ⟨i, hi, -⟩
    · exact hnone
    · exact absurd hi (hsits i)

theorem sits_setDevice_other {s : Bridge} {d d' : HidSlot} {device : HidDevice} {i : Seat}
    (hd : d' ≠ d) : (s.setDevice d device).sits d' i ↔ s.sits d' i := by
  unfold Bridge.sits
  rw [setDevice_devices, Function.update_of_ne hd]

theorem not_sits_unconnected {s : Bridge} {d : HidSlot} {device : HidDevice} {i : Seat}
    (hconn : device.connected = false) : ¬ (s.setDevice d device).sits d i := by
  unfold Bridge.sits
  rw [setDevice_devices, Function.update_self, hconn]
  exact fun h => absurd h.1 (by simp)

/-- A device can be replaced by one that is not connected. -/
theorem Bridge.Placed.replace {s : Bridge} (h : s.Placed) (d : HidSlot) {device : HidDevice}
    (hconn : device.connected = false) (hidx : device.controllerIdx ≠ gamepadInvalid)
    (hstate : device.state ≠ .deviceReady) : (s.setDevice d device).Placed where
  unassigned d' hd' := by
    by_cases hd : d' = d
    · subst hd
      rw [setDevice_devices, Function.update_self] at hd'
      exact absurd hd' hidx
    · rw [setDevice_devices, Function.update_of_ne hd] at hd' ⊢
      exact h.unassigned d' hd'
  named d' hd' := by
    by_cases hd : d' = d
    · subst hd
      rw [setDevice_devices, Function.update_self, hconn] at hd'
      exact absurd hd' (by simp)
    · rw [setDevice_devices, Function.update_of_ne hd] at hd' ⊢
      rcases h.named d' hd' with hnone | ⟨i, hi, htaken⟩
      · exact Or.inl hnone
      · exact Or.inr ⟨i, (sits_setDevice_other hd).mpr hi, htaken⟩
  unique d₁ d₂ i h₁ h₂ := by
    have hne : ∀ d', (s.setDevice d device).sits d' i → d' ≠ d := by
      intro d' hd' heq
      subst heq
      exact not_sits_unconnected hconn hd'
    exact h.unique d₁ d₂ i ((sits_setDevice_other (hne d₁ h₁)).mp h₁)
      ((sits_setDevice_other (hne d₂ h₂)).mp h₂)
  count := h.count
  ready d' hd' := by
    by_cases hd : d' = d
    · subst hd
      rw [setDevice_devices, Function.update_self] at hd'
      exact absurd hd' hstate
    · rw [setDevice_devices, Function.update_of_ne hd] at hd' ⊢
      exact h.ready d' hd'

/-- No seat is lost when the device sat nowhere. -/
theorem Bridge.Seated.replace {s : Bridge} (h : s.Seated) {d : HidSlot} {device : HidDevice}
    (hunseated : ∀ i, ¬ s.sits d i) (hconn : device.connected = false)
    (hidx : device.controllerIdx ≠ gamepadInvalid) (hstate : device.state ≠ .deviceReady) :
    (s.setDevice d device).Seated where
  toPlaced := h.toPlaced.replace d hconn hidx hstate
  held i hi := by
    obtain ⟨d', hd'⟩ := h.held i hi
    have hd : d' ≠ d := by
      intro heq
      subst heq
      exact hunseated i hd'
    exact ⟨d', (sits_setDevice_other hd).mpr hd'⟩
  free d' hd' := by
    by_cases hd : d' = d
    · subst hd
      rw [setDevice_devices, Function.update_self]
      exact hconn
    · rw [setDevice_devices, Function.update_of_ne hd] at hd' ⊢
      exact h.free d' hd'

theorem vacate_taken (s : Bridge) (d : HidSlot) (i j : Seat) :
    (s.vacate d i).taken j = (s.taken j && j ≠ i) := taken_update_unassigned s i j _ _

theorem vacate_takenSeats (s : Bridge) (d : HidSlot) (i : Seat) :
    (s.vacate d i).takenSeats = s.takenSeats.erase i := by
  ext j
  simp [Bridge.takenSeats, vacate_taken, and_comm]

theorem vacate_sits_other {s : Bridge} {d d' : HidSlot} {i j : Seat} (hd : d' ≠ d) :
    (s.vacate d i).sits d' j ↔ s.sits d' j := by
  unfold Bridge.sits Bridge.vacate
  simp only [Function.update_of_ne hd]

theorem vacate_not_sits {s : Bridge} {d : HidSlot} {i j : Seat} : ¬ (s.vacate d i).sits d j := by
  unfold Bridge.sits Bridge.vacate
  simp [uniHidDeviceInit, HidDevice.zero]

theorem Bridge.Placed.vacate {s : Bridge} (h : s.Placed) {d : HidSlot} {i : Seat}
    (hsits : s.sits d i) : (s.vacate d i).Placed where
  unassigned d' hd' := by
    by_cases hd : d' = d
    · subst hd
      exact absurd hd' (by simp [Bridge.vacate, uniHidDeviceInit, HidDevice.zero, gamepadInvalid])
    · simp only [Bridge.vacate, Function.update_of_ne hd] at hd' ⊢
      exact h.unassigned d' hd'
  named d' hd' := by
    by_cases hd : d' = d
    · subst hd
      exact absurd hd' (by simp [Bridge.vacate, uniHidDeviceInit, HidDevice.zero])
    · have hdev : (s.vacate d i).devices d' = s.devices d' := Function.update_of_ne hd _ _
      rw [hdev] at hd' ⊢
      rcases h.named d' hd' with hnone | ⟨j, hj, htakenj⟩
      · exact Or.inl hnone
      · refine Or.inr ⟨j, (vacate_sits_other hd).mpr hj, ?_⟩
        have hne : j ≠ i := by
          intro heq
          subst heq
          exact hd (h.unique d' d j hj hsits)
        simp [vacate_taken, htakenj, hne]
  unique d₁ d₂ j h₁ h₂ := by
    have hne : ∀ d', (s.vacate d i).sits d' j → d' ≠ d := by
      intro d' hd' heq
      subst heq
      exact vacate_not_sits hd'
    exact h.unique d₁ d₂ j ((vacate_sits_other (hne d₁ h₁)).mp h₁)
      ((vacate_sits_other (hne d₂ h₂)).mp h₂)
  count := by
    have hmem : i ∈ s.takenSeats := by simpa [Bridge.takenSeats] using h.taken hsits
    have hpos : 0 < s.takenSeats.card := Finset.card_pos.mpr ⟨i, hmem⟩
    rw [vacate_takenSeats, Finset.card_erase_of_mem hmem]
    show s.usedControllers - 1 = _
    rw [h.count]
    omega
  ready d' hd' := by
    by_cases hd : d' = d
    · subst hd
      exact absurd hd' (by simp [Bridge.vacate, uniHidDeviceInit, HidDevice.zero])
    · simp only [Bridge.vacate, Function.update_of_ne hd] at hd' ⊢
      exact h.ready d' hd'

theorem Bridge.Seated.vacate {s : Bridge} (h : s.Seated) {d : HidSlot} {i : Seat}
    (hsits : s.sits d i) : (s.vacate d i).Seated where
  toPlaced := h.toPlaced.vacate hsits
  held j hj := by
    rw [vacate_taken] at hj
    obtain ⟨htakenj, hne⟩ := Bool.and_eq_true_iff.mp hj
    obtain ⟨d', hd'⟩ := h.held j htakenj
    have hd : d' ≠ d := by
      intro heq
      subst heq
      exact absurd (seat_val_inj (hd'.2.symm.trans hsits.2)) (by simpa using hne)
    exact ⟨d', (vacate_sits_other hd).mpr hd'⟩
  free d' hd' := by
    by_cases hd : d' = d
    · subst hd
      simp [Bridge.vacate, uniHidDeviceInit, HidDevice.zero]
    · simp only [Bridge.vacate, Function.update_of_ne hd] at hd' ⊢
      exact h.free d' hd'

theorem init_unconnected : uniHidDeviceInit.connected = false := rfl

theorem init_idx_valid : uniHidDeviceInit.controllerIdx ≠ gamepadInvalid :=
  show (0 : Int) ≠ gamepadInvalid by decide

theorem init_not_ready : uniHidDeviceInit.state ≠ .deviceReady :=
  show ConnState.deviceNone ≠ .deviceReady by decide

theorem Bridge.Placed.drop {s : Bridge} (h : s.Placed) (d : HidSlot) : (dropDevicePair s d).Placed := by
  rcases h.drop_cases d with ⟨-, heq⟩ | ⟨i, hi, heq⟩
  · rw [heq]
    exact h.replace d init_unconnected init_idx_valid init_not_ready
  · rw [heq]
    exact h.vacate hi

theorem Bridge.Seated.drop {s : Bridge} (h : s.Seated) (d : HidSlot) : (dropDevicePair s d).Seated := by
  rcases h.drop_cases d with ⟨hunseated, heq⟩ | ⟨i, hi, heq⟩
  · rw [heq]
    exact h.replace hunseated init_unconnected init_idx_valid init_not_ready
  · rw [heq]
    exact h.vacate hi

/-! ### Taking a seat -/

/-- The device in the seat, ready, with its light set. -/
def Bridge.occupy (s : Bridge) (d : HidSlot) (i : Seat) : Bridge :=
  { s with
    controllers := Function.update s.controllers i
      { s.controllers i with idx := i.val, properties := (s.devices d).properties }
    devices := Function.update s.devices d
      { s.devices d with controllerIdx := i.val, state := .deviceReady }
    usedControllers := s.usedControllers + 1
    outputs := if (s.devices d).reportParser.setPlayerLeds then
      (d, .playerLeds (UInt8.ofInt (i.val + 1))) :: s.outputs else s.outputs }

/-- The seat that a device is given: the first free one. -/
def Bridge.firstFree (s : Bridge) : Option Seat := Seat.all.find? fun i => !s.taken i

/-- Becoming ready, case by case. -/
theorem setReadyComplete_cases (s : Bridge) (d : HidSlot) :
    ((s.devices d).state = .deviceReady ∧ uniHidDeviceSetReadyComplete s d = s) ∨
      ((s.usedControllers = bp32MaxGamepads ∨ (s.devices d).controllerIdx ≠ gamepadInvalid) ∧
        (s.devices d).state ≠ .deviceReady ∧
        uniHidDeviceSetReadyComplete s d = dropDevicePair s d) ∨
      (s.usedControllers ≠ bp32MaxGamepads ∧ (s.devices d).controllerIdx = gamepadInvalid ∧
        (s.devices d).state ≠ .deviceReady ∧
        ∀ i, s.firstFree = some i → uniHidDeviceSetReadyComplete s d = s.occupy d i) := by
  unfold uniHidDeviceSetReadyComplete arduinoOnDeviceReady
  by_cases hready : (s.devices d).state = .deviceReady
  · exact Or.inl ⟨hready, if_pos hready⟩
  rw [if_neg hready]
  by_cases hfull : s.usedControllers = bp32MaxGamepads
  · refine Or.inr (Or.inl ⟨Or.inl hfull, hready, ?_⟩)
    rw [if_pos hfull]
  rw [if_neg hfull]
  by_cases hidx : (s.devices d).controllerIdx = gamepadInvalid
  · refine Or.inr (Or.inr ⟨hfull, hidx, hready, fun i hi => ?_⟩)
    rw [if_neg (not_not.mpr hidx)]
    have hfind : (Seat.all.find? fun i => !s.taken i) = some i := hi
    have hassign : assignSeat s d =
        { s with
          controllers := Function.update s.controllers i
            { s.controllers i with idx := i.val, properties := (s.devices d).properties }
          devices := Function.update s.devices d { s.devices d with controllerIdx := i.val }
          usedControllers := s.usedControllers + 1 } := by
      unfold assignSeat
      rw [hfind]
    rw [hassign]
    cases hleds : (s.devices d).reportParser.setPlayerLeds <;>
      simp [Bridge.setDevice, Bridge.occupy, hleds]
  · refine Or.inr (Or.inl ⟨Or.inr hidx, hready, ?_⟩)
    rw [if_pos hidx]

theorem occupy_taken (s : Bridge) (d : HidSlot) (i j : Seat) :
    (s.occupy d i).taken j = (s.taken j || j = i) := by
  unfold Bridge.taken Bridge.occupy
  by_cases hj : j = i
  · subst hj
    simp [seat_ne_invalid]
  · simp [hj]

theorem occupy_takenSeats (s : Bridge) (d : HidSlot) (i : Seat) :
    (s.occupy d i).takenSeats = insert i s.takenSeats := by
  ext j
  simp [Bridge.takenSeats, occupy_taken, or_comm]

theorem occupy_sits_other {s : Bridge} {d d' : HidSlot} {i j : Seat} (hd : d' ≠ d) :
    (s.occupy d i).sits d' j ↔ s.sits d' j := by
  unfold Bridge.sits Bridge.occupy
  simp only [Function.update_of_ne hd]

theorem occupy_sits_self {s : Bridge} {d : HidSlot} {i j : Seat} :
    (s.occupy d i).sits d j ↔ (s.devices d).connected = true ∧ j = i := by
  unfold Bridge.sits Bridge.occupy
  simp only [Function.update_self]
  refine and_congr_right fun _ => ⟨fun h => (seat_val_inj h).symm, ?_⟩
  rintro rfl
  rfl

theorem firstFree_not_taken {s : Bridge} {i : Seat} (h : s.firstFree = some i) :
    s.taken i = false := by
  have hfree := List.find?_some h
  simpa using hfree

/-- The seat given is the lowest one that is free. -/
theorem firstFree_least {s : Bridge} {i j : Seat} (h : s.firstFree = some i)
    (hj : s.taken j = false) : i ≤ j := by
  obtain ⟨-, front, back, hsplit, hfront⟩ := List.find?_eq_some_iff_append.mp h
  by_contra hlt
  have hsorted : Seat.all.Pairwise (· < ·) := List.pairwise_lt_finRange _
  have hmem : j ∈ front ++ i :: back := hsplit ▸ Seat.mem_all j
  rcases List.mem_append.mp hmem with hmem | hmem
  · have htaken := hfront j hmem
    rw [hj] at htaken
    exact absurd htaken (by decide)
  · rw [hsplit] at hsorted
    rcases List.mem_cons.mp hmem with heq | hmem
    · exact hlt heq.ge
    · have hlater := (List.pairwise_cons.mp (List.pairwise_append.mp hsorted).2.1).1 j hmem
      exact hlt hlater.le

theorem occupy_other {s : Bridge} {d d' : HidSlot} {i : Seat} (hd : d' ≠ d) :
    (s.occupy d i).devices d' = s.devices d' := Function.update_of_ne hd _ _

theorem occupy_self (s : Bridge) (d : HidSlot) (i : Seat) : (s.occupy d i).devices d =
    { s.devices d with controllerIdx := i.val, state := .deviceReady } := Function.update_self ..

theorem Bridge.Placed.occupy {s : Bridge} (h : s.Placed) {d : HidSlot} {i : Seat}
    (hidx : (s.devices d).controllerIdx = gamepadInvalid) (hfree : s.taken i = false) :
    (s.occupy d i).Placed := by
  have hconn : (s.devices d).connected = true := h.unassigned d hidx
  have hnobody : ∀ d', ¬ s.sits d' i := by
    intro d' hd'
    exact absurd ((h.taken hd').symm.trans hfree) (by decide)
  constructor
  · intro d' hd'
    by_cases hd : d' = d
    · subst hd
      rw [occupy_self] at hd'
      exact absurd hd' (seat_ne_invalid i)
    · rw [occupy_other hd] at hd' ⊢
      exact h.unassigned d' hd'
  · intro d' hd'
    by_cases hd : d' = d
    · subst hd
      exact Or.inr ⟨i, occupy_sits_self.mpr ⟨hconn, rfl⟩, by simp [occupy_taken]⟩
    · rw [occupy_other hd] at hd' ⊢
      rcases h.named d' hd' with hnone | ⟨j, hj, htaken⟩
      · exact Or.inl hnone
      · exact Or.inr ⟨j, (occupy_sits_other hd).mpr hj, by simp [occupy_taken, htaken]⟩
  · have hdecide : ∀ d' j, (s.occupy d i).sits d' j → (d' = d ∧ j = i) ∨ s.sits d' j := by
      intro d' j hd'
      by_cases hd : d' = d
      · subst hd
        exact Or.inl ⟨rfl, (occupy_sits_self.mp hd').2⟩
      · exact Or.inr ((occupy_sits_other hd).mp hd')
    intro d₁ d₂ j h₁ h₂
    rcases hdecide d₁ j h₁ with ⟨rfl, rfl⟩ | hsits₁
    · rcases hdecide d₂ j h₂ with ⟨rfl, -⟩ | hsits₂
      · rfl
      · exact absurd hsits₂ (hnobody d₂)
    · rcases hdecide d₂ j h₂ with ⟨rfl, rfl⟩ | hsits₂
      · exact absurd hsits₁ (hnobody d₁)
      · exact h.unique d₁ d₂ j hsits₁ hsits₂
  · have hmem : i ∉ s.takenSeats := by simp [Bridge.takenSeats, hfree]
    rw [occupy_takenSeats, Finset.card_insert_of_notMem hmem]
    show s.usedControllers + 1 = _
    rw [h.count]
    push_cast
    rfl
  · intro d' hd'
    by_cases hd : d' = d
    · subst hd
      rw [occupy_self]
      exact ⟨hconn, seat_ne_invalid i⟩
    · rw [occupy_other hd] at hd' ⊢
      exact h.ready d' hd'

theorem Bridge.Seated.occupy {s : Bridge} (h : s.Seated) {d : HidSlot} {i : Seat}
    (hidx : (s.devices d).controllerIdx = gamepadInvalid) (hfree : s.taken i = false) :
    (s.occupy d i).Seated where
  toPlaced := h.toPlaced.occupy hidx hfree
  held j hj := by
    by_cases hji : j = i
    · subst hji
      exact ⟨d, occupy_sits_self.mpr ⟨h.unassigned d hidx, rfl⟩⟩
    · have htaken : s.taken j = true := by simpa [occupy_taken, hji] using hj
      obtain ⟨d', hd'⟩ := h.held j htaken
      have hd : d' ≠ d := by
        intro heq
        subst heq
        exact seat_ne_invalid j (hd'.2.symm.trans hidx)
      exact ⟨d', (occupy_sits_other hd).mpr hd'⟩
  free d' hd' := by
    by_cases hd : d' = d
    · subst hd
      rw [occupy_self] at hd' ⊢
      exact h.free d' hd'
    · rw [occupy_other hd] at hd' ⊢
      exact h.free d' hd'

/-- A counter that counts finds a free seat as long as it is not full. -/
theorem firstFree_of_count {s : Bridge} (hcount : s.usedControllers = s.takenSeats.card)
    (hroom : s.usedControllers ≠ bp32MaxGamepads) : ∃ i, s.firstFree = some i := by
  cases hfind : s.firstFree with
  | some i => exact ⟨i, rfl⟩
  | none =>
    have hfull : s.takenSeats = Finset.univ := by
      ext i
      have hi := List.find?_eq_none.mp hfind i (Seat.mem_all i)
      simpa [Bridge.takenSeats] using hi
    rw [hcount, hfull, Finset.card_univ, Fintype.card_fin] at hroom
    exact absurd rfl hroom

/-- A device that sits nowhere finds the counter below its bound: there are as many seats as
devices. -/
theorem Bridge.Seated.room {s : Bridge} (h : s.Seated) {d : HidSlot}
    (hunseated : ∀ i, ¬ s.sits d i) : s.usedControllers ≠ bp32MaxGamepads := by
  choose! holder hholder using h.held
  have hsits : ∀ i ∈ s.takenSeats, s.sits (holder i) i := fun i hi =>
    hholder i (by simpa [Bridge.takenSeats] using hi)
  have hmaps : ∀ i ∈ s.takenSeats, holder i ∈ Finset.univ.erase d := by
    intro i hi
    refine Finset.mem_erase.mpr ⟨?_, Finset.mem_univ _⟩
    intro heq
    exact hunseated i (heq ▸ hsits i hi)
  have hinj : Set.InjOn holder s.takenSeats := by
    intro i hi j hj heq
    have hj' := hsits j hj
    rw [← heq] at hj'
    exact seat_val_inj ((hsits i hi).2.symm.trans hj'.2)
  have hcard : s.takenSeats.card ≤ (Finset.univ.erase d).card :=
    Finset.card_le_card_of_injOn holder hmaps hinj
  rw [Finset.card_erase_of_mem (Finset.mem_univ d), Finset.card_univ, Fintype.card_fin] at hcard
  have hpos : 0 < bp32MaxGamepads := by decide
  rw [h.count]
  omega

end MK1Tank
