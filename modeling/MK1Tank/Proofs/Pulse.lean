/-
Pulses.

A slot in PULSE mode is a one-shot whose time is the sweep's frame number: a press
arms it, the first sweep in a later frame starts it, and a frame later it ends.  While
frame numbers do not go back, each press that is accepted gets one block of sweeps of its
own.  When the millisecond counter wraps they do go back, and a pulse that no sweep saw
pass a frame before the wrap stays on.
-/
import MK1Tank.Lib.OneShot
import MK1Tank.Proofs.PortSum
import MK1Tank.Proofs.Presses

namespace MK1Tank

open OneShot

/-! ### A slot as a one-shot -/

/-- What the slot's pulse is doing. -/
def Slot.oneShot (slot : Slot) : OneShot :=
  if slot.pulseActive then .active slot.pulseStartFrame.toNat
  else if slot.pulseArmed then .armed slot.pulseArmedFrame.toNat
  else .off

/-- A slot holds one pulse at most, and the end of its frame can be told. -/
structure Slot.PulseFits (slot : Slot) : Prop where
  single : ¬ (slot.pulseArmed = true ∧ slot.pulseActive = true)
  endFits : slot.pulseActive = true → slot.pulseStartFrame.toNat + 1 < 2 ^ 32

theorem Slot.pulseFits_of_idle {slot : Slot} (h : slot.pulseActive = false) : slot.PulseFits where
  single hboth := Bool.false_ne_true (h.symm.trans hboth.2)
  endFits hactive := absurd (h.symm.trans hactive) Bool.false_ne_true

theorem Slot.oneShot_isActive (slot : Slot) : slot.oneShot.isActive = slot.pulseActive := by
  unfold Slot.oneShot
  cases slot.pulseActive <;> cases slot.pulseArmed <;> rfl

theorem Slot.PulseFits.isArmed {slot : Slot} (h : slot.PulseFits) :
    slot.oneShot.isArmed = slot.pulseArmed := by
  unfold Slot.oneShot
  cases hactive : slot.pulseActive with
  | false => cases slot.pulseArmed <;> rfl
  | true =>
    cases harmed : slot.pulseArmed with
    | false => rfl
    | true => exact absurd ⟨harmed, hactive⟩ h.single

theorem Slot.oneShot_eq_off {slot : Slot} :
    slot.oneShot = .off ↔ slot.pulseArmed = false ∧ slot.pulseActive = false := by
  unfold Slot.oneShot
  cases slot.pulseActive <;> cases slot.pulseArmed <;> simp

/-- The end test, on a start frame whose successor is a frame number. -/
theorem frame_ge_end {start : UInt32} (h : start.toNat + 1 < 2 ^ 32) (frame : UInt32) :
    frame ≥ start + mkhPulseFrames ↔ start.toNat + 1 ≤ frame.toNat := by
  have hend : (start + mkhPulseFrames).toNat = start.toNat + 1 := by
    rw [UInt32.toNat_add]
    exact Nat.mod_eq_of_lt h
  rw [ge_iff_le, UInt32.le_iff_toNat_le, hend]

/-- A running pulse: the sweep ends it or leaves it. -/
theorem pulsePass_active {slot : Slot} (h : slot.PulseFits) (hactive : slot.pulseActive = true)
    (pressed : Bool) (frame : UInt32) :
    (pulsePass slot pressed frame).slot =
      { slot with
        pulsePrevPressed := pressed
        pulseActive := !decide (slot.pulseStartFrame.toNat + 1 ≤ frame.toNat) } := by
  have harmed : slot.pulseArmed = false := by
    cases harmed : slot.pulseArmed with
    | false => rfl
    | true => exact absurd ⟨harmed, hactive⟩ h.single
  have hend := frame_ge_end (h.endFits hactive) frame
  by_cases hover : slot.pulseStartFrame.toNat + 1 ≤ frame.toNat
  · simp [pulsePass_slot, pulseArm, pulseBegin, pulseEnd, harmed, hactive, hend, hover]
  · simp [pulsePass_slot, pulseArm, pulseBegin, pulseEnd, harmed, hactive, hend, hover]

/-- An armed pulse: a later frame starts it. -/
theorem pulsePass_armed {slot : Slot} (h : slot.PulseFits) (harmed : slot.pulseArmed = true)
    (pressed : Bool) {frame : UInt32} (hframe : frame.toNat + 1 < 2 ^ 32) :
    (pulsePass slot pressed frame).slot =
      if frame = slot.pulseArmedFrame then { slot with pulsePrevPressed := pressed }
      else { slot with
        pulsePrevPressed := pressed, pulseArmed := false, pulseActive := true
        pulseStartFrame := frame } := by
  have hactive : slot.pulseActive = false := by
    cases hactive : slot.pulseActive with
    | false => rfl
    | true => exact absurd ⟨harmed, hactive⟩ h.single
  have hopen : ¬ frame ≥ frame + mkhPulseFrames := by
    rw [frame_ge_end hframe]
    omega
  by_cases hsame : frame = slot.pulseArmedFrame
  · simp [pulsePass_slot, pulseArm, pulseBegin, pulseEnd, harmed, hactive, hsame]
  · simp only [ge_iff_le] at hopen
    simp [pulsePass_slot, pulseArm, pulseBegin, pulseEnd, harmed, hactive, hsame, hopen]

/-- No pulse: an edge arms one. -/
theorem pulsePass_off {slot : Slot} (harmed : slot.pulseArmed = false)
    (hactive : slot.pulseActive = false) (pressed : Bool) (frame : UInt32) :
    (pulsePass slot pressed frame).slot =
      if pressed && !slot.pulsePrevPressed then
        { slot with pulsePrevPressed := pressed, pulseArmed := true, pulseArmedFrame := frame }
      else { slot with pulsePrevPressed := pressed } := by
  by_cases hedge : (pressed && !slot.pulsePrevPressed) = true
  · simp [pulsePass_slot, pulseArm, pulseBegin, pulseEnd, harmed, hactive, hedge]
  · simp [pulsePass_slot, pulseArm, pulseBegin, pulseEnd, harmed, hactive, hedge]

/-- **A sweep is one look at the one-shot.** -/
theorem pulsePass_oneShot {slot : Slot} (h : slot.PulseFits) (pressed : Bool) {frame : UInt32}
    (hframe : frame.toNat + 1 < 2 ^ 32) :
    (pulsePass slot pressed frame).slot.oneShot =
        slot.oneShot.step 1 (pressed && !slot.pulsePrevPressed) frame.toNat ∧
      (pulsePass slot pressed frame).slot.PulseFits := by
  cases hactive : slot.pulseActive with
  | true =>
    rw [pulsePass_active h hactive]
    refine ⟨?_, fun hboth => h.single ⟨hboth.1, hactive⟩, fun _ => h.endFits hactive⟩
    have harmed : slot.pulseArmed = false := Bool.eq_false_iff.mpr fun ha => h.single ⟨ha, hactive⟩
    by_cases hover : slot.pulseStartFrame.toNat + 1 ≤ frame.toNat
    · simp [Slot.oneShot, OneShot.step, hactive, harmed, hover]
    · simp [Slot.oneShot, OneShot.step, hactive, hover]
  | false =>
    cases harmed : slot.pulseArmed with
    | true =>
      rw [pulsePass_armed h harmed pressed hframe]
      by_cases hsame : frame = slot.pulseArmedFrame
      · rw [if_pos hsame]
        refine ⟨?_, fun hboth => h.single ⟨hboth.1, hboth.2⟩, fun ha => h.endFits ha⟩
        simp [Slot.oneShot, OneShot.step, hactive, harmed, hsame]
      · rw [if_neg hsame]
        refine ⟨?_, fun hboth => Bool.false_ne_true hboth.1, fun _ => hframe⟩
        have hne : frame.toNat ≠ slot.pulseArmedFrame.toNat := fun hc => hsame (UInt32.toNat_inj.mp hc)
        simp [Slot.oneShot, OneShot.step, hactive, harmed, hne]
    | false =>
      rw [pulsePass_off harmed hactive]
      cases hedge : (pressed && !slot.pulsePrevPressed) with
      | true =>
        refine ⟨?_, Slot.pulseFits_of_idle hactive⟩
        simp [Slot.oneShot, OneShot.step, hactive, harmed]
      | false =>
        refine ⟨?_, Slot.pulseFits_of_idle hactive⟩
        simp [Slot.oneShot, OneShot.step, hactive, harmed]

theorem levelByte_eq_full {level : Bool} : levelByte level = 0xFF ↔ level = true := by
  cases level <;> decide

theorem levelByte_eq_neutral {level : Bool} : levelByte level = neutral ↔ level = false := by
  cases level <;> decide

/-! ### Sweeps in a row -/

/-- The live state after the first `n` sweeps, with nothing in between. -/
def sweptLive (s : Live) (sweeps : Nat → Sweep × SetterClock) : Nat → Live
  | 0 => s
  | n + 1 => processMappedInputs (sweeps n).1 (sweeps n).2 (sweptLive s sweeps n)

theorem sweptLive_config (s : Live) (sweeps : Nat → Sweep × SetterClock) (n : Nat) :
    (sweptLive s sweeps n).config = s.config := by
  induction n with
  | zero => rfl
  | succ n ih => rw [sweptLive, processMappedInputs_config, ih]

/-- The frame number a sweep computes. -/
def frameAt (sweeps : Nat → Sweep × SetterClock) (n : Nat) : Nat :=
  (sweeps n).1.currentFrame.toNat

theorem frameAt_eq (sweeps : Nat → Sweep × SetterClock) (n : Nat) :
    frameAt sweeps n = (sweeps n).1.millis.toNat / 100 := by
  rw [frameAt, Sweep.currentFrame, UInt32.toNat_div]
  rfl

theorem frameAt_lt (sweeps : Nat → Sweep × SetterClock) (n : Nat) :
    frameAt sweeps n + 1 < 2 ^ 32 := by
  have hmillis := (sweeps n).1.millis.toNat_lt
  rw [frameAt_eq]
  omega

/-- A binding in PULSE mode on an input that has modes. -/
structure IsPulse (b : Binding) : Prop where
  mode : b.mode = .pulse
  input : mkhConfigInputClass b.input ≠ .axis

theorem IsPulse.onEdge {b : Binding} (h : IsPulse b) : b.onEdge = true := by
  simp [Binding.onEdge, h.mode, h.input]

theorem bindingPass_pulse {b : Binding} (h : IsPulse b) (sw : Sweep) (slot : Slot) :
    bindingPass sw b slot =
      pulsePass slot (pressedLevel sw.controller b.input) sw.currentFrame := by
  rw [bindingPass_of_onEdge h.onEdge, h.mode]

section History

variable (s : Live) (sweeps : Nat → Sweep × SetterClock) (d : Device) (p : Port) (i : BindingSlot)

/-- The binding's slot before a sweep. -/
def slotAt (n : Nat) : Slot := (sweptLive s sweeps n).drive.slots d p i

/-- What the slot's pulse is doing before a sweep. -/
def pulseAt (n : Nat) : OneShot := (slotAt s sweeps d p i n).oneShot

/-- The binding's raw byte in a sweep, before any sibling is looked at. -/
def rawByteAt (n : Nat) : UInt8 :=
  passedBytes (sweeps n).1 (s.config.table d p) ((sweptLive s sweeps n).drive.slots d p) i

/-- The binding's input is down in a sweep. -/
def pressedAt (b : Binding) (n : Nat) : Bool := pressedLevel (sweeps n).1.controller b.input

/-- A press: the input is down and was up in the sweep before.  What was before the first sweep the
slot remembers. -/
def pressAt (b : Binding) : Nat → Bool
  | 0 => pressedAt sweeps b 0 && !(s.drive.slots d p i).pulsePrevPressed
  | n + 1 => pressedAt sweeps b (n + 1) && !pressedAt sweeps b n

/-- The press of a sweep is accepted: it arms a pulse. -/
def acceptsAt (n : Nat) : Bool :=
  (slotAt s sweeps d p i (n + 1)).pulseArmed && !(slotAt s sweeps d p i n).pulseArmed

/-- A sweep starts a pulse. -/
def startsAt (n : Nat) : Bool :=
  !(slotAt s sweeps d p i n).pulseActive && (slotAt s sweeps d p i (n + 1)).pulseActive

/-- A block of full raw levels begins. -/
def blockBegins : Nat → Bool
  | 0 => rawByteAt s sweeps d p i 0 == 0xFF
  | n + 1 => rawByteAt s sweeps d p i (n + 1) == 0xFF && rawByteAt s sweeps d p i n == neutral

variable {s d p i} {b : Binding}

/-- A sweep leaves of a slot what pass 1 makes of it, as far as pulses go. -/
theorem sweptSlots_pulse {sw : Sweep} {cfg : PortConfig} {slots : PortSlots} {i : BindingSlot}
    {b : Binding} (hb : cfg.bindings[i.val]? = some b) (h : IsPulse b) :
    ∃ engaged, sweptSlots sw cfg slots i =
      { (pulsePass (slots i) (pressedLevel sw.controller b.input) sw.currentFrame).slot with
        thlEngaged := engaged } := by
  have hpassed : passedSlot sw cfg slots i =
      (pulsePass (slots i) (pressedLevel sw.controller b.input) sw.currentFrame).slot := by
    rw [passedSlot, hb]
    exact congrArg BindingPass.slot (bindingPass_pulse h sw (slots i))
  rcases sweptSlots_apply sw cfg slots i with heq | ⟨heq, -⟩
  · exact ⟨_, by rw [heq, hpassed]⟩
  · exact ⟨false, by rw [heq, hpassed]⟩

variable (hb : s.config.bindingAt d p i = some b) (hpulse : IsPulse b)
include hb hpulse

theorem slotAt_succ (n : Nat) :
    ∃ engaged, slotAt s sweeps d p i (n + 1) =
      { (pulsePass (slotAt s sweeps d p i n) (pressedAt sweeps b n)
          (sweeps n).1.currentFrame).slot with thlEngaged := engaged } := by
  unfold slotAt
  rw [sweptLive, processMappedInputs_slots, sweptLive_config]
  exact sweptSlots_pulse hb hpulse

theorem rawByteAt_eq (n : Nat) :
    rawByteAt s sweeps d p i n = levelByte (slotAt s sweeps d p i (n + 1)).pulseActive := by
  obtain ⟨engaged, hslot⟩ := slotAt_succ sweeps hb hpulse n
  have hbound : (s.config.table d p).bindingIn i = some b := hb
  rw [hslot, rawByteAt, passedBytes_of_bound hbound, bindingPass_pulse hpulse]
  rfl

theorem pressAt_eq (n : Nat) :
    pressAt s sweeps d p i b n =
      (pressedAt sweeps b n && !(slotAt s sweeps d p i n).pulsePrevPressed) := by
  cases n with
  | zero => rfl
  | succ n =>
    obtain ⟨engaged, hslot⟩ := slotAt_succ sweeps hb hpulse n
    rw [hslot, pressAt]
    show _ = (_ && !(pulsePass _ _ _).slot.pulsePrevPressed)
    rw [(pulsePass_spec _ _ _).2.1]

variable (hidle : (s.drive.slots d p i).pulseArmed = false ∧ (s.drive.slots d p i).pulseActive = false)
include hidle

theorem slotAt_fits (n : Nat) : (slotAt s sweeps d p i n).PulseFits := by
  induction n with
  | zero => exact Slot.pulseFits_of_idle hidle.2
  | succ n ih =>
    obtain ⟨engaged, hslot⟩ := slotAt_succ sweeps hb hpulse n
    obtain ⟨hsingle, hend⟩ :=
      (pulsePass_oneShot ih (pressedAt sweeps b n) (frameAt_lt sweeps n)).2
    rw [hslot]
    exact ⟨hsingle, hend⟩

/-- **The slot's run is a run of the one-shot.** -/
theorem pulseAt_succ (n : Nat) :
    pulseAt s sweeps d p i (n + 1) =
      (pulseAt s sweeps d p i n).step 1 (pressAt s sweeps d p i b n) (frameAt sweeps n) := by
  obtain ⟨engaged, hslot⟩ := slotAt_succ sweeps hb hpulse n
  rw [pulseAt, pressAt_eq sweeps hb hpulse, hslot]
  exact (pulsePass_oneShot (slotAt_fits sweeps hb hpulse hidle n) _ (frameAt_lt sweeps n)).1

theorem acceptsAt_iff (n : Nat) :
    acceptsAt s sweeps d p i n = true ↔
      Takes (pulseAt s sweeps d p i) (pressAt s sweeps d p i b) n := by
  have hbefore := (slotAt_fits sweeps hb hpulse hidle n).isArmed
  have hafter := (slotAt_fits sweeps hb hpulse hidle (n + 1)).isArmed
  rw [acceptsAt, ← hbefore, ← hafter, Takes]
  change ((pulseAt s sweeps d p i (n + 1)).isArmed && !(pulseAt s sweeps d p i n).isArmed) = true ↔ _
  rw [pulseAt_succ sweeps hb hpulse hidle n]
  cases pulseAt s sweeps d p i n with
  | off => cases pressAt s sweeps d p i b n <;> simp [OneShot.step, OneShot.isArmed]
  | armed a => simp [OneShot.isArmed]
  | active t =>
    by_cases hover : t + 1 ≤ frameAt sweeps n
    · simp [OneShot.step, OneShot.isArmed, hover]
    · simp [OneShot.step, OneShot.isArmed, hover]

omit hb hpulse hidle in
theorem startsAt_iff (n : Nat) :
    startsAt s sweeps d p i n = true ↔ Starts (pulseAt s sweeps d p i) n := by
  simp [startsAt, Starts, pulseAt, Slot.oneShot_isActive]

omit hidle in
theorem rawByteAt_full (n : Nat) :
    rawByteAt s sweeps d p i n = 0xFF ↔ (pulseAt s sweeps d p i (n + 1)).isActive = true := by
  rw [rawByteAt_eq sweeps hb hpulse, levelByte_eq_full, pulseAt, Slot.oneShot_isActive]

omit hidle in
theorem rawByteAt_neutral (n : Nat) :
    rawByteAt s sweeps d p i n = neutral ↔ (pulseAt s sweeps d p i (n + 1)).isActive = false := by
  rw [rawByteAt_eq sweeps hb hpulse, levelByte_eq_neutral, pulseAt, Slot.oneShot_isActive]

theorem blockBegins_iff (n : Nat) :
    blockBegins s sweeps d p i n = true ↔ Starts (pulseAt s sweeps d p i) n := by
  cases n with
  | zero =>
    have hrest : (pulseAt s sweeps d p i 0).isActive = false := by
      rw [pulseAt, Slot.oneShot_isActive]
      exact hidle.2
    rw [blockBegins, beq_iff_eq, rawByteAt_full sweeps hb hpulse, Starts]
    exact ⟨fun h => ⟨hrest, h⟩, And.right⟩
  | succ n =>
    rw [blockBegins, Bool.and_eq_true, beq_iff_eq, beq_iff_eq, rawByteAt_full sweeps hb hpulse,
      rawByteAt_neutral sweeps hb hpulse, Starts]
    exact and_comm

end History

/-! ### While frame numbers do not go back -/

/-- Each press that is accepted gets one block of full raw levels of its own. -/
structure PulsesAtomic (s : Live) (sweeps : Nat → Sweep × SetterClock) (d : Device) (p : Port)
    (i : BindingSlot) (b : Binding) : Prop where
  /-- A press is accepted exactly when no pulse is armed or running. -/
  accepted : ∀ k, acceptsAt s sweeps d p i k = true ↔ pressAt s sweeps d p i b k = true ∧
    (slotAt s sweeps d p i k).pulseArmed = false ∧ (slotAt s sweeps d p i k).pulseActive = false
  /-- The raw level is full in the blocks, and neutral elsewhere. -/
  level : ∀ n, (rawByteAt s sweeps d p i n = 0xFF ∨ rawByteAt s sweeps d p i n = neutral) ∧
    (rawByteAt s sweeps d p i n = 0xFF ↔
      ∃ k, acceptsAt s sweeps d p i k = true ∧ InBlock 1 (frameAt sweeps) k n)
  /-- A block is not empty: it begins at the first sweep in a later frame than the press. -/
  begins : ∀ k m, acceptsAt s sweeps d p i k = true → FirstLater (frameAt sweeps) k m →
    rawByteAt s sweeps d p i m = 0xFF ∧ ∀ j, k ≤ j → j < m → rawByteAt s sweeps d p i j = neutral
  /-- A block is contiguous, and over at the first sweep a frame or more after its beginning. -/
  ends : ∀ k m e, acceptsAt s sweeps d p i k = true → FirstLater (frameAt sweeps) k m → m ≤ e →
    (∀ j, m ≤ j → j < e → frameAt sweeps j < frameAt sweeps m + 1) →
    frameAt sweeps m + 1 ≤ frameAt sweeps e →
    (∀ j, m ≤ j → j < e → rawByteAt s sweeps d p i j = 0xFF) ∧ rawByteAt s sweeps d p i e = neutral
  /-- Between the blocks of two presses there is a sweep with a neutral raw level. -/
  apart : ∀ k k' n n', acceptsAt s sweeps d p i k = true → acceptsAt s sweeps d p i k' = true →
    k < k' → InBlock 1 (frameAt sweeps) k n → InBlock 1 (frameAt sweeps) k' n' →
    ∃ j, n < j ∧ j < n' ∧ rawByteAt s sweeps d p i j = neutral
  /-- The presses accepted are the blocks begun, and the pulse that is still armed. -/
  count : ∀ n, Nat.count (acceptsAt s sweeps d p i · = true) n =
    Nat.count (blockBegins s sweeps d p i · = true) n +
      if (slotAt s sweeps d p i n).pulseArmed then 1 else 0

/-- **Pulses are atomic**, for every run of sweeps whose frame numbers do not go back, from any slot
with no pulse armed or running, as start-up and every clear leave it. -/
theorem pulses_atomic (s : Live) (sweeps : Nat → Sweep × SetterClock) (d : Device) (p : Port)
    (i : BindingSlot) (b : Binding) (hb : s.config.bindingAt d p i = some b) (hpulse : IsPulse b)
    (hidle : (s.drive.slots d p i).pulseArmed = false ∧
      (s.drive.slots d p i).pulseActive = false)
    (hframes : Monotone (frameAt sweeps)) :
    PulsesAtomic s sweeps d p i b := by
  have hstep := pulseAt_succ sweeps hb hpulse hidle
  have haccepts := acceptsAt_iff sweeps hb hpulse hidle
  have hfull := rawByteAt_full sweeps hb hpulse
  have hneutral := rawByteAt_neutral sweeps hb hpulse
  have h0 : pulseAt s sweeps d p i 0 = .off := Slot.oneShot_eq_off.mpr hidle
  refine ⟨fun k => ?_, fun n => ⟨?_, ?_⟩, fun k m hk hm => ⟨?_, fun j hkj hjm => ?_⟩,
    fun k m e hk hm hme hwithin hover => ⟨fun j hmj hje => ?_, ?_⟩, ?_, fun n => ?_⟩
  · rw [haccepts, Takes, pulseAt, Slot.oneShot_eq_off]
    exact and_comm
  · rw [hfull, hneutral]
    exact Bool.eq_false_or_eq_true _
  · rw [hfull, active_iff hstep hframes Nat.one_pos h0 n]
    exact exists_congr fun k => and_congr_left fun _ => (haccepts k).symm
  · rw [hfull]
    exact active_of_inBlock hstep hframes ((haccepts k).mp hk) ⟨m, hm, le_rfl, Nat.lt_succ_self _⟩
  · rw [hneutral, armed_until hstep hframes ((haccepts k).mp hk) (Nat.lt_succ_of_le hkj)
      fun l hkl hlj => hm.2.2 l hkl (by omega)]
    rfl
  · rw [hfull]
    exact active_of_inBlock hstep hframes ((haccepts k).mp hk) ⟨m, hm, hmj, hwithin j hmj hje⟩
  · have hlater : m < e := by
      by_contra hle
      obtain rfl : m = e := by omega
      omega
    have hruns := active_lasts hstep (active_from hstep hframes ((haccepts k).mp hk) hm) hlater
      fun l hml hle => hwithin l (Nat.le_of_lt hml) hle
    rw [hneutral, hstep e, hruns, step_active_ends _ hover]
    rfl
  · intro k k' n n' hk hk' hlt hn hn'
    obtain ⟨hnk, hkn, hrest⟩ := blocks_apart hstep hframes ((haccepts k).mp hk) ((haccepts k').mp hk')
      hlt hn hn'
    exact ⟨k', hnk, hkn, (hneutral k').mpr hrest⟩
  · have hcount := count_takes hstep h0 n
    have harmed := (slotAt_fits sweeps hb hpulse hidle n).isArmed
    rw [pulseAt, harmed] at hcount
    have hleft : Nat.count (acceptsAt s sweeps d p i · = true) n =
        Nat.count (Takes (pulseAt s sweeps d p i) (pressAt s sweeps d p i b)) n := by
      simp only [haccepts]
    have hright : Nat.count (blockBegins s sweeps d p i · = true) n =
        Nat.count (Starts (pulseAt s sweeps d p i)) n := by
      simp only [blockBegins_iff sweeps hb hpulse hidle]
    rw [hleft, hright, hcount]

/-- A table with a pulse on button A at port A of hub 1, as start-up has it. -/
def pulseOnA : Live :=
  pushPendingSessionToLiveTable
    (boundPortA { input := .btnA, invert := false, maxPercent := 100, mode := .pulse })
    (Live.start blankConfig .boot)

/-- A sweep with that report at that reading of `millis()`. -/
def sweepAtMillis (controller : ControllerData) (millis : UInt32) : Sweep × SetterClock :=
  ({ sweepOf controller with millis := millis }, fun _ _ => 0)

/-- A tap, a late sweep two frames on, and sweeps in a later frame. -/
def tapAndWait : Nat → Sweep × SetterClock
  | 0 => sweepAtMillis buttonAReport 30
  | 1 => sweepAtMillis (stickReport 0) 250
  | _ => sweepAtMillis (stickReport 0) 400

/-- A sequence that is constant from its third place on has two steps to look at. -/
theorem monotone_of_constant {f : Nat → Nat} (hfirst : f 0 ≤ f 1) (hsecond : f 1 ≤ f 2)
    (hrest : ∀ n, f (n + 3) = f (n + 2)) : Monotone f := by
  refine monotone_nat_of_le_succ fun n => ?_
  match n with
  | 0 => exact hfirst
  | 1 => exact hsecond
  | n + 2 => exact (hrest n).ge

theorem tapAndWait_frames : Monotone (frameAt tapAndWait) :=
  monotone_of_constant (by decide) (by decide) fun _ => rfl

theorem pulses_atomic_tap :
    PulsesAtomic pulseOnA tapAndWait 0 mkhPortA 0
        { input := .btnA, invert := false, maxPercent := 100, mode := .pulse } ∧
      acceptsAt pulseOnA tapAndWait 0 mkhPortA 0 0 = true ∧
      rawByteAt pulseOnA tapAndWait 0 mkhPortA 0 1 = 0xFF :=
  ⟨pulses_atomic pulseOnA tapAndWait 0 mkhPortA 0 _ (by decide +kernel) ⟨rfl, by decide⟩
      (by decide +kernel) tapAndWait_frames, by decide +kernel, by decide +kernel⟩

/-! ### Across the wrap of the counter -/

/-- The frame number of a sweep is the quotient of the wrapped time. -/
theorem frameAt_elapsed {sweeps : Nat → Sweep × SetterClock} {elapsed : Nat → Nat}
    (hmillis : ∀ n, (sweeps n).1.millis = UInt32.ofNat (elapsed n)) (n : Nat) :
    frameAt sweeps n = elapsed n % 2 ^ 32 / 100 := by
  rw [frameAt_eq, hmillis, UInt32.toNat_ofNat']

/-- Without a wrap, a frame's time later is a later frame. -/
theorem later_frame_of_no_wrap {start now : Nat} (hlate : start + 100 ≤ now)
    (hwrap : now / 2 ^ 32 = start / 2 ^ 32) : start % 2 ^ 32 / 100 < now % 2 ^ 32 / 100 := by
  have hstart := Nat.div_add_mod start (2 ^ 32)
  have hnow := Nat.div_add_mod now (2 ^ 32)
  rw [hwrap] at hnow
  omega

/-- **When a pulse has ended**, at a sweep its whole duration or more after its start: exactly when
some sweep in between had a frame number above the start's.  While the counter has not wrapped, the
sweep itself has one. -/
theorem pulse_ended_iff (s : Live) (sweeps : Nat → Sweep × SetterClock) (d : Device) (p : Port)
    (i : BindingSlot) (b : Binding) (hb : s.config.bindingAt d p i = some b) (hpulse : IsPulse b)
    (hidle : (s.drive.slots d p i).pulseArmed = false ∧
      (s.drive.slots d p i).pulseActive = false)
    (elapsed : Nat → Nat) (helapsed : Monotone elapsed)
    (hmillis : ∀ n, (sweeps n).1.millis = UInt32.ofNat (elapsed n)) (m n : Nat)
    (hstart : startsAt s sweeps d p i m = true)
    (hlate : elapsed m + mkhPulseFrames.toNat * mkhFrameIntervalMs.toNat ≤ elapsed n) :
    ((rawByteAt s sweeps d p i n = neutral ∨
        ∃ l, m < l ∧ l ≤ n ∧ startsAt s sweeps d p i l = true) ↔
      ∃ l, m < l ∧ l ≤ n ∧ elapsed m % 2 ^ 32 / 100 < elapsed l % 2 ^ 32 / 100) ∧
    (elapsed n / 2 ^ 32 = elapsed m / 2 ^ 32 →
      ∃ l, m < l ∧ l ≤ n ∧ elapsed m % 2 ^ 32 / 100 < elapsed l % 2 ^ 32 / 100) := by
  have hduration : mkhPulseFrames.toNat * mkhFrameIntervalMs.toNat = 100 := by decide
  rw [hduration] at hlate
  have hmn : m < n := by
    by_contra hle
    have := helapsed (Nat.le_of_not_lt hle)
    omega
  refine ⟨?_, fun hwrap => ⟨n, hmn, le_rfl, later_frame_of_no_wrap hlate hwrap⟩⟩
  have hframes : ∀ l, frameAt sweeps m + 1 ≤ frameAt sweeps l ↔
      elapsed m % 2 ^ 32 / 100 < elapsed l % 2 ^ 32 / 100 := by
    intro l
    rw [frameAt_elapsed hmillis, frameAt_elapsed hmillis, Nat.succ_le_iff]
  have hended := ended_iff (pulseAt_succ sweeps hb hpulse hidle)
    (startsAt_iff sweeps m |>.mp hstart) (Nat.le_of_lt hmn)
  simp only [hframes] at hended
  rw [← hended, rawByteAt_neutral sweeps hb hpulse]
  simp only [startsAt_iff]

/-- A tap just before the counter wraps: the pulse starts in the last frame number there is. -/
def elapsedAtWrap : Nat → Nat
  | 0 => 4294967190
  | 1 => 4294967200
  | _ => 4294967300

def tapBeforeWrap (n : Nat) : Sweep × SetterClock :=
  sweepAtMillis (if n = 0 then buttonAReport else stickReport 0) (UInt32.ofNat (elapsedAtWrap n))

theorem elapsedAtWrap_monotone : Monotone elapsedAtWrap :=
  monotone_of_constant (by decide) (by decide) fun _ => rfl

/-- The same tap a minute earlier, with the same sweeps. -/
def elapsedBeforeWrap (n : Nat) : Nat := elapsedAtWrap n - 60000

def tapMinuteEarlier (n : Nat) : Sweep × SetterClock :=
  sweepAtMillis (if n = 0 then buttonAReport else stickReport 0)
    (UInt32.ofNat (elapsedBeforeWrap n))

theorem pulse_ended_minute_earlier :
    rawByteAt pulseOnA tapMinuteEarlier 0 mkhPortA 0 2 = neutral ∨
      ∃ l, 1 < l ∧ l ≤ 2 ∧ startsAt pulseOnA tapMinuteEarlier 0 mkhPortA 0 l = true := by
  have hended := pulse_ended_iff pulseOnA tapMinuteEarlier 0 mkhPortA 0
    { input := .btnA, invert := false, maxPercent := 100, mode := .pulse } (by decide +kernel)
    ⟨rfl, by decide⟩ (by decide +kernel) elapsedBeforeWrap
    (fun m n h => Nat.sub_le_sub_right (elapsedAtWrap_monotone h) 60000) (fun _ => rfl) 1 2
    (by decide +kernel) (by decide)
  exact hended.1.mpr (hended.2 (by decide))

/-- A hundred milliseconds after its start, and for as long as frame numbers are small, the pulse is
still on. -/
theorem pulse_stuck_at_wrap :
    ¬ ∀ (s : Live) (sweeps : Nat → Sweep × SetterClock) (d : Device) (p : Port) (i : BindingSlot)
        (b : Binding) (elapsed : Nat → Nat), s.config.bindingAt d p i = some b → IsPulse b →
      ((s.drive.slots d p i).pulseArmed = false ∧ (s.drive.slots d p i).pulseActive = false) →
      Monotone elapsed → (∀ n, (sweeps n).1.millis = UInt32.ofNat (elapsed n)) →
      ∀ m n, startsAt s sweeps d p i m = true →
        elapsed m + mkhPulseFrames.toNat * mkhFrameIntervalMs.toNat ≤ elapsed n →
        rawByteAt s sweeps d p i n = neutral ∨
          ∃ l, m < l ∧ l ≤ n ∧ startsAt s sweeps d p i l = true := by
  intro hall
  rcases hall pulseOnA tapBeforeWrap 0 mkhPortA 0
    { input := .btnA, invert := false, maxPercent := 100, mode := .pulse } elapsedAtWrap
    (by decide +kernel) ⟨rfl, by decide⟩ (by decide +kernel) elapsedAtWrap_monotone (fun _ => rfl)
    1 2 (by decide +kernel) (by decide) with hneutral | ⟨l, hl, hle, hstarts⟩
  · exact absurd hneutral (by decide +kernel)
  · obtain rfl : l = 2 := by omega
    exact absurd hstarts (by decide +kernel)

end MK1Tank
