/-
Presses, and what they set off.

A latch toggles, a pulse is armed and a lock is engaged or let go by a press of the
binding's button.  A slot's edge detector remembers one level, and as long as nothing
clears the slot that level is the one of the preceding sweep, so an edge is a genuine
press: the button is down and was up a sweep ago.  A sibling that is deflected takes a
lock away without any press.  A clear wipes the detectors too, and after it nothing is
said of a button that is down already.
-/
import MK1Tank.Proofs.Earned

namespace MK1Tank

open FileProgram Runs

/-! ### Sweeps and clears -/

/-- What clears runtime state while the controller stays connected. -/
inductive RuntimeClear where
  /-- A hub is turned off on the dashboard. -/
  | hubOff (d : Device) (now : Port → Int)
  | push (pending : PendingEdits)
  | save (pending : PendingEdits) (files : Files Path) (oracle : FileOracle)
  | resetAll (files : Files Path) (oracle : FileOracle)

def RuntimeClear.apply (s : Live) : RuntimeClear → Live
  | .hubOff d now =>
    { s with
      broadcast := mkhBroadcastToggleOff s.broadcast d.val now
      drive := clearLatchStateForDevice s.drive d }
  | .push pending => (TableChange.push pending).apply s
  | .save pending files oracle => (TableChange.save pending files oracle).apply s
  | .resetAll files oracle => (TableChange.resetAll files oracle).apply s

/-- The clear reaches the port. -/
def RuntimeClear.clears (c : RuntimeClear) (d : Device) (p : Port) : Bool :=
  match c with
  | .hubOff d' _ => d = d'
  | .push pending | .save pending _ _ => (pending d p).dirty
  | .resetAll _ _ => true

inductive PressStep where
  | sweep (sw : Sweep) (now : SetterClock)
  | clear (c : RuntimeClear)

def PressStep.apply (s : Live) : PressStep → Live
  | .sweep sw now => processMappedInputs sw now s
  | .clear c => c.apply s

/-- The live state, the report of the preceding sweep, and the ports cleared since. -/
structure Pressing where
  live : Live
  last : Option ControllerData
  cleared : Device → Port → Bool

def Pressing.step (s : Pressing) (step : PressStep) : Pressing where
  live := step.apply s.live
  last := match step with
    | .sweep sw _ => some sw.controller
    | .clear _ => s.last
  cleared d p := match step with
    | .sweep _ _ => false
    | .clear c => s.cleared d p || c.clears d p

@[simp] theorem Pressing.step_live (s : Pressing) (step : PressStep) :
    (s.step step).live = step.apply s.live := rfl

theorem PressStep.apply_sweep (s : Live) (sw : Sweep) (now : SetterClock) :
    (PressStep.sweep sw now).apply s = processMappedInputs sw now s := rfl

theorem PressStep.apply_clear (s : Live) (c : RuntimeClear) :
    (PressStep.clear c).apply s = c.apply s := rfl

/-- Start-up under any table. -/
def Pressing.boot (config : MkhConfig) : Pressing where
  live := Live.start config .boot
  last := none
  cleared _ _ := false

/-! ### What a press sets off -/

/-- A latch toggles, a pulse is armed, a lock is engaged or let go. -/
def actsOn (slot slot' : Slot) : Bool :=
  slot'.latchState != slot.latchState || slot'.pulseArmed && !slot.pulseArmed ||
    slot'.thlEngaged != slot.thlEngaged

theorem latchPass_rests {slot : Slot} {pressed : Bool}
    (hedge : (pressed && !slot.latchPrevPressed) = false) :
    actsOn slot (latchPass slot pressed).slot = false := by
  simp [actsOn, latchPass, hedge]

theorem pulsePass_rests {slot : Slot} {pressed : Bool}
    (hedge : (pressed && !slot.pulsePrevPressed) = false) (frame : UInt32) :
    actsOn slot (pulsePass slot pressed frame).slot = false := by
  obtain ⟨hbesides, -, harmed⟩ := pulsePass_spec slot pressed frame
  have hlatch : (pulsePass slot pressed frame).slot.latchState = slot.latchState :=
    congrArg (·.1) hbesides
  have hengaged : (pulsePass slot pressed frame).slot.thlEngaged = slot.thlEngaged :=
    congrArg (·.2.2.1) hbesides
  have hkept : (pulsePass slot pressed frame).slot.pulseArmed = true → slot.pulseArmed = true :=
    fun harm => (harmed harm).resolve_right (by simp [hedge])
  simpa [actsOn, hlatch, hengaged] using hkept

theorem thlPass_rests {slot : Slot} {pressed : Bool}
    (hedge : (pressed && !slot.thlPrevPressed) = false) (sw : Sweep) :
    actsOn slot (thlPass slot pressed sw).slot = false := by
  rw [thlPass_slot]
  simp [actsOn, thlToggle, hedge]

/-- **Pass 1 acts on an edge only.** -/
theorem bindingPass_acts {sw : Sweep} {b : Binding} {slot : Slot}
    (h : actsOn slot (bindingPass sw b slot).slot = true) : pressEdge sw b slot = true := by
  by_contra hedge
  rw [Bool.not_eq_true] at hedge
  have hrests : actsOn slot (bindingPass sw b slot).slot = false :=
    bindingPass_of_no_edge (P := fun slot' => actsOn slot slot' = false) hedge (by simp [actsOn])
      (fun _ hquiet => latchPass_rests hquiet)
      (fun _ hquiet => pulsePass_rests hquiet sw.currentFrame)
      (fun _ hquiet => thlPass_rests hquiet sw)
  exact Bool.false_ne_true (hrests.symm.trans h)

/-- A lock that a sibling took away: nothing else happened to the slot. -/
structure TakenAway (slot slot' : Slot) : Prop where
  engaged : slot.thlEngaged = true
  off : slot'.thlEngaged = false
  latch : slot'.latchState = slot.latchState
  pulse : slot'.pulseArmed = true → slot.pulseArmed = true

/-- **What a slot does in a sweep** is its binding's edge, or a lock that a sibling took away. -/
theorem sweptSlots_acts {sw : Sweep} {cfg : PortConfig} {slots : PortSlots} {i : BindingSlot}
    (h : actsOn (slots i) (sweptSlots sw cfg slots i) = true) :
    (∃ b, cfg.bindings[i.val]? = some b ∧ pressEdge sw b (slots i) = true) ∨
    (TakenAway (slots i) (sweptSlots sw cfg slots i) ∧
      overridden sw.tuning cfg (passedBytes sw cfg slots) i = true) := by
  have hpassed : actsOn (slots i) (passedSlot sw cfg slots i) = true →
      ∃ b, cfg.bindings[i.val]? = some b ∧ pressEdge sw b (slots i) = true := by
    unfold passedSlot
    cases hb : cfg.bindings[i.val]? with
    | none => intro hacts; simp [actsOn] at hacts
    | some b => exact fun hacts => ⟨b, rfl, bindingPass_acts hacts⟩
  rcases sweptSlots_apply sw cfg slots i with heq | ⟨heq, hover⟩
  · rw [heq] at h
    exact Or.inl (hpassed h)
  · by_cases hacts : actsOn (slots i) (passedSlot sw cfg slots i) = true
    · exact Or.inl (hpassed hacts)
    · refine Or.inr ⟨?_, hover⟩
      have hquiet : (passedSlot sw cfg slots i).latchState = (slots i).latchState ∧
          ((passedSlot sw cfg slots i).pulseArmed = true → (slots i).pulseArmed = true) ∧
          (passedSlot sw cfg slots i).thlEngaged = (slots i).thlEngaged := by
        simpa [actsOn, not_or, and_assoc] using hacts
      obtain ⟨hlatch, harmed, hengaged⟩ := hquiet
      rw [heq] at h ⊢
      refine ⟨?_, rfl, hlatch, harmed⟩
      cases hlock : (slots i).thlEngaged with
      | true => rfl
      | false =>
        cases harm : (passedSlot sw cfg slots i).pulseArmed with
        | false => simp [actsOn, hlatch, hlock, harm] at h
        | true => simp [actsOn, hlatch, hlock, harm, harmed harm] at h

/-! ### What the detectors remember -/

/-- Where no clear came since, a detector remembers its input's level of the preceding sweep. -/
def Remembers (s : Pressing) : Prop :=
  ∀ d p i b, s.cleared d p = false → s.live.config.bindingAt d p i = some b → b.onEdge = true →
    ∀ ctl, s.last = some ctl →
      (s.live.drive.slots d p i).prevPressed b.mode = pressedLevel ctl b.input

theorem remembers_boot (config : MkhConfig) : Remembers (.boot config) := by
  intro d p i b _ _ _ ctl hlast
  cases hlast

/-- A clear leaves the ports it does not reach, bindings and arrays. -/
theorem RuntimeClear.apply_other (s : Live) {c : RuntimeClear} {d : Device} {p : Port}
    (h : c.clears d p = false) :
    (c.apply s).drive.slots d p = s.drive.slots d p ∧
      ((c.apply s).config.table d p).bindings = (s.config.table d p).bindings := by
  have hpush : ∀ pending : PendingEdits, (pending d p).dirty = false →
      (pushPendingSessionToLiveTable pending s).drive.slots d p = s.drive.slots d p ∧
        ((pushPendingSessionToLiveTable pending s).config.table d p).bindings =
          (s.config.table d p).bindings := by
    intro pending hclean
    rw [push_slots, push_bindings, if_neg (by simp [hclean]), if_neg (by simp [hclean])]
    exact ⟨rfl, rfl⟩
  cases c with
  | hubOff d' now =>
    refine ⟨?_, rfl⟩
    show (clearLatchStateForDevice s.drive d').slots d p = _
    rw [clearLatchStateForDevice_slots, if_neg (by simpa [clears] using h)]
  | push pending => exact hpush pending h
  | save pending files oracle =>
    refine ⟨(hpush pending h).1, ?_⟩
    show (((pushPendingSessionToLiveTable pending s).noteSave files oracle).config.table d p).bindings
      = _
    rw [Live.noteSave_table]
    exact (hpush pending h).2
  | resetAll files oracle => cases h

/-- A clear leaves nothing in the ports it reaches. -/
theorem RuntimeClear.apply_cleared (s : Live) {c : RuntimeClear} {d : Device} {p : Port}
    (h : c.clears d p = true) (i : BindingSlot) : (c.apply s).drive.slots d p i = .clear := by
  have hpush : ∀ pending : PendingEdits, (pending d p).dirty = true →
      (pushPendingSessionToLiveTable pending s).drive.slots d p i = .clear := by
    intro pending hdirty
    rw [push_slots, if_pos hdirty]
  cases c with
  | hubOff d' now =>
    have hd : d = d' := by simpa [clears] using h
    show (clearLatchStateForDevice s.drive d').slots d p i = _
    rw [clearLatchStateForDevice_slots, if_pos hd]
  | push pending => exact hpush pending h
  | save pending files oracle => exact hpush pending h
  | resetAll files oracle =>
    show (clearAllLatchState s.drive).slots d p i = _
    rw [clearAllLatchState_slots]

theorem remembers_step (s : Pressing) (step : PressStep) (h : Remembers s) :
    Remembers (s.step step) := by
  cases step with
  | sweep sw now =>
    intro d p i b _ hb hedge ctl hlast
    have hctl : sw.controller = ctl := Option.some.inj hlast
    rw [Pressing.step_live, PressStep.apply_sweep] at hb ⊢
    rw [processMappedInputs_config] at hb
    rw [processMappedInputs_slots, sweptSlots_prevPressed hb hedge, hctl]
  | clear c =>
    intro d p i b hcleared hb hedge ctl hlast
    have hboth : s.cleared d p = false ∧ c.clears d p = false := Bool.or_eq_false_iff.mp hcleared
    obtain ⟨hslots, hbindings⟩ := RuntimeClear.apply_other s.live hboth.2
    have hb' : s.live.config.bindingAt d p i = some b := by
      have hsame : (c.apply s.live).config.bindingAt d p i = s.live.config.bindingAt d p i := by
        unfold MkhConfig.bindingAt
        rw [hbindings]
      exact hsame.symm.trans hb
    rw [Pressing.step_live, PressStep.apply_clear, hslots]
    exact h d p i b hboth.1 hb' hedge ctl hlast

/-! ### Runs -/

/-- The binding is pressed now and was not at the preceding sweep. -/
def GenuinePress (s : Pressing) (sw : Sweep) (b : Binding) : Prop :=
  pressedLevel sw.controller b.input = true ∧
    ∀ ctl, s.last = some ctl → pressedLevel ctl b.input = false

/-- **Presses set things off.**  In every run of sweeps and clears, what the next sweep does to a slot
comes with its binding pressed, and released at the preceding sweep if no clear of the port came in
between; or it is a lock that a deflected sibling takes away.  A clear leaves its ports off. -/
theorem presses_set_off (config : MkhConfig) (steps : List PressStep) (d : Device) (p : Port) :
    (∀ sw now i,
      actsOn ((after Pressing.step (.boot config) steps).live.drive.slots d p i)
        ((after Pressing.step (.boot config) (steps ++ [.sweep sw now])).live.drive.slots d p i)
          = true →
      (∃ b, (after Pressing.step (.boot config) steps).live.config.bindingAt d p i = some b ∧
        pressedLevel sw.controller b.input = true ∧
        ((after Pressing.step (.boot config) steps).cleared d p = false →
          GenuinePress (after Pressing.step (.boot config) steps) sw b)) ∨
      TakenAway ((after Pressing.step (.boot config) steps).live.drive.slots d p i)
          ((after Pressing.step (.boot config) (steps ++ [.sweep sw now])).live.drive.slots d p i) ∧
        overridden sw.tuning ((after Pressing.step (.boot config) steps).live.config.table d p)
          (passedBytes sw ((after Pressing.step (.boot config) steps).live.config.table d p)
            ((after Pressing.step (.boot config) steps).live.drive.slots d p)) i = true) ∧
    (∀ c i, c.clears d p = true →
      (after Pressing.step (.boot config) (steps ++ [.clear c])).live.drive.slots d p i = .clear) := by
  have hremembers : Remembers (after Pressing.step (.boot config) steps) :=
    invariant_always remembers_step steps (remembers_boot config)
  generalize hnow : after Pressing.step (.boot config) steps = s at hremembers
  refine ⟨fun sw now i hacts => ?_, fun c i hclears => ?_⟩
  · have hswept : (after Pressing.step (.boot config) (steps ++ [.sweep sw now])).live.drive.slots d p
        = sweptSlots sw (s.live.config.table d p) (s.live.drive.slots d p) := by
      rw [after_append, hnow, after_cons, after_nil, Pressing.step_live, PressStep.apply_sweep,
        processMappedInputs_slots]
    rw [hswept] at hacts ⊢
    rcases sweptSlots_acts hacts with ⟨b, hb, hedge⟩ | htaken
    · refine Or.inl ⟨b, hb, ?_⟩
      obtain ⟨honEdge, hedge⟩ := Bool.and_eq_true_iff.mp hedge
      obtain ⟨hpressed, hprev⟩ := Bool.and_eq_true_iff.mp hedge
      refine ⟨hpressed, fun hcleared => ⟨hpressed, fun ctl hlast => ?_⟩⟩
      rw [← hremembers d p i b hcleared hb honEdge ctl hlast]
      exact Bool.not_eq_true' _ |>.mp hprev
    · exact Or.inr htaken
  · rw [after_append, hnow, after_cons, after_nil, Pressing.step_live, PressStep.apply_clear]
    exact RuntimeClear.apply_cleared s.live hclears i

/-! ### Without a press -/

/-- Whatever the sweep sets off comes with a genuine press of its binding. -/
def OnPressesOnly (s : Pressing) (sw : Sweep) (now : SetterClock) : Prop :=
  ∀ d p i, actsOn (s.live.drive.slots d p i)
      ((s.step (.sweep sw now)).live.drive.slots d p i) = true →
    ∃ b, s.live.config.bindingAt d p i = some b ∧ GenuinePress s sw b

/-- A heading lock on button A. -/
def lockOnA : Binding := { input := .btnA, invert := false, maxPercent := 100, mode := .thl }

/-- A session that bound port A of hub 1 to the lock and to the left stick. -/
def lockAndStick : PendingEdits := fun d p =>
  { dirty := d == 0 && p == mkhPortA
    slots := fun n => if n = 0 then lockOnA else compiledInBinding .lsns
    bindingCount := 2
    ninth := zeroBinding }

/-- A press engages the lock; with the button up again, the stick is pushed. -/
theorem stick_takes_lock : ¬ ∀ (config : MkhConfig) (steps : List PressStep) sw now,
    OnPressesOnly (after Pressing.step (.boot config) steps) sw now := by
  intro hall
  obtain ⟨b, hb, hpressed, -⟩ := hall blankConfig
    [.clear (.push lockAndStick), .sweep (sweepOf buttonAReport) fun _ _ => 0]
    (sweepOf (stickReport (-512))) (fun _ _ => 0) 0 mkhPortA 0 (by decide +kernel)
  have hlock : (after Pressing.step (.boot blankConfig) [.clear (.push lockAndStick),
      .sweep (sweepOf buttonAReport) fun _ _ => 0]).live.config.bindingAt 0 mkhPortA 0
        = some lockOnA := by decide +kernel
  obtain rfl : lockOnA = b := Option.some.inj (hlock.symm.trans hb)
  exact absurd hpressed (by decide +kernel)

/-- A button held while its hub is turned off switches its latch on again. -/
example : ((after Pressing.step (.boot blankConfig)
    [.clear (.push (boundPortA (latchOn .btnA))), .sweep (sweepOf buttonAReport) fun _ _ => 0,
      .clear (.hubOff 0 fun _ => 0), .sweep (sweepOf buttonAReport) fun _ _ => 0]).live.drive.slots
        0 mkhPortA 0).latchState = true := by
  decide +kernel

end MK1Tank
