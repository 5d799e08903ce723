/-
Runtime state that a slot's binding has earned.

The runtime arrays are indexed by slot, and bindings come and go in the slots.  A
latch that is on, a pulse that runs or a lock that holds is the binding's own only if
the binding was pressed while it was there.  A run is watched for that, by the levels of
the inputs alone: a press is an input that is down at a sweep and was not at the one
before, and a slot is earned from a press of its binding on, until the next binding is
put into it.

Two things start what nobody pressed.  A reload clears nothing, so what the old binding
had started goes on under the new one.  And what is put into a slot comes with a detector
that does not know the input's level, so an input that is held all along looks pressed.
What is started stays earned along exactly those runs in which neither happens.
-/
import MK1Tank.Proofs.Pages
import MK1Tank.Proofs.SweepCells

namespace MK1Tank

open FileProgram Runs

/-! ### What a sweep sets off -/

/-- The slot's lock would go in the sweep that engages it: it is the port's first, and a sibling is
deflected. -/
def takenAtOnce (sw : Sweep) (cfg : PortConfig) (slots : PortSlots) (i : BindingSlot) : Bool :=
  engagedLock cfg (passedSlot sw cfg slots) == some i &&
    overridden sw.tuning cfg (passedBytes sw cfg slots) i

/-- The sweep finds the input down and the detector without a memory of it, and no lock is refused
while the gyroscope is calibrated, or taken at once. -/
def setsOff (sw : Sweep) (cfg : PortConfig) (slots : PortSlots) (i : BindingSlot) : Bool :=
  cfg.bindings[i.val]?.any fun b => pressEdge sw b (slots i) &&
    (b.mode != .thl || sw.imuReady && !takenAtOnce sw cfg slots i)

theorem engagedLock_mode {cfg : PortConfig} {slots : PortSlots} {i : BindingSlot}
    (h : engagedLock cfg slots = some i) :
    ∃ b, cfg.bindings[i.val]? = some b ∧ b.mode = .thl := by
  obtain ⟨⟨j, b⟩, hfind, rfl⟩ := Option.map_eq_some_iff.mp h
  have hmem := List.mem_of_find?_eq_some hfind
  have htest := List.find?_some hfind
  simp only [Bool.and_eq_true, decide_eq_true_eq] at htest
  obtain ⟨k, -, hk⟩ := List.mem_filterMap.mp hmem
  obtain ⟨b', hb', heq⟩ := Option.map_eq_some_iff.mp hk
  obtain ⟨rfl, rfl⟩ := Prod.mk.inj heq
  exact ⟨b', hb', htest.1⟩

/-- Pass 2 in full. -/
theorem sweptSlots_eq (sw : Sweep) (cfg : PortConfig) (slots : PortSlots) (i : BindingSlot) :
    sweptSlots sw cfg slots i =
      if takenAtOnce sw cfg slots i then { passedSlot sw cfg slots i with thlEngaged := false }
      else passedSlot sw cfg slots i := by
  have hpassed : (bindingsPass sw cfg slots .boot).slots = passedSlot sw cfg slots := rfl
  unfold sweptSlots portPass overridePass takenAtOnce
  rw [hpassed]
  cases hlock : engagedLock cfg (passedSlot sw cfg slots) with
  | none => exact congrFun hpassed i
  | some lock =>
    by_cases hi : i = lock
    · subst hi
      simp only [beq_self_eq_true, Bool.true_and]
      unfold overridden passedBytes
      split
      · exact Function.update_self ..
      · exact congrFun hpassed i
    · have hother : (some lock == some i) = false := by simpa using Ne.symm hi
      simp only [hother, Bool.false_and, Bool.false_eq_true, if_false]
      split
      · exact (Function.update_of_ne hi ..).trans (congrFun hpassed i)
      · exact congrFun hpassed i

/-- A binding whose slot is idle is started by its edge, unless it is a lock that is refused. -/
theorem bindingPass_started_iff {sw : Sweep} {b : Binding} {slot : Slot}
    (hidle : slot.started = false) :
    (bindingPass sw b slot).slot.started = true ↔
      pressEdge sw b slot = true ∧ (b.mode = .thl → sw.imuReady = true) := by
  obtain ⟨hlatch, harmed, hactive, hengaged⟩ := Slot.started_eq_false hidle
  refine ⟨fun h => ⟨(bindingPass_started h).resolve_left (by simp [hidle]), fun hmode => ?_⟩,
    fun ⟨hedge, hready⟩ => ?_⟩
  · have hedge := (bindingPass_started h).resolve_left (by simp [hidle])
    obtain ⟨hon, hedge⟩ := Bool.and_eq_true_iff.mp hedge
    by_contra hrefused
    rw [hmode] at hedge
    have hedge' : (pressedLevel sw.controller b.input && !slot.thlPrevPressed) = true := hedge
    rw [Bool.not_eq_true] at hrefused
    rw [bindingPass_of_onEdge hon, hmode] at h
    simp [thlPass_slot, thlToggle, hedge', hengaged, hrefused, Slot.started, hlatch, harmed,
      hactive] at h
  · obtain ⟨hon, hedge⟩ := Bool.and_eq_true_iff.mp hedge
    rw [bindingPass_of_onEdge hon]
    cases hmode : b.mode with
    | latched =>
      rw [hmode] at hedge
      have hedge' : (pressedLevel sw.controller b.input && !slot.latchPrevPressed) = true := hedge
      simp [latchPass, hedge', hlatch, Slot.started]
    | pulse =>
      rw [hmode] at hedge
      have hedge' : (pressedLevel sw.controller b.input && !slot.pulsePrevPressed) = true := hedge
      simp [pulsePass, pulseStart, hedge', harmed, hactive, Slot.started]
    | thl =>
      rw [hmode] at hedge
      have hedge' : (pressedLevel sw.controller b.input && !slot.thlPrevPressed) = true := hedge
      simp [thlPass_slot, thlToggle, hedge', hengaged, hready hmode, Slot.started]
    | proportional => simp [Binding.onEdge, hmode] at hon
    | momentary => simp [Binding.onEdge, hmode] at hon

/-- **What a sweep starts in an idle slot.** -/
theorem sweptSlots_started_iff {sw : Sweep} {cfg : PortConfig} {slots : PortSlots} {i : BindingSlot}
    (hidle : (slots i).started = false) :
    (sweptSlots sw cfg slots i).started = true ↔ setsOff sw cfg slots i = true := by
  rw [sweptSlots_eq]
  unfold setsOff
  cases hb : cfg.bindings[i.val]? with
  | none =>
    have htaken : takenAtOnce sw cfg slots i = false := by
      by_contra htaken
      obtain ⟨b, hb', -⟩ := engagedLock_mode
        (beq_iff_eq.mp (Bool.and_eq_true_iff.mp (Bool.not_eq_false _ ▸ htaken)).1)
      exact absurd (hb.symm.trans hb') (by simp)
    have hpassed : passedSlot sw cfg slots i = slots i := by
      unfold passedSlot
      rw [hb]
    rw [htaken, hpassed]
    simp [hidle]
  | some b =>
    have hpassed : passedSlot sw cfg slots i = (bindingPass sw b (slots i)).slot := by
      unfold passedSlot
      rw [hb]
    have hstarted : (bindingPass sw b (slots i)).slot.started = true ↔
        pressEdge sw b (slots i) = true ∧ (b.mode = .thl → sw.imuReady = true) :=
      bindingPass_started_iff hidle
    rw [hpassed]
    by_cases htaken : takenAtOnce sw cfg slots i = true
    · -- The lock that goes at once was all there was in the slot.
      obtain ⟨b', hb', hmode⟩ := engagedLock_mode (beq_iff_eq.mp (Bool.and_eq_true_iff.mp htaken).1)
      obtain rfl : b' = b := Option.some.inj (hb'.symm.trans hb)
      have hoff : ({ (bindingPass sw b' (slots i)).slot with thlEngaged := false } : Slot).started =
          false := by
        obtain ⟨hlatch, harmed, hactive, -⟩ := Slot.started_eq_false hidle
        by_cases hon : b'.onEdge = true
        · rw [bindingPass_of_onEdge hon, hmode]
          simp only [thlPass_slot, thlToggle, Slot.started]
          split_ifs <;> simp [hlatch, harmed, hactive]
        · rw [bindingPass_slot_of_level (Bool.not_eq_true _ ▸ hon)]
          simp [Slot.started, hlatch, harmed, hactive]
      rw [if_pos htaken, hoff]
      simp [htaken, hmode]
    · rw [if_neg htaken, hstarted]
      simp only [Bool.not_eq_true] at htaken
      by_cases hmode : b.mode = .thl <;> simp [htaken, hmode]

/-! ### Watching the slots -/

/-- The live state, and beside it the report of the preceding sweep, the slots whose present binding
was pressed since it came, and the slots whose binding came after that sweep. -/
structure Watched where
  live : Live
  last : Option ControllerData
  earned : Device → Port → BindingSlot → Bool
  fresh : Device → Port → BindingSlot → Bool

/-- The binding in a slot, if there is one. -/
def MkhConfig.bindingAt (cfg : MkhConfig) (d : Device) (p : Port) (i : BindingSlot) :
    Option Binding := (cfg.table d p).bindings[i.val]?

/-- The change puts another binding into the slot, or takes the one that is there away. -/
def TableChange.installs (s : Live) (c : TableChange) (d : Device) (p : Port) (i : BindingSlot) :
    Bool :=
  match c with
  | .push pending | .save pending _ _ => (pending d p).dirty
  | .resetAll _ _ => true
  | .reload _ _ => (c.apply s).config.bindingAt d p i ≠ s.config.bindingAt d p i

/-- The binding's input was down at the preceding sweep. -/
def heldBefore (last : Option ControllerData) (b : Binding) : Bool :=
  last.any fun ctl => pressedLevel ctl b.input

/-- A press of the slot's binding: its input is down, and was not at the preceding sweep. -/
def Watched.presses (s : Watched) (sw : Sweep) (d : Device) (p : Port) (i : BindingSlot) : Bool :=
  (s.live.config.bindingAt d p i).any fun b =>
    pressedLevel sw.controller b.input && !heldBefore s.last b

def Watched.step (s : Watched) (step : LiveStep) : Watched where
  live := s.live.step step
  last := match step with
    | .sweep sw _ => some sw.controller
    | .change _ => s.last
  earned d p i := match step with
    | .sweep sw _ => s.earned d p i || s.presses sw d p i
    | .change c => s.earned d p i && !c.installs s.live d p i
  fresh d p i := match step with
    | .sweep _ _ => false
    | .change c => s.fresh d p i || c.installs s.live d p i

@[simp] theorem Watched.step_live (s : Watched) (step : LiveStep) :
    (s.step step).live = s.live.step step := rfl

theorem Watched.sweep_earned (s : Watched) (sw : Sweep) (now : SetterClock) (d : Device) (p : Port)
    (i : BindingSlot) :
    (s.step (.sweep sw now)).earned d p i = (s.earned d p i || s.presses sw d p i) := rfl

theorem Watched.change_earned (s : Watched) (c : TableChange) (d : Device) (p : Port)
    (i : BindingSlot) :
    (s.step (.change c)).earned d p i = (s.earned d p i && !c.installs s.live d p i) := rfl

theorem Watched.change_fresh (s : Watched) (c : TableChange) (d : Device) (p : Port)
    (i : BindingSlot) :
    (s.step (.change c)).fresh d p i = (s.fresh d p i || c.installs s.live d p i) := rfl

theorem Live.step_sweep (s : Live) (sw : Sweep) (now : SetterClock) :
    s.step (.sweep sw now) = processMappedInputs sw now s := rfl

theorem Live.step_change (s : Live) (c : TableChange) : s.step (.change c) = c.apply s := rfl

/-- Start-up under any table. -/
def Watched.boot (config : MkhConfig) : Watched where
  live := Live.start config .boot
  last := none
  earned _ _ _ := false
  fresh _ _ _ := false

/-- What is started in a slot is the present binding's own. -/
def OnlyEarned (s : Watched) : Prop :=
  ∀ d p i, (s.live.drive.slots d p i).started = true → s.earned d p i = true

/-- The condition: a reload finds nothing started where it puts another binding, and no sweep sets
off a binding that came after the preceding one by an input that was down then already. -/
def InstallsQuietly (s : Watched) : LiveStep → Prop
  | .change (.reload files oracle) => ∀ d p i,
      (TableChange.reload files oracle).installs s.live d p i = true →
        (s.live.drive.slots d p i).started = false
  | .change _ => True
  | .sweep sw _ => ∀ d p i b, s.fresh d p i = true → s.live.config.bindingAt d p i = some b →
      heldBefore s.last b = true →
        setsOff sw (s.live.config.table d p) (s.live.drive.slots d p) i = false

/-- What holds between the steps: what came after the last sweep has earned nothing, and every other
detector remembers its input's level of that sweep. -/
structure Watched.Sound (s : Watched) : Prop where
  fresh : ∀ d p i, s.fresh d p i = true → s.earned d p i = false
  remembers : ∀ d p i b, s.fresh d p i = false → s.live.config.bindingAt d p i = some b →
    b.onEdge = true → ∀ ctl, s.last = some ctl →
      (s.live.drive.slots d p i).prevPressed b.mode = pressedLevel ctl b.input

/-! ### The changes -/

/-- Every change but a reload clears the slots it puts bindings into. -/
theorem TableChange.apply_slots (s : Live) {c : TableChange}
    (hc : ∀ files oracle, c ≠ .reload files oracle) (d : Device) (p : Port) (i : BindingSlot) :
    (c.apply s).drive.slots d p i =
      if c.installs s d p i then .clear else s.drive.slots d p i := by
  have hpush : ∀ pending : PendingEdits,
      (pushPendingSessionToLiveTable pending s).drive.slots d p i =
        if (pending d p).dirty then .clear else s.drive.slots d p i := by
    intro pending
    rw [push_slots]
    split <;> rfl
  cases c with
  | push pending => exact hpush pending
  | save pending files oracle => exact hpush pending
  | resetAll files oracle =>
    show (clearAllLatchState s.drive).slots d p i = _
    rw [clearAllLatchState_slots]
    rfl
  | reload files oracle => exact absurd rfl (hc files oracle)

/-- Where a change puts nothing, binding and slot stay. -/
theorem TableChange.apply_kept (s : Live) {c : TableChange} {d : Device} {p : Port}
    {i : BindingSlot} (h : c.installs s d p i = false) :
    (c.apply s).config.bindingAt d p i = s.config.bindingAt d p i ∧
      (c.apply s).drive.slots d p i = s.drive.slots d p i := by
  have hpush : ∀ pending : PendingEdits, (pending d p).dirty = false →
      (pushPendingSessionToLiveTable pending s).config.bindingAt d p i =
        s.config.bindingAt d p i := by
    intro pending hclean
    unfold MkhConfig.bindingAt
    rw [push_bindings, if_neg (by simp [hclean])]
  cases c with
  | push pending =>
    refine ⟨hpush pending h, ?_⟩
    rw [TableChange.apply_slots s (by simp), h]
    rfl
  | save pending files oracle =>
    constructor
    · show ((pushPendingSessionToLiveTable pending s).noteSave files oracle).config.bindingAt d p i = _
      unfold MkhConfig.bindingAt
      rw [Live.noteSave_table]
      exact hpush pending h
    · rw [TableChange.apply_slots s (by simp), h]
      rfl
  | resetAll files oracle => cases h
  | reload files oracle => exact ⟨by simpa [TableChange.installs] using h, rfl⟩

/-! ### The steps -/

theorem onlyEarned_boot (config : MkhConfig) : OnlyEarned (.boot config) := by
  intro d p i hstarted
  exact absurd hstarted (by simp [Watched.boot, Live.start, Drive.boot, Slot.started, Slot.clear])

theorem sound_boot (config : MkhConfig) : (Watched.boot config).Sound :=
  ⟨fun _ _ _ _ => rfl, fun _ _ _ _ _ _ _ ctl hlast => by cases hlast⟩

theorem Watched.Sound.step {s : Watched} (h : s.Sound) (step : LiveStep) : (s.step step).Sound := by
  cases step with
  | sweep sw now =>
    refine ⟨fun _ _ _ hfresh => absurd hfresh Bool.false_ne_true, ?_⟩
    intro d p i b _ hb hedge ctl hlast
    have hctl : sw.controller = ctl := Option.some.inj hlast
    rw [Watched.step_live, Live.step_sweep] at hb ⊢
    rw [processMappedInputs_config] at hb
    rw [processMappedInputs_slots, sweptSlots_prevPressed hb hedge, hctl]
  | change c =>
    refine ⟨fun d p i hfresh => ?_, fun d p i b hfresh hb hedge ctl hlast => ?_⟩
    · rw [Watched.change_earned]
      rw [Watched.change_fresh] at hfresh
      rcases Bool.or_eq_true_iff.mp hfresh with hwas | hinstalls
      · rw [h.fresh d p i hwas, Bool.false_and]
      · rw [hinstalls, Bool.not_true, Bool.and_false]
    · rw [Watched.change_fresh] at hfresh
      obtain ⟨hwas, hinstalls⟩ := Bool.or_eq_false_iff.mp hfresh
      obtain ⟨hbinding, hslot⟩ := TableChange.apply_kept s.live hinstalls
      rw [Watched.step_live, Live.step_change] at hb ⊢
      rw [hslot]
      exact h.remembers d p i b hwas (hbinding.symm.trans hb) hedge ctl hlast

/-- An edge that the detector sees is a press, unless the binding came in over an input held down. -/
theorem Watched.Sound.press {s : Watched} (h : s.Sound) {sw : Sweep} {d : Device} {p : Port}
    {i : BindingSlot} {b : Binding} (hb : s.live.config.bindingAt d p i = some b)
    (hedge : pressEdge sw b (s.live.drive.slots d p i) = true)
    (hfresh : s.fresh d p i = true → heldBefore s.last b = false) : s.presses sw d p i = true := by
  obtain ⟨hon, hedge⟩ := Bool.and_eq_true_iff.mp hedge
  obtain ⟨hpressed, hprev⟩ := Bool.and_eq_true_iff.mp hedge
  have hup : heldBefore s.last b = false := by
    cases hnew : s.fresh d p i with
    | true => exact hfresh hnew
    | false =>
      cases hlast : s.last with
      | none => rfl
      | some ctl =>
        rw [h.remembers d p i b hnew hb hon ctl hlast] at hprev
        simpa [heldBefore] using hprev
  simp [Watched.presses, hb, hpressed, hup]

theorem onlyEarned_sweep {s : Watched} (hs : s.Sound) (h : OnlyEarned s) (sw : Sweep)
    (now : SetterClock) :
    OnlyEarned (s.step (.sweep sw now)) ↔ InstallsQuietly s (.sweep sw now) := by
  have hslots : ∀ d p, (s.step (.sweep sw now)).live.drive.slots d p =
      sweptSlots sw (s.live.config.table d p) (s.live.drive.slots d p) := by
    intro d p
    rw [Watched.step_live, Live.step_sweep, processMappedInputs_slots]
  constructor
  · intro hnow d p i b hfresh hb hheld
    by_contra hoff
    have hunearned := hs.fresh d p i hfresh
    have hidle : (s.live.drive.slots d p i).started = false := by
      by_contra hstarted
      rw [h d p i (Bool.not_eq_false _ ▸ hstarted)] at hunearned
      exact absurd hunearned (by decide)
    have hstarted : ((s.step (.sweep sw now)).live.drive.slots d p i).started = true := by
      rw [hslots]
      exact (sweptSlots_started_iff hidle).mpr (Bool.not_eq_false _ ▸ hoff)
    have hearned := hnow d p i hstarted
    rw [Watched.sweep_earned, hunearned, Bool.false_or] at hearned
    simp [Watched.presses, hb, hheld] at hearned
  · intro hquiet d p i hstarted
    rw [Watched.sweep_earned]
    cases hwas : (s.live.drive.slots d p i).started with
    | true => rw [h d p i hwas, Bool.true_or]
    | false =>
      rw [hslots] at hstarted
      have hoff := (sweptSlots_started_iff hwas).mp hstarted
      obtain ⟨b, hb, hsets⟩ := (Option.any_eq_true _ _).mp hoff
      have hpress : s.presses sw d p i = true := by
        refine hs.press hb (Bool.and_eq_true_iff.mp hsets).1 fun hfresh => ?_
        by_contra hheld
        rw [hquiet d p i b hfresh hb (Bool.not_eq_false _ ▸ hheld)] at hoff
        exact absurd hoff Bool.false_ne_true
      rw [hpress, Bool.or_true]

/-- A change leaves what is started earned exactly when it meets the condition. -/
theorem onlyEarned_change {s : Watched} (h : OnlyEarned s) (c : TableChange) :
    OnlyEarned (s.step (.change c)) ↔ InstallsQuietly s (.change c) := by
  by_cases hreload : ∃ files oracle, c = .reload files oracle
  · obtain ⟨files, oracle, rfl⟩ := hreload
    -- The arrays are as they were; what counts is who is in the slots now.
    constructor
    · intro hnow d p i hinstalls
      by_contra hstarted
      have hwas : ((s.step (.change (.reload files oracle))).live.drive.slots d p i).started = true := by
        rw [Watched.step_live]
        exact Bool.not_eq_false _ |>.mp hstarted
      have hearned := hnow d p i hwas
      rw [Watched.change_earned, hinstalls, Bool.not_true, Bool.and_false] at hearned
      exact absurd hearned Bool.false_ne_true
    · intro hidle d p i hstarted
      have hwas : (s.live.drive.slots d p i).started = true := by
        rw [Watched.step_live] at hstarted
        exact hstarted
      have hkeeps : (TableChange.reload files oracle).installs s.live d p i = false := by
        by_contra hinstalls
        have hoff := hidle d p i (by simpa using hinstalls)
        rw [hwas] at hoff
        exact absurd hoff (by decide)
      rw [Watched.change_earned, h d p i hwas, hkeeps]
      rfl
  · have hc : ∀ files oracle, c ≠ .reload files oracle :=
      fun files oracle heq => hreload ⟨files, oracle, heq⟩
    have hmeets : InstallsQuietly s (.change c) := by
      cases c with
      | reload files oracle => exact absurd rfl (hc files oracle)
      | _ => trivial
    refine iff_of_true ?_ hmeets
    intro d p i hstarted
    rw [Watched.step_live, Live.step_change, TableChange.apply_slots s.live hc] at hstarted
    cases hinstalls : c.installs s.live d p i with
    | true =>
      rw [hinstalls, if_pos rfl] at hstarted
      exact absurd hstarted (by decide)
    | false =>
      rw [hinstalls, if_neg Bool.false_ne_true] at hstarted
      rw [Watched.change_earned, h d p i hstarted, hinstalls]
      rfl

theorem onlyEarned_step {s : Watched} (hs : s.Sound) (h : OnlyEarned s) (step : LiveStep) :
    OnlyEarned (s.step step) ↔ InstallsQuietly s step := by
  cases step with
  | sweep sw now => exact onlyEarned_sweep hs h sw now
  | change c => exact onlyEarned_change h c

/-! ### Runs -/

/-- **What is started stays the present binding's own** along exactly the runs whose reloads replace
no binding that has something started, and whose sweeps set off no binding that came in over an input
held down. -/
theorem started_is_earned_iff (config : MkhConfig) (steps : List LiveStep) :
    (∀ front back, steps = front ++ back →
      OnlyEarned (after Watched.step (.boot config) front)) ↔
    Meets Watched.step InstallsQuietly (.boot config) steps := by
  have hboot : (Watched.boot config).Sound ∧ OnlyEarned (.boot config) :=
    ⟨sound_boot config, onlyEarned_boot config⟩
  have hstep : ∀ (s : Watched) step, s.Sound ∧ OnlyEarned s → InstallsQuietly s step →
      (s.step step).Sound ∧ OnlyEarned (s.step step) :=
    fun s step h hok => ⟨h.1.step step, (onlyEarned_step h.1 h.2 step).mpr hok⟩
  have hbreak : ∀ (s : Watched) step, s.Sound ∧ OnlyEarned s → ¬ InstallsQuietly s step →
      ¬ OnlyEarned (s.step step) :=
    fun s step h hnot hnow => hnot ((onlyEarned_step h.1 h.2 step).mp hnow)
  exact always_iff_meets hstep (fun _ h => h.2) hbreak steps _ hboot

/-! ### One latch for another -/

/-- A latch on a button, on port A of hub 1. -/
def latchOn (input : InputSource) : Binding :=
  { input := input, invert := false, maxPercent := 100, mode := .latched }

/-- A session that bound port A of hub 1 to one binding. -/
def boundPortA (b : Binding) : PendingEdits := fun d p =>
  { dirty := d == 0 && p == mkhPortA, slots := fun _ => b, bindingCount := 1, ninth := b }

/-- A file that binds port A of hub 1 to a latch on B. -/
def latchBFiles : Files Path
  | .config => some ("# MK1CONFIG_SCHEMA_VERSION=3\nHUB1_PORT_A = B mode=latched\n".toList)
  | .tmp => none

/-- Button A held, and nothing else. -/
def buttonAReport : ControllerData :=
  { ControllerData.zero with klass := .gamepad, gamepadButtons := 0x0001 }

/-- A latch on A is tried out and switched on, and the file's latch on B comes in its place. -/
def latchReplaced : List LiveStep :=
  [.change (.push (boundPortA (latchOn .btnA))),
    .sweep (sweepOf buttonAReport) fun _ _ => 0,
    .change (.reload latchBFiles fun _ => .ok)]

theorem replaced_latch_stays_on : ¬ ∀ (config : MkhConfig) (steps : List LiveStep),
    OnlyEarned (after Watched.step (.boot config) steps) := by
  intro hall
  have hearned := hall blankConfig latchReplaced 0 mkhPortA 0 (by decide +kernel)
  exact absurd hearned (by decide +kernel)

/-- The new binding drives the port at full power, with nothing pressed since it came. -/
example : (after Live.step (Live.start blankConfig .boot) (latchReplaced ++
    [.sweep (sweepOf (stickReport 0)) fun _ _ => 0])).broadcast.channelValue 0 mkhPortA = 0xFF := by
  decide +kernel

end MK1Tank
