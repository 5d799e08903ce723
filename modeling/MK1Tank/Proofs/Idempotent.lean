/-
A sweep is idempotent.

`loop()` sweeps on every turn, with or without a fresh report, so the same report is
usually swept many times.  The first sweep remembers every level it saw, so the second
sees no press; what the first started or ended it finds started or ended; and a lock that
a sibling put off makes the neutral byte that pass 2 had put in its place.  So the second
sweep sends what the first sent, and leaves every slot as it is.
-/
import MK1Tank.Proofs.HeadingLock

namespace MK1Tank

/-! ### One binding, twice -/

/-- Two sweeps with the same report, frame number, heading, gyro and tunables. -/
structure SameReading (sw sw' : Sweep) : Prop where
  controller : sw'.controller = sw.controller
  currentFrame : sw'.currentFrame = sw.currentFrame
  headingDeg : sw'.headingDeg = sw.headingDeg
  imuReady : sw'.imuReady = sw.imuReady
  tuning : sw'.tuning = sw.tuning

/-- The millisecond counter has no part in a pass but for the frame number. -/
theorem bindingPass_sameReading {sw sw' : Sweep} (h : SameReading sw sw') (b : Binding)
    (slot : Slot) : bindingPass sw' b slot = bindingPass sw b slot := by
  obtain ⟨controller, millis, heading, imuReady, tuning⟩ := sw
  obtain ⟨controller', millis', heading', imuReady', tuning'⟩ := sw'
  obtain ⟨rfl, hframe, rfl, rfl, rfl⟩ := h
  unfold bindingPass
  rw [hframe]
  rfl

theorem latchPass_again (slot : Slot) (pressed : Bool) :
    latchPass (latchPass slot pressed).slot pressed = latchPass slot pressed := by
  simp [latchPass]

theorem pulseArm_again {slot : Slot} {pressed : Bool} (h : slot.pulsePrevPressed = pressed)
    (frame : UInt32) : pulseArm slot pressed frame = slot := by
  subst h
  simp [pulseArm]

theorem pulseBegin_again {slot : Slot} {frame : UInt32}
    (h : slot.pulseArmed = true → frame = slot.pulseArmedFrame) : pulseBegin slot frame = slot := by
  refine if_neg fun hbegins => ?_
  obtain ⟨harmed, hlater⟩ := Bool.and_eq_true_iff.mp hbegins
  exact absurd (h harmed) (bne_iff_ne.mp hlater)

theorem pulseEnd_again {slot : Slot} {frame : UInt32}
    (h : slot.pulseActive = true → ¬ frame ≥ slot.pulseStartFrame + mkhPulseFrames) :
    pulseEnd slot frame = slot := by
  refine if_neg fun hends => ?_
  obtain ⟨hactive, hover⟩ := Bool.and_eq_true_iff.mp hends
  exact h hactive (of_decide_eq_true hover)

/-- What is still armed after the boundary was armed in this very frame. -/
theorem pulseBegin_armed {slot : Slot} {frame : UInt32}
    (h : (pulseBegin slot frame).pulseArmed = true) :
    frame = (pulseBegin slot frame).pulseArmedFrame := by
  unfold pulseBegin at h ⊢
  split at h
  · cases h
  · rename_i hnot
    rw [if_neg hnot]
    by_contra hlater
    exact hnot (Bool.and_eq_true_iff.mpr ⟨h, bne_iff_ne.mpr hlater⟩)

/-- What still runs after the end test has not run out. -/
theorem pulseEnd_active {slot : Slot} {frame : UInt32}
    (h : (pulseEnd slot frame).pulseActive = true) :
    ¬ frame ≥ (pulseEnd slot frame).pulseStartFrame + mkhPulseFrames := by
  unfold pulseEnd at h ⊢
  split at h
  · cases h
  · rename_i hnot
    rw [if_neg hnot]
    exact fun hover => hnot (Bool.and_eq_true_iff.mpr ⟨h, decide_eq_true hover⟩)

theorem pulseEnd_armedFrame (slot : Slot) (frame : UInt32) :
    (pulseEnd slot frame).pulseArmedFrame = slot.pulseArmedFrame := by
  unfold pulseEnd
  split <;> rfl

theorem pulsePass_again (slot : Slot) (pressed : Bool) (frame : UInt32) :
    pulsePass (pulsePass slot pressed frame).slot pressed frame = pulsePass slot pressed frame := by
  have hslot : (pulsePass (pulsePass slot pressed frame).slot pressed frame).slot =
      (pulsePass slot pressed frame).slot := by
    have hprev := (pulsePass_spec slot pressed frame).2.1
    rw [pulsePass_slot (pulsePass slot pressed frame).slot, pulseArm_again hprev]
    rw [pulsePass_slot]
    have harmed : (pulseEnd (pulseBegin (pulseArm slot pressed frame) frame) frame).pulseArmed = true →
        frame = (pulseEnd (pulseBegin (pulseArm slot pressed frame) frame) frame).pulseArmedFrame := by
      intro h
      rw [(pulseEnd_spec _ _).2.2] at h
      rw [pulseEnd_armedFrame]
      exact pulseBegin_armed h
    rw [pulseBegin_again harmed, pulseEnd_again pulseEnd_active]
  have hpass : ∀ slot' : Slot, pulsePass slot' pressed frame =
      { slot := (pulsePass slot' pressed frame).slot
        rawByte := levelByte (pulsePass slot' pressed frame).slot.pulseActive
        thlStatus := none } := fun _ => rfl
  rw [hpass, hslot]
  rfl

/-- A press that was seen is not seen again. -/
theorem thlToggle_again (slot : Slot) (pressed : Bool) (sw : Sweep) :
    thlToggle (thlToggle slot pressed sw) pressed sw = thlToggle slot pressed sw := by
  have hprev : (thlToggle slot pressed sw).thlPrevPressed = pressed := by
    unfold thlToggle
    simp only
    split
    · split
      · rfl
      · split <;> rfl
    · rfl
  generalize thlToggle slot pressed sw = slot' at hprev
  subst hprev
  simp [thlToggle]

theorem thlPass_again (slot : Slot) (pressed : Bool) (sw : Sweep) :
    thlPass (thlPass slot pressed sw).slot pressed sw = thlPass slot pressed sw := by
  rw [thlPass_slot]
  unfold thlPass
  rw [thlToggle_again]

/-- **A binding's turn, taken twice, is taken once.** -/
theorem bindingPass_again (sw : Sweep) (b : Binding) (slot : Slot) :
    bindingPass sw b (bindingPass sw b slot).slot = bindingPass sw b slot := by
  cases hon : b.onEdge with
  | false => rw [bindingPass_slot_of_level hon]
  | true =>
    rw [bindingPass_of_onEdge hon, bindingPass_of_onEdge hon]
    cases b.mode with
    | latched => exact latchPass_again _ _
    | pulse => exact pulsePass_again _ _ _
    | thl => exact thlPass_again _ _ _
    | proportional => exact thlPass_again _ _ _
    | momentary => exact thlPass_again _ _ _

/-! ### One port, twice -/

/-- At most one lock on the port, and none on a stick axis. -/
structure LocksFit (cfg : PortConfig) : Prop where
  single : cfg.OneLock
  input : ∀ b ∈ cfg.bindings, b.mode = .thl → mkhConfigInputClass b.input ≠ .axis

instance (cfg : PortConfig) : Decidable (LocksFit cfg) :=
  decidable_of_iff (cfg.OneLock ∧
      ∀ b ∈ cfg.bindings, b.mode = .thl → mkhConfigInputClass b.input ≠ .axis)
    ⟨fun h => ⟨h.1, h.2⟩, fun h => ⟨h.single, h.input⟩⟩

theorem LocksFit.cases {cfg : PortConfig} (h : LocksFit cfg) :
    (∃ lock b, OnlyLock cfg lock b) ∨
      ∀ i b, cfg.bindingIn i = some b → b.mode ≠ .thl := by
  by_cases hlock : ∃ lock b, cfg.bindingIn lock = some b ∧ b.mode = .thl
  · obtain ⟨lock, b, hb, hmode⟩ := hlock
    refine Or.inl ⟨lock, b, hb, hmode, h.input b (List.mem_of_getElem? hb) hmode, ?_⟩
    exact fun j b' hb' hmode' => h.single j lock (PortConfig.isLock_of_bound hb' hmode')
      (PortConfig.isLock_of_bound hb hmode)
  · exact Or.inr fun i b hb hmode => hlock ⟨i, b, hb, hmode⟩

section Port

variable {sw : Sweep} {cfg : PortConfig} {slots : PortSlots}

/-- The status a port's passes leave. -/
def publishedStatus (sw : Sweep) (cfg : PortConfig) (slots : PortSlots) (status : ThlStatus) :
    ThlStatus := (portPass sw cfg slots status).thlStatus

theorem publishedStatus_eq (sw : Sweep) (cfg : PortConfig) (slots : PortSlots)
    (status : ThlStatus) :
    publishedStatus sw cfg slots status =
      match heldLock sw cfg slots with
      | none => (bindingsPass sw cfg slots status).thlStatus
      | some lock =>
        if overridden sw.tuning cfg (passedBytes sw cfg slots) lock then
          { state := .off, errorDeg := 0, outputPct := 0 }
        else (bindingsPass sw cfg slots status).thlStatus := by
  have hlock : heldLock sw cfg slots =
      engagedLock cfg (bindingsPass sw cfg slots status).slots := (engagedLock_eq _ _).symm
  unfold publishedStatus portPass overridePass
  rw [hlock]
  cases engagedLock cfg (bindingsPass sw cfg slots status).slots with
  | none => rfl
  | some lock =>
    simp only
    split
    · rename_i hany
      rw [if_pos]
      exact hany
    · rename_i hnot
      rw [if_neg]
      exact hnot

/-- A port passed over a second time, with the slots the first time left. -/
structure PassedAgain (sw : Sweep) (cfg : PortConfig) (slots : PortSlots) : Prop where
  settled : sweptSlots sw cfg (sweptSlots sw cfg slots) = sweptSlots sw cfg slots
  bytes : sweptBytes sw cfg (sweptSlots sw cfg slots) = sweptBytes sw cfg slots
  /-- A lock was engaged with the gyro ready. -/
  status : (∀ i, (slots i).thlEngaged = true → sw.imuReady = true) → ∀ status,
    publishedStatus sw cfg (sweptSlots sw cfg slots) status = publishedStatus sw cfg slots status

/-- Pass 1 over the slots it left. -/
theorem bindingsPass_again (sw : Sweep) (cfg : PortConfig) (slots : PortSlots) (status : ThlStatus) :
    bindingsPass sw cfg (passedSlot sw cfg slots) status = bindingsPass sw cfg slots status := by
  have hagain : ∀ i b, cfg.bindingIn i = some b →
      bindingPass sw b (passedSlot sw cfg slots i) = bindingPass sw b (slots i) := by
    intro i b hb
    rw [passedSlot_of_bound hb, bindingPass_again]
  unfold bindingsPass
  congr 1
  · funext i
    change passedSlot sw cfg (passedSlot sw cfg slots) i = passedSlot sw cfg slots i
    cases hb : cfg.bindingIn i with
    | none => rw [passedSlot_apply sw cfg (passedSlot sw cfg slots), hb]
    | some b =>
      have hslot := congrArg BindingPass.slot (hagain i b hb)
      exact (passedSlot_of_bound hb).trans (hslot.trans (passedSlot_of_bound hb).symm)
  · funext i
    change passedBytes sw cfg (passedSlot sw cfg slots) i = passedBytes sw cfg slots i
    rw [passedBytes_apply, passedBytes_apply]
    cases hb : cfg.bindingIn i with
    | none => rfl
    | some b => simp only [hagain i b hb]
  · refine List.foldl_ext _ _ _ fun status entry hentry => ?_
    obtain ⟨i, -, hmap⟩ := List.mem_filterMap.mp hentry
    obtain ⟨b, hb, rfl⟩ := Option.map_eq_some_iff.mp hmap
    rw [hagain i b hb]

/-- Where pass 2 put off no lock, everything is the same again. -/
theorem passedAgain_of_kept (h : sweptSlots sw cfg slots = passedSlot sw cfg slots) :
    PassedAgain sw cfg slots := by
  have hpass : ∀ status, portPass sw cfg (sweptSlots sw cfg slots) status =
      portPass sw cfg slots status := by
    intro status
    rw [portPass, h, bindingsPass_again]
    rfl
  exact ⟨congrArg PortPass.slots (hpass .boot), congrArg PortPass.rawBytes (hpass .boot),
    fun _ status => congrArg PortPass.thlStatus (hpass status)⟩

/-- Only a lock publishes. -/
theorem bindingPass_silent {b : Binding} (h : b.mode ≠ .thl) (sw : Sweep) (slot : Slot) :
    (bindingPass sw b slot).thlStatus = none := by
  unfold bindingPass
  split
  · rfl
  · split
    · rfl
    · cases hmode : b.mode with
      | thl => exact absurd hmode h
      | latched => rfl
      | pulse => rfl
      | proportional => rfl
      | momentary => rfl

section Lock

variable {lock : BindingSlot} {b : Binding}

theorem OnlyLock.onEdge (h : OnlyLock cfg lock b) : b.onEdge = true := by
  simp [Binding.onEdge, h.input, h.mode]

theorem OnlyLock.bindingPass (h : OnlyLock cfg lock b) (sw : Sweep) (slot : Slot) :
    MK1Tank.bindingPass sw b slot = thlPass slot (pressedLevel sw.controller b.input) sw := by
  rw [bindingPass_of_onEdge h.onEdge, h.mode]

/-- A port with one lock publishes what the lock does. -/
theorem OnlyLock.published (h : OnlyLock cfg lock b) {v : ThlStatus}
    (hv : (MK1Tank.bindingPass sw b (slots lock)).thlStatus = some v) (status : ThlStatus) :
    (bindingsPass sw cfg slots status).thlStatus = v := by
  have hmem : (lock, b) ∈ cfg.boundSlots :=
    List.mem_filterMap.mpr ⟨lock, BindingSlot.mem_all lock, Option.map_eq_some_iff.mpr ⟨b, h.bound, rfl⟩⟩
  have hsilent : ∀ entry ∈ cfg.boundSlots, entry ≠ (lock, b) →
      (MK1Tank.bindingPass sw entry.2 (slots entry.1)).thlStatus = none := by
    intro entry hentry hne
    obtain ⟨i, -, hmap⟩ := List.mem_filterMap.mp hentry
    obtain ⟨b', hb', rfl⟩ := Option.map_eq_some_iff.mp hmap
    refine bindingPass_silent (fun hmode => hne ?_) sw (slots i)
    obtain rfl := h.only i b' hb' hmode
    obtain rfl : b' = b := Option.some.inj (hb'.symm.trans h.bound)
    rfl
  show cfg.boundSlots.foldl _ status = v
  generalize cfg.boundSlots = entries at hmem hsilent
  -- Once the lock has published, the rest of the loop leaves it so.
  have hrest : ∀ (entries : List (BindingSlot × Binding)) (status : ThlStatus),
      (∀ entry ∈ entries, entry ≠ (lock, b) →
        (MK1Tank.bindingPass sw entry.2 (slots entry.1)).thlStatus = none) →
      status = v ∨ (lock, b) ∈ entries →
      entries.foldl (fun status entry =>
        (MK1Tank.bindingPass sw entry.2 (slots entry.1)).thlStatus.getD status) status = v := by
    intro entries
    induction entries with
    | nil =>
      intro status _ h
      exact h.resolve_right List.not_mem_nil
    | cons entry rest ih =>
      intro status hsilent h
      rw [List.foldl_cons]
      refine ih _ (fun e he => hsilent e (List.mem_cons_of_mem entry he)) ?_
      by_cases hlock : entry = (lock, b)
      · rw [hlock, hv]
        exact Or.inl rfl
      · rw [hsilent entry List.mem_cons_self hlock]
        exact h.imp id fun hmem => (List.mem_cons.mp hmem).resolve_left (Ne.symm hlock)
  exact hrest entries status hsilent (Or.inr hmem)

/-- A lock that was put off stays off and makes the neutral byte. -/
theorem OnlyLock.putOff_again (h : OnlyLock cfg lock b)
    (hoff : sweptSlots sw cfg slots lock = { passedSlot sw cfg slots lock with thlEngaged := false }) :
    MK1Tank.bindingPass sw b (sweptSlots sw cfg slots lock) =
      { slot := sweptSlots sw cfg slots lock
        rawByte := neutral
        thlStatus := some
          { state := if sw.imuReady then .off else .calibratingBlocked, errorDeg := 0, outputPct := 0 } } := by
  have hprev : (sweptSlots sw cfg slots lock).thlPrevPressed = pressedLevel sw.controller b.input := by
    have hmemory := bindingPass_prevPressed h.onEdge sw (slots lock)
    rw [h.mode] at hmemory
    rw [hoff, passedSlot_of_bound h.bound]
    exact hmemory
  have hrests : thlToggle (sweptSlots sw cfg slots lock) (pressedLevel sw.controller b.input) sw =
      sweptSlots sw cfg slots lock := by
    generalize sweptSlots sw cfg slots lock = slot at hprev
    rw [← hprev]
    simp [thlToggle]
  have hdisengaged : (sweptSlots sw cfg slots lock).thlEngaged = false := by
    rw [hoff]
  rw [h.bindingPass]
  simp [thlPass, hrests, hdisengaged]

theorem thlToggle_refused {slot : Slot} (hoff : slot.thlEngaged = false)
    (hgyro : sw.imuReady = false) (pressed : Bool) :
    (thlToggle slot pressed sw).thlEngaged = false := by
  cases hedge : pressed && !slot.thlPrevPressed with
  | true => simp [thlToggle, hedge, hoff, hgyro]
  | false => simp [thlToggle, hedge, hoff]

/-- What engages does so with the gyro ready. -/
theorem OnlyLock.ready (h : OnlyLock cfg lock b)
    (hready : ∀ i, (slots i).thlEngaged = true → sw.imuReady = true)
    (hon : (passedSlot sw cfg slots lock).thlEngaged = true) : sw.imuReady = true := by
  cases hwas : (slots lock).thlEngaged with
  | true => exact hready lock hwas
  | false =>
    cases hgyro : sw.imuReady with
    | true => rfl
    | false =>
      rw [h.passedSlot_lock, thlToggle_refused hwas hgyro] at hon
      cases hon

/-- Where pass 2 put the lock off, it is off and neutral the second time. -/
theorem OnlyLock.passedAgain_overridden (h : OnlyLock cfg lock b)
    (hon : (passedSlot sw cfg slots lock).thlEngaged = true)
    (hover : overridden sw.tuning cfg (passedBytes sw cfg slots) lock = true)
    (hslots : sweptSlots sw cfg slots = Function.update (passedSlot sw cfg slots) lock
      { passedSlot sw cfg slots lock with thlEngaged := false })
    (hbytes : sweptBytes sw cfg slots = Function.update (passedBytes sw cfg slots) lock neutral) :
    PassedAgain sw cfg slots := by
  have hlock := h.putOff_again (by rw [hslots, Function.update_self])
  have hagain : passedSlot sw cfg (sweptSlots sw cfg slots) = sweptSlots sw cfg slots := by
    funext i
    by_cases hi : i = lock
    · rw [hi, passedSlot_of_bound h.bound, hlock]
    · have hsame : sweptSlots sw cfg slots i = passedSlot sw cfg slots i := by
        rw [hslots, Function.update_of_ne hi]
      rw [hsame, passedSlot_apply, hsame, passedSlot_apply]
      cases cfg.bindingIn i with
      | none => rfl
      | some b' => exact congrArg BindingPass.slot (bindingPass_again sw b' (slots i))
  have hbytes' : passedBytes sw cfg (sweptSlots sw cfg slots) = sweptBytes sw cfg slots := by
    funext i
    rw [hbytes, passedBytes_apply]
    by_cases hi : i = lock
    · rw [hi, Function.update_self, h.bound]
      exact congrArg BindingPass.rawByte hlock
    · rw [Function.update_of_ne hi, passedBytes_apply, hslots, Function.update_of_ne hi,
        passedSlot_apply]
      cases cfg.bindingIn i with
      | none => rfl
      | some b' => exact congrArg BindingPass.rawByte (bindingPass_again sw b' (slots i))
  have hoff : (passedSlot sw cfg (sweptSlots sw cfg slots) lock).thlEngaged = false := by
    rw [hagain, hslots, Function.update_self]
  have hheld : heldLock sw cfg (sweptSlots sw cfg slots) = none := by
    rw [h.heldLock_eq, hoff]
    rfl
  refine ⟨?_, ?_, fun hready status => ?_⟩
  · rw [sweptSlots, portPass_eq, hheld]
    exact hagain
  · rw [sweptBytes, portPass_eq, hheld]
    exact hbytes'
  · rw [publishedStatus_eq, publishedStatus_eq, hheld, h.heldLock_eq, if_pos hon]
    simp only [hover, if_true]
    refine h.published ?_ status
    rw [hlock, h.ready hready hon]
    rfl

end Lock

/-- **A port's passes, made twice, are made once.** -/
theorem LocksFit.passedAgain (h : LocksFit cfg) (sw : Sweep) (slots : PortSlots) :
    PassedAgain sw cfg slots := by
  rcases h.cases with ⟨lock, b, honly⟩ | hnone
  · rcases honly.sweep_cases sw slots with ⟨-, hslots, -⟩ | ⟨hon, hover, hslots, hbytes⟩ |
      ⟨-, -, hslots, -⟩
    · exact passedAgain_of_kept hslots
    · exact honly.passedAgain_overridden hon hover hslots hbytes
    · exact passedAgain_of_kept hslots
  · refine passedAgain_of_kept ?_
    rw [sweptSlots, portPass_eq, heldLock_of_no_lock hnone]
    rfl

theorem LocksFit.sweptByte_again (h : LocksFit cfg) (sw : Sweep) (slots : PortSlots) :
    sweptByte sw cfg (sweptSlots sw cfg slots) = sweptByte sw cfg slots := by
  rw [sweptByte_eq, sweptByte_eq, (h.passedAgain sw slots).bytes]

end Port

/-! ### The sweep, twice -/

/-- The status that a port's turn leaves. -/
def sweptStatus (sw : Sweep) (cfg : PortConfig) (slots : PortSlots) (status : ThlStatus) :
    ThlStatus :=
  if cfg.bindings = [] then status else publishedStatus sw cfg slots status

/-- The status a sweep leaves is what the ports publish, one after the other. -/
theorem processMappedInputs_status (sw : Sweep) (now : SetterClock) (s : Live) :
    (processMappedInputs sw now s).drive.thlStatus =
      allPorts.foldl (fun status cell => sweptStatus sw (s.config.table cell.1 cell.2)
        (s.drive.slots cell.1 cell.2) status) s.drive.thlStatus := by
  unfold processMappedInputs forEachPort
  have hkeep : ∀ (s' : Live) (cell : Device × Port), s'.config = s.config →
      (sweepPort sw now s' cell.1 cell.2).config = s.config :=
    fun s' cell hs' => (sweepPort_config sw now s' cell.1 cell.2).trans hs'
  refine ForEach.foldl_register (fun (s : Live) cell => s.drive.slots cell.1 cell.2)
    (·.drive.thlStatus)
    (fun cell slots status => sweptStatus sw (s.config.table cell.1 cell.2) slots status) hkeep ?_ ?_
    allPorts allPorts_nodup s rfl
  · intro s' cell cell' _ hne
    rw [sweepPort_slots, if_neg fun h => hne (Prod.ext h.1.1 h.1.2)]
  · intro s' cell hs'
    unfold sweptStatus
    rw [← hs']
    by_cases hnone : (s'.config.table cell.1 cell.2).bindings = []
    · rw [sweepPort_unbound hnone, if_pos hnone]
    · rw [sweepPort_bound hnone, if_neg hnone]
      rfl

/-- A step of the status either leaves it or forgets what it was. -/
def Publishes (f : ThlStatus → ThlStatus) : Prop := (∀ status, f status = status) ∨
  ∃ v, ∀ status, f status = v

theorem Publishes.comp {f g : ThlStatus → ThlStatus} (hf : Publishes f) (hg : Publishes g) :
    Publishes (g ∘ f) := by
  rcases hg with hg | ⟨v, hg⟩
  · rcases hf with hf | ⟨v, hf⟩
    · exact Or.inl fun status => (hg _).trans (hf status)
    · exact Or.inr ⟨v, fun status => (hg _).trans (hf status)⟩
  · exact Or.inr ⟨v, fun status => hg _⟩

theorem Publishes.foldl {α : Type} {f : ThlStatus → α → ThlStatus} (keys : List α)
    (h : ∀ k, Publishes (f · k)) : Publishes fun status => keys.foldl f status := by
  induction keys with
  | nil => exact Or.inl fun _ => rfl
  | cons k rest ih => exact (h k).comp ih

theorem Publishes.again {f : ThlStatus → ThlStatus} (h : Publishes f) (status : ThlStatus) :
    f (f status) = f status := by
  rcases h with hkeep | ⟨v, hforget⟩
  · exact hkeep _
  · rw [hforget, hforget]

theorem publishes_sweptStatus (sw : Sweep) (cfg : PortConfig) (slots : PortSlots) :
    Publishes (sweptStatus sw cfg slots) := by
  have hbindings : Publishes fun status => (bindingsPass sw cfg slots status).thlStatus := by
    refine Publishes.foldl cfg.boundSlots fun entry => ?_
    cases (bindingPass sw entry.2 (slots entry.1)).thlStatus with
    | none => exact Or.inl fun _ => rfl
    | some v => exact Or.inr ⟨v, fun _ => rfl⟩
  have heq := funext (publishedStatus_eq sw cfg slots)
  unfold sweptStatus
  split
  · exact Or.inl fun _ => rfl
  · change Publishes (publishedStatus sw cfg slots)
    rw [heq]
    cases heldLock sw cfg slots with
    | none => exact hbindings
    | some lock =>
      simp only
      split
      · exact Or.inr ⟨_, fun _ => rfl⟩
      · exact hbindings

/-- The setter does nothing with the value that is there. -/
theorem mkhSetChannel_same {s : Broadcast} {d : Device} {p : Port} {value : UInt8}
    (h : s.channelValue d p = value) (now : Int) :
    mkhSetChannel s d.val p.val value now = s := by
  have hstore : storeChannel s d p value = s := by
    rw [storeChannel, ← h, Function.update_eq_self, Function.update_eq_self]
  simp only [mkhSetChannel, Device.ofId?_coe, Port.ofIndex?_coe, hstore, h]
  exact if_neg fun hchanged => hchanged.1 rfl

/-- A sweep over slots and channels that it would leave as they are. -/
theorem processMappedInputs_settled {sw : Sweep} {s : Live}
    (hslots : ∀ d p, sweptSlots sw (s.config.table d p) (s.drive.slots d p) = s.drive.slots d p)
    (hchannel : ∀ d p, (s.config.table d p).bindings ≠ [] →
      s.broadcast.channelValue d p = sweptByte sw (s.config.table d p) (s.drive.slots d p))
    (now : SetterClock) :
    (processMappedInputs sw now s).broadcast = s.broadcast ∧
      (processMappedInputs sw now s).drive.slots = s.drive.slots := by
  unfold processMappedInputs
  have hkeep : ∀ (s' : Live) (d : Device) (p : Port),
      s'.config = s.config ∧ s'.broadcast = s.broadcast ∧ s'.drive.slots = s.drive.slots →
      (sweepPort sw now s' d p).config = s.config ∧
        (sweepPort sw now s' d p).broadcast = s.broadcast ∧
        (sweepPort sw now s' d p).drive.slots = s.drive.slots := by
    intro s' d p ⟨hconfig, hbroadcast, hdrive⟩
    refine ⟨(sweepPort_config sw now s' d p).trans hconfig, ?_, ?_⟩
    · by_cases hnone : (s'.config.table d p).bindings = []
      · rw [sweepPort_unbound hnone, hbroadcast]
      · rw [sweepPort_bound hnone, (portPass_status _ _ _ _).2]
        show mkhSetChannel s'.broadcast d.val p.val _ _ = _
        rw [hbroadcast, hdrive]
        rw [hconfig] at hnone ⊢
        exact mkhSetChannel_same (hchannel d p hnone) _
    · funext d' p'
      rw [sweepPort_slots]
      split
      · rename_i hat
        rw [hconfig, hdrive, hslots, hat.1.1, hat.1.2]
      · rw [hdrive]
  exact (forEachPort_keeps hkeep ⟨rfl, rfl, rfl⟩).2

theorem processMappedInputs_sameReading {sw sw' : Sweep} (h : SameReading sw sw') :
    processMappedInputs sw' = processMappedInputs sw := by
  have hpass : ∀ cfg slots status, portPass sw' cfg slots status = portPass sw cfg slots status := by
    intro cfg slots status
    unfold portPass bindingsPass
    simp only [bindingPass_sameReading h, h.tuning]
  funext now s
  unfold processMappedInputs sweepPort
  simp only [hpass]

/-- **A sweep is idempotent.**  On a table with at most one lock a port, and none on a stick axis, a
second sweep with the same reading leaves the broadcaster, channels and all, and every slot as the
first left them; and the published status too, where locks were engaged with the gyro ready. -/
theorem sweep_idempotent (s : Live) (hlocks : ∀ d p, LocksFit (s.config.table d p))
    (sw sw' : Sweep) (hsame : SameReading sw sw') (now now' : SetterClock) :
    let once := processMappedInputs sw now s
    let twice := processMappedInputs sw' now' once
    twice.broadcast = once.broadcast ∧
    twice.drive.slots = once.drive.slots ∧
    ((∀ d p i, (s.drive.slots d p i).thlEngaged = true → sw.imuReady = true) →
      twice.drive.thlStatus = once.drive.thlStatus) := by
  have hconfig := processMappedInputs_config sw now s
  have hslots := processMappedInputs_slots sw now s
  have hchannel := processMappedInputs_channel sw now s
  have hstatus := processMappedInputs_status sw now s
  simp only [processMappedInputs_sameReading hsame]
  generalize processMappedInputs sw now s = once at hconfig hslots hchannel hstatus
  have hagain := fun d p => (hlocks d p).passedAgain sw (s.drive.slots d p)
  have hsettled : ∀ d p, sweptSlots sw (once.config.table d p) (once.drive.slots d p) =
      once.drive.slots d p := by
    intro d p
    rw [hconfig, hslots, (hagain d p).settled]
  have hsent : ∀ d p, (once.config.table d p).bindings ≠ [] → once.broadcast.channelValue d p =
      sweptByte sw (once.config.table d p) (once.drive.slots d p) := by
    intro d p hbound
    rw [hconfig] at hbound ⊢
    rw [hslots, (hlocks d p).sweptByte_again, hchannel, if_neg hbound]
  obtain ⟨hbroadcast, hdrive⟩ := processMappedInputs_settled hsettled hsent now'
  refine ⟨hbroadcast, hdrive, fun hready => ?_⟩
  have hports : ∀ status (cell : Device × Port),
      sweptStatus sw (once.config.table cell.1 cell.2) (once.drive.slots cell.1 cell.2) status =
        sweptStatus sw (s.config.table cell.1 cell.2) (s.drive.slots cell.1 cell.2) status := by
    intro status cell
    unfold sweptStatus
    rw [hconfig, hslots, (hagain cell.1 cell.2).status (hready cell.1 cell.2)]
  rw [processMappedInputs_status]
  simp only [hports]
  rw [hstatus]
  exact (Publishes.foldl allPorts fun cell => publishes_sweptStatus sw _ _).again _

/-- The lock is engaged and the stick is pushed; the sweep puts the lock off, and goes on so for as
long as the stick stays. -/
theorem sweep_idempotent_stick :
    let s := (Runs.after LockWatch.step (.boot blankConfig) lockEngaged).live
    let once := processMappedInputs (sweepOf (stickReport (-512))) (fun _ _ => 0) s
    (processMappedInputs { sweepOf (stickReport (-512)) with millis := 40 } (fun _ _ => 0)
      once).drive.slots = once.drive.slots :=
  (sweep_idempotent (Runs.after LockWatch.step (.boot blankConfig) lockEngaged).live
    (by decide +kernel) (sweepOf (stickReport (-512)))
    { sweepOf (stickReport (-512)) with millis := 40 } ⟨rfl, by decide, rfl, rfl, rfl⟩ (fun _ _ => 0)
    fun _ _ => 0).2.1

end MK1Tank
