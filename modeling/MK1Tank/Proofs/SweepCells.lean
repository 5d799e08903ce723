/-
A sweep, port by port and slot by slot.

Each port's passes read the port's own bindings and arrays and the sweep's report, and
nothing another port wrote.  So what a sweep leaves in a slot, and what it sends to a
port, are functions of that port's cell alone; and in a slot only an edge of its own
binding can start something.
-/
import MK1Tank.Proofs.Sweep

namespace MK1Tank

/-! ### The cells of a sweep -/

/-- A port's arrays after a sweep. -/
def sweptSlots (sw : Sweep) (cfg : PortConfig) (slots : PortSlots) : PortSlots :=
  (portPass sw cfg slots .boot).slots

/-- The byte a sweep sends to a port. -/
def sweptByte (sw : Sweep) (cfg : PortConfig) (slots : PortSlots) : UInt8 :=
  portByte cfg (portPass sw cfg slots .boot).rawBytes

/-- The published status has no part in the passes. -/
theorem portPass_status (sw : Sweep) (cfg : PortConfig) (slots : PortSlots) (status : ThlStatus) :
    (portPass sw cfg slots status).slots = sweptSlots sw cfg slots ∧
      portByte cfg (portPass sw cfg slots status).rawBytes = sweptByte sw cfg slots := by
  unfold sweptSlots sweptByte portPass overridePass
  have hslots : (bindingsPass sw cfg slots status).slots = (bindingsPass sw cfg slots .boot).slots :=
    rfl
  rw [hslots]
  cases engagedLock cfg (bindingsPass sw cfg slots .boot).slots with
  | none => exact ⟨rfl, rfl⟩
  | some lock =>
    have hraw : (bindingsPass sw cfg slots status).rawBytes =
        (bindingsPass sw cfg slots .boot).rawBytes := rfl
    simp only [hraw]
    split <;> exact ⟨rfl, rfl⟩

theorem sweepPort_slots (sw : Sweep) (now : SetterClock) (s : Live) (d d' : Device) (p p' : Port) :
    (sweepPort sw now s d p).drive.slots d' p' =
      if (d' = d ∧ p' = p) ∧ (s.config.table d p).bindings ≠ [] then
        sweptSlots sw (s.config.table d p) (s.drive.slots d p)
      else s.drive.slots d' p' := by
  by_cases hnone : (s.config.table d p).bindings = []
  · rw [sweepPort_unbound hnone, if_neg fun h => h.2 hnone]
  · rw [sweepPort_bound hnone, Live.setChannel_drive, Live.storePass_slots, (portPass_status _ _ _ _).1]
    simp only [ne_eq, hnone, not_false_eq_true, and_true]

/-- With no binding there is nothing to pass over. -/
theorem sweptSlots_unbound {cfg : PortConfig} (h : cfg.bindings = []) (sw : Sweep)
    (slots : PortSlots) : sweptSlots sw cfg slots = slots := by
  have hbound : cfg.boundSlots = [] := by
    unfold PortConfig.boundSlots
    rw [List.filterMap_eq_nil_iff]
    intro i _
    simp [h]
  have hpass : (bindingsPass sw cfg slots .boot).slots = slots := by
    funext i
    simp [bindingsPass, h]
  unfold sweptSlots portPass overridePass engagedLock
  rw [hbound, hpass]
  exact hpass

theorem sweepPort_channelValue (sw : Sweep) (now : SetterClock) (s : Live) (d d' : Device)
    (p p' : Port) :
    (sweepPort sw now s d p).broadcast.channelValue d' p' =
      if (d' = d ∧ p' = p) ∧ (s.config.table d p).bindings ≠ [] then
        sweptByte sw (s.config.table d p) (s.drive.slots d p)
      else s.broadcast.channelValue d' p' := by
  by_cases hnone : (s.config.table d p).bindings = []
  · rw [sweepPort_unbound hnone, if_neg fun h => h.2 hnone]
  · rw [sweepPort_bound hnone, Live.setChannel_apply, (portPass_status _ _ _ _).2]
    simp only [ne_eq, hnone, not_false_eq_true, and_true, Live.storePass_broadcast]

/-- A port's arrays and its channel, which its turn in the sweep rewrites together. -/
def Live.cell (s : Live) (d : Device) (p : Port) : PortSlots × UInt8 :=
  (s.drive.slots d p, s.broadcast.channelValue d p)

theorem Live.cell_slots (s : Live) (d : Device) (p : Port) : (s.cell d p).1 = s.drive.slots d p := rfl

theorem Live.cell_channel (s : Live) (d : Device) (p : Port) :
    (s.cell d p).2 = s.broadcast.channelValue d p := rfl

/-- A port's turn. -/
def sweptCell (sw : Sweep) (cfg : PortConfig) (cell : PortSlots × UInt8) : PortSlots × UInt8 :=
  (sweptSlots sw cfg cell.1, if cfg.bindings = [] then cell.2 else sweptByte sw cfg cell.1)

/-- **A sweep rewrites every port's cell by itself.** -/
theorem processMappedInputs_cell (sw : Sweep) (now : SetterClock) (s : Live) (d : Device)
    (p : Port) :
    (processMappedInputs sw now s).cell d p = sweptCell sw (s.config.table d p) (s.cell d p) := by
  unfold processMappedInputs
  have hkeep : ∀ (s' : Live) (d : Device) (p : Port), s'.config = s.config →
      (sweepPort sw now s' d p).config = s.config :=
    fun s' d p hs' => (sweepPort_config sw now s' d p).trans hs'
  refine forEachPort_cell_of_keep Live.cell (fun d p cell => sweptCell sw (s.config.table d p) cell)
    hkeep ?_ ?_ rfl d p
  · intro s' d p hs'
    unfold Live.cell sweptCell
    rw [sweepPort_slots, sweepPort_channelValue, hs']
    by_cases hnone : (s.config.table d p).bindings = []
    · simp [hnone, sweptSlots_unbound hnone]
    · simp [hnone]
  · intro s' d p d' p' _ hne
    unfold Live.cell
    rw [sweepPort_slots, sweepPort_channelValue, if_neg fun h => hne h.1, if_neg fun h => hne h.1]

/-- What a sweep leaves in the arrays of a port. -/
theorem processMappedInputs_slots (sw : Sweep) (now : SetterClock) (s : Live) (d : Device)
    (p : Port) :
    (processMappedInputs sw now s).drive.slots d p =
      sweptSlots sw (s.config.table d p) (s.drive.slots d p) := by
  rw [← Live.cell_slots, processMappedInputs_cell, sweptCell, Live.cell_slots]

/-- What a sweep sends to a port. -/
theorem processMappedInputs_channel (sw : Sweep) (now : SetterClock) (s : Live) (d : Device)
    (p : Port) :
    (processMappedInputs sw now s).broadcast.channelValue d p =
      if (s.config.table d p).bindings = [] then s.broadcast.channelValue d p
      else sweptByte sw (s.config.table d p) (s.drive.slots d p) := by
  rw [← Live.cell_channel, processMappedInputs_cell, sweptCell, Live.cell_slots, Live.cell_channel]

/-- The setter calls a port's turn makes. -/
def sweptCalls (sw : Sweep) (cfg : PortConfig) (cell : Device × Port) (slots : PortSlots) :
    List (Device × Port × UInt8) :=
  if cfg.bindings = [] then [] else [(cell.1, cell.2, sweptByte sw cfg slots)]

/-- The calls a sweep makes, newest first. -/
theorem processMappedInputs_calls (sw : Sweep) (now : SetterClock) (s : Live) :
    (processMappedInputs sw now s).channelCalls =
      (allPorts.reverse.flatMap fun cell =>
        sweptCalls sw (s.config.table cell.1 cell.2) cell (s.drive.slots cell.1 cell.2))
      ++ s.channelCalls := by
  unfold processMappedInputs forEachPort
  have hkeep : ∀ (s' : Live) (cell : Device × Port), s'.config = s.config →
      (sweepPort sw now s' cell.1 cell.2).config = s.config :=
    fun s' cell hs' => (sweepPort_config sw now s' cell.1 cell.2).trans hs'
  refine ForEach.foldl_log (fun (s : Live) cell => s.drive.slots cell.1 cell.2) Live.channelCalls
    (fun cell slots => sweptCalls sw (s.config.table cell.1 cell.2) cell slots) hkeep ?_ ?_ allPorts
    allPorts_nodup s rfl
  · intro s' cell cell' _ hne
    rw [sweepPort_slots, if_neg fun h => hne (Prod.ext h.1.1 h.1.2)]
  · intro s' cell hs'
    unfold sweptCalls
    rw [← hs']
    by_cases hnone : (s'.config.table cell.1 cell.2).bindings = []
    · rw [sweepPort_unbound hnone, if_pos hnone, List.nil_append]
    · rw [sweepPort_bound hnone, if_neg hnone, Live.setChannel_calls, Live.storePass_calls,
        (portPass_status _ _ _ _).2]
      rfl

/-! ### One slot -/

/-- A binding whose sweep looks for press edges: a latch, a pulse or a lock on a button or trigger. -/
def Binding.onEdge (b : Binding) : Bool :=
  mkhConfigInputClass b.input ≠ .axis && (b.mode = .latched || b.mode = .pulse || b.mode = .thl)

/-- The edge detector's memory that a binding of that mode uses. -/
def Slot.prevPressed (slot : Slot) : InputMode → Bool
  | .latched => slot.latchPrevPressed
  | .pulse => slot.pulsePrevPressed
  | .thl => slot.thlPrevPressed
  | _ => false

/-- The sweep sees a press edge of the binding. -/
def pressEdge (sw : Sweep) (b : Binding) (slot : Slot) : Bool :=
  b.onEdge && (pressedLevel sw.controller b.input && !slot.prevPressed b.mode)

/-- The slot after pass 1. -/
def passedSlot (sw : Sweep) (cfg : PortConfig) (slots : PortSlots) (i : BindingSlot) : Slot :=
  match cfg.bindings[i.val]? with
  | some b => (bindingPass sw b (slots i)).slot
  | none => slots i

/-- Some other binding of the port is deflected past the cancel threshold. -/
def overridden (tuning : ThlTuning) (cfg : PortConfig) (rawBytes : BindingSlot → UInt8)
    (i : BindingSlot) : Bool :=
  cfg.boundSlots.any fun entry => entry.1 ≠ i && overridesLock tuning (rawBytes entry.1)

/-- Pass 2 takes at most a lock away, and that only for a sibling. -/
theorem overridePass_slots (tuning : ThlTuning) (cfg : PortConfig) (pass : PortPass)
    (i : BindingSlot) :
    (overridePass tuning cfg pass).slots i = pass.slots i ∨
      (overridePass tuning cfg pass).slots i = { pass.slots i with thlEngaged := false } ∧
        overridden tuning cfg pass.rawBytes i = true := by
  unfold overridePass
  cases engagedLock cfg pass.slots with
  | none => exact Or.inl rfl
  | some lock =>
    simp only
    split
    · rename_i hany
      by_cases hi : i = lock
      · subst hi
        exact Or.inr ⟨Function.update_self .., hany⟩
      · exact Or.inl (Function.update_of_ne hi ..)
    · exact Or.inl rfl

/-- The bytes of pass 1. -/
def passedBytes (sw : Sweep) (cfg : PortConfig) (slots : PortSlots) : BindingSlot → UInt8 :=
  (bindingsPass sw cfg slots .boot).rawBytes

/-- After pass 1 a slot can only lose its lock. -/
theorem sweptSlots_apply (sw : Sweep) (cfg : PortConfig) (slots : PortSlots) (i : BindingSlot) :
    sweptSlots sw cfg slots i = passedSlot sw cfg slots i ∨
      sweptSlots sw cfg slots i = { passedSlot sw cfg slots i with thlEngaged := false } ∧
        overridden sw.tuning cfg (passedBytes sw cfg slots) i = true :=
  overridePass_slots sw.tuning cfg (bindingsPass sw cfg slots .boot) i

/-- A binding that is not on edge leaves its slot. -/
theorem bindingPass_slot_of_level {b : Binding} (h : b.onEdge = false) (sw : Sweep) (slot : Slot) :
    (bindingPass sw b slot).slot = slot := by
  unfold bindingPass
  split
  · rfl
  · rename_i haxis
    split
    · rfl
    · cases hmode : b.mode with
      | proportional => rfl
      | momentary => rfl
      | latched => simp [Binding.onEdge, haxis, hmode] at h
      | pulse => simp [Binding.onEdge, haxis, hmode] at h
      | thl => simp [Binding.onEdge, haxis, hmode] at h

/-- A binding on edge runs its mode's machine on its input's level. -/
theorem bindingPass_of_onEdge {b : Binding} (h : b.onEdge = true) (sw : Sweep) (slot : Slot) :
    bindingPass sw b slot =
      match b.mode with
      | .latched => latchPass slot (pressedLevel sw.controller b.input)
      | .pulse => pulsePass slot (pressedLevel sw.controller b.input) sw.currentFrame
      | _ => thlPass slot (pressedLevel sw.controller b.input) sw := by
  simp only [Binding.onEdge, ne_eq, decide_not, Bool.and_eq_true, Bool.not_eq_true',
    decide_eq_false_iff_not, Bool.or_eq_true, decide_eq_true_eq] at h
  obtain ⟨haxis, hmode⟩ := h
  unfold bindingPass
  rw [if_neg haxis]
  rcases hmode with (hmode | hmode) | hmode
  · simp [hmode]
  · simp [hmode]
  · simp [hmode]

/-- **The edge rule.**  What the slot satisfies and each of the three machines keeps while it sees no
edge, pass 1 keeps while the sweep sees none. -/
theorem bindingPass_of_no_edge {P : Slot → Prop} {sw : Sweep} {b : Binding} {slot : Slot}
    (hedge : pressEdge sw b slot = false) (hsame : P slot)
    (hlatch : ∀ pressed, (pressed && !slot.latchPrevPressed) = false →
      P (latchPass slot pressed).slot)
    (hpulse : ∀ pressed, (pressed && !slot.pulsePrevPressed) = false →
      P (pulsePass slot pressed sw.currentFrame).slot)
    (hthl : ∀ pressed, (pressed && !slot.thlPrevPressed) = false →
      P (thlPass slot pressed sw).slot) :
    P (bindingPass sw b slot).slot := by
  cases hon : b.onEdge with
  | false => rwa [bindingPass_slot_of_level hon]
  | true =>
    rw [pressEdge, hon, Bool.true_and] at hedge
    rw [bindingPass_of_onEdge hon]
    cases hmode : b.mode with
    | latched =>
      rw [hmode] at hedge
      exact hlatch _ hedge
    | pulse =>
      rw [hmode] at hedge
      exact hpulse _ hedge
    | thl =>
      rw [hmode] at hedge
      exact hthl _ hedge
    | proportional => simp [Binding.onEdge, hmode] at hon
    | momentary => simp [Binding.onEdge, hmode] at hon

theorem latchPass_idle {slot : Slot} {pressed : Bool}
    (hedge : (pressed && !slot.latchPrevPressed) = false) (hidle : slot.started = false) :
    (latchPass slot pressed).slot.started = false := by
  obtain ⟨hlatch, harmed, hactive, hengaged⟩ := Slot.started_eq_false hidle
  simp [latchPass, hedge, Slot.started, hlatch, harmed, hactive, hengaged]

theorem pulsePass_idle {slot : Slot} {pressed : Bool}
    (hedge : (pressed && !slot.pulsePrevPressed) = false) (hidle : slot.started = false)
    (frame : UInt32) : (pulsePass slot pressed frame).slot.started = false := by
  obtain ⟨hlatch, harmed, hactive, hengaged⟩ := Slot.started_eq_false hidle
  simp [pulsePass, pulseStart, hedge, Slot.started, hlatch, harmed, hactive, hengaged]

theorem thlPass_idle {slot : Slot} {pressed : Bool}
    (hedge : (pressed && !slot.thlPrevPressed) = false) (hidle : slot.started = false)
    (sw : Sweep) : (thlPass slot pressed sw).slot.started = false := by
  obtain ⟨hlatch, harmed, hactive, hengaged⟩ := Slot.started_eq_false hidle
  simp [thlPass, thlToggle, hedge, Slot.started, hlatch, harmed, hactive, hengaged]

/-- **Only an edge starts something.** -/
theorem bindingPass_started {sw : Sweep} {b : Binding} {slot : Slot}
    (h : (bindingPass sw b slot).slot.started = true) :
    slot.started = true ∨ pressEdge sw b slot = true := by
  by_contra hnot
  obtain ⟨hidle, hedge⟩ := not_or.mp hnot
  rw [Bool.not_eq_true] at hidle hedge
  have hstays : (bindingPass sw b slot).slot.started = false :=
    bindingPass_of_no_edge (P := fun slot => slot.started = false) hedge hidle
      (fun _ hquiet => latchPass_idle hquiet hidle)
      (fun _ hquiet => pulsePass_idle hquiet hidle sw.currentFrame)
      (fun _ hquiet => thlPass_idle hquiet hidle sw)
  exact Bool.false_ne_true (hstays.symm.trans h)

/-! ### The stages of a pulse -/

/-- The press: it is remembered, and arms a pulse that is neither armed nor running. -/
def pulseArm (slot : Slot) (pressed : Bool) (frame : UInt32) : Slot :=
  if (pressed && !slot.pulsePrevPressed) && (!slot.pulseArmed && !slot.pulseActive) then
    { slot with pulsePrevPressed := pressed, pulseArmed := true, pulseArmedFrame := frame }
  else { slot with pulsePrevPressed := pressed }

/-- The boundary after it. -/
def pulseBegin (slot : Slot) (frame : UInt32) : Slot :=
  if slot.pulseArmed && frame != slot.pulseArmedFrame then
    { slot with pulseArmed := false, pulseActive := true, pulseStartFrame := frame }
  else slot

/-- The boundary that ends it. -/
def pulseEnd (slot : Slot) (frame : UInt32) : Slot :=
  if slot.pulseActive && frame ≥ slot.pulseStartFrame + mkhPulseFrames then
    { slot with pulseActive := false }
  else slot

theorem pulsePass_slot (slot : Slot) (pressed : Bool) (frame : UInt32) :
    (pulsePass slot pressed frame).slot =
      pulseEnd (pulseBegin (pulseArm slot pressed frame) frame) frame := rfl

/-- What of a slot is no matter of a pulse. -/
def Slot.besidesPulse (slot : Slot) : Bool × Bool × Bool × ℚ × Bool :=
  (slot.latchState, slot.latchPrevPressed, slot.thlEngaged, slot.thlReferenceDeg, slot.thlPrevPressed)

theorem pulseArm_spec (slot : Slot) (pressed : Bool) (frame : UInt32) :
    (pulseArm slot pressed frame).besidesPulse = slot.besidesPulse ∧
      (pulseArm slot pressed frame).pulsePrevPressed = pressed ∧
      ((pulseArm slot pressed frame).pulseArmed = true →
        slot.pulseArmed = true ∨ (pressed && !slot.pulsePrevPressed) = true) := by
  unfold pulseArm
  split
  · rename_i hedge
    exact ⟨rfl, rfl, fun _ => Or.inr (Bool.and_eq_true_iff.mp hedge).1⟩
  · exact ⟨rfl, rfl, Or.inl⟩

theorem pulseBegin_spec (slot : Slot) (frame : UInt32) :
    (pulseBegin slot frame).besidesPulse = slot.besidesPulse ∧
      (pulseBegin slot frame).pulsePrevPressed = slot.pulsePrevPressed ∧
      ((pulseBegin slot frame).pulseArmed = true → slot.pulseArmed = true) := by
  unfold pulseBegin
  split
  · exact ⟨rfl, rfl, fun h => absurd h Bool.false_ne_true⟩
  · exact ⟨rfl, rfl, id⟩

theorem pulseEnd_spec (slot : Slot) (frame : UInt32) :
    (pulseEnd slot frame).besidesPulse = slot.besidesPulse ∧
      (pulseEnd slot frame).pulsePrevPressed = slot.pulsePrevPressed ∧
      (pulseEnd slot frame).pulseArmed = slot.pulseArmed := by
  unfold pulseEnd
  split <;> exact ⟨rfl, rfl, rfl⟩

/-- A pulse is armed by an edge alone, and leaves the rest of the slot. -/
theorem pulsePass_spec (slot : Slot) (pressed : Bool) (frame : UInt32) :
    (pulsePass slot pressed frame).slot.besidesPulse = slot.besidesPulse ∧
      (pulsePass slot pressed frame).slot.pulsePrevPressed = pressed ∧
      ((pulsePass slot pressed frame).slot.pulseArmed = true →
        slot.pulseArmed = true ∨ (pressed && !slot.pulsePrevPressed) = true) := by
  obtain ⟨hbesides₁, hprev₁, harmed₁⟩ := pulseArm_spec slot pressed frame
  obtain ⟨hbesides₂, hprev₂, harmed₂⟩ := pulseBegin_spec (pulseArm slot pressed frame) frame
  obtain ⟨hbesides₃, hprev₃, harmed₃⟩ :=
    pulseEnd_spec (pulseBegin (pulseArm slot pressed frame) frame) frame
  rw [pulsePass_slot, hbesides₃, hbesides₂, hbesides₁, hprev₃, hprev₂, hprev₁, harmed₃]
  exact ⟨rfl, rfl, fun h => harmed₁ (harmed₂ h)⟩

/-! ### What a detector remembers -/

theorem thlPass_slot (slot : Slot) (pressed : Bool) (sw : Sweep) :
    (thlPass slot pressed sw).slot = thlToggle slot pressed sw := by
  unfold thlPass
  simp only
  split <;> rfl

/-- The detector remembers the level it saw. -/
theorem bindingPass_prevPressed {b : Binding} (h : b.onEdge = true) (sw : Sweep) (slot : Slot) :
    (bindingPass sw b slot).slot.prevPressed b.mode = pressedLevel sw.controller b.input := by
  rw [bindingPass_of_onEdge h]
  generalize pressedLevel sw.controller b.input = pressed
  cases hmode : b.mode with
  | latched => rfl
  | pulse =>
    exact (pulsePass_spec slot pressed sw.currentFrame).2.1
  | thl =>
    simp only [thlPass_slot, thlToggle, Slot.prevPressed]
    split
    · split
      · rfl
      · split <;> rfl
    · rfl
  | proportional => simp [Binding.onEdge, hmode] at h
  | momentary => simp [Binding.onEdge, hmode] at h

theorem sweptSlots_prevPressed {sw : Sweep} {cfg : PortConfig} {slots : PortSlots} {i : BindingSlot}
    {b : Binding} (hb : cfg.bindings[i.val]? = some b) (hedge : b.onEdge = true) :
    (sweptSlots sw cfg slots i).prevPressed b.mode = pressedLevel sw.controller b.input := by
  have hpassed : (passedSlot sw cfg slots i).prevPressed b.mode =
      pressedLevel sw.controller b.input := by
    unfold passedSlot
    rw [hb]
    exact bindingPass_prevPressed hedge sw (slots i)
  have hlock : ∀ slot : Slot, ({ slot with thlEngaged := false } : Slot).prevPressed b.mode =
      slot.prevPressed b.mode := by
    intro slot
    cases b.mode <;> rfl
  rcases sweptSlots_apply sw cfg slots i with heq | ⟨heq, -⟩
  · rw [heq, hpassed]
  · rw [heq, hlock, hpassed]

end MK1Tank
