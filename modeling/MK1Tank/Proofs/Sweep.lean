/-
What a sweep writes.

A sweep leaves the mapping table alone, and it leaves a port with no binding exactly
as it finds it: such a port is skipped, it is not stopped.  On the ports it does visit,
inputs at rest and runtime state with nothing started make the neutral byte and start
nothing, whatever the invert flags, caps and modes are.
-/
import MK1Tank.Firmware.Drive
import MK1Tank.Proofs.Broadcast

namespace MK1Tank

/-! ### The setter from the sketch's side -/

@[simp] theorem Live.setChannel_config (s : Live) (d : Device) (p : Port) (value : UInt8)
    (now : Int) : (s.setChannel d p value now).config = s.config := rfl

@[simp] theorem Live.setChannel_drive (s : Live) (d : Device) (p : Port) (value : UInt8)
    (now : Int) : (s.setChannel d p value now).drive = s.drive := rfl

@[simp] theorem Live.setChannel_calls (s : Live) (d : Device) (p : Port) (value : UInt8)
    (now : Int) : (s.setChannel d p value now).channelCalls = (d, p, value) :: s.channelCalls := rfl

@[simp] theorem Live.storePass_config (s : Live) (d : Device) (p : Port) (pass : PortPass) :
    (s.storePass d p pass).config = s.config := rfl

@[simp] theorem Live.storePass_broadcast (s : Live) (d : Device) (p : Port) (pass : PortPass) :
    (s.storePass d p pass).broadcast = s.broadcast := rfl

@[simp] theorem Live.storePass_calls (s : Live) (d : Device) (p : Port) (pass : PortPass) :
    (s.storePass d p pass).channelCalls = s.channelCalls := rfl

theorem Live.setChannel_apply (s : Live) (d d' : Device) (p p' : Port) (value : UInt8)
    (now : Int) :
    (s.setChannel d p value now).broadcast.channelValue d' p' =
      if d' = d ∧ p' = p then value else s.broadcast.channelValue d' p' :=
  mkhSetChannel_apply s.broadcast d d' p p' value now

theorem Live.storePass_slots (s : Live) (d d' : Device) (p p' : Port) (pass : PortPass) :
    (s.storePass d p pass).drive.slots d' p' =
      if d' = d ∧ p' = p then pass.slots else s.drive.slots d' p' := by
  unfold storePass
  by_cases hd : d' = d
  · subst hd
    by_cases hp : p' = p <;> simp [hp]
  · simp [hd]

/-! ### The ports a sweep skips -/

theorem sweepPort_unbound {s : Live} {d : Device} {p : Port}
    (h : (s.config.table d p).bindings = []) (sw : Sweep) (now : SetterClock) :
    sweepPort sw now s d p = s :=
  if_pos (by rw [h]; rfl)

theorem sweepPort_bound {s : Live} {d : Device} {p : Port}
    (h : (s.config.table d p).bindings ≠ []) (sw : Sweep) (now : SetterClock) :
    sweepPort sw now s d p =
      (s.storePass d p
        (portPass sw (s.config.table d p) (s.drive.slots d p) s.drive.thlStatus)).setChannel d p
        (portByte (s.config.table d p)
          (portPass sw (s.config.table d p) (s.drive.slots d p) s.drive.thlStatus).rawBytes)
        (now d p) :=
  if_neg fun hlen => h (List.eq_nil_of_length_eq_zero hlen)

theorem sweepPort_config (sw : Sweep) (now : SetterClock) (s : Live) (d : Device) (p : Port) :
    (sweepPort sw now s d p).config = s.config := by
  unfold sweepPort
  split <;> rfl

@[simp] theorem processMappedInputs_config (sw : Sweep) (now : SetterClock) (s : Live) :
    (processMappedInputs sw now s).config = s.config := by
  unfold processMappedInputs
  have hkeep : ∀ (s' : Live) (d : Device) (p : Port), s'.config = s.config →
      (sweepPort sw now s' d p).config = s.config :=
    fun s' d p hs' => (sweepPort_config sw now s' d p).trans hs'
  exact forEachPort_keeps hkeep rfl

/-- The body of the loop writes the channel of its own port, and only when a binding is there. -/
theorem sweepPort_channel (sw : Sweep) (now : SetterClock) (s : Live) (d : Device) (p : Port)
    {d' : Device} {p' : Port} (h : ¬ (d' = d ∧ p' = p) ∨ (s.config.table d p).bindings = []) :
    (sweepPort sw now s d p).broadcast.channelValue d' p' = s.broadcast.channelValue d' p' := by
  by_cases hnone : (s.config.table d p).bindings = []
  · rw [sweepPort_unbound hnone]
  · rw [sweepPort_bound hnone, Live.setChannel_apply, if_neg (h.resolve_right hnone),
      Live.storePass_broadcast]

/-- **A sweep skips the unassigned ports**: what such a port's channel held, it still holds. -/
theorem processMappedInputs_unassigned (sw : Sweep) (now : SetterClock) (s : Live) {d : Device}
    {p : Port} (h : (s.config.table d p).bindings = []) :
    (processMappedInputs sw now s).broadcast.channelValue d p = s.broadcast.channelValue d p := by
  unfold processMappedInputs
  have hkeep : ∀ (s' : Live) (d' : Device) (p' : Port),
      s'.config = s.config ∧ s'.broadcast.channelValue d p = s.broadcast.channelValue d p →
      (sweepPort sw now s' d' p').config = s.config ∧
        (sweepPort sw now s' d' p').broadcast.channelValue d p = s.broadcast.channelValue d p := by
    intro s' d' p' ⟨hconfig, hvalue⟩
    refine ⟨(sweepPort_config sw now s' d' p').trans hconfig, ?_⟩
    rw [sweepPort_channel, hvalue]
    by_cases hat : d = d' ∧ p = p'
    · obtain ⟨rfl, rfl⟩ := hat
      exact Or.inr (by rw [hconfig, h])
    · exact Or.inl hat
  exact (forEachPort_keeps hkeep ⟨rfl, rfl⟩).2

/-! ### Inputs at rest -/

/-- The binding's input reads as if nobody touched it. -/
def bindingAtRest (ctl : ControllerData) (b : Binding) : Bool :=
  if mkhConfigInputClass b.input = .axis then
    readTokenRaw ctl b.input ≥ -stickDeadzone && readTokenRaw ctl b.input ≤ stickDeadzone
  else if mkhConfigInputClass b.input = .trigger ∧ b.mode = .proportional then
    readTokenRaw ctl b.input ≤ triggerDeadzone
  else !pressedLevel ctl b.input

/-- Nothing is started in any slot of a port. -/
def PortSlots.idle (slots : PortSlots) : Prop := ∀ i, (slots i).started = false

theorem Slot.started_eq_false {s : Slot} (h : s.started = false) :
    s.latchState = false ∧ s.pulseArmed = false ∧ s.pulseActive = false ∧ s.thlEngaged = false := by
  unfold Slot.started at h
  simp only [Bool.or_eq_false_iff] at h
  exact ⟨h.1.1.1, h.1.1.2, h.1.2, h.2⟩

theorem latchPass_released {slot : Slot} (h : slot.started = false) :
    (latchPass slot false).rawByte = neutral ∧ (latchPass slot false).slot.started = false := by
  obtain ⟨hlatch, harmed, hactive, hengaged⟩ := Slot.started_eq_false h
  simp [latchPass, Slot.started, levelByte, hlatch, harmed, hactive, hengaged]

theorem pulsePass_released {slot : Slot} (h : slot.started = false) (frame : UInt32) :
    (pulsePass slot false frame).rawByte = neutral ∧
      (pulsePass slot false frame).slot.started = false := by
  obtain ⟨hlatch, harmed, hactive, hengaged⟩ := Slot.started_eq_false h
  simp [pulsePass, pulseStart, Slot.started, levelByte, hlatch, harmed, hactive, hengaged]

theorem thlPass_released {slot : Slot} (h : slot.started = false) (sw : Sweep) :
    (thlPass slot false sw).rawByte = neutral ∧ (thlPass slot false sw).slot.started = false := by
  obtain ⟨hlatch, harmed, hactive, hengaged⟩ := Slot.started_eq_false h
  simp [thlPass, thlToggle, Slot.started, hlatch, harmed, hactive, hengaged]

/-- An input at rest makes the neutral byte and starts nothing, in every class and mode. -/
theorem bindingPass_atRest {sw : Sweep} {b : Binding} {slot : Slot}
    (hrest : bindingAtRest sw.controller b = true) (hidle : slot.started = false) :
    (bindingPass sw b slot).rawByte = neutral ∧ (bindingPass sw b slot).slot.started = false := by
  unfold bindingAtRest at hrest
  unfold bindingPass
  split at hrest
  · rename_i haxis
    rw [if_pos haxis]
    simp only [ge_iff_le, Bool.and_eq_true, decide_eq_true_eq] at hrest
    exact ⟨by rw [mkStickYToChannelByte, if_pos hrest], hidle⟩
  · rename_i haxis
    rw [if_neg haxis]
    split at hrest
    · rename_i htrigger
      rw [if_pos htrigger]
      simp only [decide_eq_true_eq] at hrest
      exact ⟨by rw [mkTriggerToChannelByte, if_pos hrest], hidle⟩
    · rename_i htrigger
      rw [if_neg htrigger]
      have hreleased : pressedLevel sw.controller b.input = false := by simpa using hrest
      rw [hreleased]
      cases b.mode with
      | latched => exact latchPass_released hidle
      | pulse => exact pulsePass_released hidle sw.currentFrame
      | thl => exact thlPass_released hidle sw
      | proportional => exact ⟨rfl, hidle⟩
      | momentary => exact ⟨rfl, hidle⟩

/-- All of a port's bindings at rest. -/
def PortConfig.atRest (ctl : ControllerData) (cfg : PortConfig) : Prop :=
  ∀ b ∈ cfg.bindings, bindingAtRest ctl b = true

theorem bindingsPass_atRest {sw : Sweep} {cfg : PortConfig} {slots : PortSlots}
    (hrest : cfg.atRest sw.controller) (hidle : slots.idle) (status : ThlStatus) :
    (bindingsPass sw cfg slots status).slots.idle ∧
      ∀ i, (bindingsPass sw cfg slots status).rawBytes i = neutral := by
  have hslot : ∀ i, ((bindingsPass sw cfg slots status).slots i).started = false ∧
      (bindingsPass sw cfg slots status).rawBytes i = neutral := by
    intro i
    unfold bindingsPass
    rcases hb : cfg.bindings[i.val]? with _ | b
    · simp [hb, hidle i]
    · have hpass := bindingPass_atRest (hrest b (List.mem_of_getElem? hb)) (hidle i)
      simp [hb, hpass.1, hpass.2]
  exact ⟨fun i => (hslot i).1, fun i => (hslot i).2⟩

/-- With no lock engaged the second pass changes nothing. -/
theorem overridePass_of_idle {cfg : PortConfig} {pass : PortPass} (h : pass.slots.idle)
    (tuning : ThlTuning) : overridePass tuning cfg pass = pass := by
  have hnone : engagedLock cfg pass.slots = none := by
    unfold engagedLock
    rw [Option.map_eq_none_iff, List.find?_eq_none]
    intro entry _
    simp [(Slot.started_eq_false (h entry.1)).2.2.2]
  unfold overridePass
  rw [hnone]

/-- Invert and cap leave the neutral byte alone. -/
theorem mkApplyBindingConfig_neutral (b : Binding) : mkApplyBindingConfig neutral b = neutral := by
  have hvalue : (if b.invert then max 0x00 (min 0xFF (0x100 - ((neutral : UInt8).toNat : Int)))
      else ((neutral : UInt8).toNat : Int)) = 0x80 := by
    cases b.invert <;> rfl
  unfold mkApplyBindingConfig
  simp only [hvalue]
  split
  · rfl
  · simp only [sub_self, zero_mul, Int.zero_tdiv, add_zero]
    rfl

/-- Neutral bytes make a neutral sum. -/
theorem portByte_neutral {cfg : PortConfig} {rawBytes : BindingSlot → UInt8}
    (h : ∀ i, rawBytes i = neutral) : portByte cfg rawBytes = neutral := by
  have hsum : sumDelta cfg rawBytes = 0 := by
    unfold sumDelta
    refine List.sum_eq_zero fun x hx => ?_
    obtain ⟨entry, -, rfl⟩ := List.mem_map.mp hx
    rw [h, mkApplyBindingConfig_neutral]
    rfl
  unfold portByte
  rw [hsum]
  rfl

/-- Nothing is started anywhere. -/
def Drive.idle (drive : Drive) : Prop := ∀ d p, (drive.slots d p).idle

/-- Every input that the table binds reads at rest. -/
def MkhConfig.atRest (ctl : ControllerData) (cfg : MkhConfig) : Prop :=
  ∀ d p, (cfg.table d p).atRest ctl

/-- The setter calls that were made between two states. -/
def NeutralCalls (s s' : Live) : Prop :=
  ∃ calls, s'.channelCalls = calls ++ s.channelCalls ∧ ∀ call ∈ calls, call.2.2 = neutral

theorem NeutralCalls.refl (s : Live) : NeutralCalls s s := ⟨[], rfl, by simp⟩

theorem NeutralCalls.trans {s₁ s₂ s₃ : Live} (h₁ : NeutralCalls s₁ s₂) (h₂ : NeutralCalls s₂ s₃) :
    NeutralCalls s₁ s₃ := by
  obtain ⟨calls₁, heq₁, hneutral₁⟩ := h₁
  obtain ⟨calls₂, heq₂, hneutral₂⟩ := h₂
  refine ⟨calls₂ ++ calls₁, by rw [heq₂, heq₁, List.append_assoc], ?_⟩
  intro call hcall
  rcases List.mem_append.mp hcall with h | h
  · exact hneutral₂ call h
  · exact hneutral₁ call h

theorem NeutralCalls.of_eq {s s' : Live} (h : s'.channelCalls = s.channelCalls) :
    NeutralCalls s s' := ⟨[], h, by simp⟩

/-- A channel moves to neutral only, and the setter is called with the neutral byte only. -/
structure Settles (s s' : Live) : Prop where
  channel : ∀ d p, s'.broadcast.channelValue d p = s.broadcast.channelValue d p ∨
    s'.broadcast.channelValue d p = neutral
  calls : NeutralCalls s s'

theorem Settles.refl (s : Live) : Settles s s := ⟨fun _ _ => Or.inl rfl, NeutralCalls.refl s⟩

theorem Settles.trans {s₁ s₂ s₃ : Live} (h₁ : Settles s₁ s₂) (h₂ : Settles s₂ s₃) :
    Settles s₁ s₃ where
  channel d p := by
    rcases h₂.channel d p with h | h
    · rw [h]
      exact h₁.channel d p
    · exact Or.inr h
  calls := h₁.calls.trans h₂.calls

/-- Neither the channels nor the calls change. -/
theorem Settles.of_eq {s s' : Live} (hbroadcast : s'.broadcast = s.broadcast)
    (hcalls : s'.channelCalls = s.channelCalls) : Settles s s' where
  channel d p := Or.inl (by rw [hbroadcast])
  calls := NeutralCalls.of_eq hcalls

/-- A call with the neutral byte. -/
theorem Settles.setChannel (s : Live) (d : Device) (p : Port) (now : Int) :
    Settles s (s.setChannel d p neutral now) where
  channel d' p' := by
    rw [Live.setChannel_apply]
    split
    · exact Or.inr rfl
    · exact Or.inl rfl
  calls := ⟨[(d, p, neutral)], rfl, by simp⟩

/-- What is all at neutral stays so. -/
theorem Settles.neutral {s s' : Live} (h : Settles s s')
    (hneutral : ∀ d p, s.broadcast.channelValue d p = MK1Tank.neutral) (d : Device) (p : Port) :
    s'.broadcast.channelValue d p = MK1Tank.neutral := by
  rcases h.channel d p with hchannel | hchannel
  · rw [hchannel]
    exact hneutral d p
  · exact hchannel

/-- One port of a sweep with everything at rest. -/
theorem sweepPort_atRest {sw : Sweep} {s : Live} (hrest : s.config.atRest sw.controller)
    (hidle : s.drive.idle) (now : SetterClock) (d : Device) (p : Port) :
    (sweepPort sw now s d p).drive.idle ∧ Settles s (sweepPort sw now s d p) := by
  by_cases hnone : (s.config.table d p).bindings = []
  · rw [sweepPort_unbound hnone]
    exact ⟨hidle, Settles.refl s⟩
  · rw [sweepPort_bound hnone]
    obtain ⟨hslots, hbytes⟩ := bindingsPass_atRest (hrest d p) (hidle d p) s.drive.thlStatus
    have hpass : portPass sw (s.config.table d p) (s.drive.slots d p) s.drive.thlStatus =
        bindingsPass sw (s.config.table d p) (s.drive.slots d p) s.drive.thlStatus :=
      overridePass_of_idle hslots sw.tuning
    simp only [hpass, portByte_neutral hbytes]
    refine ⟨?_, ?_⟩
    · intro d' p'
      rw [Live.setChannel_drive, Live.storePass_slots]
      split
      · exact hslots
      · exact hidle d' p'
    · have hstored : Settles s (s.storePass d p
          (bindingsPass sw (s.config.table d p) (s.drive.slots d p) s.drive.thlStatus)) :=
        Settles.of_eq rfl rfl
      exact hstored.trans (Settles.setChannel _ d p (now d p))

/-- **A sweep over inputs at rest moves nothing.**  When nothing was started before, it starts
nothing, and every call of the setter it makes is with the neutral byte. -/
theorem processMappedInputs_atRest {sw : Sweep} {s : Live} (hrest : s.config.atRest sw.controller)
    (hidle : s.drive.idle) (now : SetterClock) :
    (processMappedInputs sw now s).drive.idle ∧ Settles s (processMappedInputs sw now s) := by
  unfold processMappedInputs
  have hkeep : ∀ (s' : Live) (d : Device) (p : Port),
      s'.config = s.config ∧ s'.drive.idle ∧ Settles s s' →
      (sweepPort sw now s' d p).config = s.config ∧ (sweepPort sw now s' d p).drive.idle ∧
        Settles s (sweepPort sw now s' d p) := by
    intro s' d p ⟨hconfig, hidle', hsettles⟩
    have hport := sweepPort_atRest (hconfig ▸ hrest) hidle' now d p
    exact ⟨(sweepPort_config sw now s' d p).trans hconfig, hport.1, hsettles.trans hport.2⟩
  exact (forEachPort_keeps hkeep ⟨rfl, hidle, Settles.refl s⟩).2

end MK1Tank
