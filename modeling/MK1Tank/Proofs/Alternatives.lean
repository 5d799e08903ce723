/-
The bindings of a port are alternatives.

An idle binding makes the neutral byte in every class and mode, and neutral passes
through invert, cap and sum as nothing.  So a port with no binding in use rests at
neutral, and one with a single binding in use is driven by it alone.  Where in the list a
binding stands is no matter: each makes its byte from its own slot, the lock that pass 2
looks for is the only one there is, and a sum does not ask for an order.
-/
import MK1Tank.Proofs.HeadingLock

namespace MK1Tank

open Runs

/-! ### What a binding makes by itself -/

/-- The raw byte of a binding, from its input and the slot it is left with. -/
def ownRawByte (sw : Sweep) (b : Binding) (slot : Slot) : UInt8 :=
  if mkhConfigInputClass b.input = .axis then
    mkStickYToChannelByte (readTokenRaw sw.controller b.input)
  else if mkhConfigInputClass b.input = .trigger ∧ b.mode = .proportional then
    mkTriggerToChannelByte (readTokenRaw sw.controller b.input)
  else match b.mode with
    | .latched => levelByte slot.latchState
    | .pulse => levelByte slot.pulseActive
    | .thl => if slot.thlEngaged then lockOutput sw slot.thlReferenceDeg else neutral
    | _ => levelByte (pressedLevel sw.controller b.input)

/-- The binding's own output: its raw byte through its invert and cap. -/
def ownByte (sw : Sweep) (b : Binding) (slot : Slot) : UInt8 :=
  mkApplyBindingConfig (ownRawByte sw b slot) b

/-- The input is at rest, and the latch, the pulse and the lock are off. -/
structure Idle (sw : Sweep) (b : Binding) (slot : Slot) : Prop where
  input : bindingAtRest sw.controller b = true
  latch : slot.latchState = false
  pulse : slot.pulseActive = false
  lock : slot.thlEngaged = false

instance (sw : Sweep) (b : Binding) (slot : Slot) : Decidable (Idle sw b slot) :=
  decidable_of_iff (bindingAtRest sw.controller b = true ∧ slot.latchState = false ∧
      slot.pulseActive = false ∧ slot.thlEngaged = false)
    ⟨fun h => ⟨h.1, h.2.1, h.2.2.1, h.2.2.2⟩, fun h => ⟨h.input, h.latch, h.pulse, h.lock⟩⟩

/-- Pass 1 makes of a slot what the slot it leaves says. -/
theorem bindingPass_rawByte (sw : Sweep) (b : Binding) (slot : Slot) :
    (bindingPass sw b slot).rawByte = ownRawByte sw b (bindingPass sw b slot).slot := by
  unfold bindingPass ownRawByte
  split
  · rfl
  · split
    · rfl
    · cases b.mode with
      | latched => rfl
      | pulse => rfl
      | thl =>
        simp only [thlPass_slot]
        unfold thlPass
        simp only
        split <;> rfl
      | proportional => rfl
      | momentary => rfl

theorem ownRawByte_idle {sw : Sweep} {b : Binding} {slot : Slot} (h : Idle sw b slot) :
    ownRawByte sw b slot = neutral := by
  have hinput := h.input
  unfold bindingAtRest at hinput
  unfold ownRawByte
  split at hinput
  · rename_i haxis
    simp only [ge_iff_le, Bool.and_eq_true, decide_eq_true_eq] at hinput
    rw [if_pos haxis, mkStickYToChannelByte, if_pos hinput]
  · rename_i haxis
    rw [if_neg haxis]
    split at hinput
    · rename_i htrigger
      rw [if_pos htrigger, mkTriggerToChannelByte, if_pos (of_decide_eq_true hinput)]
    · rename_i htrigger
      have hreleased : pressedLevel sw.controller b.input = false := by simpa using hinput
      rw [if_neg htrigger]
      cases b.mode with
      | latched => simp [h.latch, levelByte]
      | pulse => simp [h.pulse, levelByte]
      | thl => simp [h.lock]
      | proportional => simp [hreleased, levelByte]
      | momentary => simp [hreleased, levelByte]

section Port

variable {sw : Sweep} {cfg : PortConfig} {slots : PortSlots}

theorem passedBytes_own {i : BindingSlot} {b : Binding} (hb : cfg.bindingIn i = some b) :
    passedBytes sw cfg slots i = ownRawByte sw b (passedSlot sw cfg slots i) := by
  rw [passedBytes_of_bound hb, passedSlot_of_bound hb]
  exact bindingPass_rawByte sw b (slots i)

/-- **An idle binding reaches the sum as neutral.** -/
theorem sweptBytes_idle {i : BindingSlot} {b : Binding} (hb : cfg.bindingIn i = some b)
    (hidle : Idle sw b (sweptSlots sw cfg slots i)) : sweptBytes sw cfg slots i = neutral := by
  rcases portPass_cases sw cfg slots with ⟨-, hslots, hbytes⟩ |
    ⟨lock, hheld, ⟨-, hslots, hbytes⟩ | ⟨-, hslots, hbytes⟩⟩
  · rw [hbytes, passedBytes_own hb, ← hslots]
    exact ownRawByte_idle hidle
  · by_cases hi : i = lock
    · rw [hbytes, hi, Function.update_self]
    · rw [hslots, Function.update_of_ne hi] at hidle
      rw [hbytes, Function.update_of_ne hi, passedBytes_own hb]
      exact ownRawByte_idle hidle
  · rw [hbytes]
    by_cases hi : i = lock
    · obtain ⟨-, -, -, hengaged⟩ := heldLock_engaged hheld
      have hoff := hidle.lock
      rw [hslots, hi, hengaged] at hoff
      cases hoff
    · exact if_neg hi

theorem contribution_idle {i : BindingSlot}
    (hidle : ∀ b, cfg.bindingIn i = some b → Idle sw b (sweptSlots sw cfg slots i)) :
    contribution cfg (sweptBytes sw cfg slots) i = 0 := by
  cases hb : cfg.bindingIn i with
  | none => exact contribution_of_unbound hb _
  | some b => exact contribution_neutral (sweptBytes_idle hb (hidle b hb))

/-- A binding whose siblings are all idle reaches the sum as it is. -/
theorem sweptBytes_alone (haxes : AxesUnlocked cfg slots) {i : BindingSlot} {b : Binding}
    (hb : cfg.bindingIn i = some b)
    (hidle : ∀ j b', j ≠ i → cfg.bindingIn j = some b' → Idle sw b' (sweptSlots sw cfg slots j)) :
    sweptBytes sw cfg slots i = ownRawByte sw b (sweptSlots sw cfg slots i) := by
  rcases portPass_cases sw cfg slots with ⟨-, hslots, hbytes⟩ |
    ⟨lock, hheld, ⟨-, hslots, hbytes⟩ | ⟨-, hslots, hbytes⟩⟩
  · rw [hbytes, hslots, passedBytes_own hb]
  · by_cases hi : i = lock
    · -- The lock itself, put off: it makes the neutral byte from now on.
      subst hi
      obtain ⟨b', hb', hmode, hengaged⟩ := heldLock_engaged hheld
      obtain rfl : b' = b := Option.some.inj (hb'.symm.trans hb)
      have hinput : mkhConfigInputClass b'.input ≠ .axis := by
        intro haxis
        rw [axesUnlocked_passed haxes sw i b' hb haxis] at hengaged
        cases hengaged
      rw [hbytes, hslots, Function.update_self, Function.update_self]
      simp [ownRawByte, hinput, hmode]
    · rw [hbytes, hslots, Function.update_of_ne hi, Function.update_of_ne hi, passedBytes_own hb]
  · have hi : i = lock := by
      by_contra hne
      obtain ⟨b', hb', -, hengaged⟩ := heldLock_engaged hheld
      have hoff := (hidle lock b' (Ne.symm hne) hb').lock
      rw [hslots, hengaged] at hoff
      cases hoff
    rw [hbytes, hslots, ← passedBytes_own hb]
    exact if_pos hi

/-! ### The sum -/

/-- The byte sent is the clamped sum, without wrapping. -/
theorem sweptByte_toNat (sw : Sweep) (cfg : PortConfig) (slots : PortSlots) :
    ((sweptByte sw cfg slots).toNat : Int) = 0x80 + max (-128) (min 127
      (BindingSlot.all.map (contribution cfg (sweptBytes sw cfg slots))).sum) := by
  rw [sweptByte_eq]
  generalize (BindingSlot.all.map (contribution cfg (sweptBytes sw cfg slots))).sum = sum
  have hlow : (0 : Int) ≤ 0x80 + max (-128) (min 127 sum) := by omega
  have hhigh : (0x80 : Int) + max (-128) (min 127 sum) < 256 := by omega
  unfold castByte
  rw [Int.emod_eq_of_lt hlow hhigh, UInt8.toNat_ofNat']
  omega

/-- What a sweep sends to a port whose bindings are alternatives. -/
structure Alternatives (sw : Sweep) (cfg : PortConfig) (slots slots' : PortSlots) (byte : UInt8) :
    Prop where
  /-- Nothing in use: the port rests. -/
  rest : (∀ i b, cfg.bindingIn i = some b → Idle sw b (slots' i)) → byte = 0x80
  /-- One binding in use: the port is driven by it alone. -/
  alone : ∀ i b, cfg.bindingIn i = some b →
    (∀ j b', j ≠ i → cfg.bindingIn j = some b' → Idle sw b' (slots' j)) →
    byte = ownByte sw b (slots' i)
  /-- The sum of what the bindings contribute never leaves the byte. -/
  sum : (byte.toNat : Int) = 0x80 + max (-128) (min 127
    (BindingSlot.all.map (contribution cfg (sweptBytes sw cfg slots))).sum)

theorem alternatives (haxes : AxesUnlocked cfg slots) (sw : Sweep) :
    Alternatives sw cfg slots (sweptSlots sw cfg slots) (sweptByte sw cfg slots) where
  rest hidle := by
    have hnone : (BindingSlot.all.map (contribution cfg (sweptBytes sw cfg slots))).sum = 0 := by
      refine List.sum_eq_zero fun x hx => ?_
      obtain ⟨i, -, rfl⟩ := List.mem_map.mp hx
      exact contribution_idle (hidle i)
    rw [sweptByte_eq, hnone]
    rfl
  alone i b hb hidle := by
    have hothers : ((BindingSlot.all.erase i).map
        (contribution cfg (sweptBytes sw cfg slots))).sum = 0 := by
      refine List.sum_eq_zero fun x hx => ?_
      obtain ⟨j, hj, rfl⟩ := List.mem_map.mp hx
      exact contribution_idle fun b' => hidle j b' (mem_siblings hj)
    have hown : contribution cfg (sweptBytes sw cfg slots) i =
        ((ownByte sw b (sweptSlots sw cfg slots i)).toNat : Int) - 0x80 := by
      rw [contribution_of_bound hb, sweptBytes_alone haxes hb hidle]
      rfl
    rw [sweptByte_eq, sum_contribution _ i, hothers, add_zero, hown, castByte_delta]
  sum := sweptByte_toNat sw cfg slots

end Port

/-! ### The order of the bindings -/

/-- The second port has the bindings of the first in another order, each with its slot. -/
structure Permuted (σ : Equiv.Perm BindingSlot) (cfg cfg' : PortConfig) (slots slots' : PortSlots) :
    Prop where
  bindings : ∀ i, cfg'.bindingIn (σ i) = cfg.bindingIn i
  slots : ∀ i b, cfg.bindingIn i = some b → slots' (σ i) = slots i

section Permuted

variable {σ : Equiv.Perm BindingSlot} {cfg cfg' : PortConfig} {slots slots' : PortSlots}

theorem Permuted.oneLock (h : Permuted σ cfg cfg' slots slots') (hone : cfg.OneLock) :
    cfg'.OneLock := by
  have hlock : ∀ i, cfg'.isLock i = cfg.isLock (σ.symm i) := by
    intro i
    rw [PortConfig.isLock, PortConfig.isLock, ← h.bindings (σ.symm i), Equiv.apply_symm_apply]
  intro i j hi hj
  rw [hlock] at hi hj
  exact σ.symm.injective (hone _ _ hi hj)

/-- Pass 1 goes slot by slot. -/
theorem Permuted.passed (h : Permuted σ cfg cfg' slots slots') (sw : Sweep) :
    Permuted σ cfg cfg' (passedSlot sw cfg slots) (passedSlot sw cfg' slots') where
  bindings := h.bindings
  slots i b hb := by
    rw [passedSlot_of_bound hb, passedSlot_of_bound ((h.bindings i).trans hb), h.slots i b hb]

theorem Permuted.passedBytes (h : Permuted σ cfg cfg' slots slots') (sw : Sweep) (i : BindingSlot) :
    MK1Tank.passedBytes sw cfg' slots' (σ i) = MK1Tank.passedBytes sw cfg slots i := by
  rw [passedBytes_apply, passedBytes_apply, h.bindings]
  cases hb : cfg.bindingIn i with
  | none => rfl
  | some b => simp only [h.slots i b hb]

theorem Permuted.holdsLock (h : Permuted σ cfg cfg' slots slots') (i : BindingSlot) :
    MK1Tank.holdsLock cfg' slots' (σ i) = MK1Tank.holdsLock cfg slots i := by
  unfold MK1Tank.holdsLock
  rw [h.bindings]
  cases hb : cfg.bindingIn i with
  | none => rfl
  | some b => simp only [h.slots i b hb]

theorem Permuted.overridden (h : Permuted σ cfg cfg' slots slots') (sw : Sweep) (i : BindingSlot) :
    MK1Tank.overridden sw.tuning cfg' (MK1Tank.passedBytes sw cfg' slots') (σ i) =
      MK1Tank.overridden sw.tuning cfg (MK1Tank.passedBytes sw cfg slots) i := by
  rw [overridden_eq, overridden_eq, Bool.eq_iff_iff, List.any_eq_true, List.any_eq_true]
  constructor
  · rintro ⟨j, -, hj⟩
    obtain ⟨j, rfl⟩ := σ.surjective j
    rw [h.bindings, h.passedBytes] at hj
    exact ⟨j, BindingSlot.mem_all j, by simpa using hj⟩
  · rintro ⟨j, -, hj⟩
    refine ⟨σ j, BindingSlot.mem_all (σ j), ?_⟩
    rw [h.bindings, h.passedBytes]
    simpa using hj

theorem Permuted.heldLock (h : Permuted σ cfg cfg' slots slots') (hone : cfg.OneLock) (sw : Sweep) :
    MK1Tank.heldLock sw cfg' slots' = (MK1Tank.heldLock sw cfg slots).map σ := by
  have hholds := (h.passed sw).holdsLock
  cases hheld : MK1Tank.heldLock sw cfg slots with
  | none =>
    refine List.find?_eq_none.mpr fun i _ hi => ?_
    obtain ⟨i, rfl⟩ := σ.surjective i
    rw [hholds] at hi
    rw [(heldLock_eq_some hone sw slots i).mpr hi] at hheld
    cases hheld
  | some lock =>
    rw [Option.map_some, heldLock_eq_some (h.oneLock hone), hholds]
    exact (heldLock_eq_some hone sw slots lock).mp hheld

/-- **A sweep of the one port is a sweep of the other.** -/
theorem Permuted.swept (h : Permuted σ cfg cfg' slots slots') (hone : cfg.OneLock) (sw : Sweep) :
    Permuted σ cfg cfg' (sweptSlots sw cfg slots) (sweptSlots sw cfg' slots') ∧
      ∀ i, sweptBytes sw cfg' slots' (σ i) = sweptBytes sw cfg slots i := by
  have hpassed := h.passed sw
  have hheld := h.heldLock hone sw
  rcases portPass_cases sw cfg slots with ⟨hnone, hslots, hbytes⟩ | ⟨lock, hlock, hcase⟩
  · rw [hnone] at hheld
    rcases portPass_cases sw cfg' slots' with ⟨-, hslots', hbytes'⟩ | ⟨lock', hlock', -⟩
    · rw [hslots, hslots', hbytes, hbytes']
      exact ⟨hpassed, h.passedBytes sw⟩
    · rw [hheld] at hlock'
      cases hlock'
  · rw [hlock, Option.map_some] at hheld
    rcases portPass_cases sw cfg' slots' with ⟨hnone', -⟩ | ⟨lock', hlock', hcase'⟩
    · rw [hheld] at hnone'
      cases hnone'
    obtain rfl : σ lock = lock' := Option.some.inj (hheld.symm.trans hlock')
    have hover := h.overridden sw lock
    rcases hcase with ⟨hon, hslots, hbytes⟩ | ⟨hoff, hslots, hbytes⟩
    · rcases hcase' with ⟨-, hslots', hbytes'⟩ | ⟨hoff', -⟩
      · refine ⟨⟨h.bindings, fun i b hb => ?_⟩, fun i => ?_⟩
        · rw [hslots, hslots']
          by_cases hi : i = lock
          · subst hi
            rw [Function.update_self, Function.update_self, hpassed.slots i b hb]
          · rw [Function.update_of_ne hi, Function.update_of_ne (σ.injective.ne hi),
              hpassed.slots i b hb]
        · rw [hbytes, hbytes']
          by_cases hi : i = lock
          · rw [hi, Function.update_self, Function.update_self]
          · rw [Function.update_of_ne hi, Function.update_of_ne (σ.injective.ne hi), h.passedBytes]
      · rw [hover, hon] at hoff'
        cases hoff'
    · rcases hcase' with ⟨hon', -⟩ | ⟨-, hslots', hbytes'⟩
      · rw [hover, hoff] at hon'
        cases hon'
      · rw [hslots, hslots', hbytes, hbytes']
        refine ⟨hpassed, fun i => ?_⟩
        simp only [σ.injective.eq_iff, h.passedBytes]

/-- The sum does not ask for an order. -/
theorem Permuted.sweptByte (h : Permuted σ cfg cfg' slots slots') (hone : cfg.OneLock)
    (sw : Sweep) : MK1Tank.sweptByte sw cfg' slots' = MK1Tank.sweptByte sw cfg slots := by
  have hcontribution : ∀ i, contribution cfg' (sweptBytes sw cfg' slots') (σ i) =
      contribution cfg (sweptBytes sw cfg slots) i := by
    intro i
    unfold contribution
    rw [h.bindings, (h.swept hone sw).2]
  have hsum : (BindingSlot.all.map (contribution cfg' (sweptBytes sw cfg' slots'))).sum =
      (BindingSlot.all.map (contribution cfg (sweptBytes sw cfg slots))).sum := by
    calc (BindingSlot.all.map (contribution cfg' (sweptBytes sw cfg' slots'))).sum
        = ∑ i, contribution cfg' (sweptBytes sw cfg' slots') i := (Fin.sum_univ_def _).symm
      _ = ∑ i, contribution cfg' (sweptBytes sw cfg' slots') (σ i) := (Equiv.sum_comp σ _).symm
      _ = ∑ i, contribution cfg (sweptBytes sw cfg slots) i :=
          Finset.sum_congr rfl fun i _ => hcontribution i
      _ = (BindingSlot.all.map (contribution cfg (sweptBytes sw cfg slots))).sum :=
          Fin.sum_univ_def _
  rw [sweptByte_eq, sweptByte_eq, hsum]

end Permuted

/-! ### Every reachable state -/

/-- No step engages a lock on an axis. -/
theorem axesUnlocked_step (w : LockWatch) (step : LockStep)
    (h : ∀ d p, AxesUnlocked (w.live.config.table d p) (w.live.drive.slots d p)) :
    ∀ d p, AxesUnlocked ((w.step step).live.config.table d p)
      ((w.step step).live.drive.slots d p) := by
  intro d p
  cases step with
  | sweep sw now =>
    rw [LockWatch.step_live, LockStep.apply_sweep, processMappedInputs_config,
      processMappedInputs_slots]
    exact axesUnlocked_swept (h d p) sw
  | clear c =>
    rw [LockWatch.step_live, LockStep.apply_clear]
    cases hclears : c.clears d p with
    | true =>
      intro i b _ _
      rw [RuntimeClear.apply_cleared w.live hclears i]
      rfl
    | false =>
      obtain ⟨hslots, hbindings⟩ := RuntimeClear.apply_other w.live hclears
      intro i b hb haxis
      rw [hslots]
      unfold PortConfig.bindingIn at hb
      rw [hbindings] at hb
      exact h d p i b hb haxis
  | disconnect now =>
    intro i b _ _
    rw [LockWatch.step_live, LockStep.apply_disconnect, disconnectFailsafe_slots]
    rfl

theorem axesUnlocked_after (config : MkhConfig) (steps : List LockStep) (d : Device) (p : Port) :
    AxesUnlocked ((after LockWatch.step (.boot config) steps).live.config.table d p)
      ((after LockWatch.step (.boot config) steps).live.drive.slots d p) := by
  have hboot : ∀ d p, AxesUnlocked ((LockWatch.boot config).live.config.table d p)
      ((LockWatch.boot config).live.drive.slots d p) := fun _ _ _ _ _ _ => rfl
  exact invariant_always axesUnlocked_step steps hboot d p

/-- The second state has the port's bindings in another order, each with its slot. -/
def PermutedAt (σ : Equiv.Perm BindingSlot) (d : Device) (p : Port) (s s' : Live) : Prop :=
  Permuted σ (s.config.table d p) (s'.config.table d p) (s.drive.slots d p) (s'.drive.slots d p)

theorem permutedAt_run {σ : Equiv.Perm BindingSlot} {d : Device} {p : Port}
    (sweeps : List (Sweep × SetterClock)) :
    ∀ {s s' : Live}, (s.config.table d p).OneLock → PermutedAt σ d p s s' →
      PermutedAt σ d p (after sweepStep s sweeps) (after sweepStep s' sweeps) := by
  induction sweeps with
  | nil => exact fun _ h => h
  | cons i rest ih =>
    intro s s' hone h
    rw [after_cons, after_cons]
    refine ih ?_ ?_
    · rw [sweepStep, processMappedInputs_config]
      exact hone
    · unfold PermutedAt sweepStep
      rw [processMappedInputs_config, processMappedInputs_config, processMappedInputs_slots,
        processMappedInputs_slots]
      exact (h.swept hone i.1).1

theorem after_sweepStep_config (sweeps : List (Sweep × SetterClock)) (s : Live) :
    (after sweepStep s sweeps).config = s.config := by
  induction sweeps generalizing s with
  | nil => rfl
  | cons i rest ih => rw [after_cons, ih, sweepStep, processMappedInputs_config]

/-- Permuted bindings have as many bindings. -/
theorem Permuted.bound {σ : Equiv.Perm BindingSlot} {cfg cfg' : PortConfig} {slots slots' : PortSlots}
    (h : Permuted σ cfg cfg' slots slots') (hbound : cfg.bindings ≠ []) : cfg'.bindings ≠ [] := by
  intro hnone
  obtain ⟨b, hb⟩ := List.exists_mem_of_ne_nil _ hbound
  obtain ⟨n, hn, hget⟩ := List.getElem_of_mem hb
  have hin : cfg'.bindingIn (σ ⟨n, lt_of_lt_of_le hn cfg.count_le⟩) = some b := by
    rw [h.bindings, ← hget]
    exact List.getElem?_eq_getElem hn
  simp [PortConfig.bindingIn, hnone] at hin

/-- **The bindings of a port are alternatives**, in every state that sweeps and clears reach, on a port
with bindings and one lock at most: idle bindings add nothing, the sum stays within the byte, and
through any sweeps the byte sent is the same for the bindings in any order. -/
theorem bindings_are_alternatives (config : MkhConfig) (steps : List LockStep) (d : Device) (p : Port)
    (hbound : ((after LockWatch.step (.boot config) steps).live.config.table d p).bindings ≠ [])
    (hone : ((after LockWatch.step (.boot config) steps).live.config.table d p).OneLock) :
    let s := (after LockWatch.step (.boot config) steps).live
    (∀ sw now, Alternatives sw (s.config.table d p) (s.drive.slots d p)
      ((processMappedInputs sw now s).drive.slots d p)
      ((processMappedInputs sw now s).broadcast.channelValue d p)) ∧
    (∀ σ s', PermutedAt σ d p s s' → ∀ sweeps i,
      (after sweepStep s' (sweeps ++ [i])).broadcast.channelValue d p =
        (after sweepStep s (sweeps ++ [i])).broadcast.channelValue d p) := by
  have haxes : ∀ d p, AxesUnlocked
      ((after LockWatch.step (.boot config) steps).live.config.table d p)
      ((after LockWatch.step (.boot config) steps).live.drive.slots d p) :=
    axesUnlocked_after config steps
  generalize (after LockWatch.step (.boot config) steps).live = s at hbound hone haxes
  refine ⟨fun sw now => ?_, fun σ s' h sweeps i => ?_⟩
  · rw [processMappedInputs_slots, processMappedInputs_channel, if_neg hbound]
    exact alternatives (haxes d p) sw
  · have hrun := permutedAt_run sweeps hone h
    have hconfig := after_sweepStep_config sweeps s
    rw [← hconfig] at hbound hone
    rw [after_append, after_append, after_cons, after_cons, after_nil, after_nil, sweepStep, sweepStep,
      processMappedInputs_channel, processMappedInputs_channel, if_neg hbound,
      if_neg (hrun.bound hbound)]
    exact hrun.sweptByte hone i.1

/-- The lock and the stick on port A of hub 1, both at rest. -/
theorem bindings_are_alternatives_rest :
    ((processMappedInputs (sweepOf (stickReport 0)) (fun _ _ => 0)
      (after LockWatch.step (.boot blankConfig) [.clear (.push lockAndStick)]).live
        ).broadcast.channelValue 0 mkhPortA) = 0x80 := by
  have halternatives := (bindings_are_alternatives blankConfig [.clear (.push lockAndStick)] 0 mkhPortA
    (by decide +kernel) (by decide +kernel)).1 (sweepOf (stickReport 0)) fun _ _ => 0
  have hidle : ∀ i, ∀ b ∈ ((after LockWatch.step (.boot blankConfig)
      [.clear (.push lockAndStick)]).live.config.table 0 mkhPortA).bindingIn i,
      Idle (sweepOf (stickReport 0)) b ((processMappedInputs (sweepOf (stickReport 0)) (fun _ _ => 0)
        (after LockWatch.step (.boot blankConfig) [.clear (.push lockAndStick)]).live).drive.slots 0
          mkhPortA i) := by decide +kernel
  exact halternatives.rest fun i b hb => hidle i b hb

end MK1Tank
