/-
The mode of a stick axis.

A stick has no mode, and a table line for a stick drops it, so two tables that differ
only there should drive alike.  They do as far as the passes go: none of them asks an
axis for its mode, and a slot with an axis in it never holds a lock.  The cap does
ask: a binding in mode THL is not scaled, whatever its input is.  So the modes of a
table's axes are irrelevant exactly when no cap of an axis scales anything.
-/
import MK1Tank.Proofs.PortSum
import MK1Tank.Proofs.Unassigned

namespace MK1Tank

open Runs

/-! ### Tables that differ in the modes of their axes -/

/-- The two bindings are the same, the mode of a stick axis apart. -/
structure SameBinding (b b' : Binding) : Prop where
  input : b'.input = b.input
  invert : b'.invert = b.invert
  maxPercent : b'.maxPercent = b.maxPercent
  mode : mkhConfigInputClass b.input ≠ .axis → b'.mode = b.mode

/-- The two tables are the same, the modes of stick axes apart. -/
def SameBesidesAxisModes (table table' : Table) : Prop :=
  ∀ d p, List.Forall₂ SameBinding (table d p).bindings (table' d p).bindings

/-- One sweep, with its readings of the clock. -/
def sweepStep (s : Live) (i : Sweep × SetterClock) : Live := processMappedInputs i.1 i.2 s

/-- The setter calls of a sequence of sweeps from cleared runtime state. -/
def callsOf (cfg : MkhConfig) (status : ThlStatus) (sweeps : List (Sweep × SetterClock)) :
    List (Device × Port × UInt8) :=
  (after sweepStep (Live.start cfg { slots := fun _ _ _ => .clear, thlStatus := status })
    sweeps).channelCalls

/-- No other choice of the axes' modes drives differently. -/
def AxisModesIrrelevant (cfg : MkhConfig) : Prop :=
  ∀ cfg' : MkhConfig, SameBesidesAxisModes cfg.table cfg'.table →
    ∀ status sweeps, callsOf cfg status sweeps = callsOf cfg' status sweeps

/-! ### One port under two tables -/

theorem SameBinding.refl (b : Binding) : SameBinding b b := ⟨rfl, rfl, rfl, fun _ => rfl⟩

/-- The two binding lists have the same slots bound, to the same bindings up to axis modes. -/
theorem bindingIn_of_forall₂ {cfg cfg' : PortConfig}
    (h : List.Forall₂ SameBinding cfg.bindings cfg'.bindings) (i : BindingSlot) :
    (cfg.bindingIn i = none ∧ cfg'.bindingIn i = none) ∨
    ∃ b b', cfg.bindingIn i = some b ∧ cfg'.bindingIn i = some b' ∧ SameBinding b b' := by
  unfold PortConfig.bindingIn
  generalize cfg.bindings = bs at h
  generalize cfg'.bindings = bs' at h
  generalize i.val = n
  induction h generalizing n with
  | nil => exact Or.inl ⟨rfl, rfl⟩
  | cons hb _ ih =>
    cases n with
    | zero => exact Or.inr ⟨_, _, rfl, rfl, hb⟩
    | succ n => simpa using ih n

/-- No slot with an axis in it holds a lock. -/
def AxesUnlocked (cfg : PortConfig) (slots : PortSlots) : Prop :=
  ∀ i b, cfg.bindingIn i = some b → mkhConfigInputClass b.input = .axis →
    (slots i).thlEngaged = false

theorem bindingPass_same {b b' : Binding} (h : SameBinding b b') (sw : Sweep) (slot : Slot) :
    bindingPass sw b' slot = bindingPass sw b slot := by
  by_cases haxis : mkhConfigInputClass b.input = .axis
  · simp only [bindingPass, h.input, haxis, if_true]
  · simp only [bindingPass, h.input, h.mode haxis]

section TwoTables

variable {cfg cfg' : PortConfig} (h : List.Forall₂ SameBinding cfg.bindings cfg'.bindings)
include h

theorem passedSlot_same (sw : Sweep) (slots : PortSlots) :
    passedSlot sw cfg' slots = passedSlot sw cfg slots := by
  funext i
  rcases bindingIn_of_forall₂ h i with ⟨hb, hb'⟩ | ⟨b, b', hb, hb', hsame⟩
  · rw [passedSlot_apply, passedSlot_apply, hb, hb']
  · rw [passedSlot_of_bound hb, passedSlot_of_bound hb', bindingPass_same hsame]

theorem passedBytes_same (sw : Sweep) (slots : PortSlots) :
    passedBytes sw cfg' slots = passedBytes sw cfg slots := by
  funext i
  rcases bindingIn_of_forall₂ h i with ⟨hb, hb'⟩ | ⟨b, b', hb, hb', hsame⟩
  · rw [passedBytes_apply, passedBytes_apply, hb, hb']
  · rw [passedBytes_of_bound hb, passedBytes_of_bound hb', bindingPass_same hsame]

theorem overridden_same (tuning : ThlTuning) (rawBytes : BindingSlot → UInt8) (i : BindingSlot) :
    overridden tuning cfg' rawBytes i = overridden tuning cfg rawBytes i := by
  rw [overridden_eq, overridden_eq]
  congr 1
  funext j
  rcases bindingIn_of_forall₂ h j with ⟨hb, hb'⟩ | ⟨b, b', hb, hb', -⟩
  · rw [hb, hb']
  · rw [hb, hb']
    rfl

end TwoTables

/-- Pass 1 engages no lock in the slot of an axis. -/
theorem axesUnlocked_passed {cfg : PortConfig} {slots : PortSlots} (h : AxesUnlocked cfg slots)
    (sw : Sweep) : AxesUnlocked cfg (passedSlot sw cfg slots) := by
  intro i b hb haxis
  have hlevel : b.onEdge = false := by simp [Binding.onEdge, haxis]
  rw [passedSlot_of_bound hb, bindingPass_slot_of_level hlevel]
  exact h i b hb haxis

theorem axesUnlocked_swept {cfg : PortConfig} {slots : PortSlots} (h : AxesUnlocked cfg slots)
    (sw : Sweep) : AxesUnlocked cfg (sweptSlots sw cfg slots) := by
  intro i b hb haxis
  rcases sweptSlots_apply sw cfg slots i with heq | ⟨heq, -⟩
  · rw [heq]
    exact axesUnlocked_passed h sw i b hb haxis
  · rw [heq]

/-- A lock is found in the same slot under both tables. -/
theorem heldLock_same {cfg cfg' : PortConfig} {slots : PortSlots}
    (h : List.Forall₂ SameBinding cfg.bindings cfg'.bindings) (haxes : AxesUnlocked cfg slots)
    (sw : Sweep) : heldLock sw cfg' slots = heldLock sw cfg slots := by
  unfold heldLock
  rw [passedSlot_same h]
  congr 1
  funext i
  unfold holdsLock
  rcases bindingIn_of_forall₂ h i with ⟨hb, hb'⟩ | ⟨b, b', hb, hb', hsame⟩
  · rw [hb, hb']
  · rw [hb, hb']
    by_cases haxis : mkhConfigInputClass b.input = .axis
    · simp [axesUnlocked_passed haxes sw i b hb haxis]
    · simp [hsame.mode haxis]

/-- **The passes never ask an axis for its mode.** -/
theorem portPass_same {cfg cfg' : PortConfig} {slots : PortSlots}
    (h : List.Forall₂ SameBinding cfg.bindings cfg'.bindings) (haxes : AxesUnlocked cfg slots)
    (sw : Sweep) : sweptSlots sw cfg' slots = sweptSlots sw cfg slots ∧
      sweptBytes sw cfg' slots = sweptBytes sw cfg slots := by
  have hslots : (bindingsPass sw cfg' slots .boot).slots = (bindingsPass sw cfg slots .boot).slots :=
    passedSlot_same h sw slots
  have hbytes : (bindingsPass sw cfg' slots .boot).rawBytes =
      (bindingsPass sw cfg slots .boot).rawBytes := passedBytes_same h sw slots
  unfold sweptSlots sweptBytes
  rw [portPass_eq, portPass_eq, heldLock_same h haxes, passedSlot_same h, passedBytes_same h]
  cases heldLock sw cfg slots with
  | none => exact ⟨hslots, hbytes⟩
  | some lock =>
    simp only [overridden_same h]
    split
    · exact ⟨rfl, rfl⟩
    · exact ⟨hslots, rfl⟩

/-! ### The cap -/

/-- A byte through a binding's invert. -/
def invertByte (rawByte : UInt8) (invert : Bool) : Int :=
  if invert then max 0x00 (min 0xFF (0x100 - (rawByte.toNat : Int))) else rawByte.toNat

theorem invertByte_range (rawByte : UInt8) (invert : Bool) :
    0 ≤ invertByte rawByte invert ∧ invertByte rawByte invert ≤ 0xFF := by
  have hlt : rawByte.toNat < 256 := rawByte.toNat_lt
  unfold invertByte
  split <;> omega

theorem mkApplyBindingConfig_eq (rawByte : UInt8) (b : Binding) :
    mkApplyBindingConfig rawByte b =
      if b.mode = .thl then castByte (invertByte rawByte b.invert)
      else clampByte (0x80 + ((invertByte rawByte b.invert - 0x80) * b.maxPercent).tdiv 100) := rfl

/-- At a full cap the mode makes no difference. -/
theorem mkApplyBindingConfig_full {b : Binding} (h : b.maxPercent = 100) (rawByte : UInt8) :
    mkApplyBindingConfig rawByte b = castByte (invertByte rawByte b.invert) := by
  obtain ⟨hlow, hhigh⟩ := invertByte_range rawByte b.invert
  rw [mkApplyBindingConfig_eq]
  split
  · rfl
  · have hcap : ((b.maxPercent : Nat) : Int) = 100 := by rw [h]; rfl
    rw [hcap, Int.mul_tdiv_cancel _ (by decide), add_sub_cancel, clampByte]
    congr 1
    omega

/-- The table's axes are all at full cap. -/
def AxesUncapped (cfg : MkhConfig) : Prop :=
  ∀ d p, ∀ b ∈ (cfg.table d p).bindings, mkhConfigInputClass b.input = .axis → b.maxPercent = 100

theorem mkApplyBindingConfig_same {b b' : Binding} (h : SameBinding b b')
    (hcap : mkhConfigInputClass b.input = .axis → b.maxPercent = 100) (rawByte : UInt8) :
    mkApplyBindingConfig rawByte b' = mkApplyBindingConfig rawByte b := by
  by_cases haxis : mkhConfigInputClass b.input = .axis
  · rw [mkApplyBindingConfig_full (hcap haxis),
      mkApplyBindingConfig_full (h.maxPercent.trans (hcap haxis)), h.invert]
  · rw [mkApplyBindingConfig_eq, mkApplyBindingConfig_eq, h.mode haxis, h.invert, h.maxPercent]

theorem sweptByte_same {cfg cfg' : PortConfig} {slots : PortSlots}
    (h : List.Forall₂ SameBinding cfg.bindings cfg'.bindings) (haxes : AxesUnlocked cfg slots)
    (hcap : ∀ b ∈ cfg.bindings, mkhConfigInputClass b.input = .axis → b.maxPercent = 100)
    (sw : Sweep) : sweptByte sw cfg' slots = sweptByte sw cfg slots := by
  have hsum : contribution cfg' (sweptBytes sw cfg' slots) =
      contribution cfg (sweptBytes sw cfg slots) := by
    funext i
    rw [(portPass_same h haxes sw).2]
    rcases bindingIn_of_forall₂ h i with ⟨hb, hb'⟩ | ⟨b, b', hb, hb', hsame⟩
    · rw [contribution_of_unbound hb, contribution_of_unbound hb']
    · rw [contribution_of_bound hb, contribution_of_bound hb',
        mkApplyBindingConfig_same hsame (hcap b (List.mem_of_getElem? hb))]
  rw [sweptByte_eq, sweptByte_eq, hsum]

/-! ### Two runs -/

/-- The two runs have done the same so far, and no axis holds a lock. -/
structure DriveAlike (cfg cfg' : MkhConfig) (s s' : Live) : Prop where
  config : s.config = cfg
  config' : s'.config = cfg'
  slots : s'.drive.slots = s.drive.slots
  calls : s'.channelCalls = s.channelCalls
  axes : ∀ d p, AxesUnlocked (cfg.table d p) (s.drive.slots d p)

theorem driveAlike_step {cfg cfg' : MkhConfig} (h : SameBesidesAxisModes cfg.table cfg'.table)
    (hcap : AxesUncapped cfg) {s s' : Live} (hs : DriveAlike cfg cfg' s s')
    (i : Sweep × SetterClock) : DriveAlike cfg cfg' (sweepStep s i) (sweepStep s' i) := by
  have hunbound : ∀ d p, (cfg'.table d p).bindings = [] ↔ (cfg.table d p).bindings = [] := by
    intro d p
    rw [← List.length_eq_zero_iff, ← List.length_eq_zero_iff, (h d p).length_eq]
  unfold sweepStep
  refine ⟨?_, ?_, ?_, ?_, ?_⟩
  · rw [processMappedInputs_config, hs.config]
  · rw [processMappedInputs_config, hs.config']
  · funext d p
    rw [processMappedInputs_slots, processMappedInputs_slots, hs.config, hs.config', hs.slots]
    exact (portPass_same (h d p) (hs.axes d p) i.1).1
  · rw [processMappedInputs_calls, processMappedInputs_calls, hs.config, hs.config', hs.slots, hs.calls]
    congr 2
    funext cell
    unfold sweptCalls
    simp only [hunbound, sweptByte_same (h cell.1 cell.2) (hs.axes cell.1 cell.2)
      (hcap cell.1 cell.2)]
  · intro d p
    rw [processMappedInputs_slots, hs.config]
    exact axesUnlocked_swept (hs.axes d p) i.1

theorem driveAlike_run {cfg cfg' : MkhConfig} (h : SameBesidesAxisModes cfg.table cfg'.table)
    (hcap : AxesUncapped cfg) (sweeps : List (Sweep × SetterClock)) {s s' : Live}
    (hs : DriveAlike cfg cfg' s s') :
    DriveAlike cfg cfg' (after sweepStep s sweeps) (after sweepStep s' sweeps) := by
  induction sweeps generalizing s s' with
  | nil => exact hs
  | cons i rest ih =>
    rw [after_cons, after_cons]
    exact ih (driveAlike_step h hcap hs i)

/-- With every axis at full cap no choice of modes matters. -/
theorem irrelevant_of_uncapped {cfg : MkhConfig} (hcap : AxesUncapped cfg) :
    AxisModesIrrelevant cfg := by
  intro cfg' h status sweeps
  have hstart : DriveAlike cfg cfg'
      (Live.start cfg { slots := fun _ _ _ => .clear, thlStatus := status })
      (Live.start cfg' { slots := fun _ _ _ => .clear, thlStatus := status }) :=
    ⟨rfl, rfl, rfl, rfl, fun _ _ _ _ _ _ => rfl⟩
  exact (driveAlike_run h hcap sweeps hstart).calls.symm

/-! ### One nudge of a stick -/

/-- The axis a hair past its deadzone, and nothing else touched. -/
def nudged (input : InputSource) : ControllerData :=
  { ControllerData.zero with
    klass := .gamepad
    axisX := if input = .lsew then -42 else 0
    axisY := if input = .lsns then -42 else 0
    axisRX := if input = .rsew then -42 else 0
    axisRY := if input = .rsns then -42 else 0 }

theorem readTokenRaw_nudged (input token : InputSource) :
    readTokenRaw (nudged input) token =
      if token = input ∧ mkhConfigInputClass token = .axis then -42 else 0 := by
  cases token with
  | lsns => simp [readTokenRaw, nudged, mkhConfigInputClass, eq_comm]
  | lsew => simp [readTokenRaw, nudged, mkhConfigInputClass, eq_comm]
  | rsns => simp [readTokenRaw, nudged, mkhConfigInputClass, eq_comm]
  | rsew => simp [readTokenRaw, nudged, mkhConfigInputClass, eq_comm]
  | _ => simp [readTokenRaw, nudged, mkhConfigInputClass, ControllerData.zero, ControllerData.a,
      ControllerData.b, ControllerData.x, ControllerData.y, ControllerData.l1, ControllerData.r1,
      ControllerData.thumbL, ControllerData.thumbR, ControllerData.dpadUp, ControllerData.dpadDown,
      ControllerData.dpadLeft, ControllerData.dpadRight, ControllerData.buttons]

theorem nudged_atRest {input : InputSource} {b : Binding}
    (h : ¬ (b.input = input ∧ mkhConfigInputClass b.input = .axis)) :
    bindingAtRest (nudged input) b = true := by
  have hreads : readTokenRaw (nudged input) b.input = 0 := by
    rw [readTokenRaw_nudged, if_neg h]
  unfold bindingAtRest pressedLevel
  rw [hreads]
  split
  · decide
  · split
    · decide
    · split <;> decide

/-- What a nudge makes of a binding: one step of the channel for the axis itself, else nothing. -/
theorem bindingPass_nudged (input : InputSource) (b : Binding) :
    (bindingPass (sweepOf (nudged input)) b .clear).slot.started = false ∧
      (bindingPass (sweepOf (nudged input)) b .clear).rawByte =
        if b.input = input ∧ mkhConfigInputClass b.input = .axis then 129 else neutral := by
  by_cases h : b.input = input ∧ mkhConfigInputClass b.input = .axis
  · have hreads : readTokenRaw (nudged input) b.input = -42 := by
      rw [readTokenRaw_nudged, if_pos h]
    have hstep : mkStickYToChannelByte (-42) = 129 := by decide +kernel
    have haxis : bindingPass (sweepOf (nudged input)) b .clear =
        { slot := .clear, rawByte := mkStickYToChannelByte (readTokenRaw (nudged input) b.input),
          thlStatus := none } := if_pos h.2
    rw [if_pos h, haxis, hreads, hstep]
    exact ⟨rfl, rfl⟩
  · have hrest : (bindingPass (sweepOf (nudged input)) b .clear).rawByte = neutral ∧
        (bindingPass (sweepOf (nudged input)) b .clear).slot.started = false :=
      bindingPass_atRest (nudged_atRest h) rfl
    rw [if_neg h]
    exact ⟨hrest.2, hrest.1⟩

/-- A binding that is not scaled. -/
def Binding.unscaled (b : Binding) : Prop := b.mode = .thl ∨ b.maxPercent = 100

/-- What one step of the channel becomes under a cap: itself, or nothing. -/
theorem contribution_step {b : Binding} (hmax : b.maxPercent ≤ 100) :
    (b.unscaled → (mkApplyBindingConfig 129 b).toNat = if b.invert then 127 else 129) ∧
    (¬ b.unscaled → (mkApplyBindingConfig 129 b).toNat = 128) := by
  have hinvert : invertByte 129 b.invert = if b.invert then 127 else 129 := by
    cases b.invert <;> rfl
  constructor
  · intro hfull
    have heq : mkApplyBindingConfig 129 b = castByte (invertByte 129 b.invert) := by
      rcases hfull with hmode | hcap
      · rw [mkApplyBindingConfig_eq, if_pos hmode]
      · exact mkApplyBindingConfig_full hcap 129
    rw [heq, hinvert]
    cases b.invert <;> rfl
  · intro hscaled
    have hlt : b.maxPercent < 100 := by
      have hne : b.maxPercent ≠ 100 := fun hc => hscaled (Or.inr hc)
      omega
    have hzero : ((invertByte 129 b.invert - 0x80) * b.maxPercent).tdiv 100 = 0 := by
      rw [hinvert]
      cases b.invert with
      | false =>
        have hone : ((if false = true then 127 else 129 : Int) - 0x80) * b.maxPercent
            = b.maxPercent := by simp
        rw [hone]
        exact Int.tdiv_eq_zero_of_lt (by omega) (by omega)
      | true =>
        have hneg : ((if true = true then 127 else 129 : Int) - 0x80) * b.maxPercent
            = -(b.maxPercent : Int) := by simp
        rw [hneg, Int.neg_tdiv, Int.tdiv_eq_zero_of_lt (by omega) (by omega), neg_zero]
    rw [mkApplyBindingConfig_eq, if_neg fun hc => hscaled (Or.inl hc), hzero]
    rfl

section Nudge

variable (cfg : PortConfig) (input : InputSource)

/-- The bytes that reach the sum when one axis is nudged. -/
theorem sweptBytes_nudged (i : BindingSlot) :
    sweptBytes (sweepOf (nudged input)) cfg (fun _ => .clear) i =
      if ∃ b, cfg.bindingIn i = some b ∧ b.input = input ∧ mkhConfigInputClass b.input = .axis
      then 129 else neutral := by
  have hidle : (bindingsPass (sweepOf (nudged input)) cfg (fun _ => .clear) .boot).slots.idle := by
    intro j
    show (passedSlot (sweepOf (nudged input)) cfg (fun _ => .clear) j).started = false
    rw [passedSlot_apply]
    cases cfg.bindingIn j with
    | none => rfl
    | some b => exact (bindingPass_nudged input b).1
  have hpass : portPass (sweepOf (nudged input)) cfg (fun _ => .clear) .boot =
      bindingsPass (sweepOf (nudged input)) cfg (fun _ => .clear) .boot :=
    overridePass_of_idle hidle _
  have hbytes : sweptBytes (sweepOf (nudged input)) cfg (fun _ => .clear) =
      passedBytes (sweepOf (nudged input)) cfg (fun _ => .clear) := congrArg PortPass.rawBytes hpass
  rw [hbytes, passedBytes_apply]
  cases hb : cfg.bindingIn i with
  | none => simp
  | some b => simp [(bindingPass_nudged input b).2]

/-- What the port's slots add when one axis is nudged. -/
def nudgeSum : Int :=
  ∑ i : BindingSlot, contribution cfg (sweptBytes (sweepOf (nudged input)) cfg fun _ => .clear) i

theorem contribution_nudged_range (hmax : ∀ b ∈ cfg.bindings, b.maxPercent ≤ 100) (i : BindingSlot) :
    |contribution cfg (sweptBytes (sweepOf (nudged input)) cfg fun _ => .clear) i| ≤ 1 := by
  cases hb : cfg.bindingIn i with
  | none =>
    rw [contribution_of_unbound hb]
    decide
  | some b =>
    have hcap := hmax b (List.mem_of_getElem? hb)
    rw [contribution_of_bound hb, sweptBytes_nudged]
    split
    · by_cases hfull : b.unscaled
      · rw [(contribution_step hcap).1 hfull]
        cases b.invert <;> decide
      · rw [(contribution_step hcap).2 hfull]
        decide
    · rw [mkApplyBindingConfig_neutral]
      decide

/-- No port's sum is clamped by it. -/
theorem sweptByte_nudged (hmax : ∀ b ∈ cfg.bindings, b.maxPercent ≤ 100) :
    ((sweptByte (sweepOf (nudged input)) cfg fun _ => .clear).toNat : Int) - 0x80 =
      nudgeSum cfg input := by
  have hrange : |nudgeSum cfg input| ≤ 8 := by
    refine (Finset.abs_sum_le_sum_abs _ _).trans ?_
    refine (Finset.sum_le_card_nsmul _ _ 1 fun i _ => contribution_nudged_range cfg input hmax i).trans ?_
    simp
  have hsum : (BindingSlot.all.map (contribution cfg
      (sweptBytes (sweepOf (nudged input)) cfg fun _ => .clear))).sum = nudgeSum cfg input :=
    (Fin.sum_univ_def _).symm
  obtain ⟨hlow, hhigh⟩ := abs_le.mp hrange
  rw [sweptByte_eq, hsum, castByte]
  have hclamp : (128 + max (-128) (min 127 (nudgeSum cfg input))) % 256 = 128 + nudgeSum cfg input := by
    omega
  rw [hclamp, UInt8.toNat_ofNat']
  omega

end Nudge

/-! ### The mode that makes the difference -/

/-- The lock mode put in, or taken out. -/
def Binding.flipLock (b : Binding) : Binding :=
  { b with mode := if b.mode = .thl then .proportional else .thl }

/-- One binding's mode flipped. -/
def MkhConfig.flipLockAt (cfg : MkhConfig) (d : Device) (p : Port) (i : BindingSlot) (b : Binding) :
    MkhConfig :=
  cfg.setPort d p
    { bindings := (cfg.table d p).bindings.set i.val b.flipLock
      fromFile := (cfg.table d p).fromFile
      count_le := by rw [List.length_set]; exact (cfg.table d p).count_le }

theorem forall₂_set {bs : List Binding} {n : Nat} {b b' : Binding} (h : bs[n]? = some b)
    (hb : SameBinding b b') : List.Forall₂ SameBinding bs (bs.set n b') := by
  induction bs generalizing n with
  | nil => exact List.Forall₂.nil
  | cons head rest ih =>
    cases n with
    | zero =>
      obtain rfl : head = b := Option.some.inj h
      exact List.Forall₂.cons hb (List.forall₂_same.mpr fun b _ => SameBinding.refl b)
    | succ n => exact List.Forall₂.cons (SameBinding.refl head) (ih (by simpa using h))

section Flip

variable {cfg : MkhConfig} {d : Device} {p : Port} {i : BindingSlot} {b : Binding}
  (hb : (cfg.table d p).bindingIn i = some b)
include hb

theorem sameBesidesAxisModes_flip (haxis : mkhConfigInputClass b.input = .axis) :
    SameBesidesAxisModes cfg.table (cfg.flipLockAt d p i b).table := by
  intro d' p'
  unfold MkhConfig.flipLockAt
  rw [MkhConfig.setPort_apply]
  by_cases hcell : d' = d ∧ p' = p
  · obtain ⟨rfl, rfl⟩ := hcell
    rw [if_pos ⟨rfl, rfl⟩]
    exact forall₂_set hb ⟨rfl, rfl, rfl, fun h => absurd haxis h⟩
  · rw [if_neg hcell]
    exact List.forall₂_same.mpr fun b _ => SameBinding.refl b

theorem bindingIn_flip (j : BindingSlot) :
    ((cfg.flipLockAt d p i b).table d p).bindingIn j =
      if j = i then some b.flipLock else (cfg.table d p).bindingIn j := by
  unfold MkhConfig.flipLockAt
  rw [MkhConfig.setPort_apply, if_pos ⟨rfl, rfl⟩]
  show ((cfg.table d p).bindings.set i.val b.flipLock)[j.val]? = _
  by_cases hj : j = i
  · have hlt : i.val < (cfg.table d p).bindings.length := (List.getElem?_eq_some_iff.mp hb).1
    rw [if_pos hj, hj, List.getElem?_set_self hlt]
  · have hne : i.val ≠ j.val := fun hc => hj (Fin.ext hc.symm)
    rw [if_neg hj, List.getElem?_set_ne hne]
    rfl

/-- One step of the axis is one step of the port under the one mode, and nothing under the other. -/
theorem nudgeSum_flip (haxis : mkhConfigInputClass b.input = .axis) (hcap : b.maxPercent < 100) :
    nudgeSum ((cfg.flipLockAt d p i b).table d p) b.input ≠ nudgeSum (cfg.table d p) b.input := by
  have hbytes : sweptBytes (sweepOf (nudged b.input)) ((cfg.flipLockAt d p i b).table d p)
      (fun _ => .clear) = sweptBytes (sweepOf (nudged b.input)) (cfg.table d p) fun _ => .clear := by
    funext j
    rw [sweptBytes_nudged, sweptBytes_nudged, bindingIn_flip hb]
    by_cases hj : j = i
    · subst hj
      simp [hb, Binding.flipLock, haxis]
    · rw [if_neg hj]
  have hat : sweptBytes (sweepOf (nudged b.input)) (cfg.table d p) (fun _ => .clear) i = 129 := by
    rw [sweptBytes_nudged, if_pos ⟨b, hb, rfl, haxis⟩]
  unfold nudgeSum
  rw [hbytes]
  generalize sweptBytes (sweepOf (nudged b.input)) (cfg.table d p) (fun _ => .clear) = raw at hat
  -- Every other slot adds the same under both tables.
  have hothers : ∀ j ∈ Finset.univ.erase i, contribution ((cfg.flipLockAt d p i b).table d p) raw j =
      contribution (cfg.table d p) raw j := by
    intro j hj
    unfold contribution
    rw [bindingIn_flip hb, if_neg (Finset.ne_of_mem_erase hj)]
  have hown : contribution ((cfg.flipLockAt d p i b).table d p) raw i ≠
      contribution (cfg.table d p) raw i := by
    have hscaled : b.maxPercent ≠ 100 := Nat.ne_of_lt hcap
    have hstep := contribution_step (b := b) hcap.le
    have hflip := contribution_step (b := b.flipLock) hcap.le
    unfold contribution
    rw [bindingIn_flip hb, if_pos rfl, hb, hat]
    by_cases hmode : b.mode = .thl
    · have hfull : b.unscaled := Or.inl hmode
      have hnot : ¬ b.flipLock.unscaled := by
        simp [Binding.unscaled, Binding.flipLock, hmode, hscaled]
      simp only [hstep.1 hfull, hflip.2 hnot]
      cases b.invert <;> decide
    · have hfull : b.flipLock.unscaled := by
        simp [Binding.unscaled, Binding.flipLock, hmode]
      have hnot : ¬ b.unscaled := fun hc => hc.elim hmode hscaled
      have hflipped : (mkApplyBindingConfig 129 b.flipLock).toNat = if b.invert then 127 else 129 :=
        hflip.1 hfull
      simp only [hflipped, hstep.2 hnot]
      cases b.invert <;> decide
  rw [← Finset.add_sum_erase _ _ (Finset.mem_univ i), ← Finset.add_sum_erase _ _ (Finset.mem_univ i),
    Finset.sum_congr rfl hothers]
  exact fun hsame => hown (add_right_cancel hsame)

end Flip

theorem mem_callsOf (cfg : MkhConfig) (status : ThlStatus) (sw : Sweep) (now : SetterClock)
    (d : Device) (p : Port) (value : UInt8) :
    (d, p, value) ∈ callsOf cfg status [(sw, now)] ↔
      (cfg.table d p).bindings ≠ [] ∧ value = sweptByte sw (cfg.table d p) fun _ => .clear := by
  unfold callsOf sweepStep
  rw [after_cons, after_nil, processMappedInputs_calls]
  show _ ∈ (allPorts.reverse.flatMap fun cell => sweptCalls sw (cfg.table cell.1 cell.2) cell
    fun _ => .clear) ++ [] ↔ _
  rw [List.append_nil, List.mem_flatMap]
  unfold sweptCalls
  constructor
  · rintro ⟨cell, -, hmem⟩
    by_cases hnone : (cfg.table cell.1 cell.2).bindings = []
    · rw [if_pos hnone] at hmem
      exact absurd hmem List.not_mem_nil
    · rw [if_neg hnone] at hmem
      obtain ⟨rfl, rfl, rfl⟩ : d = cell.1 ∧ p = cell.2 ∧ value =
          sweptByte sw (cfg.table cell.1 cell.2) fun _ => .clear := by simpa using hmem
      exact ⟨hnone, rfl⟩
  · rintro ⟨hbound, rfl⟩
    exact ⟨(d, p), List.mem_reverse.mpr (mem_allPorts (d, p)), by simp [hbound]⟩

/-- **The modes of a table's axes are irrelevant exactly when its axes are all at full cap.** -/
theorem axis_modes_irrelevant_iff (cfg : MkhConfig)
    (hmax : ∀ d p, ∀ b ∈ (cfg.table d p).bindings, b.maxPercent ≤ 100) :
    AxisModesIrrelevant cfg ↔
      ∀ d p, ∀ b ∈ (cfg.table d p).bindings, mkhConfigInputClass b.input = .axis →
        b.maxPercent = 100 := by
  refine ⟨fun hirrelevant d p b hmem haxis => ?_, irrelevant_of_uncapped⟩
  obtain ⟨n, hn, hget⟩ := List.getElem_of_mem hmem
  obtain ⟨i, hi⟩ : ∃ i : BindingSlot, i.val = n :=
    ⟨⟨n, lt_of_lt_of_le hn (cfg.table d p).count_le⟩, rfl⟩
  have hb : (cfg.table d p).bindingIn i = some b := by
    unfold PortConfig.bindingIn
    rw [hi, ← hget]
    exact List.getElem?_eq_getElem hn
  by_contra hcap
  have hlt : b.maxPercent < 100 := lt_of_le_of_ne (hmax d p b hmem) hcap
  have hflipMax : ∀ b' ∈ ((cfg.flipLockAt d p i b).table d p).bindings, b'.maxPercent ≤ 100 := by
    intro b' hb'
    unfold MkhConfig.flipLockAt at hb'
    rw [MkhConfig.setPort_apply, if_pos ⟨rfl, rfl⟩] at hb'
    rcases List.mem_or_eq_of_mem_set hb' with hold | rfl
    · exact hmax d p b' hold
    · exact hmax d p b hmem
  have hcalls := hirrelevant (cfg.flipLockAt d p i b) (sameBesidesAxisModes_flip hb haxis) .boot
    [(sweepOf (nudged b.input), fun _ _ => 0)]
  have hcall : (d, p, sweptByte (sweepOf (nudged b.input)) (cfg.table d p) fun _ => .clear) ∈
      callsOf cfg .boot [(sweepOf (nudged b.input), fun _ _ => 0)] :=
    (mem_callsOf ..).mpr ⟨List.ne_nil_of_mem hmem, rfl⟩
  rw [hcalls, mem_callsOf] at hcall
  refine nudgeSum_flip hb haxis hlt ?_
  rw [← sweptByte_nudged _ _ hflipMax, ← sweptByte_nudged _ _ (hmax d p), hcall.2]

/-- The left stick on port A of hub 1, at half power. -/
def halfStick (mode : InputMode) : MkhConfig :=
  blankConfig.setPort 0 mkhPortA
    { bindings := [{ input := .lsns, invert := false, maxPercent := 50, mode := mode }]
      fromFile := true
      count_le := by simp }

theorem axis_modes_irrelevant_stick : AxisModesIrrelevant stickConfig :=
  (axis_modes_irrelevant_iff stickConfig (by decide +kernel)).mpr (by decide +kernel)

/-- With mode THL the stick drives at full power, and without it at half. -/
theorem capped_stick_drives_full : ¬ ∀ cfg : MkhConfig, AxisModesIrrelevant cfg := by
  intro hall
  have hcalls := hall (halfStick .proportional) (halfStick .thl) (by
    intro d p
    unfold halfStick
    rw [MkhConfig.setPort_apply, MkhConfig.setPort_apply]
    by_cases hcell : d = 0 ∧ p = mkhPortA
    · rw [if_pos hcell, if_pos hcell]
      exact List.Forall₂.cons ⟨rfl, rfl, rfl, fun h => absurd rfl h⟩ List.Forall₂.nil
    · rw [if_neg hcell, if_neg hcell]
      exact List.Forall₂.nil) .boot [(sweepOf (stickReport (-512)), fun _ _ => 0)]
  exact absurd hcalls (by decide +kernel)

end MK1Tank
