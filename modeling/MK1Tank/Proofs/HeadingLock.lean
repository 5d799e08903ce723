/-
The heading lock and its siblings.

A port with one lock on a button or trigger is driven by the lock or by its siblings,
never by both.  Each of them makes its byte first, from its own slot; then pass 2 keeps
the lock's byte alone, or puts the lock off and leaves the siblings' bytes to the sum.
What a sibling remembers is no matter of the lock, and what the lock remembers changes
by a press of its own, by a sibling past the threshold or by a clear.
-/
import MK1Tank.Proofs.AxisModes
import MK1Tank.Proofs.Failsafe
import MK1Tank.Proofs.Presses

namespace MK1Tank

open FileProgram Runs Rounding

/-! ### One port, one lock -/

/-- The slot holds a lock on a button or trigger, and no other slot of the port holds a lock. -/
structure OnlyLock (cfg : PortConfig) (lock : BindingSlot) (b : Binding) : Prop where
  bound : cfg.bindingIn lock = some b
  mode : b.mode = .thl
  input : mkhConfigInputClass b.input ≠ .axis
  only : ∀ j b', cfg.bindingIn j = some b' → b'.mode = .thl → j = lock

/-- The lock's control output for its reference, as a byte of the channel. -/
def lockOutput (sw : Sweep) (referenceDeg : ℚ) : UInt8 :=
  clampByte (0x80 + lround ((mkhThlComputeOutputPct sw.tuning referenceDeg sw.headingDeg).2 / 100 * 127))

/-- That output through the binding's invert, and nothing else. -/
def lockByte (sw : Sweep) (b : Binding) (referenceDeg : ℚ) : UInt8 :=
  if b.invert then clampByte (0x100 - (lockOutput sw referenceDeg).toNat)
  else lockOutput sw referenceDeg

/-- The sum of the other bindings alone, clamped. -/
def siblingsByte (cfg : PortConfig) (rawBytes : BindingSlot → UInt8) (lock : BindingSlot) : UInt8 :=
  castByte (0x80 + max (-128) (min 127
    ((BindingSlot.all.erase lock).map (contribution cfg rawBytes)).sum))

section Port

variable {sw : Sweep} {cfg : PortConfig} {slots : PortSlots} {lock : BindingSlot} {b : Binding}

theorem OnlyLock.passedSlot_lock (h : OnlyLock cfg lock b) :
    passedSlot sw cfg slots lock = thlToggle (slots lock) (pressedLevel sw.controller b.input) sw := by
  have hedge : b.onEdge = true := by simp [Binding.onEdge, h.input, h.mode]
  rw [passedSlot_of_bound h.bound, bindingPass_of_onEdge hedge, h.mode]
  exact thlPass_slot _ _ _

theorem OnlyLock.passedBytes_lock (h : OnlyLock cfg lock b) :
    passedBytes sw cfg slots lock =
      if (passedSlot sw cfg slots lock).thlEngaged then
        lockOutput sw (passedSlot sw cfg slots lock).thlReferenceDeg
      else neutral := by
  have hedge : b.onEdge = true := by simp [Binding.onEdge, h.input, h.mode]
  rw [h.passedSlot_lock, passedBytes_of_bound h.bound, bindingPass_of_onEdge hedge, h.mode]
  unfold thlPass
  simp only
  split <;> rfl

theorem OnlyLock.oneLock (h : OnlyLock cfg lock b) : cfg.OneLock := by
  have hlock : ∀ i, cfg.isLock i = true → i = lock := by
    intro i hi
    unfold PortConfig.isLock at hi
    cases hb : cfg.bindingIn i with
    | none => simp [hb] at hi
    | some b' => exact h.only i b' hb (by simpa [hb] using hi)
  exact fun i j hi hj => (hlock i hi).trans (hlock j hj).symm

/-- Pass 2 finds the port's lock, or none. -/
theorem OnlyLock.heldLock_eq (h : OnlyLock cfg lock b) :
    heldLock sw cfg slots =
      if (passedSlot sw cfg slots lock).thlEngaged then some lock else none := by
  have hheld : holdsLock cfg (passedSlot sw cfg slots) lock = true ↔
      (passedSlot sw cfg slots lock).thlEngaged = true := by
    rw [holdsLock_iff]
    exact ⟨fun ⟨_, _, _, hengaged⟩ => hengaged, fun hengaged => ⟨b, h.bound, h.mode, hengaged⟩⟩
  split
  · rename_i hengaged
    exact (heldLock_eq_some h.oneLock sw slots lock).mpr (hheld.mpr hengaged)
  · rename_i hoff
    refine List.find?_eq_none.mpr fun j _ hj => hoff ?_
    obtain ⟨b', hb', hmode', -⟩ := holdsLock_iff.mp hj
    obtain rfl := h.only j b' hb' hmode'
    exact hheld.mp hj

/-! ### What reaches the sum -/

theorem contribution_neutral {rawBytes : BindingSlot → UInt8} {j : BindingSlot}
    (h : rawBytes j = neutral) : contribution cfg rawBytes j = 0 := by
  cases hb : cfg.bindingIn j with
  | none => exact contribution_of_unbound hb rawBytes
  | some b' =>
    rw [contribution_of_bound hb, h, mkApplyBindingConfig_neutral]
    rfl

/-- One slot set apart from the sum. -/
theorem sum_contribution (rawBytes : BindingSlot → UInt8) (lock : BindingSlot) :
    (BindingSlot.all.map (contribution cfg rawBytes)).sum = contribution cfg rawBytes lock +
      ((BindingSlot.all.erase lock).map (contribution cfg rawBytes)).sum :=
  (List.sum_map_erase (contribution cfg rawBytes) (BindingSlot.mem_all lock)).symm

theorem mem_siblings {j lock : BindingSlot} (h : j ∈ BindingSlot.all.erase lock) : j ≠ lock :=
  ((List.nodup_finRange _).mem_erase_iff.mp h).1

/-- A byte of the channel is not clamped by the sum. -/
theorem castByte_delta (v : UInt8) :
    castByte (0x80 + max (-128) (min 127 ((v.toNat : Int) - 0x80))) = v := by
  have hlt : v.toNat < 256 := v.toNat_lt
  have hvalue : (0x80 : Int) + max (-128) (min 127 ((v.toNat : Int) - 0x80)) = v.toNat := by omega
  rw [hvalue]
  unfold castByte
  rw [Int.emod_eq_of_lt (by omega) (by omega), Int.toNat_natCast]
  simp

theorem OnlyLock.applied (h : OnlyLock cfg lock b) (rawByte : UInt8) :
    mkApplyBindingConfig rawByte b =
      if b.invert then clampByte (0x100 - rawByte.toNat) else rawByte := by
  rw [mkApplyBindingConfig_eq, if_pos h.mode]
  unfold invertByte clampByte
  split
  · rfl
  · unfold castByte
    have hlt : rawByte.toNat < 256 := rawByte.toNat_lt
    rw [Int.emod_eq_of_lt (by omega) (by omega), Int.toNat_natCast]
    simp

/-! ### The contract of a sweep -/

/-- The sweep sees a press edge of the lock. -/
abbrev lockEdge (sw : Sweep) (b : Binding) (slot : Slot) : Bool :=
  pressedLevel sw.controller b.input && !slot.thlPrevPressed

/-- What a sweep does to a port with one lock. -/
structure LockContract (sw : Sweep) (cfg : PortConfig) (lock : BindingSlot) (b : Binding)
    (slots slots' : PortSlots) (byte : UInt8) : Prop where
  /-- With the lock on afterwards, the port is sent the lock's output and nothing else. -/
  exclusive : (slots' lock).thlEngaged = true → byte = lockByte sw b (slots' lock).thlReferenceDeg
  /-- A sibling past the threshold puts it off, and the port is sent the siblings' sum. -/
  cancelled : overridden sw.tuning cfg (passedBytes sw cfg slots) lock = true →
    (slots' lock).thlEngaged = false ∧ byte = siblingsByte cfg (passedBytes sw cfg slots) lock
  /-- Nothing but its own press edge or such a sibling puts it off. -/
  stays : (slots lock).thlEngaged = true → ((slots' lock).thlEngaged = true ↔
    lockEdge sw b (slots lock) = false ∧
      overridden sw.tuning cfg (passedBytes sw cfg slots) lock = false)
  reference : (slots lock).thlEngaged = true → (slots' lock).thlEngaged = true →
    (slots' lock).thlReferenceDeg = (slots lock).thlReferenceDeg
  /-- A sibling's slot goes its own way. -/
  siblings : ∀ j b', j ≠ lock → cfg.bindingIn j = some b' →
    slots' j = (bindingPass sw b' (slots j)).slot

/-- What a press does to a lock that is on. -/
theorem thlToggle_engaged {slot : Slot} (h : slot.thlEngaged = true) (pressed : Bool) (sw : Sweep) :
    (thlToggle slot pressed sw).thlEngaged = !(pressed && !slot.thlPrevPressed) ∧
      (thlToggle slot pressed sw).thlReferenceDeg = slot.thlReferenceDeg := by
  unfold thlToggle
  cases hedge : pressed && !slot.thlPrevPressed with
  | true => simp [h]
  | false => simp [h]

/-- The three ways a sweep can end for the port. -/
theorem OnlyLock.sweep_cases (h : OnlyLock cfg lock b) (sw : Sweep) (slots : PortSlots) :
    ((passedSlot sw cfg slots lock).thlEngaged = false ∧
      sweptSlots sw cfg slots = passedSlot sw cfg slots ∧
      sweptBytes sw cfg slots = passedBytes sw cfg slots) ∨
    ((passedSlot sw cfg slots lock).thlEngaged = true ∧
      overridden sw.tuning cfg (passedBytes sw cfg slots) lock = true ∧
      sweptSlots sw cfg slots = Function.update (passedSlot sw cfg slots) lock
        { passedSlot sw cfg slots lock with thlEngaged := false } ∧
      sweptBytes sw cfg slots = Function.update (passedBytes sw cfg slots) lock neutral) ∨
    ((passedSlot sw cfg slots lock).thlEngaged = true ∧
      overridden sw.tuning cfg (passedBytes sw cfg slots) lock = false ∧
      sweptSlots sw cfg slots = passedSlot sw cfg slots ∧
      sweptBytes sw cfg slots =
        fun i => if i = lock then passedBytes sw cfg slots i else neutral) := by
  have hheld : heldLock sw cfg slots =
      if (passedSlot sw cfg slots lock).thlEngaged then some lock else none := h.heldLock_eq
  cases hengaged : (passedSlot sw cfg slots lock).thlEngaged with
  | false =>
    rw [if_neg (by simp [hengaged])] at hheld
    rcases portPass_cases sw cfg slots with ⟨-, hkept⟩ | ⟨lock', hlock, -⟩
    · exact Or.inl ⟨rfl, hkept⟩
    · rw [hheld] at hlock
      cases hlock
  | true =>
    rw [if_pos hengaged] at hheld
    rcases portPass_cases sw cfg slots with ⟨hnone, -⟩ | ⟨lock', hlock, hcases⟩
    · rw [hheld] at hnone
      cases hnone
    · obtain rfl := Option.some.inj (hheld.symm.trans hlock)
      rcases hcases with hover | hheldOn
      · exact Or.inr (Or.inl ⟨rfl, hover⟩)
      · exact Or.inr (Or.inr ⟨rfl, hheldOn⟩)

/-- With the lock's byte at neutral the port is sent the siblings' sum. -/
theorem sweptByte_siblings {rawBytes : BindingSlot → UInt8}
    (hlock : sweptBytes sw cfg slots lock = neutral)
    (hothers : ∀ j, j ≠ lock → sweptBytes sw cfg slots j = rawBytes j) :
    sweptByte sw cfg slots = siblingsByte cfg rawBytes lock := by
  have hsame : (BindingSlot.all.erase lock).map (contribution cfg (sweptBytes sw cfg slots)) =
      (BindingSlot.all.erase lock).map (contribution cfg rawBytes) := by
    refine List.map_congr_left fun j hj => ?_
    unfold contribution
    rw [hothers j (mem_siblings hj)]
  rw [sweptByte_eq, sum_contribution _ lock, contribution_neutral hlock, zero_add, hsame]
  rfl

/-- With the siblings' bytes at neutral the port is sent the lock's, through its invert. -/
theorem OnlyLock.sweptByte_lock (h : OnlyLock cfg lock b)
    (hothers : ∀ j, j ≠ lock → sweptBytes sw cfg slots j = neutral) :
    sweptByte sw cfg slots =
      if b.invert then clampByte (0x100 - (sweptBytes sw cfg slots lock).toNat)
      else sweptBytes sw cfg slots lock := by
  have hnone : ((BindingSlot.all.erase lock).map
      (contribution cfg (sweptBytes sw cfg slots))).sum = 0 := by
    refine List.sum_eq_zero fun x hx => ?_
    obtain ⟨j, hj, rfl⟩ := List.mem_map.mp hx
    exact contribution_neutral (hothers j (mem_siblings hj))
  rw [sweptByte_eq, sum_contribution _ lock, hnone, add_zero, contribution_of_bound h.bound,
    castByte_delta, h.applied]

/-- A lock that was on is kept by pass 1, unless its own edge lets it go. -/
theorem OnlyLock.passed_kept (h : OnlyLock cfg lock b) (hwas : (slots lock).thlEngaged = true)
    (sw : Sweep) :
    (passedSlot sw cfg slots lock).thlEngaged = !lockEdge sw b (slots lock) ∧
      (passedSlot sw cfg slots lock).thlReferenceDeg = (slots lock).thlReferenceDeg := by
  rw [h.passedSlot_lock]
  exact thlToggle_engaged hwas _ sw

/-- Off after pass 1: the lock's byte is neutral, and the sum is the siblings' anyway. -/
theorem OnlyLock.contract_off (h : OnlyLock cfg lock b)
    (hoff : (passedSlot sw cfg slots lock).thlEngaged = false)
    (hslots : sweptSlots sw cfg slots = passedSlot sw cfg slots)
    (hbytes : sweptBytes sw cfg slots = passedBytes sw cfg slots) :
    LockContract sw cfg lock b slots (sweptSlots sw cfg slots) (sweptByte sw cfg slots) := by
  have hneutral : sweptBytes sw cfg slots lock = neutral := by
    rw [hbytes, h.passedBytes_lock, hoff, if_neg (by decide)]
  rw [hslots]
  refine ⟨fun hengaged => ?_, fun _ => ⟨hoff, ?_⟩, fun hwas => ?_, fun _ hengaged => ?_,
    fun j b' _ hb' => passedSlot_of_bound hb'⟩
  · rw [hoff] at hengaged
    cases hengaged
  · exact sweptByte_siblings hneutral fun j _ => by rw [hbytes]
  · have hedge := (h.passed_kept hwas sw).1
    rw [hoff] at hedge
    rw [hoff]
    constructor
    · intro hc
      cases hc
    · rintro ⟨hno, -⟩
      rw [hno] at hedge
      cases hedge
  · rw [hoff] at hengaged
    cases hengaged

/-- Put off by pass 2: the lock's byte is made neutral, and the siblings' bytes go to the sum. -/
theorem contract_overridden
    (hover : overridden sw.tuning cfg (passedBytes sw cfg slots) lock = true)
    (hslots : sweptSlots sw cfg slots = Function.update (passedSlot sw cfg slots) lock
      { passedSlot sw cfg slots lock with thlEngaged := false })
    (hbytes : sweptBytes sw cfg slots = Function.update (passedBytes sw cfg slots) lock neutral) :
    LockContract sw cfg lock b slots (sweptSlots sw cfg slots) (sweptByte sw cfg slots) := by
  have hoff : (sweptSlots sw cfg slots lock).thlEngaged = false := by
    rw [hslots, Function.update_self]
  refine ⟨fun hengaged => ?_, fun _ => ⟨hoff, ?_⟩, fun _ => ?_, fun _ hengaged => ?_, ?_⟩
  · rw [hoff] at hengaged
    cases hengaged
  · refine sweptByte_siblings ?_ fun j hj => ?_
    · rw [hbytes, Function.update_self]
    · rw [hbytes, Function.update_of_ne hj]
  · rw [hoff, hover]
    simp
  · rw [hoff] at hengaged
    cases hengaged
  · intro j b' hj hb'
    rw [hslots, Function.update_of_ne hj]
    exact passedSlot_of_bound hb'

/-- On to the end: the siblings' bytes are made neutral, and the lock's goes out. -/
theorem OnlyLock.contract_on (h : OnlyLock cfg lock b)
    (hon : (passedSlot sw cfg slots lock).thlEngaged = true)
    (hover : overridden sw.tuning cfg (passedBytes sw cfg slots) lock = false)
    (hslots : sweptSlots sw cfg slots = passedSlot sw cfg slots)
    (hbytes : sweptBytes sw cfg slots =
      fun i => if i = lock then passedBytes sw cfg slots i else neutral) :
    LockContract sw cfg lock b slots (sweptSlots sw cfg slots) (sweptByte sw cfg slots) := by
  have hraw : sweptBytes sw cfg slots lock =
      lockOutput sw (passedSlot sw cfg slots lock).thlReferenceDeg := by
    rw [hbytes]
    simp only [if_true]
    rw [h.passedBytes_lock, if_pos hon]
  rw [hslots]
  refine ⟨fun _ => ?_, fun hc => ?_, fun hwas => ?_, fun hwas _ => (h.passed_kept hwas sw).2,
    fun j b' _ hb' => passedSlot_of_bound hb'⟩
  · rw [h.sweptByte_lock fun j hj => by simp [hbytes, hj], hraw]
    rfl
  · rw [hover] at hc
    cases hc
  · have hedge := (h.passed_kept hwas sw).1
    rw [hon] at hedge
    refine ⟨fun _ => ⟨?_, hover⟩, fun _ => hon⟩
    cases hlock : lockEdge sw b (slots lock) with
    | false => rfl
    | true =>
      rw [hlock] at hedge
      cases hedge

/-- **One sweep of a port with one lock.** -/
theorem OnlyLock.contract (h : OnlyLock cfg lock b) (sw : Sweep) (slots : PortSlots) :
    LockContract sw cfg lock b slots (sweptSlots sw cfg slots) (sweptByte sw cfg slots) := by
  rcases h.sweep_cases sw slots with ⟨hoff, hslots, hbytes⟩ | ⟨-, hover, hslots, hbytes⟩ |
    ⟨hon, hover, hslots, hbytes⟩
  · exact h.contract_off hoff hslots hbytes
  · exact contract_overridden hover hslots hbytes
  · exact h.contract_on hon hover hslots hbytes

end Port

/-! ### The siblings -/

/-- The bindings of a port that are no locks, each with its slot's state. -/
def siblings (cfg : PortConfig) (slots : PortSlots) : List (Binding × Slot) :=
  BindingSlot.all.filterMap fun i => (cfg.bindingIn i).bind fun b =>
    if b.mode = .thl then none else some (b, slots i)

/-- A binding's own turn in a sweep. -/
def advance (sw : Sweep) (entry : Binding × Slot) : Binding × Slot :=
  (entry.1, (bindingPass sw entry.1 entry.2).slot)

/-- Pass 2 puts off a lock, and nothing but a lock. -/
theorem sweptSlots_of_not_thl {cfg : PortConfig} {i : BindingSlot} {b : Binding}
    (hb : cfg.bindingIn i = some b) (hmode : b.mode ≠ .thl) (sw : Sweep) (slots : PortSlots) :
    sweptSlots sw cfg slots i = (bindingPass sw b (slots i)).slot := by
  have hpassed : passedSlot sw cfg slots i = (bindingPass sw b (slots i)).slot :=
    passedSlot_of_bound hb
  rcases portPass_cases sw cfg slots with ⟨-, hslots, -⟩ |
    ⟨lock, hlock, ⟨-, hslots, -⟩ | ⟨-, hslots, -⟩⟩
  · rw [hslots, hpassed]
  · have hne : i ≠ lock := by
      rintro rfl
      obtain ⟨b', hb', hmode', -⟩ := heldLock_engaged hlock
      obtain rfl := Option.some.inj (hb.symm.trans hb')
      exact hmode hmode'
    rw [hslots, Function.update_of_ne hne, hpassed]
  · rw [hslots, hpassed]

/-- **Each sibling advances by its own turn**, lock or no lock. -/
theorem siblings_swept (sw : Sweep) (cfg : PortConfig) (slots : PortSlots) :
    siblings cfg (sweptSlots sw cfg slots) = (siblings cfg slots).map (advance sw) := by
  unfold siblings
  rw [List.map_filterMap]
  refine List.filterMap_congr fun i _ => ?_
  cases hb : cfg.bindingIn i with
  | none => rfl
  | some b =>
    simp only [Option.bind_some]
    by_cases hmode : b.mode = .thl
    · simp [hmode]
    · simp [hmode, advance, sweptSlots_of_not_thl hb hmode]

/-- The port's siblings are the same bindings in the same states, whatever locks are among them. -/
def SiblingsAlike (d : Device) (p : Port) (s s' : Live) : Prop :=
  siblings (s.config.table d p) (s.drive.slots d p) =
    siblings (s'.config.table d p) (s'.drive.slots d p)

theorem siblingsAlike_sweep {d : Device} {p : Port} {s s' : Live} (h : SiblingsAlike d p s s')
    (i : Sweep × SetterClock) : SiblingsAlike d p (sweepStep s i) (sweepStep s' i) := by
  unfold SiblingsAlike sweepStep at *
  rw [processMappedInputs_config, processMappedInputs_config, processMappedInputs_slots,
    processMappedInputs_slots, siblings_swept, siblings_swept, h]

/-- The port without its locks. -/
def PortConfig.withoutLocks (cfg : PortConfig) : PortConfig where
  bindings := cfg.bindings.filter fun b => b.mode ≠ .thl
  fromFile := cfg.fromFile
  count_le := (List.length_filter_le _ _).trans cfg.count_le

/-- A list that fits the slots, read slot by slot. -/
private theorem filterMap_slots {α : Type} {l : List α} (h : l.length ≤ mkhMaxBindingsPerPort) :
    BindingSlot.all.filterMap (fun i => l[i.val]?) = l := by
  have htake : ∀ n, (List.range n).filterMap (fun i => l[i]?) = l.take n := by
    intro n
    induction n with
    | zero => rfl
    | succ n ih =>
      rw [List.range_succ, List.filterMap_append, ih, List.take_add_one]
      congr 1
  have hslots : BindingSlot.all.filterMap (fun i => l[i.val]?) =
      (List.range mkhMaxBindingsPerPort).filterMap fun i => l[i]? := by
    rw [← List.map_coe_finRange_eq_range, List.filterMap_map]
    rfl
  rw [hslots, htake, List.take_of_length_le h]

theorem siblings_bindings (cfg : PortConfig) (slots : PortSlots) :
    (siblings cfg slots).map (·.1) = cfg.withoutLocks.bindings := by
  have hall : BindingSlot.all.filterMap cfg.bindingIn = cfg.bindings := filterMap_slots cfg.count_le
  unfold siblings PortConfig.withoutLocks
  rw [List.map_filterMap]
  simp only
  conv_rhs => rw [← hall, List.filter_filterMap]
  refine List.filterMap_congr fun i _ => ?_
  cases cfg.bindingIn i with
  | none => rfl
  | some b => by_cases hmode : b.mode = .thl <;> simp [hmode, Option.filter]

/-- The siblings of a port can stand, in the states they are in, on the port without its locks. -/
theorem exists_withoutLocks (cfg : PortConfig) (slots : PortSlots) :
    ∃ slots', siblings cfg.withoutLocks slots' = siblings cfg slots := by
  refine ⟨fun i => ((siblings cfg slots)[i.val]?.map (·.2)).getD .clear, ?_⟩
  have hlength : (siblings cfg slots).length ≤ mkhMaxBindingsPerPort := by
    have hlen := congrArg List.length (siblings_bindings cfg slots)
    rw [List.length_map] at hlen
    rw [hlen]
    exact cfg.withoutLocks.count_le
  conv_rhs => rw [← filterMap_slots hlength]
  rw [siblings]
  refine List.filterMap_congr fun i _ => ?_
  have hbinding : cfg.withoutLocks.bindingIn i = (siblings cfg slots)[i.val]?.map (·.1) := by
    unfold PortConfig.bindingIn
    rw [← siblings_bindings cfg slots, List.getElem?_map]
  rw [hbinding]
  cases hentry : (siblings cfg slots)[i.val]? with
  | none => rfl
  | some entry =>
    have hmem : entry.1 ∈ cfg.withoutLocks.bindings := by
      rw [← siblings_bindings cfg slots]
      exact List.mem_map.mpr ⟨entry, List.mem_of_getElem? hentry, rfl⟩
    have hmode : entry.1.mode ≠ .thl := by
      simpa using (List.mem_filter.mp hmem).2
    simp [hmode]

theorem siblingsAlike_run {d : Device} {p : Port} (sweeps : List (Sweep × SetterClock)) :
    ∀ {s s' : Live}, SiblingsAlike d p s s' →
      SiblingsAlike d p (after sweepStep s sweeps) (after sweepStep s' sweeps) := by
  induction sweeps with
  | nil => exact fun h => h
  | cons i rest ih =>
    intro s s' h
    rw [after_cons, after_cons]
    exact ih (siblingsAlike_sweep h i)

/-- There is always such a state to compare with: the same one with the port's locks taken out. -/
theorem exists_lockless (d : Device) (p : Port) (s : Live) :
    ∃ s' : Live, s'.config.table d p = (s.config.table d p).withoutLocks ∧ SiblingsAlike d p s s' := by
  obtain ⟨slots', halike⟩ := exists_withoutLocks (s.config.table d p) (s.drive.slots d p)
  refine ⟨{ s with
    config := s.config.setPort d p (s.config.table d p).withoutLocks
    drive := { s.drive with
      slots := Function.update s.drive.slots d (Function.update (s.drive.slots d) p slots') } },
    ?_, ?_⟩
  · rw [MkhConfig.setPort_apply, if_pos ⟨rfl, rfl⟩]
  · unfold SiblingsAlike
    rw [MkhConfig.setPort_apply, if_pos ⟨rfl, rfl⟩]
    simp only [Function.update_self]
    exact halike.symm

/-! ### What the lock remembers -/

/-- A sweep, or what clears runtime state. -/
inductive LockStep where
  | sweep (sw : Sweep) (now : SetterClock)
  | clear (c : RuntimeClear)
  | disconnect (now : SetterClock)

def LockStep.apply (s : Live) : LockStep → Live
  | .sweep sw now => processMappedInputs sw now s
  | .clear c => c.apply s
  | .disconnect now => disconnectFailsafe now s

/-- The live state, and the report of the preceding sweep. -/
structure LockWatch where
  live : Live
  last : Option ControllerData

def LockWatch.step (w : LockWatch) (step : LockStep) : LockWatch where
  live := step.apply w.live
  last := match step with
    | .sweep sw _ => some sw.controller
    | .clear _ | .disconnect _ => w.last

@[simp] theorem LockWatch.step_live (w : LockWatch) (step : LockStep) :
    (w.step step).live = step.apply w.live := rfl

theorem LockStep.apply_sweep (s : Live) (sw : Sweep) (now : SetterClock) :
    (LockStep.sweep sw now).apply s = processMappedInputs sw now s := rfl

theorem LockStep.apply_clear (s : Live) (c : RuntimeClear) : (LockStep.clear c).apply s = c.apply s :=
  rfl

theorem LockStep.apply_disconnect (s : Live) (now : SetterClock) :
    (LockStep.disconnect now).apply s = disconnectFailsafe now s := rfl

/-- Start-up under any table. -/
def LockWatch.boot (config : MkhConfig) : LockWatch where
  live := Live.start config .boot
  last := none

/-- The detector of an engaged lock remembers its input's level of the preceding sweep. -/
def LockRemembers (w : LockWatch) : Prop :=
  ∀ d p i b, (w.live.config.table d p).bindingIn i = some b → b.mode = .thl →
    mkhConfigInputClass b.input ≠ .axis → (w.live.drive.slots d p i).thlEngaged = true →
      ∃ ctl, w.last = some ctl ∧
        (w.live.drive.slots d p i).thlPrevPressed = pressedLevel ctl b.input

theorem lockRemembers_boot (config : MkhConfig) : LockRemembers (.boot config) := by
  intro d p i b _ _ _ hengaged
  cases hengaged

theorem disconnectFailsafe_slots (now : SetterClock) (s : Live) (d : Device) (p : Port) :
    (disconnectFailsafe now s).drive.slots d p = fun _ => .clear := by
  show (clearAllLatchState _).slots d p = _
  rw [clearAllLatchState_slots]

theorem lockRemembers_step (w : LockWatch) (step : LockStep) (h : LockRemembers w) :
    LockRemembers (w.step step) := by
  intro d p i b hb hmode hinput hengaged
  cases step with
  | sweep sw now =>
    rw [LockWatch.step_live, LockStep.apply_sweep, processMappedInputs_config] at hb
    have hedge : b.onEdge = true := by simp [Binding.onEdge, hinput, hmode]
    refine ⟨sw.controller, rfl, ?_⟩
    rw [LockWatch.step_live, LockStep.apply_sweep, processMappedInputs_slots]
    have hmemory : (sweptSlots sw (w.live.config.table d p) (w.live.drive.slots d p) i).prevPressed
        b.mode = pressedLevel sw.controller b.input := sweptSlots_prevPressed hb hedge
    rw [hmode] at hmemory
    exact hmemory
  | clear c =>
    rw [LockWatch.step_live, LockStep.apply_clear] at hb hengaged ⊢
    cases hclears : c.clears d p with
    | true =>
      rw [RuntimeClear.apply_cleared w.live hclears i] at hengaged
      cases hengaged
    | false =>
      obtain ⟨hslots, hbindings⟩ := RuntimeClear.apply_other w.live hclears
      unfold PortConfig.bindingIn at hb
      rw [hbindings] at hb
      rw [hslots] at hengaged ⊢
      exact h d p i b hb hmode hinput hengaged
  | disconnect now =>
    rw [LockWatch.step_live, LockStep.apply_disconnect, disconnectFailsafe_slots] at hengaged
    cases hengaged

/-- The lock's input is pressed now and was not at the preceding sweep. -/
def OwnPress (w : LockWatch) (sw : Sweep) (b : Binding) : Prop :=
  pressedLevel sw.controller b.input = true ∧
    ∀ ctl, w.last = some ctl → pressedLevel ctl b.input = false

/-- The step neither presses the lock's input anew, nor has a sibling past the threshold, nor clears
the port. -/
def KeepsLock (d : Device) (p : Port) (lock : BindingSlot) (b : Binding) (w : LockWatch) :
    LockStep → Prop
  | .sweep sw _ => ¬ OwnPress w sw b ∧
      overridden sw.tuning (w.live.config.table d p)
        (passedBytes sw (w.live.config.table d p) (w.live.drive.slots d p)) lock = false
  | .clear c => c.clears d p = false
  | .disconnect _ => False

/-- The port's lock is engaged, with this reference. -/
structure LockedAt (d : Device) (p : Port) (lock : BindingSlot) (b : Binding) (referenceDeg : ℚ)
    (w : LockWatch) : Prop where
  remembers : LockRemembers w
  only : OnlyLock (w.live.config.table d p) lock b
  engaged : (w.live.drive.slots d p lock).thlEngaged = true
  reference : (w.live.drive.slots d p lock).thlReferenceDeg = referenceDeg

theorem OnlyLock.congr {cfg cfg' : PortConfig} {lock : BindingSlot} {b : Binding}
    (hsame : cfg'.bindings = cfg.bindings) (h : OnlyLock cfg lock b) : OnlyLock cfg' lock b := by
  have hbinding : ∀ j, cfg'.bindingIn j = cfg.bindingIn j := by
    intro j
    unfold PortConfig.bindingIn
    rw [hsame]
  refine ⟨(hbinding lock).trans h.bound, h.mode, h.input, fun j b' hb' hthl => ?_⟩
  exact h.only j b' ((hbinding j).symm.trans hb') hthl

section Locked

variable {d : Device} {p : Port} {lock : BindingSlot} {b : Binding} {referenceDeg : ℚ}

/-- What a sweep does to a port with one lock. -/
theorem sweep_contract {s : Live} (h : OnlyLock (s.config.table d p) lock b) (sw : Sweep)
    (now : SetterClock) :
    LockContract sw (s.config.table d p) lock b (s.drive.slots d p)
      ((processMappedInputs sw now s).drive.slots d p)
      ((processMappedInputs sw now s).broadcast.channelValue d p) := by
  have hbound : (s.config.table d p).bindings ≠ [] := by
    intro hnone
    have hb := h.bound
    simp [PortConfig.bindingIn, hnone] at hb
  rw [processMappedInputs_slots, processMappedInputs_channel, if_neg hbound]
  exact h.contract sw (s.drive.slots d p)

/-- For an engaged lock the detector's edge is a press. -/
theorem LockedAt.edge_iff {w : LockWatch} (h : LockedAt d p lock b referenceDeg w) (sw : Sweep) :
    lockEdge sw b (w.live.drive.slots d p lock) = false ↔ ¬ OwnPress w sw b := by
  obtain ⟨ctl, hlast, hmemory⟩ := h.remembers d p lock b h.only.bound h.only.mode h.only.input h.engaged
  unfold lockEdge OwnPress
  rw [hmemory, hlast]
  cases pressedLevel sw.controller b.input <;> cases hctl : pressedLevel ctl b.input <;> simp [hctl]

/-- **One step from an engaged lock.**  It stays, reference and all, exactly when the step keeps it. -/
theorem LockedAt.step {w : LockWatch} (h : LockedAt d p lock b referenceDeg w) (step : LockStep) :
    (KeepsLock d p lock b w step → LockedAt d p lock b referenceDeg (w.step step)) ∧
      (¬ KeepsLock d p lock b w step →
        ((w.step step).live.drive.slots d p lock).thlEngaged = false) := by
  have hremembers := lockRemembers_step w step h.remembers
  cases step with
  | sweep sw now =>
    have hcontract := sweep_contract h.only sw now
    have hstays := hcontract.stays h.engaged
    rw [h.edge_iff] at hstays
    have hlive : (w.step (.sweep sw now)).live = processMappedInputs sw now w.live := by
      rw [LockWatch.step_live, LockStep.apply_sweep]
    constructor
    · intro hkeeps
      have hengaged := hstays.mpr hkeeps
      have hreference := (hcontract.reference h.engaged hengaged).trans h.reference
      refine ⟨hremembers, ?_, ?_, ?_⟩
      · rw [hlive, processMappedInputs_config]
        exact h.only
      · rw [hlive]
        exact hengaged
      · rw [hlive]
        exact hreference
    · intro hnot
      rw [hlive]
      exact Bool.eq_false_iff.mpr fun hengaged => hnot (hstays.mp hengaged)
  | clear c =>
    rw [LockWatch.step_live, LockStep.apply_clear]
    constructor
    · intro hkeeps
      obtain ⟨hslots, hbindings⟩ := RuntimeClear.apply_other w.live hkeeps
      refine ⟨hremembers, h.only.congr hbindings, ?_, ?_⟩
      · rw [LockWatch.step_live, LockStep.apply_clear, hslots]
        exact h.engaged
      · rw [LockWatch.step_live, LockStep.apply_clear, hslots]
        exact h.reference
    · intro hnot
      have hclears : c.clears d p = true := Bool.not_eq_false _ ▸ hnot
      rw [RuntimeClear.apply_cleared w.live hclears lock]
      rfl
  | disconnect now =>
    refine ⟨fun hkeeps => hkeeps.elim, fun _ => ?_⟩
    rw [LockWatch.step_live, LockStep.apply_disconnect, disconnectFailsafe_slots]
    rfl

/-- The lock is engaged in every state of the run. -/
def StaysEngaged (d : Device) (p : Port) (lock : BindingSlot) (w : LockWatch)
    (steps : List LockStep) : Prop :=
  ∀ front back, steps = front ++ back →
    ((after LockWatch.step w front).live.drive.slots d p lock).thlEngaged = true

/-- **Runs of an engaged lock.**  It stays for as long as every step keeps it, and no longer. -/
theorem LockedAt.stays_iff {w : LockWatch} (h : LockedAt d p lock b referenceDeg w)
    (steps : List LockStep) :
    StaysEngaged d p lock w steps ↔ Meets LockWatch.step (KeepsLock d p lock b) w steps := by
  have hstep : ∀ (w : LockWatch) (step : LockStep), LockedAt d p lock b referenceDeg w →
      KeepsLock d p lock b w step → LockedAt d p lock b referenceDeg (w.step step) :=
    fun w step hw => (hw.step step).1
  refine always_iff_meets
    (P := fun w : LockWatch => (w.live.drive.slots d p lock).thlEngaged = true) hstep
    (fun w hw => hw.engaged) (fun w step hw hnot hengaged => ?_) steps w h
  rw [(hw.step step).2 hnot] at hengaged
  cases hengaged

theorem LockedAt.after {w : LockWatch} (h : LockedAt d p lock b referenceDeg w)
    {steps : List LockStep} (hmeets : Meets LockWatch.step (KeepsLock d p lock b) w steps) :
    LockedAt d p lock b referenceDeg (Runs.after LockWatch.step w steps) := by
  have hstep : ∀ (w : LockWatch) (step : LockStep), LockedAt d p lock b referenceDeg w →
      KeepsLock d p lock b w step → LockedAt d p lock b referenceDeg (w.step step) :=
    fun w step hw => (hw.step step).1
  exact invariant_after hstep steps w h hmeets

end Locked

/-- **The heading lock is exclusive.**  In every state that sweeps and clears reach, on a port with one
lock: the next sweep keeps the contract; an engaged lock stays, with its reference, for as long as
no step presses it, overrides it or clears it, and no longer; and its siblings go through any sweeps
as they would on a port without it. -/
theorem heading_lock_exclusive (config : MkhConfig) (steps : List LockStep) (d : Device) (p : Port)
    (lock : BindingSlot) (b : Binding)
    (h : OnlyLock ((after LockWatch.step (.boot config) steps).live.config.table d p) lock b) :
    let w := after LockWatch.step (.boot config) steps
    (∀ sw now, LockContract sw (w.live.config.table d p) lock b (w.live.drive.slots d p)
      ((w.step (.sweep sw now)).live.drive.slots d p)
      ((w.step (.sweep sw now)).live.broadcast.channelValue d p)) ∧
    ((w.live.drive.slots d p lock).thlEngaged = true → ∀ more,
      (StaysEngaged d p lock w more ↔ Meets LockWatch.step (KeepsLock d p lock b) w more) ∧
      (StaysEngaged d p lock w more →
        ((after LockWatch.step w more).live.drive.slots d p lock).thlReferenceDeg =
          (w.live.drive.slots d p lock).thlReferenceDeg)) ∧
    (∃ s' : Live, s'.config.table d p = (w.live.config.table d p).withoutLocks ∧
      SiblingsAlike d p w.live s') ∧
    ∀ s' : Live, s'.config.table d p = (w.live.config.table d p).withoutLocks →
      SiblingsAlike d p w.live s' → ∀ sweeps,
        SiblingsAlike d p (after sweepStep w.live sweeps) (after sweepStep s' sweeps) := by
  have hremembers : LockRemembers (after LockWatch.step (.boot config) steps) :=
    invariant_always lockRemembers_step steps (lockRemembers_boot config)
  generalize after LockWatch.step (.boot config) steps = w at h hremembers
  refine ⟨fun sw now => ?_, fun hengaged more => ?_, exists_lockless d p w.live,
    fun s' _ halike sweeps => siblingsAlike_run sweeps halike⟩
  · rw [LockWatch.step_live, LockStep.apply_sweep]
    exact sweep_contract h sw now
  · have hlocked : LockedAt d p lock b (w.live.drive.slots d p lock).thlReferenceDeg w :=
      ⟨hremembers, h, hengaged, rfl⟩
    refine ⟨hlocked.stays_iff more, fun hstays => ?_⟩
    exact (hlocked.after ((hlocked.stays_iff more).mp hstays)).reference

/-! ### At a stick's length -/

/-- The lock and the stick on port A of hub 1, and the lock engaged. -/
def lockEngaged : List LockStep :=
  [.clear (.push lockAndStick), .sweep (sweepOf buttonAReport) fun _ _ => 0]

/-- The stick pushed forward takes the port over: the lock is off, and the port at full speed. -/
theorem heading_lock_stick :
    ((after LockWatch.step (.boot blankConfig) lockEngaged).live.drive.slots 0 mkhPortA 0).thlEngaged
      = true ∧
    (((after LockWatch.step (.boot blankConfig) lockEngaged).step
      (.sweep (sweepOf (stickReport (-512))) fun _ _ => 0)).live.drive.slots 0 mkhPortA 0).thlEngaged
        = false ∧
    ((after LockWatch.step (.boot blankConfig) lockEngaged).step
      (.sweep (sweepOf (stickReport (-512))) fun _ _ => 0)).live.broadcast.channelValue 0 mkhPortA
        = 0xFF := by
  have honly : OnlyLock ((after LockWatch.step (.boot blankConfig) lockEngaged).live.config.table 0
      mkhPortA) 0 lockOnA := by
    refine ⟨by decide +kernel, rfl, by decide, fun j b' hb' hmode => ?_⟩
    have hall : ∀ j, ((after LockWatch.step (.boot blankConfig) lockEngaged).live.config.table 0
        mkhPortA).bindingIn j = if j = 0 then some lockOnA
          else if j = 1 then some (compiledInBinding .lsns) else none := by decide +kernel
    rw [hall] at hb'
    split at hb'
    · assumption
    · split at hb'
      · rw [← Option.some.inj hb'] at hmode
        cases hmode
      · cases hb'
  have hcontract := (heading_lock_exclusive blankConfig lockEngaged 0 mkhPortA 0 lockOnA honly).1
    (sweepOf (stickReport (-512))) fun _ _ => 0
  obtain ⟨hoff, hbyte⟩ := hcontract.cancelled (by decide +kernel)
  exact ⟨by decide +kernel, hoff, hbyte.trans (by decide +kernel)⟩

end MK1Tank
