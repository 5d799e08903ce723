/-
A port's passes and its sum, slot by slot.

The source runs over a port's bindings by index.  Here each of its three loops is
written as a pass over the slots, where a slot with no binding adds nothing, so that two
tables can be compared, or one binding set apart from the others.
-/
import MK1Tank.Proofs.SweepCells

namespace MK1Tank

/-! ### The loops -/

/-- The binding in a slot of the port, if there is one. -/
def PortConfig.bindingIn (cfg : PortConfig) (i : BindingSlot) : Option Binding := cfg.bindings[i.val]?

/-- What one slot adds to the port's sum. -/
def contribution (cfg : PortConfig) (rawBytes : BindingSlot → UInt8) (i : BindingSlot) : Int :=
  match cfg.bindingIn i with
  | some b => ((mkApplyBindingConfig (rawBytes i) b).toNat : Int) - 0x80
  | none => 0

/-- The slot holds an engaged lock. -/
def holdsLock (cfg : PortConfig) (slots : PortSlots) (i : BindingSlot) : Bool :=
  (cfg.bindingIn i).any fun b => decide (b.mode = .thl) && (slots i).thlEngaged

/-- The slot's binding is in heading-lock mode. -/
def PortConfig.isLock (cfg : PortConfig) (i : BindingSlot) : Bool :=
  (cfg.bindingIn i).any fun b => b.mode = .thl

/-- At most one binding of the port is in heading-lock mode. -/
abbrev PortConfig.OneLock (cfg : PortConfig) : Prop :=
  ∀ i j, cfg.isLock i = true → cfg.isLock j = true → i = j

theorem PortConfig.isLock_of_bound {cfg : PortConfig} {i : BindingSlot} {b : Binding}
    (hb : cfg.bindingIn i = some b) (hmode : b.mode = .thl) : cfg.isLock i = true := by
  simp [isLock, hb, hmode]

section Entries

variable {α : Type} (bindingIn : BindingSlot → Option α)

private theorem find_entries (test : BindingSlot × α → Bool) (is : List BindingSlot) :
    ((is.filterMap fun i => (bindingIn i).map (i, ·)).find? test).map (·.1) =
      is.find? fun i => (bindingIn i).any fun b => test (i, b) := by
  induction is with
  | nil => rfl
  | cons i rest ih =>
    cases hb : bindingIn i with
    | none => simpa [hb] using ih
    | some b => by_cases ht : test (i, b) = true <;> simp_all

private theorem any_entries (test : BindingSlot × α → Bool) (is : List BindingSlot) :
    (is.filterMap fun i => (bindingIn i).map (i, ·)).any test =
      is.any fun i => (bindingIn i).any fun b => test (i, b) := by
  induction is with
  | nil => rfl
  | cons i rest ih => cases hb : bindingIn i <;> simp_all

private theorem sum_entries (value : BindingSlot × α → Int) (is : List BindingSlot) :
    ((is.filterMap fun i => (bindingIn i).map (i, ·)).map value).sum =
      (is.map fun i => (bindingIn i).elim 0 fun b => value (i, b)).sum := by
  induction is with
  | nil => rfl
  | cons i rest ih => cases hb : bindingIn i <;> simp_all

end Entries

theorem engagedLock_eq (cfg : PortConfig) (slots : PortSlots) :
    engagedLock cfg slots = BindingSlot.all.find? (holdsLock cfg slots) :=
  find_entries cfg.bindingIn _ BindingSlot.all

theorem overridden_eq (tuning : ThlTuning) (cfg : PortConfig) (rawBytes : BindingSlot → UInt8)
    (i : BindingSlot) :
    overridden tuning cfg rawBytes i = BindingSlot.all.any fun j =>
      (cfg.bindingIn j).isSome && (decide (j ≠ i) && overridesLock tuning (rawBytes j)) := by
  refine (any_entries cfg.bindingIn _ BindingSlot.all).trans ?_
  congr 1
  funext j
  cases cfg.bindingIn j <;> simp

theorem sumDelta_eq (cfg : PortConfig) (rawBytes : BindingSlot → UInt8) :
    sumDelta cfg rawBytes = (BindingSlot.all.map (contribution cfg rawBytes)).sum := by
  refine (sum_entries cfg.bindingIn _ BindingSlot.all).trans ?_
  congr 2
  funext i
  unfold contribution
  cases cfg.bindingIn i <;> rfl

/-- What pass 1 makes of one slot. -/
theorem passedBytes_apply (sw : Sweep) (cfg : PortConfig) (slots : PortSlots) (i : BindingSlot) :
    passedBytes sw cfg slots i = match cfg.bindingIn i with
      | some b => (bindingPass sw b (slots i)).rawByte
      | none => neutral := rfl

theorem passedSlot_apply (sw : Sweep) (cfg : PortConfig) (slots : PortSlots) (i : BindingSlot) :
    passedSlot sw cfg slots i = match cfg.bindingIn i with
      | some b => (bindingPass sw b (slots i)).slot
      | none => slots i := rfl

section Bound

variable {cfg : PortConfig} {i : BindingSlot} {b : Binding}

theorem passedBytes_of_bound {sw : Sweep} {slots : PortSlots} (hb : cfg.bindingIn i = some b) :
    passedBytes sw cfg slots i = (bindingPass sw b (slots i)).rawByte := by
  rw [passedBytes_apply, hb]

theorem passedSlot_of_bound {sw : Sweep} {slots : PortSlots} (hb : cfg.bindingIn i = some b) :
    passedSlot sw cfg slots i = (bindingPass sw b (slots i)).slot := by
  rw [passedSlot_apply, hb]

theorem contribution_of_bound (hb : cfg.bindingIn i = some b) (rawBytes : BindingSlot → UInt8) :
    contribution cfg rawBytes i = ((mkApplyBindingConfig (rawBytes i) b).toNat : Int) - 0x80 := by
  rw [contribution, hb]

theorem contribution_of_unbound (hb : cfg.bindingIn i = none) (rawBytes : BindingSlot → UInt8) :
    contribution cfg rawBytes i = 0 := by
  rw [contribution, hb]

end Bound

/-- The bytes that reach the sum. -/
def sweptBytes (sw : Sweep) (cfg : PortConfig) (slots : PortSlots) : BindingSlot → UInt8 :=
  (portPass sw cfg slots .boot).rawBytes

theorem sweptByte_eq (sw : Sweep) (cfg : PortConfig) (slots : PortSlots) :
    sweptByte sw cfg slots = castByte (0x80 + max (-128) (min 127
      (BindingSlot.all.map (contribution cfg (sweptBytes sw cfg slots))).sum)) := by
  rw [← sumDelta_eq]
  rfl

/-! ### The three ways pass 2 can end -/

section Pass2

variable {sw : Sweep} {cfg : PortConfig} {slots : PortSlots}

/-- The lock that pass 2 finds after pass 1. -/
def heldLock (sw : Sweep) (cfg : PortConfig) (slots : PortSlots) : Option BindingSlot :=
  BindingSlot.all.find? (holdsLock cfg (passedSlot sw cfg slots))

theorem portPass_eq (sw : Sweep) (cfg : PortConfig) (slots : PortSlots) :
    portPass sw cfg slots .boot =
      match heldLock sw cfg slots with
      | none => bindingsPass sw cfg slots .boot
      | some lock =>
        if overridden sw.tuning cfg (passedBytes sw cfg slots) lock then
          { slots := Function.update (passedSlot sw cfg slots) lock
              { passedSlot sw cfg slots lock with thlEngaged := false }
            rawBytes := Function.update (passedBytes sw cfg slots) lock neutral
            thlStatus := { state := .off, errorDeg := 0, outputPct := 0 } }
        else
          { bindingsPass sw cfg slots .boot with
            rawBytes := fun i => if i = lock then passedBytes sw cfg slots i else neutral } := by
  have hlock : heldLock sw cfg slots =
      engagedLock cfg (bindingsPass sw cfg slots .boot).slots := (engagedLock_eq _ _).symm
  rw [hlock]
  rfl

theorem holdsLock_iff {cfg : PortConfig} {slots : PortSlots} {i : BindingSlot} :
    holdsLock cfg slots i = true ↔
      ∃ b, cfg.bindingIn i = some b ∧ b.mode = .thl ∧ (slots i).thlEngaged = true := by
  unfold holdsLock
  cases cfg.bindingIn i with
  | none => simp
  | some b => simp

/-- The lock pass 2 finds is a lock, and is engaged. -/
theorem heldLock_engaged {lock : BindingSlot} (h : heldLock sw cfg slots = some lock) :
    ∃ b, cfg.bindingIn lock = some b ∧ b.mode = .thl ∧
      (passedSlot sw cfg slots lock).thlEngaged = true :=
  holdsLock_iff.mp (List.find?_some h)

/-- Without a lock pass 2 does nothing. -/
theorem heldLock_of_no_lock (h : ∀ i b, cfg.bindingIn i = some b → b.mode ≠ .thl) (sw : Sweep)
    (slots : PortSlots) : heldLock sw cfg slots = none := by
  refine List.find?_eq_none.mpr fun i _ hholds => ?_
  obtain ⟨b, hb, hmode, -⟩ := holdsLock_iff.mp hholds
  exact h i b hb hmode

/-- With one lock at most, the lock pass 2 finds is any lock that is held. -/
theorem heldLock_eq_some (hone : cfg.OneLock) (sw : Sweep) (slots : PortSlots) (i : BindingSlot) :
    heldLock sw cfg slots = some i ↔ holdsLock cfg (passedSlot sw cfg slots) i = true := by
  refine ⟨fun h => List.find?_some h, fun hholds => ?_⟩
  cases hfind : heldLock sw cfg slots with
  | none => exact absurd hholds (List.find?_eq_none.mp hfind i (BindingSlot.mem_all i))
  | some j =>
    obtain ⟨b, hb, hmode, -⟩ := holdsLock_iff.mp hholds
    obtain ⟨b', hb', hmode', -⟩ := heldLock_engaged hfind
    rw [hone j i (PortConfig.isLock_of_bound hb' hmode') (PortConfig.isLock_of_bound hb hmode)]

/-- The three ways a port's passes can end, whatever its locks. -/
theorem portPass_cases (sw : Sweep) (cfg : PortConfig) (slots : PortSlots) :
    (heldLock sw cfg slots = none ∧ sweptSlots sw cfg slots = passedSlot sw cfg slots ∧
      sweptBytes sw cfg slots = passedBytes sw cfg slots) ∨
    ∃ lock, heldLock sw cfg slots = some lock ∧
      ((overridden sw.tuning cfg (passedBytes sw cfg slots) lock = true ∧
        sweptSlots sw cfg slots = Function.update (passedSlot sw cfg slots) lock
          { passedSlot sw cfg slots lock with thlEngaged := false } ∧
        sweptBytes sw cfg slots = Function.update (passedBytes sw cfg slots) lock neutral) ∨
      (overridden sw.tuning cfg (passedBytes sw cfg slots) lock = false ∧
        sweptSlots sw cfg slots = passedSlot sw cfg slots ∧
        sweptBytes sw cfg slots =
          fun i => if i = lock then passedBytes sw cfg slots i else neutral)) := by
  unfold sweptSlots sweptBytes
  rw [portPass_eq]
  cases heldLock sw cfg slots with
  | none => exact Or.inl ⟨rfl, rfl, rfl⟩
  | some lock =>
    refine Or.inr ⟨lock, rfl, ?_⟩
    cases hover : overridden sw.tuning cfg (passedBytes sw cfg slots) lock with
    | true => exact Or.inl ⟨rfl, by simp [hover], by simp [hover]⟩
    | false =>
      refine Or.inr ⟨rfl, ?_, ?_⟩
      · simp only [hover, Bool.false_eq_true, if_false]
        rfl
      · simp [hover]

end Pass2

end MK1Tank
