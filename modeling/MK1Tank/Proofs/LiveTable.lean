/-
What a change of the live table does, and what it does not do.

A push writes the ports that the session touched and clears their runtime state; RESET
ALL empties every port and clears everything; a reload replaces the table and clears
nothing.  None of them calls the setter: the channel of a port that loses its last
binding keeps the value it has.
-/
import MK1Tank.Firmware.Editor
import MK1Tank.Proofs.Storage
import MK1Tank.Proofs.Sweep

namespace MK1Tank

open FileProgram

/-! ### Clearing the runtime state -/

theorem clearLatchStateForPort_slots (drive : Drive) (d d' : Device) (p p' : Port) :
    (clearLatchStateForPort drive d p).slots d' p' =
      if d' = d ∧ p' = p then fun _ => .clear else drive.slots d' p' := by
  unfold clearLatchStateForPort
  by_cases hd : d' = d
  · subst hd
    by_cases hp : p' = p <;> simp [hp]
  · simp [hd]

theorem clearLatchStateForDevice_slots (drive : Drive) (d d' : Device) (p' : Port) :
    (clearLatchStateForDevice drive d).slots d' p' =
      if d' = d then fun _ => .clear else drive.slots d' p' := by
  unfold clearLatchStateForDevice
  refine ForEach.foldl_cell (fun (drive : Drive) (p : Port) => drive.slots d' p)
    (fun _ slots => if d' = d then fun _ => .clear else slots) ?_ ?_ (List.nodup_finRange _) drive
    (Port.mem_all p')
  · intro drive p
    rw [clearLatchStateForPort_slots]
    by_cases hd : d' = d <;> simp [hd]
  · intro drive p p' hne
    rw [clearLatchStateForPort_slots, if_neg fun h => hne h.2]

@[simp] theorem clearAllLatchState_slots (drive : Drive) (d : Device) (p : Port) :
    (clearAllLatchState drive).slots d p = fun _ => .clear := by
  unfold clearAllLatchState
  refine ForEach.foldl_cell (fun (drive : Drive) (d : Device) => drive.slots d p)
    (fun _ _ _ => Slot.clear) ?_ ?_ (List.nodup_finRange _) drive (Device.mem_all d)
  · intro drive d
    rw [clearLatchStateForDevice_slots, if_pos rfl]
  · intro drive d d' hne
    rw [clearLatchStateForDevice_slots, if_neg hne]

/-! ### Writing the table -/

/-- The list that `mkh_config_set_port_bindings` stores. -/
def writtenBindings (bindings : Nat → Binding) (count : Nat) : List Binding :=
  (List.range (min count mkhMaxBindingsPerPort)).map bindings

theorem writtenBindings_eq_nil {bindings : Nat → Binding} {count : Nat} :
    writtenBindings bindings count = [] ↔ count = 0 := by
  unfold writtenBindings
  rw [List.map_eq_nil_iff, List.range_eq_nil]
  constructor
  · intro h
    exact (Nat.min_eq_zero_iff.mp h).resolve_right (by decide)
  · intro h
    rw [h, Nat.zero_min]

theorem mkhConfigSetPortBindings_bindings (cfg : MkhConfig) (d d' : Device) (p p' : Port)
    (bindings : Nat → Binding) (count : Nat) :
    ((mkhConfigSetPortBindings cfg d.val p.val bindings count).table d' p').bindings =
      if d' = d ∧ p' = p then writtenBindings bindings count else (cfg.table d' p').bindings := by
  unfold mkhConfigSetPortBindings
  simp only [Device.ofId?_coe, Port.ofIndex?_coe]
  rw [if_neg (by omega), MkhConfig.setPort_apply]
  split <;> rfl

theorem pushPort_bindings (pending : PendingEdits) (s : Live) (d d' : Device) (p p' : Port) :
    ((pushPort pending s d p).config.table d' p').bindings =
      if (d' = d ∧ p' = p) ∧ (pending d p).dirty then
        writtenBindings (pending d p).bindings (pending d p).bindingCount
      else (s.config.table d' p').bindings := by
  unfold pushPort
  split
  · rename_i hdirty
    simp only [mkhConfigSetPortBindings_bindings, hdirty, and_true]
  · rename_i hclean
    simp [hclean]

theorem pushPort_slots (pending : PendingEdits) (s : Live) (d d' : Device) (p p' : Port) :
    (pushPort pending s d p).drive.slots d' p' =
      if (d' = d ∧ p' = p) ∧ (pending d p).dirty then fun _ => .clear
      else s.drive.slots d' p' := by
  unfold pushPort
  split
  · rename_i hdirty
    simp only [clearLatchStateForPort_slots, hdirty, and_true]
  · rename_i hclean
    simp [hclean]

/-- A push writes the touched ports, and no other. -/
theorem push_bindings (pending : PendingEdits) (s : Live) (d : Device) (p : Port) :
    ((pushPendingSessionToLiveTable pending s).config.table d p).bindings =
      if (pending d p).dirty then
        writtenBindings (pending d p).bindings (pending d p).bindingCount
      else (s.config.table d p).bindings := by
  unfold pushPendingSessionToLiveTable
  refine forEachPort_cell (fun (s : Live) d p => (s.config.table d p).bindings)
    (fun d p old => if (pending d p).dirty then
      writtenBindings (pending d p).bindings (pending d p).bindingCount else old) ?_ ?_ s d p
  · intro s d p
    simp only [pushPort_bindings, and_self, true_and]
  · intro s d p d' p' hne
    simp only [pushPort_bindings, hne, false_and, if_false]

theorem wipeAllBindings_bindings (cfg : MkhConfig) (d : Device) (p : Port) :
    ((wipeAllBindings cfg).table d p).bindings = [] := by
  unfold wipeAllBindings
  have hwipe : ∀ (cfg : MkhConfig) (d d' : Device) (p p' : Port),
      ((wipePort cfg d p).table d' p').bindings =
        if d' = d ∧ p' = p then [] else (cfg.table d' p').bindings := by
    intro cfg d d' p p'
    exact mkhConfigSetPortBindings_bindings cfg d d' p p' (fun _ => blankBinding) 0
  refine forEachPort_cell (fun (cfg : MkhConfig) d p => (cfg.table d p).bindings)
    (fun _ _ _ => []) ?_ ?_ cfg d p
  · intro cfg d p
    simp only [hwipe, and_self, if_true]
  · intro cfg d p d' p' hne
    simp only [hwipe, hne, if_false]

end MK1Tank
