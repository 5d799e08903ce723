/-
The editor's invariant.

Every working copy fits its array and holds bindings that the file could hold, every
index noted is one of the array's, a capture that is held is a real input, and the
field for the cap shows at most 100 percent.  That much holds on every page.  On the
capture and the settings page the index is one of the port's list, or 0 for a port with
an empty one; and the prompt between REPLACE and ADD is up only with a capture held and
a binding to replace.
-/
import MK1Tank.Proofs.TableInvariant

namespace MK1Tank

open FileProgram

/-! ### On every page -/

structure Ui.Sound (ui : Ui) : Prop where
  pending : ∀ d p, (ui.pendingEdits d p).Fits
  indices : ∀ i ∈ ui.bindingIndices, i < mkhMaxBindingsPerPort
  captured : ui.editCtx.captureValid = true → ui.editCtx.capturedInput ≠ .none
  working : ui.settingsWorking.max ≤ 100

section Parts

variable {cfg : MkhConfig} {ui : Ui} {d : Device} {p : Port}

theorem Ui.Sound.noteIndices (h : ui.Sound) {indices : List Nat}
    (hindices : ∀ i ∈ indices, i < mkhMaxBindingsPerPort) : (ui.noteIndices indices).Sound where
  pending := h.pending
  indices i hi := by
    rcases List.mem_append.mp hi with hnew | hold
    · exact hindices i hnew
    · exact h.indices i hold
  captured := h.captured
  working := h.working

@[simp] theorem Ui.setPending_same (ui : Ui) (d : Device) (p : Port) (edit : PendingPortEdit) :
    (ui.setPending d p edit).pendingEdits d p = edit := by
  simp [setPending]

theorem Ui.setPending_apply (ui : Ui) (d d' : Device) (p p' : Port) (edit : PendingPortEdit) :
    (ui.setPending d p edit).pendingEdits d' p' =
      if d' = d ∧ p' = p then edit else ui.pendingEdits d' p' := by
  unfold setPending
  by_cases hd : d' = d
  · subst hd
    by_cases hp : p' = p <;> simp [hp]
  · simp [hd]

theorem Ui.Sound.setPending (h : ui.Sound) {edit : PendingPortEdit} (hedit : edit.Fits) :
    (ui.setPending d p edit).Sound where
  pending d' p' := by
    rw [Ui.setPending_apply]
    split
    · exact hedit
    · exact h.pending d' p'
  indices := h.indices
  captured := h.captured
  working := h.working

theorem Ui.Sound.clearCapture (h : ui.Sound) : ui.clearCapture.Sound :=
  ⟨h.pending, h.indices, fun hvalid => absurd hvalid Bool.false_ne_true, h.working⟩

theorem Ui.Sound.showBinding (h : ui.Sound) {b : Binding} {valid : Bool} (hmax : b.maxPercent ≤ 100)
    (hvalid : valid = true → b.input ≠ .none) : (showBinding ui b valid).Sound :=
  ⟨h.pending, h.indices, hvalid, hmax⟩

/-! ### The working copies -/

/-- A store into the array changes one entry. -/
theorem PendingPortEdit.store_bindings (edit : PendingPortEdit) {idx : Nat} (b : Binding)
    (hidx : idx < mkhMaxBindingsPerPort) :
    (edit.store idx b).bindings = Function.update edit.bindings idx b := by
  funext i
  by_cases hi : i = idx
  · rw [hi, Function.update_self, bindings_of_lt _ hidx]
    exact if_pos rfl
  · rw [Function.update_of_ne hi]
    by_cases hlt : i < mkhMaxBindingsPerPort
    · rw [bindings_of_lt _ hlt, bindings_of_lt _ hlt]
      exact if_neg hi
    · unfold bindings
      rw [dif_neg hlt, dif_neg hlt]
      exact if_pos hidx

/-- What was stored reads back. -/
theorem PendingPortEdit.store_self (edit : PendingPortEdit) (idx : Nat) (b : Binding) :
    (edit.store idx b).bindings idx = b := by
  unfold bindings
  split
  · exact if_pos rfl
  · rename_i hidx
    exact if_neg hidx

theorem PendingPortEdit.store_count (edit : PendingPortEdit) {idx : Nat} (b : Binding)
    (hidx : idx < mkhMaxBindingsPerPort) : (edit.store idx b).bindingCount = edit.bindingCount :=
  if_neg (Nat.ne_of_lt hidx)

theorem PendingPortEdit.append_bindings (edit : PendingPortEdit) (b : Binding)
    (hroom : edit.bindingCount < mkhMaxBindingsPerPort) :
    (edit.append b).bindings = Function.update edit.bindings edit.bindingCount b :=
  store_bindings _ b hroom

theorem PendingPortEdit.append_count (edit : PendingPortEdit) (b : Binding)
    (hroom : edit.bindingCount < mkhMaxBindingsPerPort) :
    (edit.append b).bindingCount = edit.bindingCount + 1 :=
  store_count _ b hroom

/-- An index that the append brings into the list is the binding appended. -/
theorem PendingPortEdit.append_last (edit : PendingPortEdit) {idx : Nat} (b : Binding)
    (hnew : edit.bindingCount ≤ idx) (hidx : idx < (edit.append b).bindingCount) :
    (edit.append b).bindings idx = b := by
  by_cases hfull : edit.bindingCount = mkhMaxBindingsPerPort
  · have hpast : ¬ idx < mkhMaxBindingsPerPort := by omega
    have hread : (edit.append b).bindings idx = (edit.append b).ninth := dif_neg hpast
    rw [hread]
    exact if_neg (by rw [hfull]; exact Nat.lt_irrefl _)
  · have hcount : (edit.append b).bindingCount = edit.bindingCount + 1 := if_neg hfull
    obtain rfl : idx = edit.bindingCount := by omega
    exact store_self _ _ b

theorem PendingPortEdit.seed_bindings (edit : PendingPortEdit) (cfg : MkhConfig) (d : Device)
    (p : Port) {i : Nat} (hi : i < (cfg.table d p).bindings.length) :
    (edit.seed cfg d p).bindings i = liveBinding cfg d p i := by
  rw [bindings_of_lt _ (Nat.lt_of_lt_of_le hi (cfg.table d p).count_le)]
  exact if_pos hi

theorem PendingPortEdit.removeAt_bindings (edit : PendingPortEdit) (idx : Nat) {i : Nat}
    (hi : i < mkhMaxBindingsPerPort) :
    (edit.removeAt idx).bindings i =
      if idx ≤ i ∧ i < edit.bindingCount - 1 then edit.bindings (i + 1) else edit.bindings i := by
  rw [bindings_of_lt _ hi, bindings_of_lt edit hi]
  rfl

theorem entryAfter_ne {d d' : Device} {p p' : Port} (h : entryAfter d p = some (d', p')) :
    ¬ (d = d' ∧ p = p') := by
  rintro ⟨rfl, rfl⟩
  revert d p
  decide

theorem overrunNext_self (pending : PendingEdits) (d : Device) (p : Port) (b : Binding) :
    overrunNext pending d p b d p = pending d p := by
  unfold overrunNext
  cases hafter : entryAfter d p with
  | none => rfl
  | some after =>
    obtain ⟨d', p'⟩ := after
    simp only
    by_cases hd : d = d'
    · subst hd
      have hp : p ≠ p' := fun hp => entryAfter_ne hafter ⟨rfl, hp⟩
      rw [Function.update_self, Function.update_of_ne hp]
    · rw [Function.update_of_ne hd]

/-- Whatever the index, the port's own entry is the one that is put in place. -/
theorem Ui.setStored_same (ui : Ui) (d : Device) (p : Port) (edit : PendingPortEdit) (idx : Nat)
    (b : Binding) : (ui.setStored d p edit idx b).pendingEdits d p = edit := by
  unfold setStored
  simp only
  split
  · exact (overrunNext_self _ d p b).trans (ui.setPending_same d p edit)
  · exact ui.setPending_same d p edit

/-- A store into the array touches no other entry. -/
theorem Ui.setStored_of_lt (ui : Ui) (d : Device) (p : Port) (edit : PendingPortEdit) {idx : Nat}
    (b : Binding) (hidx : idx < mkhMaxBindingsPerPort) :
    ui.setStored d p edit idx b = ui.setPending d p edit := by
  unfold setStored
  simp only [if_neg (Nat.ne_of_lt hidx)]

theorem liveBinding_wellFormed (hcfg : TableWellFormed cfg.table) {idx : Nat}
    (hidx : idx < (cfg.table d p).bindings.length) : (liveBinding cfg d p idx).WellFormed := by
  unfold liveBinding
  rw [List.getD_eq_getElem _ _ hidx]
  exact hcfg d p _ (List.getElem_mem hidx)

theorem PendingPortEdit.Fits.seed {edit : PendingPortEdit} (hcfg : TableWellFormed cfg.table) :
    (edit.seed cfg d p).Fits where
  count := (cfg.table d p).count_le
  stored i hi := by
    rw [edit.seed_bindings cfg d p hi]
    exact liveBinding_wellFormed hcfg hi

theorem PendingPortEdit.Fits.store {edit : PendingPortEdit} (h : edit.Fits) {idx : Nat}
    (hcap : idx < mkhMaxBindingsPerPort) {b : Binding} (hb : b.WellFormed) :
    (edit.store idx b).Fits where
  count := by
    rw [edit.store_count b hcap]
    exact h.count
  stored i hi := by
    rw [edit.store_count b hcap] at hi
    rw [edit.store_bindings b hcap]
    by_cases hidx : i = idx
    · rw [hidx, Function.update_self]
      exact hb
    · rw [Function.update_of_ne hidx]
      exact h.stored i hi

theorem PendingPortEdit.Fits.append {edit : PendingPortEdit} (h : edit.Fits)
    (hroom : edit.bindingCount < mkhMaxBindingsPerPort) {b : Binding} (hb : b.WellFormed) :
    (edit.append b).Fits where
  count := by
    rw [edit.append_count b hroom]
    exact hroom
  stored i hi := by
    rw [edit.append_count b hroom] at hi
    rw [edit.append_bindings b hroom]
    by_cases hidx : i = edit.bindingCount
    · rw [hidx, Function.update_self]
      exact hb
    · rw [Function.update_of_ne hidx]
      exact h.stored i (by omega)

theorem PendingPortEdit.Fits.removeAt {edit : PendingPortEdit} (h : edit.Fits) (idx : Nat) :
    (edit.removeAt idx).Fits where
  count := Nat.le_trans (Nat.sub_le _ _) h.count
  stored i hi := by
    have hi' : i < edit.bindingCount - 1 := hi
    have hcount := h.count
    rw [edit.removeAt_bindings idx (by omega)]
    split
    · exact h.stored (i + 1) (by omega)
    · exact h.stored i (by omega)

/-! ### The effective list -/

theorem effectiveBindingCount_le (h : ui.Sound) :
    effectiveBindingCount cfg ui d p ≤ mkhMaxBindingsPerPort := by
  unfold effectiveBindingCount
  split
  · exact (h.pending d p).count
  · exact (cfg.table d p).count_le

theorem effectiveBinding_wellFormed (hcfg : TableWellFormed cfg.table) (h : ui.Sound) {idx : Nat}
    (hidx : idx < effectiveBindingCount cfg ui d p) :
    (effectiveBinding cfg ui d p idx).WellFormed := by
  unfold effectiveBindingCount at hidx
  unfold effectiveBinding
  by_cases hdirty : (ui.pendingEdits d p).dirty = true
  · rw [if_pos hdirty] at hidx ⊢
    exact (h.pending d p).stored idx hidx
  · rw [if_neg hdirty] at hidx ⊢
    exact liveBinding_wellFormed hcfg hidx

theorem effectiveBindingCount_congr {ui' : Ui}
    (h : ui'.pendingEdits d p = ui.pendingEdits d p) :
    effectiveBindingCount cfg ui' d p = effectiveBindingCount cfg ui d p := by
  unfold effectiveBindingCount
  rw [h]

theorem effectiveBindingCount_of_dirty (h : (ui.pendingEdits d p).dirty = true) :
    effectiveBindingCount cfg ui d p = (ui.pendingEdits d p).bindingCount := if_pos h

/-! ### Seeding and storing -/

theorem seeded_sound (hcfg : TableWellFormed cfg.table) (h : ui.Sound) :
    (settingsSeedPendingIfNeeded cfg ui d p).Sound := by
  unfold settingsSeedPendingIfNeeded
  split
  · exact h
  · refine (h.setPending (PendingPortEdit.Fits.seed hcfg)).noteIndices ?_
    intro i hi
    exact Nat.lt_of_lt_of_le (List.mem_range.mp hi) (cfg.table d p).count_le

/-- Seeding changes the working copy of the port, and what indices were noted. -/
theorem seeded_frame (cfg : MkhConfig) (ui : Ui) (d : Device) (p : Port) :
    (settingsSeedPendingIfNeeded cfg ui d p).editCtx = ui.editCtx ∧
      (settingsSeedPendingIfNeeded cfg ui d p).settingsWorking = ui.settingsWorking ∧
      (settingsSeedPendingIfNeeded cfg ui d p).currentPage = ui.currentPage := by
  unfold settingsSeedPendingIfNeeded
  split <;> exact ⟨rfl, rfl, rfl⟩

/-- A seed touches the working copies, and notes what it read. -/
theorem seeded_eq (cfg : MkhConfig) (ui : Ui) (d : Device) (p : Port) : ∃ pending indices,
    settingsSeedPendingIfNeeded cfg ui d p =
      { ui with pendingEdits := pending, bindingIndices := indices } := by
  unfold settingsSeedPendingIfNeeded
  split
  · exact ⟨ui.pendingEdits, ui.bindingIndices, rfl⟩
  · exact ⟨_, _, rfl⟩

/-- A seeded copy has as many bindings as the list has, and the list stays what it was. -/
theorem seeded_count (cfg : MkhConfig) (ui : Ui) (d : Device) (p : Port) :
    ((settingsSeedPendingIfNeeded cfg ui d p).pendingEdits d p).bindingCount =
        effectiveBindingCount cfg ui d p ∧
      effectiveBindingCount cfg (settingsSeedPendingIfNeeded cfg ui d p) d p =
        effectiveBindingCount cfg ui d p := by
  unfold settingsSeedPendingIfNeeded
  by_cases hdirty : (ui.pendingEdits d p).dirty = true
  · rw [if_pos hdirty]
    exact ⟨(effectiveBindingCount_of_dirty hdirty).symm, rfl⟩
  · rw [if_neg hdirty]
    have hpending : (((ui.setPending d p ((ui.pendingEdits d p).seed cfg d p)).noteIndices
        (List.range (cfg.table d p).bindings.length)).pendingEdits d p) =
          (ui.pendingEdits d p).seed cfg d p := ui.setPending_same d p _
    have hlive : effectiveBindingCount cfg ui d p = (cfg.table d p).bindings.length :=
      if_neg hdirty
    refine ⟨?_, ?_⟩
    · rw [hpending, hlive]
      rfl
    · unfold effectiveBindingCount
      rw [hpending]
      show (if (ui.pendingEdits d p).dirty = true then (cfg.table d p).bindings.length
        else (cfg.table d p).bindings.length) = _
      rw [if_neg hdirty, if_neg hdirty]

theorem storePending_sound (h : ui.Sound) {idx : Nat} (hidx : idx < mkhMaxBindingsPerPort)
    {b : Binding} (hb : b.WellFormed) : (storePending ui d p idx b).Sound := by
  unfold storePending
  rw [Ui.setStored_of_lt _ _ _ _ _ hidx]
  refine (h.setPending ((h.pending d p).store hidx hb)).noteIndices ?_
  intro i hi
  rw [List.mem_singleton.mp hi]
  exact hidx

theorem storeInList_sound (h : ui.Sound) {idx : Nat} {b : Binding}
    (hb : idx < (ui.pendingEdits d p).bindingCount → b.WellFormed) :
    (storeInList ui d p idx b).Sound := by
  unfold storeInList
  split
  · rename_i hidx
    exact storePending_sound h (Nat.lt_of_lt_of_le hidx (h.pending d p).count) (hb hidx)
  · exact h

theorem appendPending_sound (h : ui.Sound)
    (hroom : (ui.pendingEdits d p).bindingCount < mkhMaxBindingsPerPort) {b : Binding}
    (hb : b.WellFormed) : (appendPending ui d p b).Sound := by
  unfold appendPending
  rw [Ui.setStored_of_lt _ _ _ _ _ hroom]
  refine (h.setPending ((h.pending d p).append hroom hb)).noteIndices ?_
  intro i hi
  rw [List.mem_singleton.mp hi]
  exact hroom

/-- A store into an array is a store into the port's working copy. -/
theorem storePending_pending (ui : Ui) (d : Device) (p : Port) {idx : Nat} (b : Binding)
    (hidx : idx < mkhMaxBindingsPerPort) :
    (storePending ui d p idx b).pendingEdits =
      (ui.setPending d p ((ui.pendingEdits d p).store idx b)).pendingEdits := by
  unfold storePending
  rw [Ui.setStored_of_lt _ _ _ _ _ hidx]
  rfl

theorem appendPending_pending (ui : Ui) (d : Device) (p : Port) (b : Binding)
    (hroom : (ui.pendingEdits d p).bindingCount < mkhMaxBindingsPerPort) :
    (appendPending ui d p b).pendingEdits =
      (ui.setPending d p ((ui.pendingEdits d p).append b)).pendingEdits := by
  unfold appendPending
  rw [Ui.setStored_of_lt _ _ _ _ _ hroom]
  rfl

theorem storePending_count (cfg : MkhConfig) (ui : Ui) (d : Device) (p : Port) {idx : Nat}
    (b : Binding) (hidx : idx < mkhMaxBindingsPerPort) :
    effectiveBindingCount cfg (storePending ui d p idx b) d p =
      (ui.pendingEdits d p).bindingCount := by
  unfold effectiveBindingCount
  rw [storePending_pending ui d p b hidx, Ui.setPending_same]
  exact (ui.pendingEdits d p).store_count b hidx

theorem appendPending_count (cfg : MkhConfig) (ui : Ui) (d : Device) (p : Port) (b : Binding)
    (hroom : (ui.pendingEdits d p).bindingCount < mkhMaxBindingsPerPort) :
    effectiveBindingCount cfg (appendPending ui d p b) d p =
      (ui.pendingEdits d p).bindingCount + 1 := by
  unfold effectiveBindingCount
  rw [appendPending_pending ui d p b hroom, Ui.setPending_same]
  exact (ui.pendingEdits d p).append_count b hroom

/-! ### Showing a binding -/

/-- The selected port's page can be entered for this index: a binding of the list, or the next one
when there is room for it and a capture to put there (or nothing is there yet). -/
def Enterable (cfg : MkhConfig) (ui : Ui) (d : Device) (p : Port) : Prop :=
  ui.editCtx.editingBindingIndex < effectiveBindingCount cfg ui d p ∨
    (ui.editCtx.editingBindingIndex = effectiveBindingCount cfg ui d p ∧
      effectiveBindingCount cfg ui d p < mkhMaxBindingsPerPort ∧
      (ui.editCtx.captureValid = true ∨ ui.editCtx.editingBindingIndex = 0))

/-- The index is one of the list, or 0; and a real input is shown for a binding of the list. -/
def Shown (cfg : MkhConfig) (ui : Ui) (d : Device) (p : Port) : Prop :=
  (ui.editCtx.editingBindingIndex < effectiveBindingCount cfg ui d p ∨
    ui.editCtx.editingBindingIndex = 0) ∧
  (ui.editCtx.editingBindingIndex < effectiveBindingCount cfg ui d p →
    ui.editCtx.capturedInput ≠ .none)

theorem ne_none_of_bne {input : InputSource} (h : (input != .none) = true) : input ≠ .none := by
  simpa using h

/-- The settings page entered for a binding of the list. -/
theorem enterSeeded_listed {idx : Nat} (hidx : idx < (ui.pendingEdits d p).bindingCount) :
    enterSeeded ui d p idx =
      if ui.editCtx.captureValid && ui.editCtx.capturedInput != ((ui.pendingEdits d p).bindings idx).input
      then showBinding (storePending (ui.noteIndices [idx]) d p idx
          { (ui.pendingEdits d p).bindings idx with input := ui.editCtx.capturedInput })
        { (ui.pendingEdits d p).bindings idx with input := ui.editCtx.capturedInput }
        (ui.editCtx.capturedInput != .none)
      else showBinding (ui.noteIndices [idx]) ((ui.pendingEdits d p).bindings idx)
        (((ui.pendingEdits d p).bindings idx).input != .none) := by
  have hlisted : ¬ idx ≥ (ui.pendingEdits d p).bindingCount := Nat.not_le.mpr hidx
  unfold enterSeeded baselineAt
  rw [if_neg hlisted]
  have hcommit : ∀ b, commitCaptured (ui.noteIndices [idx]) d p idx b =
      storePending (ui.noteIndices [idx]) d p idx b := fun b => if_neg hlisted
  simp only [hcommit]
  rfl

/-- The settings page entered for an index past the list. -/
theorem enterSeeded_new {idx : Nat} (hidx : (ui.pendingEdits d p).bindingCount ≤ idx) :
    enterSeeded ui d p idx =
      if ui.editCtx.captureValid && ui.editCtx.capturedInput != .none
      then showBinding (appendPending (ui.noteIndices []) d p
          { blankBinding with input := ui.editCtx.capturedInput })
        { blankBinding with input := ui.editCtx.capturedInput }
        (ui.editCtx.capturedInput != .none)
      else showBinding (ui.noteIndices []) blankBinding (blankBinding.input != .none) := by
  unfold enterSeeded baselineAt
  rw [if_pos hidx]
  have hcommit : ∀ b, commitCaptured (ui.noteIndices []) d p idx b =
      appendPending (ui.noteIndices []) d p b := fun b => if_pos hidx
  simp only [hcommit]
  rfl

theorem enterSeeded_sound (h : ui.Sound) {idx : Nat}
    (hidx : idx < (ui.pendingEdits d p).bindingCount ∨
      (ui.pendingEdits d p).bindingCount ≤ idx ∧
        (ui.pendingEdits d p).bindingCount < mkhMaxBindingsPerPort) :
    (enterSeeded ui d p idx).Sound := by
  rcases hidx with hlisted | ⟨hnew, hroom⟩
  · have hstored := (h.pending d p).stored idx hlisted
    have hcap : idx < mkhMaxBindingsPerPort := Nat.lt_of_lt_of_le hlisted (h.pending d p).count
    have hnoted : (ui.noteIndices [idx]).Sound :=
      h.noteIndices fun i hi => by rw [List.mem_singleton.mp hi]; exact hcap
    rw [enterSeeded_listed hlisted]
    split
    · rename_i hcapture
      have hcaptured : Binding.WellFormed
          { (ui.pendingEdits d p).bindings idx with input := ui.editCtx.capturedInput } :=
        ⟨h.captured (Bool.and_elim_left hcapture), hstored.maxPercent⟩
      refine Ui.Sound.showBinding ?_ hcaptured.maxPercent fun _ => hcaptured.input
      exact storePending_sound hnoted hcap hcaptured
    · exact hnoted.showBinding hstored.maxPercent ne_none_of_bne
  · have hnoted : (ui.noteIndices []).Sound := h.noteIndices fun i hi => absurd hi (by simp)
    rw [enterSeeded_new hnew]
    split
    · rename_i hcapture
      have hcaptured : Binding.WellFormed { blankBinding with input := ui.editCtx.capturedInput } :=
        ⟨h.captured (Bool.and_elim_left hcapture), Nat.le_refl 100⟩
      refine Ui.Sound.showBinding ?_ hcaptured.maxPercent fun _ => hcaptured.input
      exact appendPending_sound hnoted hroom hcaptured
    · exact hnoted.showBinding (Nat.le_refl 100) ne_none_of_bne

theorem showBinding_count (cfg : MkhConfig) (ui : Ui) (b : Binding) (valid : Bool) (d : Device)
    (p : Port) : effectiveBindingCount cfg (showBinding ui b valid) d p =
      effectiveBindingCount cfg ui d p := effectiveBindingCount_congr rfl

theorem noteIndices_count (cfg : MkhConfig) (ui : Ui) (indices : List Nat) (d : Device) (p : Port) :
    effectiveBindingCount cfg (ui.noteIndices indices) d p = effectiveBindingCount cfg ui d p :=
  effectiveBindingCount_congr rfl

/-- What the page shows, entered for a seeded copy. -/
theorem enterSeeded_shown (h : ui.Sound)
    (hcount : (ui.pendingEdits d p).bindingCount = effectiveBindingCount cfg ui d p)
    (hidx : Enterable cfg ui d p) :
    Shown cfg (enterSeeded ui d p ui.editCtx.editingBindingIndex) d p := by
  unfold Enterable at hidx
  rw [← hcount] at hidx
  rcases hidx with hlisted | ⟨hnew, hroom, hwhy⟩
  · rw [enterSeeded_listed hlisted]
    split
    · rename_i hcapture
      refine ⟨Or.inl ?_, fun _ => h.captured (Bool.and_elim_left hcapture)⟩
      rw [showBinding_count,
        storePending_count _ _ _ _ _ (Nat.lt_of_lt_of_le hlisted (h.pending d p).count)]
      exact hlisted
    · refine ⟨Or.inl ?_, fun _ => ((h.pending d p).stored _ hlisted).input⟩
      rw [showBinding_count, noteIndices_count, ← hcount]
      exact hlisted
  · rw [enterSeeded_new (Nat.le_of_eq hnew.symm)]
    split
    · rename_i hcapture
      refine ⟨Or.inl ?_, fun _ => h.captured (Bool.and_elim_left hcapture)⟩
      rw [showBinding_count, appendPending_count cfg (ui.noteIndices []) d p _ hroom]
      exact Nat.lt_succ_of_le (Nat.le_of_eq hnew)
    · rename_i hnocapture
      have hzero : ui.editCtx.editingBindingIndex = 0 := by
        rcases hwhy with hvalid | hzero
        · exact absurd (by simp [hvalid, h.captured hvalid]) hnocapture
        · exact hzero
      refine ⟨Or.inr hzero, fun hlt => ?_⟩
      rw [showBinding_count, noteIndices_count, ← hcount, ← hnew] at hlt
      exact absurd hlt (Nat.lt_irrefl _)

/-- What is selected stays selected, and the page stays up. -/
theorem enterSettings_frame (cfg : MkhConfig) (ui : Ui) (d : Device) (p : Port) :
    (enterSettings cfg ui d p).editCtx.selectedDevice = ui.editCtx.selectedDevice ∧
      (enterSettings cfg ui d p).editCtx.selectedPort = ui.editCtx.selectedPort ∧
      (enterSettings cfg ui d p).currentPage = ui.currentPage := by
  obtain ⟨hctx, -, hpage⟩ := seeded_frame cfg ui d p
  unfold enterSettings
  generalize settingsSeedPendingIfNeeded cfg ui d p = seeded at hctx hpage
  rw [← hctx, ← hpage]
  rcases Nat.lt_or_ge seeded.editCtx.editingBindingIndex (seeded.pendingEdits d p).bindingCount
    with hlisted | hnew
  · rw [enterSeeded_listed hlisted]
    split <;> exact ⟨rfl, rfl, rfl⟩
  · rw [enterSeeded_new hnew]
    split <;> exact ⟨rfl, rfl, rfl⟩

theorem enterSettings_sound (hcfg : TableWellFormed cfg.table) (h : ui.Sound)
    (hidx : Enterable cfg ui d p) : (enterSettings cfg ui d p).Sound := by
  refine enterSeeded_sound (seeded_sound hcfg h) ?_
  rw [(seeded_count cfg ui d p).1]
  rcases hidx with hlisted | ⟨hnew, hroom, -⟩
  · exact Or.inl hlisted
  · exact Or.inr ⟨Nat.le_of_eq hnew.symm, hroom⟩

/-- What the settings page shows once it is entered. -/
theorem enterSettings_shown (hcfg : TableWellFormed cfg.table) (h : ui.Sound)
    (hidx : Enterable cfg ui d p) : Shown cfg (enterSettings cfg ui d p) d p := by
  obtain ⟨hcount, heffective⟩ := seeded_count cfg ui d p
  have hctx := (seeded_frame cfg ui d p).1
  unfold enterSettings
  rw [← hctx]
  refine enterSeeded_shown (seeded_sound hcfg h) (hcount.trans heffective.symm) ?_
  unfold Enterable at hidx ⊢
  rw [hctx, heffective]
  exact hidx

/-- **Entering the page for a full port's next index breaks the cap.** -/
theorem enterSettings_full (hcount : effectiveBindingCount cfg ui d p = mkhMaxBindingsPerPort)
    (hidx : ui.editCtx.editingBindingIndex = effectiveBindingCount cfg ui d p)
    (hvalid : ui.editCtx.captureValid = true) (hinput : ui.editCtx.capturedInput ≠ .none) :
    mkhMaxBindingsPerPort ∈ (enterSettings cfg ui d p).bindingIndices := by
  have hseeded := (seeded_count cfg ui d p).1
  have hctx := (seeded_frame cfg ui d p).1
  unfold enterSettings
  generalize settingsSeedPendingIfNeeded cfg ui d p = seeded at hseeded hctx
  rw [enterSeeded_new (by rw [hseeded, hidx]), if_pos (by simp [hctx, hvalid, hinput])]
  show _ ∈ (seeded.pendingEdits d p).bindingCount :: _
  rw [hseeded, hcount]
  exact List.mem_cons_self

/-! ### Where the pages stand -/

def Ui.selects (ui : Ui) (d : Device) (p : Port) : Prop :=
  ui.editCtx.selectedDevice = some d ∧ ui.editCtx.selectedPort = some p

/-- One port is selected at most. -/
theorem Ui.selects_unique {d' : Device} {p' : Port} (h : ui.selects d p) (h' : ui.selects d' p') :
    d' = d ∧ p' = p :=
  ⟨Option.some.inj (h'.1.symm.trans h.1), Option.some.inj (h'.2.symm.trans h.2)⟩

theorem enterSettings_selects (h : ui.selects d p) (d' : Device) (p' : Port) :
    (enterSettings cfg ui d' p').selects d p := by
  obtain ⟨hdevice, hport, -⟩ := enterSettings_frame cfg ui d' p'
  exact ⟨hdevice.trans h.1, hport.trans h.2⟩

/-- On the capture and the settings page. -/
structure Ui.Placed (cfg : MkhConfig) (ui : Ui) : Prop where
  index : ∀ d p, ui.selects d p → ui.currentPage = .editCapture →
    ui.editCtx.editingBindingIndex < effectiveBindingCount cfg ui d p ∨
      ui.editCtx.editingBindingIndex = 0
  prompt : ∀ d p, ui.selects d p → ui.currentPage = .editCapture →
    ui.captureReplaceAddPromptActive = true →
      ui.editCtx.captureValid = true ∧ 0 < effectiveBindingCount cfg ui d p
  shown : ∀ d p, ui.selects d p → ui.currentPage = .editSettings → Shown cfg ui d p

/-- The editor's invariant. -/
structure Ui.Good (cfg : MkhConfig) (ui : Ui) : Prop extends ui.Sound, ui.Placed cfg

theorem Ui.Sound.good_elsewhere (h : ui.Sound) (hcapture : ui.currentPage ≠ .editCapture)
    (hsettings : ui.currentPage ≠ .editSettings) : ui.Good cfg where
  toSound := h
  index _ _ _ hpage := absurd hpage hcapture
  prompt _ _ _ hpage := absurd hpage hcapture
  shown _ _ _ hpage := absurd hpage hsettings

theorem Ui.Sound.good_settings (h : ui.Sound) (hpage : ui.currentPage = .editSettings)
    (hshown : ∀ d p, ui.selects d p → Shown cfg ui d p) : ui.Good cfg where
  toSound := h
  index _ _ _ hcapture := absurd (hpage.symm.trans hcapture) (by simp)
  prompt _ _ _ hcapture := absurd (hpage.symm.trans hcapture) (by simp)
  shown d p hselects _ := hshown d p hselects

theorem goToPage_elsewhere (h : ui.Sound) {page : UiPage} (hcapture : page ≠ .editCapture)
    (hsettings : page ≠ .editSettings) (millis : UInt32) :
    (goToPage page millis cfg ui).Good cfg := by
  cases page with
  | editCapture => exact absurd rfl hcapture
  | editSettings => exact absurd rfl hsettings
  | editPorts =>
    have hmoved : ({ ui with currentPage := .editPorts } : Ui).Sound :=
      ⟨h.pending, h.indices, h.captured, h.working⟩
    show (drawPortSelect cfg { ui with currentPage := .editPorts }).Good cfg
    unfold drawPortSelect
    split
    · exact hmoved.good_elsewhere (by simp) (by simp)
    · refine Ui.Sound.good_elsewhere (hmoved.noteIndices ?_) (by simp [Ui.noteIndices])
        (by simp [Ui.noteIndices])
      intro i hi
      obtain ⟨-, -, rfl⟩ := List.mem_map.mp hi
      decide
  | splash | stats | dashboard | editSelect | idle =>
    exact Ui.Sound.good_elsewhere ⟨h.pending, h.indices, h.captured, h.working⟩
      (by simp [goToPage, drawPage]) (by simp [goToPage, drawPage])

theorem goToPage_capture (h : ui.Sound) (millis : UInt32)
    (hidx : ∀ d p, ui.selects d p →
      ui.editCtx.editingBindingIndex < effectiveBindingCount cfg ui d p ∨
        ui.editCtx.editingBindingIndex = 0) :
    (goToPage .editCapture millis cfg ui).Good cfg where
  pending := h.pending
  indices := h.indices
  captured := h.captured
  working := h.working
  index d p hselects _ := hidx d p hselects
  prompt _ _ _ _ hprompt := absurd hprompt Bool.false_ne_true
  shown _ _ _ hpage := absurd hpage (by simp [goToPage, drawPage])

theorem goToPage_settings (hcfg : TableWellFormed cfg.table) (h : ui.Sound) (millis : UInt32)
    (hidx : ∀ d p, ui.selects d p → Enterable cfg ui d p) :
    (goToPage .editSettings millis cfg ui).Good cfg := by
  have hmoved : ({ ui with currentPage := .editSettings } : Ui).Sound :=
    ⟨h.pending, h.indices, h.captured, h.working⟩
  have henterable : ∀ d p, ({ ui with currentPage := .editSettings } : Ui).selects d p →
      Enterable cfg { ui with currentPage := .editSettings } d p := hidx
  have hup : ({ ui with currentPage := .editSettings } : Ui).currentPage = .editSettings := rfl
  unfold goToPage
  generalize ({ ui with currentPage := .editSettings } : Ui) = moved at hmoved henterable hup
  unfold drawPage
  rcases hdevice : moved.editCtx.selectedDevice with _ | d
  · exact hmoved.good_settings hup fun d p hselects =>
      absurd (hdevice.symm.trans hselects.1) (by simp)
  rcases hport : moved.editCtx.selectedPort with _ | p
  · exact hmoved.good_settings hup fun d p hselects =>
      absurd (hport.symm.trans hselects.2) (by simp)
  have hselected : moved.selects d p := ⟨hdevice, hport⟩
  have henter := henterable d p hselected
  have hpage := (enterSettings_frame cfg moved d p).2.2
  refine (enterSettings_sound hcfg hmoved henter).good_settings (hpage.trans hup) ?_
  intro d' p' hselects
  obtain ⟨rfl, rfl⟩ := Ui.selects_unique (enterSettings_selects hselected d p) hselects
  exact enterSettings_shown hcfg hmoved henter

end Parts

end MK1Tank
