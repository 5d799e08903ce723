/-
The settings page edits a list.

What the page does to a port's bindings is spread over the fields shown, the fields of the
entry, a working copy that is seeded when it is first needed, and an index.  Together they
stand for a list with one of its bindings under a cursor: the working copy, or the live
list before there is one, with the binding shown put back as it was entered.  Each tap
does to that cursor what it says, and SAVE writes the cursor's list to the live table.
-/
import MK1Tank.Lib.Cursor
import MK1Tank.Proofs.CapturePrompts

namespace MK1Tank

open FileProgram Runs Cursors

/-! ### Taps as edits of a list -/

/-- A tap on one of the fields of the binding shown. -/
inductive FieldTap where
  | invert
  | mode
  | nudgeMinus
  | nudgePlus
  | slider (percent : Int)

/-- A heading lock has no MAX. -/
def Binding.withMax (b : Binding) (percent : Int) : Binding :=
  if b.mode = .thl then b else { b with maxPercent := applyMaxEndSnap percent }

def FieldTap.edit : FieldTap → Binding → Binding
  | .invert, b => { b with invert := !b.invert }
  | .mode, b => { b with mode := nextModeFor b.mode }
  | .nudgeMinus, b => b.withMax (b.maxPercent - 1)
  | .nudgePlus, b => b.withMax (b.maxPercent + 1)
  | .slider percent, b => b.withMax percent

/-- Where the fields are. -/
def fieldTap (t : Tap) : Option FieldTap :=
  if spageInvert t then some .invert
  else if spageMode t then some .mode
  else if t.within spageNudgeMinus then some .nudgeMinus
  else if t.within spageNudgePlus then some .nudgePlus
  else if t.within spageSlider then some (.slider (sliderPercent t))
  else none

/-- A tap that edits the list, or moves in it. -/
inductive EditTap where
  | field (f : FieldTap)
  | prev
  | next
  | remove

def EditTap.op : EditTap → Op Binding
  | .field f => .edit f.edit
  | .prev => .prev
  | .next => .next
  | .remove => .remove

def editTap (t : Tap) : Option EditTap :=
  match fieldTap t with
  | some f => some (.field f)
  | none =>
    if t.within spagePrev then some .prev
    else if t.within spageNext then some .next
    else if t.within spageRemove then some .remove
    else none

theorem FieldTap.edit_input (f : FieldTap) (b : Binding) : (f.edit b).input = b.input := by
  have hmax : ∀ percent, (b.withMax percent).input = b.input := by
    intro percent
    unfold Binding.withMax
    split <;> rfl
  cases f with
  | invert | mode => rfl
  | nudgeMinus | nudgePlus | slider percent => exact hmax _

/-- No edit of the list changes an input that stays. -/
theorem EditTap.op_keeps (e : EditTap) : e.op.Keeps Binding.input := by
  cases e with
  | field f => exact f.edit_input
  | prev | next | remove => trivial

section Zones

variable {t : Tap}

/-- The fields' rows. -/
theorem fieldTap_rows {f : FieldTap} (h : fieldTap t = some f) : 44 ≤ t.y ∧ t.y < 128 := by
  unfold fieldTap spageInvert spageMode Tap.within spageNudgeMinus spageNudgePlus spageSlider at h
  simp only [Bool.and_eq_true, decide_eq_true_eq] at h
  split at h
  · omega
  split at h
  · omega
  split at h
  · omega
  split at h
  · omega
  split at h
  · omega
  · cases h

theorem not_within_below {r : Rect} (h : t.y < r.y) : t.within r = false := by
  unfold Tap.within
  simp [Int.not_le.mpr h]

theorem not_within_above {r : Rect} (h : r.y + r.h ≤ t.y) : t.within r = false := by
  unfold Tap.within
  simp [Int.not_lt.mpr h]

theorem within_iff {r : Rect} :
    t.within r = true ↔ (r.x ≤ t.x ∧ t.x < r.x + r.w) ∧ r.y ≤ t.y ∧ t.y < r.y + r.h := by
  unfold Tap.within
  simp only [Bool.and_eq_true, decide_eq_true_eq, ge_iff_le]
  omega

theorem inFieldRows_rows {ui : Ui} (h : inFieldRows t ui = true) : 44 ≤ t.y ∧ t.y < 128 := by
  unfold inFieldRows spageInvert spageMode spageNudgeMinus spageNudgePlus spageSlider at h
  simp only [Bool.or_eq_true, Bool.and_eq_true, decide_eq_true_eq, within_iff] at h
  omega

/-- A tap in no field's zone leaves the fields. -/
theorem editFields_dead {ui : Ui} (h : inFieldRows t ui = false) :
    editFields t ui.settingsWorking = ui.settingsWorking := by
  unfold inFieldRows at h
  simp only [Bool.or_eq_false_iff, Bool.and_eq_false_iff] at h
  obtain ⟨⟨hinvert, hmode⟩, hmax⟩ := h
  unfold editFields
  rw [if_neg (by simp [hinvert]), if_neg (by simp [hmode])]
  rcases hmax with hthl | ⟨⟨hminus, hplus⟩, hslider⟩
  · simp [hthl]
  · simp [hminus, hplus, hslider]

/-- What the fields' zones do to the fields shown. -/
theorem editFields_withInput {f : FieldTap} (h : fieldTap t = some f) (w : SettingsFields)
    (input : InputSource) : (editFields t w).withInput input = f.edit (w.withInput input) := by
  unfold fieldTap at h
  unfold editFields
  by_cases hinvert : spageInvert t = true
  · rw [if_pos hinvert] at h ⊢
    obtain rfl := Option.some.inj h
    rfl
  rw [if_neg hinvert] at h ⊢
  by_cases hmode : spageMode t = true
  · rw [if_pos hmode] at h ⊢
    obtain rfl := Option.some.inj h
    rfl
  rw [if_neg hmode] at h ⊢
  by_cases hthl : w.mode = .thl
  · -- No zone of the MAX row is there.
    have hnoMax : ∀ percent, (w.withInput input).withMax percent = w.withInput input :=
      fun percent => if_pos hthl
    simp only [hthl, ne_eq, not_true_eq_false, decide_false, Bool.false_and, Bool.false_eq_true,
      if_false]
    cases f with
    | nudgeMinus | nudgePlus | slider percent => exact (hnoMax _).symm
    | invert | mode =>
      split at h
      · cases h
      split at h
      · cases h
      split at h
      · cases h
      · cases h
  · have hmax : ∀ percent, (w.withInput input).withMax percent =
        ({ w with max := applyMaxEndSnap percent } : SettingsFields).withInput input :=
      fun percent => if_neg hthl
    simp only [hthl, ne_eq, not_false_eq_true, decide_true, Bool.true_and]
    split at h
    · rename_i hminus
      rw [if_pos hminus]
      obtain rfl := Option.some.inj h
      exact (hmax _).symm
    rename_i hminus
    rw [if_neg hminus]
    split at h
    · rename_i hplus
      rw [if_pos hplus]
      obtain rfl := Option.some.inj h
      exact (hmax _).symm
    rename_i hplus
    rw [if_neg hplus]
    split at h
    · rename_i hslider
      rw [if_pos hslider]
      obtain rfl := Option.some.inj h
      exact (hmax _).symm
    · cases h

end Zones

/-! ### The list of a port -/

/-- The bindings of a port as the session has them. -/
def Ui.list (cfg : MkhConfig) (ui : Ui) (d : Device) (p : Port) : List Binding :=
  (List.range (effectiveBindingCount cfg ui d p)).map (effectiveBinding cfg ui d p)

section Lists

variable {cfg : MkhConfig} {ui ui' : Ui} {d : Device} {p : Port} {idx : Nat}

@[simp] theorem Ui.list_length : (ui.list cfg d p).length = effectiveBindingCount cfg ui d p := by
  unfold Ui.list
  rw [List.length_map, List.length_range]

theorem Ui.list_getElem (h : idx < (ui.list cfg d p).length) :
    (ui.list cfg d p)[idx] = effectiveBinding cfg ui d p idx := by
  simp only [Ui.list, List.getElem_map, List.getElem_range]

theorem Ui.list_dirty (h : (ui.pendingEdits d p).dirty = true) :
    ui.list cfg d p = (ui.pendingEdits d p).list := by
  unfold Ui.list PendingPortEdit.list
  rw [effectiveBindingCount_of_dirty h]
  refine List.map_congr_left fun i _ => ?_
  unfold effectiveBinding
  rw [if_pos h]

/-- An untouched port has its live list. -/
theorem Ui.list_clean (h : (ui.pendingEdits d p).dirty = false) :
    ui.list cfg d p = (cfg.table d p).bindings := by
  have hcount : effectiveBindingCount cfg ui d p = (cfg.table d p).bindings.length := by
    unfold effectiveBindingCount
    rw [if_neg (by simp [h])]
  refine List.ext_getElem (by rw [Ui.list_length, hcount]) fun i hi hi' => ?_
  rw [Ui.list_getElem]
  unfold effectiveBinding liveBinding
  rw [if_neg (by simp [h]), List.getD_eq_getElem _ _ hi']

theorem PendingPortEdit.list_getElem {edit : PendingPortEdit} (h : idx < edit.list.length) :
    edit.list[idx] = edit.bindings idx := by
  simp only [PendingPortEdit.list, List.getElem_map, List.getElem_range]

@[simp] theorem PendingPortEdit.list_length (edit : PendingPortEdit) :
    edit.list.length = edit.bindingCount := by
  unfold PendingPortEdit.list
  rw [List.length_map, List.length_range]

/-- A seeded working copy holds the port's list. -/
theorem seeded_list (cfg : MkhConfig) (ui : Ui) (d : Device) (p : Port) :
    ((settingsSeedPendingIfNeeded cfg ui d p).pendingEdits d p).list = ui.list cfg d p := by
  refine List.ext_getElem ?_ fun i hi hi' => ?_
  · rw [PendingPortEdit.list_length, Ui.list_length]
    exact (seeded_count cfg ui d p).1
  · rw [PendingPortEdit.list_getElem, Ui.list_getElem]
    rw [Ui.list_length] at hi'
    exact (seeded_effective cfg ui d p hi').1

theorem PendingPortEdit.store_list (edit : PendingPortEdit) (b : Binding)
    (hcap : idx < mkhMaxBindingsPerPort) : (edit.store idx b).list = edit.list.set idx b := by
  refine List.ext_getElem ?_ fun i hi hi' => ?_
  · rw [List.length_set, PendingPortEdit.list_length, PendingPortEdit.list_length]
    exact edit.store_count b hcap
  · rw [PendingPortEdit.list_getElem, List.getElem_set, edit.store_bindings b hcap]
    by_cases hsame : idx = i
    · rw [if_pos hsame, hsame, Function.update_self]
    · rw [if_neg hsame, Function.update_of_ne (Ne.symm hsame), PendingPortEdit.list_getElem]

theorem PendingPortEdit.removeAt_list (edit : PendingPortEdit) (h : idx < edit.bindingCount)
    (hfits : edit.bindingCount ≤ mkhMaxBindingsPerPort) :
    (edit.removeAt idx).list = edit.list.eraseIdx idx := by
  have hlength : (edit.removeAt idx).list.length = (edit.list.eraseIdx idx).length := by
    rw [List.length_eraseIdx, PendingPortEdit.list_length, PendingPortEdit.list_length, if_pos h]
    rfl
  refine List.ext_getElem hlength fun i hi hi' => ?_
  have hlt : i < edit.bindingCount - 1 := by
    rw [PendingPortEdit.list_length] at hi
    exact hi
  rw [PendingPortEdit.list_getElem, List.getElem_eraseIdx, edit.removeAt_bindings idx (by omega)]
  by_cases hbefore : i < idx
  · rw [if_neg (by omega), dif_pos hbefore, PendingPortEdit.list_getElem]
  · rw [if_pos ⟨by omega, hlt⟩, dif_neg hbefore, PendingPortEdit.list_getElem]

end Lists

/-! ### The cursor the page stands for -/

/-- The page shows the cursor's binding of the cursor's list.  The session has that list, with the
binding shown as it was entered. -/
structure ShowsCursor (cfg : MkhConfig) (ui : Ui) (d : Device) (p : Port) (c : Cursor Binding) :
    Prop where
  page : ui.currentPage = .editSettings
  selects : ui.selects d p
  down : ui.settingsPromptActive = false
  index : ui.editCtx.editingBindingIndex = c.pos
  stored : ui.list cfg d p =
    c.items.set c.pos (ui.settingsBaseline.withInput ui.editCtx.capturedInput)
  shown : c.current = ui.settingsWorking.withInput ui.editCtx.capturedInput
  others : ∀ d' p', ¬ (d' = d ∧ p' = p) → (ui.pendingEdits d' p').dirty = false
  fits : c.items.length ≤ mkhMaxBindingsPerPort

section Cursor

variable {cfg : MkhConfig} {ui : Ui} {d : Device} {p : Port} {c : Cursor Binding}

theorem ShowsCursor.count (h : ShowsCursor cfg ui d p c) :
    effectiveBindingCount cfg ui d p = c.items.length := by
  have hlength := congrArg List.length h.stored
  rwa [Ui.list_length, List.length_set] at hlength

theorem ShowsCursor.listed (h : ShowsCursor cfg ui d p c) :
    ui.editCtx.editingBindingIndex < effectiveBindingCount cfg ui d p := by
  rw [h.index, h.count]
  exact c.pos_lt

theorem ShowsCursor.cap (h : ShowsCursor cfg ui d p c) : c.pos < mkhMaxBindingsPerPort :=
  Nat.lt_of_lt_of_le c.pos_lt h.fits

/-- A binding of the session's list is shown. -/
theorem showBinding_cursor (hpage : ui.currentPage = .editSettings) (hselects : ui.selects d p)
    (hothers : ∀ d' p', ¬ (d' = d ∧ p' = p) → (ui.pendingEdits d' p').dirty = false)
    (hindex : ui.editCtx.editingBindingIndex = c.pos) (hlist : ui.list cfg d p = c.items)
    (hfits : c.items.length ≤ mkhMaxBindingsPerPort) (indices : List Nat) (valid : Bool) :
    ShowsCursor cfg (showBinding (ui.noteIndices indices)
      (effectiveBinding cfg ui d p ui.editCtx.editingBindingIndex) valid) d p c := by
  have hcurrent : effectiveBinding cfg ui d p ui.editCtx.editingBindingIndex = c.current := by
    unfold Cursor.current
    have hlt : c.pos < (ui.list cfg d p).length := by
      rw [hlist]
      exact c.pos_lt
    rw [hindex, ← Ui.list_getElem hlt]
    simp only [hlist]
  rw [hcurrent]
  refine ⟨hpage, hselects, rfl, hindex, ?_, rfl, hothers, hfits⟩
  show ui.list cfg d p = c.items.set c.pos c.current
  rw [hlist]
  exact (List.set_getElem_self c.pos_lt).symm

theorem settingsLoadBindingAt_cursor (hpage : ui.currentPage = .editSettings)
    (hselects : ui.selects d p)
    (hothers : ∀ d' p', ¬ (d' = d ∧ p' = p) → (ui.pendingEdits d' p').dirty = false)
    (hlist : ui.list cfg d p = c.items) (hfits : c.items.length ≤ mkhMaxBindingsPerPort) :
    ShowsCursor cfg (settingsLoadBindingAt cfg ui d p c.pos) d p c :=
  showBinding_cursor
    (show (ui.withCtx fun ctx => { ctx with editingBindingIndex := c.pos }).currentPage = _ from hpage)
    hselects hothers rfl hlist hfits [c.pos] true

/-- The binding shown as the working copy has it. -/
theorem ShowsCursor.seeded_input (h : ShowsCursor cfg ui d p c) :
    (((settingsSeedPendingIfNeeded cfg ui d p).pendingEdits d p).bindings c.pos).input =
      ui.editCtx.capturedInput := by
  have hlisted := h.listed
  rw [h.index] at hlisted
  have hlt : c.pos < (ui.list cfg d p).length := by
    rw [Ui.list_length]
    exact hlisted
  rw [(seeded_effective cfg ui d p hlisted).1, ← Ui.list_getElem hlt]
  simp only [h.stored, List.getElem_set_self]
  rfl

/-- Committing what is shown makes the session's list the cursor's. -/
theorem ShowsCursor.committed (h : ShowsCursor cfg ui d p c) :
    c.items.set c.pos (ui.settingsWorking.withInput ui.editCtx.capturedInput) = c.items := by
  rw [← h.shown]
  exact List.set_getElem_self c.pos_lt

theorem storeInList_list {b : Binding} {idx : Nat} (hidx : idx < (ui.pendingEdits d p).bindingCount)
    (hcap : idx < mkhMaxBindingsPerPort) :
    (storeInList ui d p idx b).list cfg d p = (ui.pendingEdits d p).list.set idx b := by
  have hpending : (storeInList ui d p idx b).pendingEdits d p = (ui.pendingEdits d p).store idx b := by
    rw [storeInList_pending, if_pos hidx]
  have hdirty : ((storeInList ui d p idx b).pendingEdits d p).dirty = true := by
    rw [hpending]
    rfl
  rw [Ui.list_dirty hdirty, hpending, PendingPortEdit.store_list _ _ hcap]

/-- PREV and NEXT keep the fields shown. -/
theorem ShowsCursor.commit (h : ShowsCursor cfg ui d p c) :
    (settingsCommitWorkingIfDirty cfg ui d p c.pos).list cfg d p = c.items := by
  unfold settingsCommitWorkingIfDirty
  split
  · have hcount : c.pos <
        ((settingsSeedPendingIfNeeded cfg ui d p).pendingEdits d p).bindingCount := by
      rw [(seeded_count cfg ui d p).1, h.count]
      exact c.pos_lt
    simp only
    rw [storeInList_list hcount h.cap, seeded_list, h.seeded_input, h.stored, List.set_set]
    exact h.committed
  · rename_i hsame
    have hfields : ui.settingsWorking = ui.settingsBaseline := by
      simpa [settingsUncommitted] using hsame
    rw [h.stored, ← hfields]
    exact h.committed

/-- The working copies of the other ports. -/
theorem settingsCommitWorkingIfDirty_others {d' : Device} {p' : Port}
    (hfits : effectiveBindingCount cfg ui d p ≤ mkhMaxBindingsPerPort) (idx : Nat)
    (hother : ¬ (d' = d ∧ p' = p)) :
    (settingsCommitWorkingIfDirty cfg ui d p idx).pendingEdits d' p' = ui.pendingEdits d' p' := by
  unfold settingsCommitWorkingIfDirty
  split
  · simp only
    rw [storeInList_others _ _ (by rw [(seeded_count cfg ui d p).1]; exact hfits) hother,
      seeded_pending, if_neg hother]
  · rfl

/-- PREV or NEXT to a place of the list. -/
theorem ShowsCursor.pageTo (h : ShowsCursor cfg ui d p c) (c' : Cursor Binding)
    (hitems : c'.items = c.items) :
    ShowsCursor cfg (pageTo cfg ui d p c.pos c'.pos) d p c' := by
  obtain ⟨hctx, hpage⟩ := settingsCommitWorkingIfDirty_frame cfg ui d p c.pos
  refine settingsLoadBindingAt_cursor (hpage.trans h.page) ?_ ?_ (h.commit.trans hitems.symm)
    (hitems ▸ h.fits)
  · unfold Ui.selects
    rw [hctx]
    exact h.selects
  · intro d' p' hother
    rw [settingsCommitWorkingIfDirty_others (h.count ▸ h.fits) c.pos hother]
    exact h.others d' p' hother

theorem removeShown_pending {idx : Nat} (hidx : idx < (ui.pendingEdits d p).bindingCount)
    (d' : Device) (p' : Port) :
    (removeShown ui d p idx).pendingEdits d' p' =
      if d' = d ∧ p' = p then (ui.pendingEdits d p).removeAt idx else ui.pendingEdits d' p' := by
  unfold removeShown
  simp only
  rw [if_pos hidx]
  exact ui.setPending_apply d d' p p' _

/-- REMOVE takes the binding shown off the list, and shows the one that took its place. -/
theorem ShowsCursor.removeBinding (h : ShowsCursor cfg ui d p c) (env : TapEnv)
    (hmore : 1 < c.items.length) :
    ShowsCursor cfg (removeBinding env cfg ui d p c.pos) d p (c.remove hmore) := by
  have hcount : ((settingsSeedPendingIfNeeded cfg ui d p).pendingEdits d p).bindingCount =
      c.items.length := (seeded_count cfg ui d p).1.trans h.count
  obtain ⟨hctx, -, hpage⟩ := seeded_frame cfg ui d p
  have hlist := seeded_list cfg ui d p
  have hothers : ∀ d' p', ¬ (d' = d ∧ p' = p) →
      ((settingsSeedPendingIfNeeded cfg ui d p).pendingEdits d' p').dirty = false := by
    intro d' p' hother
    rw [seeded_pending, if_neg hother]
    exact h.others d' p' hother
  unfold MK1Tank.removeBinding
  generalize settingsSeedPendingIfNeeded cfg ui d p = seeded at hcount hctx hpage hlist hothers
  have hlisted : c.pos < (seeded.pendingEdits d p).bindingCount := by
    rw [hcount]
    exact c.pos_lt
  obtain ⟨hctxRemoved, hpageRemoved⟩ := removeShown_frame seeded d p c.pos
  have hremaining := (removeShown_count cfg seeded d p hlisted).1
  have hremoved : (removeShown seeded d p c.pos).pendingEdits d p =
      (seeded.pendingEdits d p).removeAt c.pos := by
    rw [removeShown_pending hlisted, if_pos ⟨rfl, rfl⟩]
  have hitems : (removeShown seeded d p c.pos).list cfg d p = c.items.eraseIdx c.pos := by
    rw [Ui.list_dirty (by rw [hremoved]; rfl), hremoved,
      PendingPortEdit.removeAt_list _ hlisted (hcount ▸ h.fits), hlist, h.stored, List.eraseIdx_set_eq]
  have htarget : (if c.pos ≥ c.items.length - 1 then c.items.length - 1 - 1 else c.pos) =
      (c.remove hmore).pos := by
    show _ = min c.pos (c.items.length - 2)
    split <;> omega
  unfold showRemaining
  simp only [hremaining, hcount]
  rw [if_neg (by omega), htarget]
  have hshorter : (c.remove hmore).items.length ≤ mkhMaxBindingsPerPort :=
    Nat.le_trans (List.length_eraseIdx_le ..) h.fits
  refine settingsLoadBindingAt_cursor ?_ ?_ ?_ hitems hshorter
  · rw [hpageRemoved, hpage]
    exact h.page
  · unfold Ui.selects
    rw [hctxRemoved, hctx]
    exact h.selects
  · intro d' p' hother
    rw [removeShown_pending hlisted, if_neg hother]
    exact hothers d' p' hother

/-! ### Taps -/

/-- A field's tap edits the binding shown. -/
theorem ShowsCursor.field (h : ShowsCursor cfg ui d p c) {t : Tap} {f : FieldTap}
    (hfield : fieldTap t = some f) :
    ShowsCursor cfg { ui with settingsWorking := editFields t ui.settingsWorking } d p
      (c.edit f.edit) := by
  refine ⟨h.page, h.selects, h.down, h.index, ?_, ?_, h.others, ?_⟩
  · rw [Cursor.edit_items, Cursor.edit_pos, List.set_set]
    exact h.stored
  · rw [Cursor.edit_current, h.shown]
    exact (editFields_withInput hfield _ _).symm
  · rw [Cursor.edit_items, List.length_set]
    exact h.fits

/-- PREV, at the first binding too. -/
theorem ShowsCursor.prev (h : ShowsCursor cfg ui d p c) :
    ShowsCursor cfg (if effectiveBindingCount cfg ui d p > 1 ∧ ui.editCtx.editingBindingIndex > 0
      then MK1Tank.pageTo cfg ui d p ui.editCtx.editingBindingIndex
        (ui.editCtx.editingBindingIndex - 1) else ui) d p c.prev := by
  rw [h.count, h.index]
  have hpos := c.pos_lt
  by_cases hfirst : c.pos = 0
  · rw [if_neg (by omega)]
    have hsame : c.prev = c := by
      obtain ⟨items, pos, hlt⟩ := c
      obtain rfl : pos = 0 := hfirst
      rfl
    rw [hsame]
    exact h
  · rw [if_pos (by omega)]
    exact h.pageTo c.prev rfl

/-- NEXT, at the last binding too. -/
theorem ShowsCursor.next (h : ShowsCursor cfg ui d p c) :
    ShowsCursor cfg (if effectiveBindingCount cfg ui d p > 1 ∧
        ui.editCtx.editingBindingIndex + 1 < effectiveBindingCount cfg ui d p
      then MK1Tank.pageTo cfg ui d p ui.editCtx.editingBindingIndex
        (ui.editCtx.editingBindingIndex + 1) else ui) d p c.next := by
  rw [h.count, h.index]
  by_cases hmore : c.pos + 1 < c.items.length
  · have hnext : c.next = { items := c.items, pos := c.pos + 1, pos_lt := hmore } := dif_pos hmore
    rw [if_pos (by omega), hnext]
    exact h.pageTo { items := c.items, pos := c.pos + 1, pos_lt := hmore } rfl
  · have hlast : c.next = c := dif_neg hmore
    rw [if_neg (by omega), hlast]
    exact h

/-- Between the toggle and the lower row nothing but the fields and the row of buttons answers. -/
theorem settingsTouch_middle (env : TapEnv) (d : Device) (p : Port) {s : Sketch} {t : Tap}
    (hdown : s.ui.settingsPromptActive = false) (hbelow : 44 ≤ t.y) (habove : t.y < 180) :
    settingsTouch env d p s t =
      if inFieldRows t s.ui then
        s.withUi fun _ ui => { ui with settingsWorking := editFields t ui.settingsWorking }
      else s.withUi (settingsButtons env d p t) := by
  have htest : t.within testToggle = false := not_within_above (by simp [testToggle]; omega)
  have hreset : t.within spageReset = false := not_within_below (by simpa [spageReset] using habove)
  have hsave : t.within spageSave = false := not_within_below (by simpa [spageSave] using habove)
  unfold settingsTouch
  simp only [hdown, htest, hreset, hsave, Bool.false_eq_true, if_false]

/-- A field's tap, on the MAX row of a heading lock too. -/
theorem settingsTouch_field (env : TapEnv) (d : Device) (p : Port) {s : Sketch} {t : Tap}
    {f : FieldTap} (hdown : s.ui.settingsPromptActive = false) (hfield : fieldTap t = some f) :
    settingsTouch env d p s t =
      s.withUi fun _ ui => { ui with settingsWorking := editFields t ui.settingsWorking } := by
  obtain ⟨hbelow, habove⟩ := fieldTap_rows hfield
  rw [settingsTouch_middle env d p hdown hbelow (by omega)]
  cases hrows : inFieldRows t s.ui with
  | true => rfl
  | false =>
    have hprev : t.within spagePrev = false := not_within_below (by simp [spagePrev]; omega)
    have hnext : t.within spageNext = false := not_within_below (by simp [spageNext]; omega)
    have hadd : t.within spageAdd = false := not_within_below (by simp [spageAdd]; omega)
    have hremove : t.within spageRemove = false := not_within_below (by simp [spageRemove]; omega)
    have hback : t.within spageBack = false := not_within_below (by simp [spageBack]; omega)
    have hdead := editFields_dead hrows
    unfold Sketch.withUi settingsButtons
    simp only [hprev, hnext, hadd, hremove, hback, Bool.false_eq_true, if_false, hdead]

/-- **Each tap edits the list as it says.** -/
theorem settingsTouch_cursor (env : TapEnv) {s : Sketch} {t : Tap} {e : EditTap} {c' : Cursor Binding}
    (h : ShowsCursor s.live.config s.ui d p c) (htap : editTap t = some e)
    (hop : c.apply e.op = some c') :
    (settingsTouch env d p s t).live = s.live ∧
      ShowsCursor s.live.config (settingsTouch env d p s t).ui d p c' := by
  unfold editTap at htap
  split at htap
  · rename_i f hfield
    obtain rfl := Option.some.inj htap
    obtain rfl : c.edit f.edit = c' := Option.some.inj hop
    rw [settingsTouch_field env d p h.down hfield]
    exact ⟨rfl, h.field hfield⟩
  have hbuttons : ∀ r : Rect, r.y = 132 → r.h = 40 → t.within r = true →
      settingsTouch env d p s t = s.withUi (settingsButtons env d p t) := by
    intro r hy hheight hwithin
    have hrow := (within_iff.mp hwithin).2
    rw [settingsTouch_middle env d p h.down (by omega) (by omega), if_neg]
    intro hrows
    have hfields := inFieldRows_rows hrows
    omega
  split at htap
  · rename_i hprev
    obtain rfl := Option.some.inj htap
    obtain rfl : c.prev = c' := Option.some.inj hop
    rw [hbuttons spagePrev rfl rfl hprev]
    refine ⟨rfl, ?_⟩
    rw [Sketch.withUi_ui]
    unfold settingsButtons
    simp only [hprev, if_true]
    exact h.prev
  rename_i hprev
  split at htap
  · rename_i hnext
    obtain rfl := Option.some.inj htap
    obtain rfl : c.next = c' := Option.some.inj hop
    rw [hbuttons spageNext rfl rfl hnext]
    refine ⟨rfl, ?_⟩
    rw [Sketch.withUi_ui]
    unfold settingsButtons
    simp only [hprev, hnext, Bool.false_eq_true, if_false, if_true]
    exact h.next
  rename_i hnext
  split at htap
  · rename_i hremove
    obtain rfl := Option.some.inj htap
    have hadd : ¬ t.within spageAdd = true := by
      intro hadd
      have hleft := within_iff.mp hadd
      have hright := within_iff.mp hremove
      simp only [spageAdd, spageRemove] at hleft hright
      omega
    unfold Cursor.apply EditTap.op at hop
    simp only at hop
    split at hop
    · rename_i hmore
      obtain rfl := Option.some.inj hop
      rw [hbuttons spageRemove rfl rfl hremove]
      refine ⟨rfl, ?_⟩
      rw [Sketch.withUi_ui]
      unfold settingsButtons
      simp only [hprev, hnext, hadd, hremove, Bool.false_eq_true, if_false, if_true]
      rw [h.index]
      exact h.removeBinding env hmore
    · cases hop
  · cases htap

end Cursor

/-! ### Runs -/

/-- The tap of a step. -/
def TankStep.tap : TankStep → Option Tap
  | .loop tick => tick.tap
  | .btstack _ => none

/-- A step with a tap that edits the list, or with none. -/
def TankStep.editsOnly (step : TankStep) : Bool := step.tap.all fun t => (editTap t).isSome

/-- What a run's taps do to the list. -/
def editOps (steps : List TankStep) : List (Op Binding) :=
  steps.filterMap fun step => (step.tap.bind editTap).map EditTap.op

/-- On the settings page of the port, with the table as it was. -/
structure Editing (cfg : MkhConfig) (t : Tank) (d : Device) (p : Port) (c : Cursor Binding) : Prop where
  awake : t.asleep = false
  config : t.sketch.live.config = cfg
  cursor : ShowsCursor cfg t.sketch.ui d p c

section Runs

variable {cfg : MkhConfig} {t : Tank} {d : Device} {p : Port} {c c' : Cursor Binding}

/-- The note of the time of a tap is no part of it. -/
theorem ShowsCursor.noted {ui : Ui} (h : ShowsCursor cfg ui d p c) (millis : UInt32) :
    ShowsCursor cfg { ui with lastTouchActivityMs := millis } d p c :=
  ⟨h.page, h.selects, h.down, h.index, h.stored, h.shown, h.others, h.fits⟩

/-- An iteration's tap, from the settings page. -/
theorem Editing.afterTap (h : Editing cfg t d p c) {tick : Tick} {swept : Tank}
    (hsame : SameEditor t.sketch swept.sketch) {tap : Tap} (htap : tick.tap = some tap)
    {e : EditTap} (he : editTap tap = some e) (hop : c.apply e.op = some c') :
    (afterTap tick swept).live.config = cfg ∧ ShowsCursor cfg (afterTap tick swept).ui d p c' := by
  obtain ⟨hui, hconfig⟩ := hsame
  have hcursor := h.cursor
  rw [← hui] at hcursor
  have htouch : MK1Tank.afterTap tick swept = settingsTouch tick.tapEnv d p
      (swept.sketch.withUi fun _ ui => { ui with lastTouchActivityMs := tick.tapEnv.millis }) tap := by
    unfold MK1Tank.afterTap dispatchTouch
    simp only [htap]
    exact pageTouch_settings tick.tapEnv tap hcursor.page hcursor.selects
  have hlive : swept.sketch.live.config = cfg := hconfig.trans h.config
  have hnoted := hcursor.noted tick.tapEnv.millis
  rw [← hlive] at hnoted ⊢
  obtain ⟨hkept, hafter⟩ := settingsTouch_cursor tick.tapEnv
    (s := swept.sketch.withUi fun _ ui => { ui with lastTouchActivityMs := tick.tapEnv.millis })
    hnoted he hop
  rw [htouch]
  exact ⟨congrArg Live.config hkept, hafter⟩

/-- What an iteration leaves, from what its tap left. -/
theorem Editing.of_afterTap {tick : Tick} {swept : Tank}
    (hconfig : (MK1Tank.afterTap tick swept).live.config = cfg)
    (hcursor : ShowsCursor cfg (MK1Tank.afterTap tick swept).ui d p c) :
    Editing cfg (runPages tick swept) d p c := by
  have hpage := hcursor.page
  have hstill := endOfIteration_still tick swept.bp32 (s := MK1Tank.afterTap tick swept)
    (by simp [hpage]) (by simp [hpage]) (by simp [hpage])
  rw [runPages_eq, hstill]
  exact ⟨rfl, hconfig, hcursor⟩

/-- A step without a tap. -/
theorem Editing.quiet (h : Editing cfg t d p c) {step : TankStep} (htap : step.tap = none) :
    Editing cfg (t.step step) d p c := by
  cases step with
  | btstack step => exact ⟨h.awake, h.config, h.cursor⟩
  | loop tick =>
    show Editing cfg (loop t tick) d p c
    rcases loop_cases t tick with ⟨hasleep, -⟩ | ⟨-, swept, ⟨hui, hconfig⟩, heq⟩
    · exact absurd (h.awake.symm.trans hasleep) Bool.false_ne_true
    · have hnoTap : MK1Tank.afterTap tick swept = swept.sketch := by
        unfold MK1Tank.afterTap
        have htap : tick.tap = none := htap
        simp only [htap]
      rw [heq]
      refine Editing.of_afterTap ?_ ?_
      · rw [hnoTap, hconfig]
        exact h.config
      · rw [hnoTap, hui]
        exact h.cursor

/-- **A step's tap edits the list as it says**, whatever both tasks do. -/
theorem Editing.tap (h : Editing cfg t d p c) {step : TankStep} {tap : Tap}
    (htap : step.tap = some tap) {e : EditTap} (he : editTap tap = some e)
    (hop : c.apply e.op = some c') : Editing cfg (t.step step) d p c' := by
  cases step with
  | btstack step => cases htap
  | loop tick =>
    show Editing cfg (loop t tick) d p c'
    rcases loop_cases t tick with ⟨hasleep, -⟩ | ⟨-, swept, hsame, heq⟩
    · exact absurd (h.awake.symm.trans hasleep) Bool.false_ne_true
    · obtain ⟨hconfig, hcursor⟩ := h.afterTap hsame htap he hop
      rw [heq]
      exact Editing.of_afterTap hconfig hcursor

/-- **A run of edits is the run of the cursor's operations.** -/
theorem Editing.run {steps : List TankStep} (hedits : ∀ step ∈ steps, step.editsOnly = true)
    (h : Editing cfg t d p c) (hrun : c.run (editOps steps) = some c') :
    Editing cfg (after Tank.step t steps) d p c' := by
  induction steps generalizing t c with
  | nil =>
    obtain rfl : c = c' := Option.some.inj hrun
    exact h
  | cons step rest ih =>
    have hrest := fun step' hmem => hedits step' (List.mem_cons_of_mem step hmem)
    have hfirst := hedits step List.mem_cons_self
    rw [after_cons]
    cases htap : step.tap with
    | none =>
      have hops : editOps (step :: rest) = editOps rest := by
        simp [editOps, htap]
      rw [hops] at hrun
      exact ih hrest (h.quiet htap) hrun
    | some tap =>
      obtain ⟨e, he⟩ : ∃ e, editTap tap = some e := by
        simpa [TankStep.editsOnly, htap, Option.isSome_iff_exists] using hfirst
      have hops : editOps (step :: rest) = e.op :: editOps rest := by
        simp [editOps, htap, he]
      rw [hops] at hrun
      obtain ⟨mid, hmid, hrun⟩ := Option.bind_eq_some_iff.mp hrun
      exact ih hrest (h.tap htap he hmid) hrun

/-! ### Opened, and saved -/

/-- A tap on an occupied port's cell shows the first binding of its live list. -/
theorem Editing.opened {opening : Tick} (hawake : t.asleep = false)
    (hpage : t.sketch.ui.currentPage = .editPorts)
    (hdevice : t.sketch.ui.editCtx.selectedDevice = some d) (hclean : t.sketch.ui.NoPending)
    (htapped : opening.tap.any (·.within (portCell p)) = true)
    (hitems : c.items = (t.sketch.live.config.table d p).bindings) (hpos : c.pos = 0) :
    Editing t.sketch.live.config (t.step (.loop opening)) d p c := by
  obtain ⟨tap, htap, hcell⟩ : ∃ tap, opening.tap = some tap ∧ tap.within (portCell p) = true := by
    simpa [Option.any_eq_true] using htapped
  obtain ⟨htest, hback, hfind⟩ := portCell_tap hcell
  have hoccupied : 0 < (t.sketch.live.config.table d p).bindings.length := by
    rw [← hitems, ← hpos]
    exact c.pos_lt
  show Editing t.sketch.live.config (loop t opening) d p c
  rcases loop_cases t opening with ⟨hasleep, -⟩ | ⟨-, swept, ⟨hui, hconfig⟩, heq⟩
  · exact absurd (hawake.symm.trans hasleep) Bool.false_ne_true
  rw [heq, ← hconfig]
  rw [← hui] at hpage hdevice hclean
  rw [← hconfig] at hitems hoccupied
  have htouch : MK1Tank.afterTap opening swept =
      (swept.sketch.withUi fun _ ui => { ui with lastTouchActivityMs := opening.tapEnv.millis }).withUi
        (selectPort opening.tapEnv d p) := by
    unfold MK1Tank.afterTap dispatchTouch
    simp only [htap]
    rw [pageTouch_ports opening.tapEnv tap (by exact hpage)]
    unfold dispatchPortSelectTouch
    simp only [htest, hback, hfind, Sketch.withUi_ui, hdevice, Bool.false_eq_true, if_false]
  refine Editing.of_afterTap ?_ ?_
  · rw [htouch]
    rfl
  · rw [htouch]
    simp only [Sketch.withUi_ui, Sketch.withUi_live]
    obtain ⟨seeded, valid, hopened, hshown⟩ := selectPort_clean (p := p) opening.tapEnv
      (show Ui.NoPending { swept.sketch.ui with lastTouchActivityMs := opening.tapEnv.millis }
        from hclean) hdevice hoccupied
    rw [hshown]
    refine showBinding_cursor hopened.page hopened.selects (fun d' p' _ => hopened.clean d' p')
      (hopened.index.trans hpos.symm) ?_ ?_ [0] valid
    · rw [Ui.list_clean (hopened.clean d p), hitems]
    · rw [hitems]
      exact (swept.sketch.live.config.table d p).count_le

/-- What SAVE commits is the cursor's list. -/
theorem ShowsCursor.commitShown {ui : Ui} (h : ShowsCursor cfg ui d p c) :
    ((commitShown cfg ui d p).pendingEdits d p).dirty = true ∧
      ((commitShown cfg ui d p).pendingEdits d p).list = c.items := by
  have hcap : ui.editCtx.editingBindingIndex < mkhMaxBindingsPerPort := h.index ▸ h.cap
  rw [commitShown_pending, if_pos h.listed]
  refine ⟨rfl, ?_⟩
  have hseeded : ((ui.pendingEdits d p).seeded cfg d p).list = ui.list cfg d p := by
    rw [← seeded_list, seeded_pending, if_pos ⟨rfl, rfl⟩]
  rw [PendingPortEdit.store_list _ _ hcap, hseeded, h.stored, h.index, List.set_set]
  exact h.committed

/-- SAVE's zone lies below every other that answers before it. -/
theorem settingsTap_of_save {ui : Ui} {tap : Tap} (hdown : ui.settingsPromptActive = false)
    (hsave : tap.within spageSave = true) : settingsTap ui tap = some .save := by
  obtain ⟨⟨hleft, -⟩, hbelow, -⟩ := within_iff.mp hsave
  simp only [spageSave] at hleft hbelow
  have htest : tap.within testToggle = false := not_within_above (by simp [testToggle]; omega)
  have hfields : ¬ inFieldRows tap ui = true := by
    intro hrows
    have hinside := inFieldRows_rows hrows
    omega
  have hreset : ¬ tap.within spageReset = true := by
    intro hreset
    have hinside := within_iff.mp hreset
    simp only [spageReset] at hinside
    omega
  unfold settingsTap
  rw [if_neg (by simp [hdown]), if_neg (by simp [htest]), if_neg hfields, if_neg hreset, if_pos hsave]

/-- SAVE writes the cursor's list to the live table, and no other list. -/
theorem Editing.saved (h : Editing cfg t d p c) {save : Tick}
    (htapped : save.tap.any (·.within spageSave) = true) (d' : Device) (p' : Port) :
    ((t.step (.loop save)).sketch.live.config.table d' p').bindings =
      if d' = d ∧ p' = p then c.items else (cfg.table d' p').bindings := by
  obtain ⟨tap, htap, hsave⟩ : ∃ tap, save.tap = some tap ∧ tap.within spageSave = true := by
    simpa [Option.any_eq_true] using htapped
  have hcursor := h.cursor
  have hmeans : t.sessionTap (.loop save) = some .save := by
    have htapOf : t.tapOf (.loop save) = some tap := by
      unfold Tank.tapOf
      simp only [h.awake, Bool.false_eq_true, if_false, htap]
    unfold Tank.sessionTap
    rw [htapOf]
    show sessionTap t.sketch.ui tap = some .save
    unfold sessionTap
    simp only [hcursor.page, hcursor.selects.1, hcursor.selects.2]
    exact settingsTap_of_save hcursor.down hsave
  have hpushed : pushedSession t.sketch.live.config t.sketch.ui .save =
      (MK1Tank.commitShown cfg t.sketch.ui d p).pendingEdits := by
    unfold pushedSession
    simp only [hcursor.page, hcursor.selects.1, hcursor.selects.2, h.config]
  have hwrites := step_session t (.loop save)
  rw [hmeans] at hwrites
  have hlist := hwrites d' p'
  rw [hpushed, h.config] at hlist
  rw [hlist]
  by_cases hsame : d' = d ∧ p' = p
  · obtain ⟨rfl, rfl⟩ := hsame
    obtain ⟨hdirty, hitems⟩ := hcursor.commitShown
    rw [if_pos hdirty, if_pos ⟨rfl, rfl⟩]
    have hfits : ((MK1Tank.commitShown cfg t.sketch.ui d' p').pendingEdits d' p').bindingCount ≤
        mkhMaxBindingsPerPort := by
      rw [← PendingPortEdit.list_length, hitems]
      exact hcursor.fits
    rw [writtenBindings_eq_list.mpr hfits, hitems]
  · have hfits : effectiveBindingCount cfg t.sketch.ui d p ≤ mkhMaxBindingsPerPort :=
      hcursor.count ▸ hcursor.fits
    rw [if_neg hsame, commitShown_others hfits hsame, if_neg (by simp [hcursor.others d' p' hsame])]

end Runs

/-- A session on one port: opened from port select with nothing pending, its list edited and never
emptied, and saved. -/
structure ListSession (t : Tank) (d : Device) (p : Port) (opening : Tick) (edits : List TankStep)
    (save : Tick) (c c' : Cursor Binding) : Prop where
  awake : t.asleep = false
  page : t.sketch.ui.currentPage = .editPorts
  device : t.sketch.ui.editCtx.selectedDevice = some d
  clean : t.sketch.ui.NoPending
  opened : opening.tap.any (·.within (portCell p)) = true
  only : ∀ step ∈ edits, step.editsOnly = true
  saved : save.tap.any (·.within spageSave) = true
  original : c.items = (t.sketch.live.config.table d p).bindings
  first : c.pos = 0
  run : c.run (editOps edits) = some c'

/-- **The settings page edits a list**: the live list of the port becomes what a cursor makes of it, the
inputs that stay are in their order, and every other port's list is as it was. -/
theorem settings_edit_list (t : Tank) (d : Device) (p : Port) (opening : Tick)
    (edits : List TankStep) (save : Tick) (c c' : Cursor Binding)
    (h : ListSession t d p opening edits save c c') :
    (∀ d' p', (((after Tank.step (t.step (.loop opening)) edits).step
        (.loop save)).sketch.live.config.table d' p').bindings =
      if d' = d ∧ p' = p then c'.items else (t.sketch.live.config.table d' p').bindings) ∧
      (c'.items.map Binding.input).Sublist (c.items.map Binding.input) := by
  have hinputs : (c'.items.map Binding.input).Sublist (c.items.map Binding.input) := by
    refine Cursor.run_sublist (fun op hop => ?_) h.run
    obtain ⟨step, -, hstep⟩ := List.mem_filterMap.mp hop
    obtain ⟨e, -, rfl⟩ := Option.map_eq_some_iff.mp hstep
    exact e.op_keeps
  have hopened := Editing.opened h.awake h.page h.device h.clean h.opened h.original h.first
  have hedited := hopened.run h.only h.run
  exact ⟨hedited.saved h.saved, hinputs⟩

/-- Three bindings on port A of hub 1. -/
def threeBindings : List Binding :=
  [compiledInBinding .lsns, compiledInBinding .btnA, compiledInBinding .rsns]

def threeConfig : MkhConfig :=
  blankConfig.setPort 0 mkhPortA { bindings := threeBindings, fromFile := true, count_le := by decide }

/-- Hub 1's ports are up. -/
def portsUp : Tank :=
  after Tank.step (Tank.boot threeConfig fun _ => none) [tapAt 0 0, tapAt 5 5, tapAt 30 40]

/-- INVERT, NEXT, REMOVE, and MODE on the binding that took its place. -/
def editThree : List TankStep := [tapAt 10 50, tapAt 250 140, tapAt 170 140, tapAt 200 50]

theorem settings_edit_list_three :
    (∀ d' p', (((after Tank.step (portsUp.step (.loop (tickAt 30 120))) editThree).step
        (.loop (tickAt 230 190))).sketch.live.config.table d' p').bindings =
      if d' = 0 ∧ p' = mkhPortA then
        [{ compiledInBinding .lsns with invert := true },
          { compiledInBinding .rsns with mode := .momentary }]
      else (portsUp.sketch.live.config.table d' p').bindings) ∧
      ([InputSource.lsns, .rsns].Sublist [.lsns, .btnA, .rsns]) :=
  settings_edit_list portsUp 0 mkhPortA (tickAt 30 120) editThree (tickAt 230 190)
    { items := threeBindings, pos := 0, pos_lt := by decide }
    { items := [{ compiledInBinding .lsns with invert := true },
        { compiledInBinding .rsns with mode := .momentary }], pos := 1, pos_lt := by decide }
    ⟨by decide +kernel, by decide +kernel, by decide +kernel, fun _ _ => rfl, by decide +kernel,
      by decide +kernel, by decide +kernel, by decide +kernel, rfl, rfl⟩

end MK1Tank
