/-
The ways off the settings page, and what becomes of an edit.

The page keeps the fields as shown and as they were on entry, and every way off the
binding has a rule of its own: KEEP and SAVE commit what is shown, PREV and NEXT what was
changed, DISCARD, REMOVE and RESET drop it.  ADD has no rule: it leads to the capture
page with the change neither committed nor asked about.
-/
import MK1Tank.Proofs.EditorCommits

namespace MK1Tank

open FileProgram Runs

/-! ### What the fields are compared with -/

/-- What the page compares with is the binding of the list that it shows. -/
def BaselineListed (cfg : MkhConfig) (ui : Ui) (d : Device) (p : Port) : Prop :=
  ui.editCtx.editingBindingIndex < effectiveBindingCount cfg ui d p →
    ui.settingsBaseline =
      (effectiveBinding cfg ui d p ui.editCtx.editingBindingIndex).settings

/-- So it is whenever the page is up. -/
def Ui.Faithful (cfg : MkhConfig) (ui : Ui) : Prop :=
  ui.currentPage = .editSettings → ∀ d p, ui.selects d p → BaselineListed cfg ui d p

theorem Ui.faithful_elsewhere {cfg : MkhConfig} {ui : Ui} (h : ui.currentPage ≠ .editSettings) :
    ui.Faithful cfg := fun hpage => absurd hpage h

section Showing

variable {cfg : MkhConfig} {ui : Ui} {d : Device} {p : Port}

/-- A binding of the list that is shown. -/
theorem showBinding_baseline {b : Binding} {valid : Bool}
    (h : ui.editCtx.editingBindingIndex < effectiveBindingCount cfg ui d p →
      (effectiveBinding cfg ui d p ui.editCtx.editingBindingIndex).settings = b.settings) :
    BaselineListed cfg (showBinding ui b valid) d p := fun hlisted => (h hlisted).symm

theorem settingsLoadBindingAt_baseline (cfg : MkhConfig) (ui : Ui) (d : Device) (p : Port)
    (idx : Nat) : BaselineListed cfg (settingsLoadBindingAt cfg ui d p idx) d p :=
  showBinding_baseline fun _ => rfl

/-- The binding stored in a working copy is the one of the list from now on. -/
theorem storePending_effective (idx : Nat) (b : Binding) :
    effectiveBinding cfg (storePending ui d p idx b) d p idx = b := by
  have hpending : (storePending ui d p idx b).pendingEdits d p = (ui.pendingEdits d p).store idx b :=
    Ui.setStored_same ..
  unfold effectiveBinding
  rw [hpending]
  exact (ui.pendingEdits d p).store_self idx b

/-- The binding appended is the list's last, and past the array it is whatever is read there. -/
theorem appendPending_effective {idx : Nat} (b : Binding)
    (hnew : (ui.pendingEdits d p).bindingCount ≤ idx)
    (hidx : idx < effectiveBindingCount cfg (appendPending ui d p b) d p) :
    effectiveBinding cfg (appendPending ui d p b) d p idx = b := by
  have hpending : (appendPending ui d p b).pendingEdits d p = (ui.pendingEdits d p).append b :=
    Ui.setStored_same ..
  unfold effectiveBindingCount at hidx
  unfold effectiveBinding
  rw [hpending] at hidx ⊢
  exact (ui.pendingEdits d p).append_last b hnew hidx

/-- A seeded copy holds the bindings of the list. -/
theorem seeded_effective (cfg : MkhConfig) (ui : Ui) (d : Device) (p : Port) {idx : Nat}
    (hidx : idx < effectiveBindingCount cfg ui d p) :
    ((settingsSeedPendingIfNeeded cfg ui d p).pendingEdits d p).bindings idx =
        effectiveBinding cfg ui d p idx ∧
      effectiveBinding cfg (settingsSeedPendingIfNeeded cfg ui d p) d p idx =
        effectiveBinding cfg ui d p idx := by
  have hpending : (settingsSeedPendingIfNeeded cfg ui d p).pendingEdits d p =
      (ui.pendingEdits d p).seeded cfg d p := by
    rw [seeded_pending, if_pos ⟨rfl, rfl⟩]
  unfold effectiveBindingCount at hidx
  unfold effectiveBinding
  rw [hpending]
  unfold PendingPortEdit.seeded
  by_cases hdirty : (ui.pendingEdits d p).dirty = true
  · simp only [hdirty, if_true, and_self]
  · have hclean : ((ui.pendingEdits d p).seed cfg d p).dirty = (ui.pendingEdits d p).dirty := rfl
    rw [if_neg hdirty] at hidx
    simp only [hdirty, Bool.false_eq_true, if_false, hclean,
      PendingPortEdit.seed_bindings _ cfg d p hidx, and_self]

/-- **What the settings page shows as it is entered**: the binding the list has at the index, and the
captured input when there is one. -/
theorem enterSettings_current (cfg : MkhConfig) (ui : Ui) (d : Device) (p : Port) :
    ∃ shown b valid, enterSettings cfg ui d p = showBinding shown b valid ∧
      shown.editCtx = ui.editCtx ∧
      (ui.editCtx.editingBindingIndex < effectiveBindingCount cfg shown d p →
        effectiveBinding cfg shown d p ui.editCtx.editingBindingIndex = b) ∧
      (ui.editCtx.captureValid = true → b.input = ui.editCtx.capturedInput) := by
  obtain ⟨hcount, heffective⟩ := seeded_count cfg ui d p
  have hctx := (seeded_frame cfg ui d p).1
  have hlist : ∀ idx, idx < effectiveBindingCount cfg ui d p →
      effectiveBinding cfg (settingsSeedPendingIfNeeded cfg ui d p) d p idx =
        ((settingsSeedPendingIfNeeded cfg ui d p).pendingEdits d p).bindings idx :=
    fun idx hidx => (seeded_effective cfg ui d p hidx).2.trans (seeded_effective cfg ui d p hidx).1.symm
  unfold enterSettings
  rw [← hctx]
  generalize settingsSeedPendingIfNeeded cfg ui d p = seeded at hcount heffective hlist
  rw [← hcount] at heffective hlist
  generalize hindex : seeded.editCtx.editingBindingIndex = idx
  rcases Nat.lt_or_ge idx (seeded.pendingEdits d p).bindingCount with hlisted | hnew
  · rw [enterSeeded_listed hlisted]
    split
    · exact ⟨_, _, _, rfl, rfl, fun _ => storePending_effective _ _, fun _ => rfl⟩
    · rename_i hsame
      refine ⟨_, _, _, rfl, rfl, fun _ => hlist idx hlisted, fun hvalid => ?_⟩
      by_contra hdiffers
      exact hsame (by rw [hvalid, Bool.true_and, bne_iff_ne]; exact Ne.symm hdiffers)
  · rw [enterSeeded_new hnew]
    split
    · exact ⟨_, _, _, rfl, rfl, fun hidx => appendPending_effective _ hnew hidx, fun _ => rfl⟩
    · rename_i hnone
      refine ⟨_, _, _, rfl, rfl, fun hidx => absurd hidx ?_, fun hvalid => ?_⟩
      · rw [noteIndices_count, heffective]
        exact Nat.not_lt.mpr hnew
      · have hinput : seeded.editCtx.capturedInput = .none := by simpa [hvalid] using hnone
        exact hinput.symm

theorem enterSettings_baseline (cfg : MkhConfig) (ui : Ui) (d : Device) (p : Port) :
    BaselineListed cfg (enterSettings cfg ui d p) d p := by
  obtain ⟨shown, b, valid, heq, hctx, hlist, -⟩ := enterSettings_current cfg ui d p
  rw [heq]
  rw [← hctx] at hlist
  exact showBinding_baseline fun hidx => congrArg Binding.settings (hlist hidx)

/-- However a page is entered, what it compares with is what it shows. -/
theorem goToPage_faithful (page : UiPage) (millis : UInt32) (cfg : MkhConfig) (ui : Ui) :
    (goToPage page millis cfg ui).Faithful cfg := by
  intro hpage d p hselects
  rw [goToPage_currentPage] at hpage
  subst hpage
  unfold goToPage drawPage at hselects ⊢
  simp only at hselects ⊢
  split at hselects
  · rename_i d' p' hdevice hport
    have hselected : ({ ui with currentPage := .editSettings } : Ui).selects d' p' :=
      ⟨hdevice, hport⟩
    obtain ⟨rfl, rfl⟩ := Ui.selects_unique (enterSettings_selects hselected d' p') hselects
    exact enterSettings_baseline cfg _ d p
  · rename_i hnone
    exact absurd hselects.2 (hnone d p hselects.1)

end Showing

/-! ### Through every step -/

/-- A push changes no list that the pages see. -/
theorem push_effectiveBinding (s : Sketch) (ui : Ui) (hpending : ui.pendingEdits = s.ui.pendingEdits)
    (d : Device) (p : Port) (idx : Nat) :
    effectiveBinding (pushPendingSessionToLiveTable s.ui.pendingEdits s.live).config ui d p idx =
      effectiveBinding s.live.config ui d p idx := by
  unfold effectiveBinding liveBinding
  rw [hpending, push_bindings]
  by_cases hdirty : (s.ui.pendingEdits d p).dirty = true
  · rw [if_pos hdirty, if_pos hdirty]
  · rw [if_neg hdirty, if_neg hdirty, if_neg hdirty]

/-- The page compares with what it shows. -/
def Sketch.Faithful (s : Sketch) : Prop := s.ui.Faithful s.live.config

theorem handleTestToggleTap_faithful {s : Sketch} (h : s.Faithful) :
    (handleTestToggleTap s).Faithful := by
  unfold handleTestToggleTap
  split
  · exact h
  · intro hpage d p hselects hlisted
    have hcount := push_effectiveCount s { s.ui with testActive := true } rfl d p
    have hbinding := push_effectiveBinding s { s.ui with testActive := true } rfl d p
    show s.ui.settingsBaseline = (effectiveBinding (pushPendingSessionToLiveTable s.ui.pendingEdits
      s.live).config { s.ui with testActive := true } d p _).settings
    rw [hbinding]
    exact h hpage d p hselects (Nat.lt_of_lt_of_eq hlisted hcount)

theorem performSaveAndExit_faithful (oracle : FileOracle) (millis : UInt32) (s : Sketch) :
    (performSaveAndExit oracle millis s).Faithful := by
  unfold Sketch.Faithful
  rw [performSaveAndExit_ui]
  exact goToPage_faithful _ _ _ _

theorem dispatchHubSelectTouch_faithful (env : TapEnv) {s : Sketch} (t : Tap)
    (h : s.Faithful) : (dispatchHubSelectTouch env s t).Faithful := by
  unfold dispatchHubSelectTouch
  split
  · split
    · exact performSaveAndExit_faithful _ _ _
    · split
      · exact goToPage_faithful _ _ _ _
      · exact h
  · split
    · split
      · unfold Sketch.Faithful
        rw [confirmResetAll_ui]
        exact goToPage_faithful _ _ _ _
      · split <;> exact h
    · split
      · exact handleTestToggleTap_faithful h
      · split
        · exact h
        · split
          · split
            · exact h
            · exact goToPage_faithful _ _ _ _
          · split
            · split
              · exact h
              · exact goToPage_faithful _ _ _ _
            · exact h

theorem dispatchPortSelectTouch_faithful (env : TapEnv) {s : Sketch} (t : Tap) (h : s.Faithful) :
    (dispatchPortSelectTouch env s t).Faithful := by
  unfold dispatchPortSelectTouch
  split
  · exact handleTestToggleTap_faithful h
  · split
    · exact goToPage_faithful _ _ _ _
    · split
      · show (openPort env _ _ s.live.config _).Faithful s.live.config
        unfold openPort
        split <;> exact goToPage_faithful _ _ _ _
      · exact h

theorem captureButtons_faithful (env : TapEnv) {d : Device} {p : Port} (t : Tap) {cfg : MkhConfig}
    {ui : Ui} (h : ui.Faithful cfg) : (captureButtons env d p t cfg ui).Faithful cfg := by
  unfold captureButtons
  split
  · split
    · exact goToPage_faithful _ _ _ _
    · split
      · exact goToPage_faithful _ _ _ _
      · exact h
  · split
    · split
      · exact goToPage_faithful _ _ _ _
      · split
        · exact goToPage_faithful _ _ _ _
        · exact h
    · split
      · split
        · exact h
        · exact goToPage_faithful _ _ _ _
      · split
        · split
          · exact h
          · exact goToPage_faithful _ _ _ _
        · exact h

/-- A page on which one port's binding is shown. -/
theorem faithful_of_baseline {cfg : MkhConfig} {ui : Ui} {d : Device} {p : Port}
    (hselects : ui.selects d p) (h : BaselineListed cfg ui d p) : ui.Faithful cfg := by
  intro _ d' p' hselects'
  obtain ⟨rfl, rfl⟩ := Ui.selects_unique hselects hselects'
  exact h

theorem settingsLoadBindingAt_faithful {cfg : MkhConfig} {ui ui' : Ui} {d : Device} {p : Port}
    (hctx : ui'.editCtx = ui.editCtx) (hselects : ui.selects d p) (idx : Nat) :
    (settingsLoadBindingAt cfg ui' d p idx).Faithful cfg := by
  refine faithful_of_baseline ?_ (settingsLoadBindingAt_baseline cfg ui' d p idx)
  show ui'.editCtx.selectedDevice = some d ∧ ui'.editCtx.selectedPort = some p
  rw [hctx]
  exact hselects

theorem settingsButtons_faithful (env : TapEnv) {d : Device} {p : Port} (t : Tap) {cfg : MkhConfig}
    {ui : Ui} (h : ui.Faithful cfg) (hselects : ui.selects d p) :
    (settingsButtons env d p t cfg ui).Faithful cfg := by
  have hpaged : ∀ idx target, (pageTo cfg ui d p idx target).Faithful cfg := fun idx target =>
    settingsLoadBindingAt_faithful (settingsCommitWorkingIfDirty_frame cfg ui d p idx).1 hselects
      target
  unfold settingsButtons
  simp only
  split
  · split
    · exact hpaged _ _
    · exact h
  · split
    · split
      · exact hpaged _ _
      · exact h
    · split
      · unfold addBinding
        split
        · exact h
        · exact goToPage_faithful _ _ _ _
      · split
        · unfold removeBinding showRemaining
          simp only
          split
          · exact goToPage_faithful _ _ _ _
          · have hctx := (removeShown_frame (settingsSeedPendingIfNeeded cfg ui d p) d p
              ui.editCtx.editingBindingIndex).1.trans (seeded_frame cfg ui d p).1
            exact settingsLoadBindingAt_faithful hctx hselects _
        · split
          · split
            · exact h
            · exact goToPage_faithful _ _ _ _
          · exact h

theorem showReset_faithful (cfg : MkhConfig) {ui : Ui} {d : Device} {p : Port}
    (hselects : ui.selects d p) : (showReset d p cfg ui).Faithful cfg := by
  unfold showReset
  simp only
  split
  · exact faithful_of_baseline hselects (showBinding_baseline fun _ => rfl)
  · rename_i hempty
    refine faithful_of_baseline hselects (showBinding_baseline fun hlisted => absurd hlisted ?_)
    show ¬ 0 < (cfg.table d p).bindings.length
    exact hempty

theorem settingsTouch_faithful (env : TapEnv) {d : Device} {p : Port} {s : Sketch} (t : Tap)
    (h : s.Faithful) (hselects : s.ui.selects d p) : (settingsTouch env d p s t).Faithful := by
  unfold settingsTouch
  split
  · show (settingsPrompt env d p t s.live.config s.ui).Faithful s.live.config
    unfold settingsPrompt
    split
    · exact goToPage_faithful _ _ _ _
    · split
      · exact goToPage_faithful _ _ _ _
      · exact h
  · split
    · exact handleTestToggleTap_faithful h
    · split
      · exact h
      · split
        · exact showReset_faithful _ hselects
        · split
          · exact performSaveAndExit_faithful _ _ _
          · exact settingsButtons_faithful env t h hselects

theorem pageTouch_faithful (env : TapEnv) {s : Sketch} (t : Tap) (h : s.Faithful) :
    (pageTouch env s t).Faithful := by
  unfold pageTouch
  split
  · rename_i hpage
    unfold dashboardTouch
    split
    · exact goToPage_faithful _ _ _ _
    · refine Ui.faithful_elsewhere ?_
      have hsame : (rowTap env s (touchYToDeviceId t.y)).ui.currentPage = s.ui.currentPage := by
        unfold rowTap
        split
        · rfl
        · split
          · unfold toggleRow
            split <;> rfl
          · rfl
      rw [hsame, hpage]
      simp
  · exact goToPage_faithful _ _ _ _
  · exact h
  · exact dispatchHubSelectTouch_faithful env t h
  · exact dispatchPortSelectTouch_faithful env t h
  · unfold dispatchCaptureTouch
    split
    · split
      · exact handleTestToggleTap_faithful h
      · exact captureButtons_faithful env t h
    · exact h
  · unfold dispatchSettingsTouch
    split
    · rename_i hdevice hport
      exact settingsTouch_faithful env t h ⟨hdevice, hport⟩
    · exact h
  · unfold idleTouch
    split
    · exact h
    · exact goToPage_faithful _ _ _ _

theorem idleEntry_faithful (millis : UInt32) {s : Sketch} (h : s.Faithful) :
    (idleEntry millis s).Faithful := by
  unfold idleEntry
  split
  · exact goToPage_faithful _ _ _ _
  · exact h

theorem pageTick_faithful (tick : Tick) (bp : Bluepad32) {s : Sketch} (h : s.Faithful) :
    (pageTick tick bp s).1.Faithful := by
  unfold pageTick
  split
  · unfold idleTick
    split
    · exact goToPage_faithful _ _ _ _
    · split
      · simp only
        split
        · exact goToPage_faithful _ _ _ _
        · split <;> exact h
      · split <;> exact h
  · rename_i hpage
    show (if s.ui.capturePromptActive then s else checkCapture bp s).Faithful
    split
    · exact h
    · refine Ui.faithful_elsewhere ?_
      have hsame : (checkCapture bp s).ui.currentPage = s.ui.currentPage := by
        unfold checkCapture
        split
        · rfl
        · simp only
          split
          · split <;> rfl
          · rfl
      rw [hsame, hpage]
      simp
  · exact h

/-- **What the page compares with is what it shows**, after every step. -/
theorem step_faithful (t : Tank) (step : TankStep) (h : t.sketch.Faithful) :
    (t.step step).sketch.Faithful := by
  have hsame : ∀ s s' : Sketch, SameEditor s s' → s.Faithful → s'.Faithful := by
    rintro s s' ⟨hui, hconfig⟩ hs
    unfold Sketch.Faithful
    rw [hui, hconfig]
    exact hs
  exact step_invariant hsame (fun _ _ _ hs => pageTouch_faithful _ _ hs)
    (fun _ _ hs => idleEntry_faithful _ hs) (fun tick _ _ hs => pageTick_faithful tick _ hs) t step h

/-! ### The ways off a binding -/

/-- What a tap does to the binding shown. -/
inductive SettingsMove where
  /-- The binding stays shown, with these fields. -/
  | stays (fields : SettingsFields)
  /-- BACK, or KEEP at its prompt. -/
  | back
  | prev
  | next
  | add
  | save
  /-- DISCARD at BACK's prompt. -/
  | discard
  | remove
  | reset
deriving DecidableEq

/-- PREV, NEXT, ADD, REMOVE and BACK, which raises its prompt first when fields were changed. -/
def buttonsMove (cfg : MkhConfig) (ui : Ui) (d : Device) (p : Port) (t : Tap) : SettingsMove :=
  let idx := ui.editCtx.editingBindingIndex
  let count := effectiveBindingCount cfg ui d p
  let stays := SettingsMove.stays ui.settingsWorking
  if t.within spagePrev then if count > 1 ∧ idx > 0 then .prev else stays
  else if t.within spageNext then if count > 1 ∧ idx + 1 < count then .next else stays
  else if t.within spageAdd then if count ≥ mkhMaxBindingsPerPort then stays else .add
  else if t.within spageRemove then .remove
  else if t.within spageBack then if settingsUncommitted ui then stays else .back
  else stays

def promptMove (ui : Ui) (t : Tap) : SettingsMove :=
  if t.within exitPromptLeft then .back
  else if t.within exitPromptRight then .discard
  else .stays ui.settingsWorking

def settingsMove (cfg : MkhConfig) (ui : Ui) (d : Device) (p : Port) (t : Tap) : SettingsMove :=
  if ui.settingsPromptActive then promptMove ui t
  else if t.within testToggle then .stays ui.settingsWorking
  else if inFieldRows t ui then .stays (editFields t ui.settingsWorking)
  else if t.within spageReset then .reset
  else if t.within spageSave then .save
  else buttonsMove cfg ui d p t

/-- The pending session has these fields for that binding of the port. -/
structure InSession (pending : PendingEdits) (d : Device) (p : Port) (idx : Nat)
    (fields : SettingsFields) : Prop where
  dirty : (pending d p).dirty = true
  listed : idx < (pending d p).bindingCount
  stored : ((pending d p).bindings idx).settings = fields

/-- The page shows the binding it showed, with these fields. -/
structure StillShown (ui ui' : Ui) (fields : SettingsFields) : Prop where
  page : ui'.currentPage = .editSettings
  ctx : ui'.editCtx = ui.editCtx
  working : ui'.settingsWorking = fields
  baseline : ui'.settingsBaseline = ui.settingsBaseline
  pending : ui'.pendingEdits = ui.pendingEdits

/-- A binding of the port's list is shown. -/
structure ShowsBinding (s : Sketch) (d : Device) (p : Port) : Prop where
  page : s.ui.currentPage = .editSettings
  selects : s.ui.selects d p
  listed : s.ui.editCtx.editingBindingIndex < effectiveBindingCount s.live.config s.ui d p

theorem goToPage_pending {page : UiPage} (h : page ≠ .editSettings) (millis : UInt32)
    (cfg : MkhConfig) (ui : Ui) : (goToPage page millis cfg ui).pendingEdits = ui.pendingEdits := by
  unfold goToPage
  cases page with
  | splash | stats | dashboard | editSelect | editCapture | idle => rfl
  | editSettings => exact absurd rfl h
  | editPorts =>
    show (drawPortSelect cfg { ui with currentPage := .editPorts }).pendingEdits = _
    unfold drawPortSelect
    split <;> rfl

theorem backTarget_ne (ui : Ui) : backTarget ui ≠ .editSettings := by
  rcases backTarget_cases ui with h | h <;> rw [h] <;> simp

/-- A binding of a seeded copy that has been stored is in the session. -/
theorem inSession_stored {cfg : MkhConfig} {ui : Ui} {pending : PendingEdits} {d : Device} {p : Port}
    {idx : Nat} {b : Binding} (hlisted : idx < effectiveBindingCount cfg ui d p)
    (hcap : idx < mkhMaxBindingsPerPort)
    (h : pending d p = ((ui.pendingEdits d p).seeded cfg d p).store idx b) :
    InSession pending d p idx b.settings := by
  have hcount := (seeded_count cfg ui d p).1
  rw [seeded_pending, if_pos ⟨rfl, rfl⟩] at hcount
  refine ⟨?_, ?_, ?_⟩
  · rw [h]
    rfl
  · rw [h, PendingPortEdit.store_count _ b hcap, hcount]
    exact hlisted
  · rw [h, PendingPortEdit.store_self]

/-- KEEP: the fields shown are in the session. -/
theorem commitShown_inSession {cfg : MkhConfig} {ui : Ui} {d : Device} {p : Port}
    (hlisted : ui.editCtx.editingBindingIndex < effectiveBindingCount cfg ui d p)
    (hcap : ui.editCtx.editingBindingIndex < mkhMaxBindingsPerPort) :
    InSession (commitShown cfg ui d p).pendingEdits d p ui.editCtx.editingBindingIndex
      ui.settingsWorking := by
  refine inSession_stored (b := ui.settingsWorking.withInput ui.editCtx.capturedInput) hlisted hcap ?_
  rw [commitShown_pending, if_pos hlisted]

/-- PREV and NEXT: fields that were changed are in the session. -/
theorem pageTo_inSession {cfg : MkhConfig} {ui : Ui} {d : Device} {p : Port}
    (hlisted : ui.editCtx.editingBindingIndex < effectiveBindingCount cfg ui d p)
    (hcap : ui.editCtx.editingBindingIndex < mkhMaxBindingsPerPort)
    (hchanged : settingsUncommitted ui = true) (target : Nat) :
    InSession (pageTo cfg ui d p ui.editCtx.editingBindingIndex target).pendingEdits d p
      ui.editCtx.editingBindingIndex ui.settingsWorking := by
  refine inSession_stored (b := ui.settingsWorking.withInput
    (((settingsSeedPendingIfNeeded cfg ui d p).pendingEdits d p).bindings
      ui.editCtx.editingBindingIndex).input) hlisted hcap ?_
  show (settingsCommitWorkingIfDirty cfg ui d p ui.editCtx.editingBindingIndex).pendingEdits d p = _
  have hseeded : ui.editCtx.editingBindingIndex <
      ((settingsSeedPendingIfNeeded cfg ui d p).pendingEdits d p).bindingCount := by
    rw [(seeded_count cfg ui d p).1]
    exact hlisted
  unfold settingsCommitWorkingIfDirty
  simp only [if_pos hchanged]
  rw [storeInList_pending, if_pos hseeded, seeded_pending, if_pos ⟨rfl, rfl⟩]

/-- What becomes of changed fields, by the way off the binding; SAVE is seen in the live table. -/
def Keeps (ui ui' : Ui) (d : Device) (p : Port) : SettingsMove → Prop
  | .stays fields => StillShown ui ui' fields
  | .back | .prev | .next =>
    InSession ui'.pendingEdits d p ui.editCtx.editingBindingIndex ui.settingsWorking
  | .add => ¬ InSession ui'.pendingEdits d p ui.editCtx.editingBindingIndex ui.settingsWorking
  | .save | .discard | .remove | .reset => True

section Keeps

variable {cfg : MkhConfig} {ui : Ui} {d : Device} {p : Port}

/-- Changed fields are not in a session that has the fields of the entry. -/
theorem not_inSession_of_changed (hbaseline : BaselineListed cfg ui d p)
    (hlisted : ui.editCtx.editingBindingIndex < effectiveBindingCount cfg ui d p)
    (hchanged : settingsUncommitted ui = true) :
    ¬ InSession ui.pendingEdits d p ui.editCtx.editingBindingIndex ui.settingsWorking := by
  intro hsession
  have hentry := hbaseline hlisted
  unfold effectiveBinding at hentry
  rw [if_pos hsession.dirty, hsession.stored] at hentry
  unfold settingsUncommitted at hchanged
  exact of_decide_eq_true hchanged hentry.symm

theorem stillShown_self (hpage : ui.currentPage = .editSettings) :
    StillShown ui ui ui.settingsWorking := ⟨hpage, rfl, rfl, rfl, rfl⟩

theorem settingsPrompt_keeps (env : TapEnv) (t : Tap) (hpage : ui.currentPage = .editSettings)
    (hlisted : ui.editCtx.editingBindingIndex < effectiveBindingCount cfg ui d p)
    (hcap : ui.editCtx.editingBindingIndex < mkhMaxBindingsPerPort) :
    Keeps ui (settingsPrompt env d p t cfg ui) d p (promptMove ui t) := by
  unfold settingsPrompt promptMove
  split
  · show InSession (goToPage (backTarget ui) _ cfg _).pendingEdits d p _ _
    rw [goToPage_pending (backTarget_ne ui)]
    exact commitShown_inSession hlisted hcap
  · split
    · trivial
    · exact stillShown_self hpage

/-- ADD leaves the session as it was. -/
theorem settingsButtons_keeps (env : TapEnv) (t : Tap) (hpage : ui.currentPage = .editSettings)
    (hlisted : ui.editCtx.editingBindingIndex < effectiveBindingCount cfg ui d p)
    (hcap : ui.editCtx.editingBindingIndex < mkhMaxBindingsPerPort)
    (hbaseline : BaselineListed cfg ui d p) (hchanged : settingsUncommitted ui = true) :
    Keeps ui (settingsButtons env d p t cfg ui) d p (buttonsMove cfg ui d p t) := by
  have hstay := stillShown_self hpage
  unfold settingsButtons buttonsMove
  simp only [hchanged, if_true]
  split
  · split
    · exact pageTo_inSession hlisted hcap hchanged _
    · exact hstay
  · split
    · split
      · exact pageTo_inSession hlisted hcap hchanged _
      · exact hstay
    · split
      · unfold addBinding
        split
        · exact hstay
        · exact not_inSession_of_changed hbaseline hlisted hchanged
      · split
        · trivial
        · split
          · exact ⟨hpage, rfl, rfl, rfl, rfl⟩
          · exact hstay

end Keeps

/-- **The ways off a binding**, from its fields changed: every one commits them, but ADD. -/
theorem settingsTouch_keeps (env : TapEnv) {d : Device} {p : Port} {s : Sketch} (t : Tap)
    (hshows : ShowsBinding s d p) (hcap : s.ui.editCtx.editingBindingIndex < mkhMaxBindingsPerPort)
    (hbaseline : BaselineListed s.live.config s.ui d p) (hchanged : settingsUncommitted s.ui = true) :
    Keeps s.ui (settingsTouch env d p s t).ui d p (settingsMove s.live.config s.ui d p t) := by
  obtain ⟨hpage, -, hlisted⟩ := hshows
  unfold settingsTouch settingsMove
  split
  · exact settingsPrompt_keeps env t hpage hlisted hcap
  · split
    · -- The Test toggle, either way.
      unfold handleTestToggleTap
      split <;> exact ⟨hpage, rfl, rfl, rfl, rfl⟩
    · split
      · exact ⟨hpage, rfl, rfl, rfl, rfl⟩
      · split
        · trivial
        · split
          · trivial
          · exact settingsButtons_keeps env t hpage hlisted hcap hbaseline hchanged

/-! ### Runs -/

/-- What a step does to the binding shown. -/
def Tank.settingsMove (t : Tank) (d : Device) (p : Port) (step : TankStep) : SettingsMove :=
  match t.tapOf step with
  | none => .stays t.sketch.ui.settingsWorking
  | some tap => MK1Tank.settingsMove t.sketch.live.config t.sketch.ui d p tap

/-- Changed fields are not lost: the binding is still shown, or the session has them, or the live
list they were saved to, or the user dropped them. -/
def NotLost (s s' : Sketch) (d : Device) (p : Port) : SettingsMove → Prop
  | .stays fields => StillShown s.ui s'.ui fields
  | .back | .prev | .next | .add =>
    InSession s'.ui.pendingEdits d p s.ui.editCtx.editingBindingIndex s.ui.settingsWorking
  | .save =>
    ((s'.live.config.table d p).bindings[s.ui.editCtx.editingBindingIndex]?).map Binding.settings =
      some s.ui.settingsWorking
  | .discard | .remove | .reset => True

/-- A tap on the settings page is the page's. -/
theorem pageTouch_settings (env : TapEnv) {s : Sketch} {d : Device} {p : Port} (t : Tap)
    (hpage : s.ui.currentPage = .editSettings) (hselects : s.ui.selects d p) :
    pageTouch env s t = settingsTouch env d p s t := by
  unfold pageTouch
  simp only [hpage]
  unfold dispatchSettingsTouch
  simp only [hselects.1, hselects.2]

/-- Nothing follows a tap that leaves the settings page up. -/
theorem endOfIteration_settings (tick : Tick) (bp : Bluepad32) {s : Sketch}
    (hpage : s.ui.currentPage = .editSettings) :
    (pageTick tick bp (idleEntry tick.idleMillis s)).1 = s := by
  rw [endOfIteration_still tick bp (by simp [hpage]) (by simp [hpage]) (by simp [hpage])]

/-- The end of an iteration keeps what the tap kept. -/
theorem Keeps.after {ui : Ui} {s : Sketch} {d : Device} {p : Port} {move : SettingsMove}
    (h : Keeps ui s.ui d p move) (tick : Tick) (bp : Bluepad32) :
    Keeps ui (pageTick tick bp (idleEntry tick.idleMillis s)).1.ui d p move := by
  have hpending : (pageTick tick bp (idleEntry tick.idleMillis s)).1.ui.pendingEdits =
      s.ui.pendingEdits :=
    ((idleEntry_session tick.idleMillis s).trans (pageTick_session tick bp _)).pending
  cases move with
  | stays fields =>
    rw [endOfIteration_settings tick bp h.page]
    exact h
  | back | prev | next =>
    show InSession _ d p _ _
    rw [hpending]
    exact h
  | add =>
    show ¬ InSession _ d p _ _
    rw [hpending]
    exact h
  | save | discard | remove | reset => trivial

/-- The note of the time of a tap is no part of it. -/
theorem Keeps.of_noted {ui ui' : Ui} {millis : UInt32} {d : Device} {p : Port} {move : SettingsMove}
    (h : Keeps { ui with lastTouchActivityMs := millis } ui' d p move) : Keeps ui ui' d p move := by
  cases move with
  | stays fields => exact ⟨h.page, h.ctx, h.working, h.baseline, h.pending⟩
  | back | prev | next | add | save | discard | remove | reset => exact h

/-- **Changed fields, through every step of both tasks.** -/
theorem step_keeps {t : Tank} (step : TankStep) {d : Device} {p : Port}
    (hshows : ShowsBinding t.sketch d p)
    (hcap : t.sketch.ui.editCtx.editingBindingIndex < mkhMaxBindingsPerPort)
    (hfaithful : t.sketch.Faithful)
    (hchanged : settingsUncommitted t.sketch.ui = true) :
    Keeps t.sketch.ui (t.step step).sketch.ui d p (t.settingsMove d p step) := by
  have hbaseline := hfaithful hshows.page d p hshows.selects
  have hstay := stillShown_self hshows.page
  unfold Tank.settingsMove Tank.tapOf
  cases step with
  | btstack step => exact hstay
  | loop tick =>
    show Keeps t.sketch.ui (loop t tick).sketch.ui d p _
    rcases loop_cases t tick with ⟨hasleep, heq⟩ | ⟨hawake, swept, ⟨hui, hconfig⟩, heq⟩
    · simp only [hasleep, if_true]
      rw [heq]
      exact hstay
    · simp only [hawake, Bool.false_eq_true, if_false]
      rw [heq]
      unfold runPages
      cases htap : tick.tap with
      | none =>
        have hkept : Keeps t.sketch.ui swept.sketch.ui d p (.stays t.sketch.ui.settingsWorking) := by
          rw [hui]
          exact hstay
        exact hkept.after tick _
      | some tap =>
        simp only
        refine Keeps.after ?_ tick _
        rw [← hui, ← hconfig] at hbaseline
        obtain ⟨hpage, hselects, hlisted⟩ := hshows
        rw [← hui, ← hconfig] at hlisted
        rw [← hui] at hpage hselects hcap hchanged
        rw [← hui, ← hconfig]
        have hnoted : ShowsBinding (swept.sketch.withUi fun _ ui =>
            { ui with lastTouchActivityMs := tick.tapEnv.millis }) d p := ⟨hpage, hselects, hlisted⟩
        have hkeeps := settingsTouch_keeps tick.tapEnv tap hnoted hcap hbaseline hchanged
        unfold dispatchTouch
        rw [pageTouch_settings tick.tapEnv tap hnoted.page hnoted.selects]
        exact hkeeps.of_noted

/-! ### SAVE -/

theorem settingsTap_save {cfg : MkhConfig} {ui : Ui} {d : Device} {p : Port} {t : Tap}
    (h : settingsMove cfg ui d p t = .save) : settingsTap ui t = some .save := by
  have hbuttons : buttonsMove cfg ui d p t ≠ .save := by
    unfold buttonsMove
    simp only
    repeat' split
    all_goals simp
  have hprompt : promptMove ui t ≠ .save := by
    unfold promptMove
    repeat' split
    all_goals simp
  unfold settingsMove at h
  unfold settingsTap
  by_cases hup : ui.settingsPromptActive = true
  · rw [if_pos hup] at h
    exact absurd h hprompt
  rw [if_neg hup] at h ⊢
  by_cases htoggle : t.within testToggle = true
  · rw [if_pos htoggle] at h
    cases h
  rw [if_neg htoggle] at h ⊢
  by_cases hrows : inFieldRows t ui = true
  · rw [if_pos hrows] at h
    cases h
  rw [if_neg hrows] at h ⊢
  by_cases hreset : t.within spageReset = true
  · rw [if_pos hreset] at h
    cases h
  rw [if_neg hreset] at h ⊢
  by_cases hsave : t.within spageSave = true
  · rw [if_pos hsave]
  · rw [if_neg hsave] at h
    exact absurd h hbuttons

theorem writtenBindings_getElem? (bindings : Nat → Binding) (count idx : Nat) :
    (writtenBindings bindings count)[idx]? =
      if idx < count ∧ idx < mkhMaxBindingsPerPort then some (bindings idx) else none := by
  unfold writtenBindings
  by_cases hidx : idx < min count mkhMaxBindingsPerPort
  · rw [List.getElem?_map, List.getElem?_range hidx, if_pos (Nat.lt_min.mp hidx), Option.map_some]
  · rw [if_neg fun h => hidx (Nat.lt_min.mpr h)]
    refine List.getElem?_eq_none ?_
    rw [List.length_map, List.length_range]
    exact Nat.not_lt.mp hidx

/-- SAVE brings the fields shown to the live list. -/
theorem step_save {t : Tank} {step : TankStep} {d : Device} {p : Port}
    (hshows : ShowsBinding t.sketch d p)
    (hcap : t.sketch.ui.editCtx.editingBindingIndex < mkhMaxBindingsPerPort)
    (hmove : t.settingsMove d p step = .save) :
    (((t.step step).sketch.live.config.table d p).bindings[
        t.sketch.ui.editCtx.editingBindingIndex]?).map Binding.settings =
      some t.sketch.ui.settingsWorking := by
  obtain ⟨hpage, hselects, hlisted⟩ := hshows
  have hmeaning : t.sessionTap step = some .save := by
    unfold Tank.settingsMove at hmove
    unfold Tank.sessionTap
    cases htap : t.tapOf step with
    | none =>
      rw [htap] at hmove
      cases hmove
    | some tap =>
      rw [htap] at hmove
      show MK1Tank.sessionTap t.sketch.ui tap = some .save
      unfold MK1Tank.sessionTap
      simp only [hpage, hselects.1, hselects.2]
      exact settingsTap_save hmove
  have hwrites := step_session t step
  rw [hmeaning] at hwrites
  have hpushed : pushedSession t.sketch.live.config t.sketch.ui .save =
      (commitShown t.sketch.live.config t.sketch.ui d p).pendingEdits := by
    simp [pushedSession, hpage, hselects.1, hselects.2]
  obtain ⟨hdirty, hcount, hstored⟩ := commitShown_inSession hlisted hcap
  have hlist := hwrites d p
  rw [hpushed, if_pos hdirty] at hlist
  rw [hlist, writtenBindings_getElem?, if_pos ⟨hcount, hcap⟩, Option.map_some, hstored]

/-! ### The contract -/

instance (s : Sketch) (d : Device) (p : Port) : Decidable (ShowsBinding s d p) :=
  decidable_of_iff (s.ui.currentPage = .editSettings ∧
      (s.ui.editCtx.selectedDevice = some d ∧ s.ui.editCtx.selectedPort = some p) ∧
      s.ui.editCtx.editingBindingIndex < effectiveBindingCount s.live.config s.ui d p)
    ⟨fun h => ⟨h.1, h.2.1, h.2.2⟩, fun h => ⟨h.page, h.selects, h.listed⟩⟩

/-- With changed fields shown, no ADD is accepted. -/
def KeepsEdits (t : Tank) (step : TankStep) : Prop :=
  ∀ d p, ShowsBinding t.sketch d p → settingsUncommitted t.sketch.ui = true →
    t.settingsMove d p step ≠ .add

instance (t : Tank) (step : TankStep) : Decidable (KeepsEdits t step) := by
  unfold KeepsEdits
  infer_instance

/-- What becomes of the fields edited on the settings page, along a run. -/
structure SettingsContract (config : MkhConfig) (files : Files Path) (steps : List TankStep) :
    Prop where
  /-- A change is a change of the binding that the list has. -/
  baseline : ∀ front back, steps = front ++ back →
    (after Tank.step (Tank.boot config files) front).sketch.Faithful
  /-- No changed fields are lost. -/
  kept : ∀ front step back, steps = front ++ step :: back → ∀ d p,
    ShowsBinding (after Tank.step (Tank.boot config files) front).sketch d p →
    settingsUncommitted (after Tank.step (Tank.boot config files) front).sketch.ui = true →
    NotLost (after Tank.step (Tank.boot config files) front).sketch
      (after Tank.step (Tank.boot config files) (front ++ [step])).sketch d p
      ((after Tank.step (Tank.boot config files) front).settingsMove d p step)

/-- Where the editor is within its arrays, the index shown is too. -/
theorem ShowsBinding.cap {s : Sketch} {d : Device} {p : Port} (h : ShowsBinding s d p)
    (hgood : s.Good) : s.ui.editCtx.editingBindingIndex < mkhMaxBindingsPerPort :=
  Nat.lt_of_lt_of_le h.listed (effectiveBindingCount_le hgood.ui.toSound)

/-- One step loses no changed fields exactly when it is no such ADD. -/
theorem notLost_iff {t : Tank} {step : TankStep} {d : Device} {p : Port} (hgood : t.sketch.Good)
    (hshows : ShowsBinding t.sketch d p) (hfaithful : t.sketch.Faithful)
    (hchanged : settingsUncommitted t.sketch.ui = true) :
    NotLost t.sketch (t.step step).sketch d p (t.settingsMove d p step) ↔
      t.settingsMove d p step ≠ .add := by
  have hcap := hshows.cap hgood
  have hkeeps := step_keeps step hshows hcap hfaithful hchanged
  cases hmove : t.settingsMove d p step with
  | stays fields | back | prev | next =>
    rw [hmove] at hkeeps
    exact ⟨fun _ => by simp, fun _ => hkeeps⟩
  | add =>
    rw [hmove] at hkeeps
    exact ⟨fun hlost => absurd hlost hkeeps, fun h => absurd rfl h⟩
  | save => exact ⟨fun _ => by simp, fun _ => step_save hshows hcap hmove⟩
  | discard | remove | reset => exact ⟨fun _ => by simp, fun _ => trivial⟩

theorem boot_faithful (config : MkhConfig) (files : Files Path) (steps : List TankStep) :
    (after Tank.step (Tank.boot config files) steps).sketch.Faithful := by
  have hboot : (Tank.boot config files).sketch.Faithful :=
    Ui.faithful_elsewhere (by simp [Tank.boot])
  have hfaithful := invariant_always step_faithful steps hboot
  exact hfaithful

section Contract

variable {config : MkhConfig} {files : Files Path} {steps : List TankStep}

/-- Every state of a run that adds to no full port is within the editor's arrays. -/
theorem good_of_addFits (hconfig : TableWellFormed config.table)
    (hfits : Meets Tank.step AddFits (Tank.boot config files) steps) {front back : List TankStep}
    (hsplit : steps = front ++ back) :
    (after Tank.step (Tank.boot config files) front).sketch.Good := by
  rw [hsplit, meets_append] at hfits
  exact invariant_after step_good front _ (boot_good hconfig files) hfits.1

/-- A contract that is kept met the condition at every step. -/
theorem SettingsContract.keepsEdits (hconfig : TableWellFormed config.table)
    (hfits : Meets Tank.step AddFits (Tank.boot config files) steps)
    (h : SettingsContract config files steps) :
    Meets Tank.step KeepsEdits (Tank.boot config files) steps := by
  rw [meets_iff_forall]
  intro front step back hsplit d p hshows hchanged
  have hlost := h.kept front step back hsplit d p hshows hchanged
  rw [after_append] at hlost
  exact (notLost_iff (good_of_addFits hconfig hfits hsplit) hshows
    (boot_faithful config files front) hchanged).mp hlost

end Contract

/-- INVERT on port A's binding, and then one more tap. -/
def invertThen (x y : Int) : List TankStep :=
  [tapAt 0 0, tapAt 5 5, tapAt 30 40, tapAt 30 120, tapAt 50 60, tapAt x y]

end MK1Tank
