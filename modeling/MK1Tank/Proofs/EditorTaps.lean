/-
The taps and the editor's invariant.

Every tap on every page keeps the invariant, with one exception: ADD, answered at the
capture page's prompt for a port whose list is full.  The settings page's own ADD button
looks at the cap, but its BACK button leads to the capture page without it.
-/
import MK1Tank.Proofs.EditorInvariant

namespace MK1Tank

open FileProgram

variable {cfg : MkhConfig} {ui : Ui} {d : Device} {p : Port}

/-! ### Leaving and moving about -/

theorem clearEditorSession_sound (h : ui.Sound) : (clearEditorSession ui).Sound where
  pending d p := ⟨(h.pending d p).count, (h.pending d p).stored⟩
  indices := h.indices
  captured hvalid := absurd hvalid Bool.false_ne_true
  working := h.working

theorem leaveEditor_good (env : TapEnv) (h : ui.Sound) : (leaveEditor env cfg ui).Good cfg :=
  goToPage_elsewhere (clearEditorSession_sound h) (by simp) (by simp) env.millis

theorem selectHub_good (env : TapEnv) (h : ui.Sound) : (selectHub env d cfg ui).Good cfg := by
  refine goToPage_elsewhere ?_ (by simp) (by simp) env.millis
  exact ⟨h.pending, h.indices, h.captured, h.working⟩

theorem backTarget_cases (ui : Ui) : backTarget ui = .editCapture ∨ backTarget ui = .editPorts := by
  unfold backTarget
  split
  · exact Or.inl rfl
  · exact Or.inr rfl

/-- BACK keeps the invariant: on the capture page the index has to be one of the list, or 0. -/
theorem goToPage_back (h : ui.Sound) (millis : UInt32) (shownUi : Ui)
    (hidx : ∀ d p, ui.selects d p →
      ui.editCtx.editingBindingIndex < effectiveBindingCount cfg ui d p ∨
        ui.editCtx.editingBindingIndex = 0) :
    (goToPage (backTarget shownUi) millis cfg ui).Good cfg := by
  rcases backTarget_cases shownUi with hback | hback <;> rw [hback]
  · exact goToPage_capture h millis hidx
  · exact goToPage_elsewhere h (by simp) (by simp) millis

/-! ### Port select -/

theorem focusPort_sound (h : ui.Sound) : (focusPort ui p).Sound := by
  unfold focusPort
  simp only
  split
  · exact ⟨h.pending, h.indices, h.captured, h.working⟩
  · exact ⟨h.pending, h.indices, h.clearCapture.captured, h.working⟩

/-- The port selected is the one tapped, and its first binding is meant. -/
theorem focusPort_ctx (ui : Ui) (p : Port) :
    (focusPort ui p).editCtx.selectedDevice = ui.editCtx.selectedDevice ∧
      (focusPort ui p).editCtx.selectedPort = some p ∧
      (focusPort ui p).editCtx.editingBindingIndex = 0 := by
  unfold focusPort
  simp only
  split <;> exact ⟨rfl, rfl, rfl⟩

theorem openPort_good (env : TapEnv) (hcfg : TableWellFormed cfg.table) (h : ui.Sound)
    (hselects : ui.selects d p) (hidx : ui.editCtx.editingBindingIndex = 0) :
    (openPort env d p cfg ui).Good cfg := by
  unfold openPort
  split
  · rename_i hcount
    refine goToPage_settings hcfg ?_ env.millis ?_
    · have hfirst := (effectiveBinding_wellFormed hcfg h hcount).input
      have hnoted : (ui.noteIndices [0]).Sound := h.noteIndices fun i hi => by
        rw [List.mem_singleton.mp hi]
        decide
      exact ⟨hnoted.pending, hnoted.indices, fun _ => hfirst, hnoted.working⟩
    · intro d' p' hselects'
      obtain ⟨rfl, rfl⟩ := Ui.selects_unique hselects hselects'
      exact Or.inl (Nat.lt_of_le_of_lt (Nat.le_of_eq hidx) hcount)
  · exact goToPage_capture h env.millis fun _ _ _ => Or.inr hidx

theorem selectPort_good (env : TapEnv) (hcfg : TableWellFormed cfg.table) (h : ui.Sound)
    (hdevice : ui.editCtx.selectedDevice = some d) : (selectPort env d p cfg ui).Good cfg := by
  obtain ⟨hd, hp, hidx⟩ := focusPort_ctx ui p
  exact openPort_good env hcfg (focusPort_sound h) ⟨hd.trans hdevice, hp⟩ hidx

/-! ### Capture -/

/-- The settings page entered from the capture page. -/
theorem commitCapture_good (env : TapEnv) (hcfg : TableWellFormed cfg.table) (h : ui.Sound)
    (hselects : ui.selects d p) {idx : Nat}
    (hidx : idx < effectiveBindingCount cfg ui d p ∨
      (idx = effectiveBindingCount cfg ui d p ∧
        effectiveBindingCount cfg ui d p < mkhMaxBindingsPerPort ∧
        ui.editCtx.captureValid = true)) :
    (commitCapture env idx cfg ui).Good cfg := by
  refine goToPage_settings hcfg ?_ env.millis ?_
  · exact ⟨h.pending, h.indices, h.captured, h.working⟩
  intro d' p' hselects'
  obtain ⟨rfl, rfl⟩ := Ui.selects_unique hselects hselects'
  rcases hidx with hlisted | ⟨hnew, hroom, hvalid⟩
  · exact Or.inl hlisted
  · exact Or.inr ⟨hnew, hroom, Or.inl hvalid⟩

/-- The tap answers ADD at the capture page's prompt. -/
def answersAdd (ui : Ui) (t : Tap) : Bool :=
  !ui.capturePromptActive && ui.captureReplaceAddPromptActive && !t.within captureLeft &&
    t.within captureRight

theorem captureButtons_good (env : TapEnv) (t : Tap) (hcfg : TableWellFormed cfg.table)
    (h : ui.Good cfg) (hpage : ui.currentPage = .editCapture) (hselects : ui.selects d p)
    (hadd : answersAdd ui t = true → effectiveBindingCount cfg ui d p < mkhMaxBindingsPerPort) :
    (captureButtons env d p t cfg ui).Good cfg := by
  have hindex := h.index d p hselects hpage
  unfold captureButtons
  split
  · split
    · refine goToPage_elsewhere ?_ (by simp) (by simp) env.millis
      exact ⟨h.pending, h.indices, h.captured, h.working⟩
    · split
      · refine goToPage_elsewhere ?_ (by simp) (by simp) env.millis
        exact ⟨h.pending, h.indices, h.clearCapture.captured, h.working⟩
      · exact h
  · rename_i hnokeep
    split
    · rename_i hprompt
      obtain ⟨hvalid, hcount⟩ := h.prompt d p hselects hpage hprompt
      split
      · refine commitCapture_good env hcfg h.toSound hselects (Or.inl ?_)
        rcases hindex with hlisted | hzero
        · exact hlisted
        · rw [hzero]
          exact hcount
      · rename_i hnotleft
        split
        · rename_i hright
          have hroom := hadd (by simp [answersAdd, hnokeep, hprompt, hnotleft, hright])
          exact commitCapture_good env hcfg h.toSound hselects (Or.inr ⟨rfl, hroom, hvalid⟩)
        · exact h
    · split
      · split
        · exact ⟨⟨h.pending, h.indices, h.captured, h.working⟩, ⟨h.index, h.prompt, h.shown⟩⟩
        · exact goToPage_elsewhere h.toSound (by simp) (by simp) env.millis
      · split
        · rename_i hnext
          have hvalid : ui.editCtx.captureValid = true := Bool.and_elim_right hnext
          split
          · rename_i hcount
            refine ⟨⟨h.pending, h.indices, h.captured, h.working⟩, ⟨h.index, ?_, h.shown⟩⟩
            intro d' p' hselects' _ _
            obtain ⟨rfl, rfl⟩ := Ui.selects_unique hselects hselects'
            exact ⟨hvalid, hcount⟩
          · rename_i hcount
            have hzero := Nat.eq_zero_of_not_pos hcount
            refine commitCapture_good env hcfg h.toSound hselects (Or.inr ⟨hzero.symm, ?_, hvalid⟩)
            rw [hzero]
            decide
        · exact h

/-- **ADD for a full port breaks the cap.** -/
theorem captureButtons_full (env : TapEnv) (t : Tap) (h : ui.Good cfg)
    (hpage : ui.currentPage = .editCapture) (hselects : ui.selects d p)
    (hadd : answersAdd ui t = true)
    (hfull : ¬ effectiveBindingCount cfg ui d p < mkhMaxBindingsPerPort) :
    mkhMaxBindingsPerPort ∈ (captureButtons env d p t cfg ui).bindingIndices ∧
      (captureButtons env d p t cfg ui).currentPage = .editSettings := by
  unfold answersAdd at hadd
  simp only [Bool.and_eq_true, Bool.not_eq_true'] at hadd
  obtain ⟨⟨⟨hnokeep, hprompt⟩, hnotleft⟩, hright⟩ := hadd
  obtain ⟨hvalid, -⟩ := h.prompt d p hselects hpage hprompt
  have hcount : effectiveBindingCount cfg ui d p = mkhMaxBindingsPerPort :=
    Nat.le_antisymm (effectiveBindingCount_le h.toSound) (Nat.not_lt.mp hfull)
  have hbuttons : captureButtons env d p t cfg ui =
      commitCapture env (effectiveBindingCount cfg ui d p) cfg ui := by
    unfold captureButtons
    rw [if_neg (by simp [hnokeep]), if_pos hprompt, if_neg (by simp [hnotleft]), if_pos hright]
  rw [hbuttons]
  unfold commitCapture goToPage drawPage
  simp only [Ui.withCtx, hselects.1, hselects.2]
  refine ⟨enterSettings_full ?_ ?_ ?_ ?_, ?_⟩
  · exact hcount
  · rfl
  · exact hvalid
  · exact h.captured hvalid
  · exact (enterSettings_frame _ _ _ _).2.2

/-! ### The settings page -/

theorem applyMaxEndSnap_le (percent : Int) : applyMaxEndSnap percent ≤ 100 := by
  unfold applyMaxEndSnap
  simp only
  split
  · decide
  · split
    · decide
    · omega

theorem editFields_max (t : Tap) {w : SettingsFields} (hw : w.max ≤ 100) :
    (editFields t w).max ≤ 100 := by
  unfold editFields
  simp only
  split
  · exact hw
  · split
    · exact hw
    · split
      · exact applyMaxEndSnap_le _
      · split
        · exact applyMaxEndSnap_le _
        · split
          · exact applyMaxEndSnap_le _
          · exact hw

theorem storeInList_frame (ui : Ui) (d : Device) (p : Port) (idx : Nat) (b : Binding) :
    (storeInList ui d p idx b).editCtx = ui.editCtx ∧
      (storeInList ui d p idx b).settingsWorking = ui.settingsWorking ∧
      (storeInList ui d p idx b).currentPage = ui.currentPage := by
  unfold storeInList
  split <;> exact ⟨rfl, rfl, rfl⟩

/-- Storing into a seeded copy leaves the list as long as it was. -/
theorem storeInList_seeded_count (h : effectiveBindingCount cfg ui d p ≤ mkhMaxBindingsPerPort)
    (idx : Nat) (b : Binding) :
    effectiveBindingCount cfg (storeInList (settingsSeedPendingIfNeeded cfg ui d p) d p idx b) d p =
      effectiveBindingCount cfg ui d p := by
  obtain ⟨hcount, heffective⟩ := seeded_count cfg ui d p
  unfold storeInList
  split
  · rename_i hlisted
    rw [hcount] at hlisted
    rw [storePending_count _ _ _ _ _ (Nat.lt_of_lt_of_le hlisted h), hcount]
  · exact heffective

/-- KEEP and SAVE store the binding shown. -/
theorem commitShown_sound (hcfg : TableWellFormed cfg.table) (h : ui.Sound)
    (hshown : Shown cfg ui d p) : (commitShown cfg ui d p).Sound := by
  refine storeInList_sound (seeded_sound hcfg h) ?_
  intro hidx
  rw [(seeded_count cfg ui d p).1] at hidx
  exact ⟨hshown.2 hidx, h.working⟩

theorem commitShown_frame (h : ui.Sound) :
    (commitShown cfg ui d p).editCtx = ui.editCtx ∧
      effectiveBindingCount cfg (commitShown cfg ui d p) d p = effectiveBindingCount cfg ui d p :=
  ⟨(storeInList_frame _ d p _ _).1.trans (seeded_frame cfg ui d p).1,
    storeInList_seeded_count (effectiveBindingCount_le h) _ _⟩

theorem settingsPrompt_good (env : TapEnv) (t : Tap) (hcfg : TableWellFormed cfg.table)
    (h : ui.Good cfg) (hpage : ui.currentPage = .editSettings) (hselects : ui.selects d p) :
    (settingsPrompt env d p t cfg ui).Good cfg := by
  have hshown := h.shown d p hselects hpage
  unfold settingsPrompt
  split
  · have hsound := commitShown_sound hcfg h.toSound hshown
    obtain ⟨hctx, hcount⟩ : (commitShown cfg ui d p).editCtx = ui.editCtx ∧
        effectiveBindingCount cfg (commitShown cfg ui d p) d p = effectiveBindingCount cfg ui d p :=
      commitShown_frame h.toSound
    generalize commitShown cfg ui d p = committed at hsound hctx hcount
    refine goToPage_back ?_ env.millis _ ?_
    · exact ⟨hsound.pending, hsound.indices, hsound.captured, hsound.working⟩
    · intro d' p' hselects'
      have hsel : ui.selects d' p' := by
        unfold Ui.selects
        rw [← hctx]
        exact hselects'
      obtain ⟨rfl, rfl⟩ := Ui.selects_unique hselects hsel
      show committed.editCtx.editingBindingIndex < effectiveBindingCount cfg committed d' p' ∨
        committed.editCtx.editingBindingIndex = 0
      rw [hctx, hcount]
      exact hshown.1
  · split
    · refine goToPage_back ?_ env.millis _ ?_
      · exact ⟨h.pending, h.indices, h.captured, h.working⟩
      · exact fun d p hselects => (h.shown d p hselects hpage).1
    · exact h

/-- Showing a binding of the list. -/
theorem settingsLoadBindingAt_good (hcfg : TableWellFormed cfg.table) (h : ui.Sound)
    (hpage : ui.currentPage = .editSettings) (hselects : ui.selects d p) {idx : Nat}
    (hidx : idx < effectiveBindingCount cfg ui d p) :
    (settingsLoadBindingAt cfg ui d p idx).Good cfg := by
  have hloaded := effectiveBinding_wellFormed hcfg h hidx
  have hnoted : ((ui.withCtx fun ctx => { ctx with editingBindingIndex := idx }).noteIndices
      [idx]).Sound := by
    have hindices : (ui.noteIndices [idx]).Sound := h.noteIndices fun i hi => by
      rw [List.mem_singleton.mp hi]
      exact Nat.lt_of_lt_of_le hidx (effectiveBindingCount_le h)
    exact ⟨hindices.pending, hindices.indices, hindices.captured, hindices.working⟩
  refine (hnoted.showBinding hloaded.maxPercent fun _ => hloaded.input).good_settings hpage ?_
  intro d' p' hselects'
  obtain ⟨rfl, rfl⟩ := Ui.selects_unique hselects hselects'
  exact ⟨Or.inl hidx, fun _ => hloaded.input⟩

/-- An edit that is not committed yet goes to the binding it is of. -/
theorem settingsCommitWorkingIfDirty_sound (hcfg : TableWellFormed cfg.table) (h : ui.Sound)
    (idx : Nat) : (settingsCommitWorkingIfDirty cfg ui d p idx).Sound := by
  unfold settingsCommitWorkingIfDirty
  split
  · have hseeded := seeded_sound (d := d) (p := p) hcfg h
    refine storeInList_sound hseeded ?_
    intro hidx
    exact ⟨((hseeded.pending d p).stored idx hidx).input, h.working⟩
  · exact h

theorem settingsCommitWorkingIfDirty_frame (cfg : MkhConfig) (ui : Ui) (d : Device) (p : Port)
    (idx : Nat) :
    (settingsCommitWorkingIfDirty cfg ui d p idx).editCtx = ui.editCtx ∧
      (settingsCommitWorkingIfDirty cfg ui d p idx).currentPage = ui.currentPage := by
  obtain ⟨hctx, -, hpage⟩ := seeded_frame cfg ui d p
  unfold settingsCommitWorkingIfDirty
  split
  · exact ⟨(storeInList_frame _ d p idx _).1.trans hctx,
      (storeInList_frame _ d p idx _).2.2.trans hpage⟩
  · exact ⟨rfl, rfl⟩

theorem settingsCommitWorkingIfDirty_count
    (h : effectiveBindingCount cfg ui d p ≤ mkhMaxBindingsPerPort) (idx : Nat) :
    effectiveBindingCount cfg (settingsCommitWorkingIfDirty cfg ui d p idx) d p =
      effectiveBindingCount cfg ui d p := by
  unfold settingsCommitWorkingIfDirty
  split
  · exact storeInList_seeded_count h idx _
  · rfl

theorem pageTo_good (hcfg : TableWellFormed cfg.table) (h : ui.Sound)
    (hpage : ui.currentPage = .editSettings) (hselects : ui.selects d p) (idx : Nat) {target : Nat}
    (htarget : target < effectiveBindingCount cfg ui d p) :
    (pageTo cfg ui d p idx target).Good cfg := by
  obtain ⟨hctx, hsame⟩ := settingsCommitWorkingIfDirty_frame cfg ui d p idx
  have hcount : effectiveBindingCount cfg (settingsCommitWorkingIfDirty cfg ui d p idx) d p =
      effectiveBindingCount cfg ui d p :=
    settingsCommitWorkingIfDirty_count (effectiveBindingCount_le h) idx
  refine settingsLoadBindingAt_good hcfg (settingsCommitWorkingIfDirty_sound hcfg h idx)
    (hsame.trans hpage) ?_ (by rw [hcount]; exact htarget)
  unfold Ui.selects
  rw [hctx]
  exact hselects

theorem addBinding_good (env : TapEnv) (h : ui.Good cfg) (hpage : ui.currentPage = .editSettings) :
    (addBinding env cfg ui d p).Good cfg := by
  unfold addBinding
  split
  · exact h
  · refine goToPage_capture ?_ env.millis ?_
    · exact ⟨h.pending, h.indices, h.clearCapture.captured, h.working⟩
    · exact fun d p hselects => (h.shown d p hselects hpage).1

/-- Taking the binding shown off a seeded copy: one fewer, when it was on the list. -/
theorem removeShown_sound (h : ui.Sound) (idx : Nat) : (removeShown ui d p idx).Sound := by
  unfold removeShown
  simp only
  split
  · refine (h.setPending ((h.pending d p).removeAt idx)).noteIndices ?_
    intro i hi
    have hcap := (h.pending d p).count
    simp only [List.mem_flatMap, List.mem_range', List.mem_cons, List.not_mem_nil, or_false,
      one_mul] at hi
    obtain ⟨j, ⟨k, hk, rfl⟩, rfl | rfl⟩ := hi <;> omega
  · exact h

theorem removeShown_frame (ui : Ui) (d : Device) (p : Port) (idx : Nat) :
    (removeShown ui d p idx).editCtx = ui.editCtx ∧
      (removeShown ui d p idx).currentPage = ui.currentPage := by
  unfold removeShown
  simp only
  split <;> exact ⟨rfl, rfl⟩

theorem removeShown_count (cfg : MkhConfig) (ui : Ui) (d : Device) (p : Port) {idx : Nat}
    (hidx : idx < (ui.pendingEdits d p).bindingCount) :
    ((removeShown ui d p idx).pendingEdits d p).bindingCount =
        (ui.pendingEdits d p).bindingCount - 1 ∧
      effectiveBindingCount cfg (removeShown ui d p idx) d p =
        (ui.pendingEdits d p).bindingCount - 1 := by
  unfold removeShown
  simp only
  rw [if_pos hidx]
  have hpending : ∀ indices, ((ui.setPending d p ((ui.pendingEdits d p).removeAt idx)).noteIndices
      indices).pendingEdits d p = (ui.pendingEdits d p).removeAt idx :=
    fun _ => ui.setPending_same d p _
  unfold effectiveBindingCount
  rw [hpending]
  exact ⟨rfl, rfl⟩

/-- What is shown once a binding is gone. -/
theorem showRemaining_good (env : TapEnv) (hcfg : TableWellFormed cfg.table) (h : ui.Sound)
    (hpage : ui.currentPage = .editSettings) (hselects : ui.selects d p)
    (hcount : (ui.pendingEdits d p).bindingCount = effectiveBindingCount cfg ui d p) (idx : Nat)
    (hempty : effectiveBindingCount cfg ui d p = 0 → ui.editCtx.editingBindingIndex = 0) :
    (showRemaining env cfg ui d p idx).Good cfg := by
  unfold showRemaining
  simp only [hcount]
  split
  · rename_i hzero
    refine goToPage_back h.clearCapture env.millis ui ?_
    intro _ _ _
    exact Or.inr (hempty hzero)
  · refine settingsLoadBindingAt_good hcfg h hpage hselects ?_
    split <;> omega

theorem removeBinding_good (env : TapEnv) (hcfg : TableWellFormed cfg.table) (h : ui.Good cfg)
    (hpage : ui.currentPage = .editSettings) (hselects : ui.selects d p) :
    (removeBinding env cfg ui d p ui.editCtx.editingBindingIndex).Good cfg := by
  have hindex := (h.shown d p hselects hpage).1
  obtain ⟨hctx, -, hsame⟩ := seeded_frame cfg ui d p
  obtain ⟨hcount, heffective⟩ := seeded_count cfg ui d p
  have hseeded := seeded_sound (d := d) (p := p) hcfg h.toSound
  unfold removeBinding
  generalize settingsSeedPendingIfNeeded cfg ui d p = seeded at hctx hsame hcount heffective hseeded
  obtain ⟨hctxLeft, hpageLeft⟩ :=
    removeShown_frame seeded d p ui.editCtx.editingBindingIndex
  refine showRemaining_good env hcfg (removeShown_sound hseeded _)
    (hpageLeft.trans (hsame.trans hpage)) ?_ ?_ _ ?_
  · unfold Ui.selects
    rw [hctxLeft, hctx]
    exact hselects
  · by_cases hlisted : ui.editCtx.editingBindingIndex < (seeded.pendingEdits d p).bindingCount
    · obtain ⟨hpending, heffectiveLeft⟩ := removeShown_count cfg seeded d p hlisted
      exact hpending.trans heffectiveLeft.symm
    · unfold removeShown
      simp only
      rw [if_neg hlisted, hcount, heffective]
  · rw [hctxLeft, hctx]
    intro hempty
    by_cases hlisted : ui.editCtx.editingBindingIndex < (seeded.pendingEdits d p).bindingCount
    · rw [(removeShown_count cfg seeded d p hlisted).2] at hempty
      omega
    · rw [hcount] at hlisted
      exact hindex.resolve_left hlisted

/-- PREV, ADD, REMOVE, NEXT and BACK. -/
theorem settingsButtons_good (env : TapEnv) (t : Tap) (hcfg : TableWellFormed cfg.table)
    (h : ui.Good cfg) (hpage : ui.currentPage = .editSettings) (hselects : ui.selects d p) :
    (settingsButtons env d p t cfg ui).Good cfg := by
  have hindex := (h.shown d p hselects hpage).1
  unfold settingsButtons
  simp only
  split
  · split
    · rename_i hprev
      exact pageTo_good hcfg h.toSound hpage hselects _ (by omega)
    · exact h
  · split
    · split
      · rename_i hnext
        exact pageTo_good hcfg h.toSound hpage hselects _ hnext.2
      · exact h
    · split
      · exact addBinding_good env h hpage
      · split
        · exact removeBinding_good env hcfg h hpage hselects
        · split
          · split
            · exact ⟨⟨h.pending, h.indices, h.captured, h.working⟩, ⟨h.index, h.prompt, h.shown⟩⟩
            · exact goToPage_back h.toSound env.millis ui
                fun d p hselects => (h.shown d p hselects hpage).1
          · exact h

/-- The page after RESET. -/
theorem showReset_good (hcfg : TableWellFormed cfg.table) (h : ui.Sound)
    (hpage : ui.currentPage = .editSettings) (hselects : ui.selects d p) :
    (showReset d p cfg ui).Good cfg := by
  have hcleared : ({ (clearPendingSession ui).withCtx fun ctx =>
      { ctx with editingBindingIndex := 0 } with testActive := false } : Ui).Sound :=
    ⟨fun d p => ⟨(h.pending d p).count, (h.pending d p).stored⟩, h.indices, h.captured, h.working⟩
  have hlive : effectiveBindingCount cfg ({ (clearPendingSession ui).withCtx fun ctx =>
      { ctx with editingBindingIndex := 0 } with testActive := false } : Ui) d p =
        (cfg.table d p).bindings.length := rfl
  unfold showReset
  simp only
  split
  · rename_i hcount
    have hfirst := liveBinding_wellFormed hcfg hcount
    have hnoted := hcleared.noteIndices fun i (hi : i ∈ [0]) => by
      rw [List.mem_singleton.mp hi]
      decide
    refine (hnoted.showBinding hfirst.maxPercent fun _ => hfirst.input).good_settings hpage ?_
    intro d' p' hselects'
    obtain ⟨rfl, rfl⟩ := Ui.selects_unique hselects hselects'
    exact ⟨Or.inr rfl, fun _ => hfirst.input⟩
  · rename_i hcount
    refine (hcleared.showBinding (Nat.le_refl 100) fun hvalid =>
      absurd hvalid Bool.false_ne_true).good_settings hpage ?_
    intro d' p' hselects'
    obtain ⟨rfl, rfl⟩ := Ui.selects_unique hselects hselects'
    refine ⟨Or.inr rfl, fun hlt => absurd ?_ hcount⟩
    rw [showBinding_count, hlive] at hlt
    exact Nat.lt_of_le_of_lt (Nat.zero_le _) hlt

end MK1Tank
