/-
What the pages can do to the outputs: only stop them.

Most taps touch the pages' own state and nothing else.  The rest push, wipe or reload
the table, save it, or toggle a hub.  None of them starts a latch, a pulse or a lock,
and none moves a channel anywhere but to neutral.  The same holds of the connection
callbacks and of everything the other task does between two iterations.
-/
import MK1Tank.Proofs.Unassigned

namespace MK1Tank

open FileProgram

/-! ### Steps that only stop -/

/-- Nothing starts: the channels settle, and a slot changes to clear only. -/
structure StopsOnly (s s' : Live) : Prop extends Settles s s' where
  slots : ∀ d p i, s'.drive.slots d p i = s.drive.slots d p i ∨ s'.drive.slots d p i = .clear

theorem StopsOnly.refl (s : Live) : StopsOnly s s := ⟨Settles.refl s, fun _ _ _ => Or.inl rfl⟩

theorem StopsOnly.trans {s₁ s₂ s₃ : Live} (h₁ : StopsOnly s₁ s₂) (h₂ : StopsOnly s₂ s₃) :
    StopsOnly s₁ s₃ where
  toSettles := h₁.toSettles.trans h₂.toSettles
  slots d p i := by
    rcases h₂.slots d p i with h | h
    · rw [h]
      exact h₁.slots d p i
    · exact Or.inr h

/-- A change of the runtime state alone. -/
theorem StopsOnly.of_slots {s s' : Live} (hbroadcast : s'.broadcast = s.broadcast)
    (hcalls : s'.channelCalls = s.channelCalls)
    (hslots : ∀ d p i, s'.drive.slots d p i = s.drive.slots d p i ∨ s'.drive.slots d p i = .clear) :
    StopsOnly s s' where
  toSettles := Settles.of_eq hbroadcast hcalls
  slots := hslots

/-- A change of the broadcaster alone. -/
theorem StopsOnly.of_broadcast {s s' : Live} (hdrive : s'.drive = s.drive)
    (hcalls : s'.channelCalls = s.channelCalls)
    (hchannel : ∀ d p, s'.broadcast.channelValue d p = s.broadcast.channelValue d p ∨
      s'.broadcast.channelValue d p = neutral) : StopsOnly s s' where
  channel := hchannel
  calls := NeutralCalls.of_eq hcalls
  slots d p i := Or.inl (by rw [hdrive])

/-- What is stopped stays stopped. -/
theorem StopsOnly.idle {s s' : Live} (h : StopsOnly s s') (hidle : s.drive.idle) :
    s'.drive.idle := by
  intro d p i
  rcases h.slots d p i with hslot | hslot
  · rw [hslot]
    exact hidle d p i
  · rw [hslot]
    rfl

/-! ### Changes of the live table -/

theorem push_slots (pending : PendingEdits) (s : Live) (d : Device) (p : Port) :
    (pushPendingSessionToLiveTable pending s).drive.slots d p =
      if (pending d p).dirty then fun _ => .clear else s.drive.slots d p := by
  unfold pushPendingSessionToLiveTable
  refine forEachPort_cell (fun (s : Live) d p => s.drive.slots d p)
    (fun d p old => if (pending d p).dirty then fun _ => .clear else old) ?_ ?_ s d p
  · intro s d p
    simp only [pushPort_slots, and_self, true_and]
  · intro s d p d' p' hne
    simp only [pushPort_slots, hne, false_and, if_false]

theorem push_calls (pending : PendingEdits) (s : Live) :
    (pushPendingSessionToLiveTable pending s).channelCalls = s.channelCalls := by
  unfold pushPendingSessionToLiveTable
  have hkeep : ∀ (s' : Live) (d : Device) (p : Port), s'.channelCalls = s.channelCalls →
      (pushPort pending s' d p).channelCalls = s.channelCalls := by
    intro s' d p hs'
    unfold pushPort
    split <;> exact hs'
  exact forEachPort_keeps hkeep rfl

theorem push_stopsOnly (pending : PendingEdits) (s : Live) :
    StopsOnly s (pushPendingSessionToLiveTable pending s) := by
  refine StopsOnly.of_slots (pushPendingSessionToLiveTable_broadcast pending s)
    (push_calls pending s) ?_
  intro d p i
  rw [push_slots]
  split
  · exact Or.inr rfl
  · exact Or.inl rfl

theorem clearAll_stopsOnly (s : Live) (config : MkhConfig) :
    StopsOnly s { s with config := config, drive := clearAllLatchState s.drive } :=
  StopsOnly.of_slots rfl rfl fun d p i => Or.inr (by simp)

theorem TableChange.apply_stopsOnly (s : Live) (c : TableChange) : StopsOnly s (c.apply s) := by
  cases c with
  | push pending => exact push_stopsOnly pending s
  | save pending files oracle =>
    exact (push_stopsOnly pending s).trans
      (StopsOnly.of_slots rfl rfl fun _ _ _ => Or.inl rfl)
  | resetAll files oracle =>
    exact (clearAll_stopsOnly s _).trans (StopsOnly.of_slots rfl rfl fun _ _ _ => Or.inl rfl)
  | reload files oracle => exact StopsOnly.of_slots rfl rfl fun _ _ _ => Or.inl rfl

/-! ### The broadcaster's own steps -/

/-- Where one device's row is cleared, every channel is kept or at rest. -/
theorem channel_cleared {b b' : Broadcast} {e : Device}
    (h : ∀ d p, b'.channelValue d p = if d = e then neutral else b.channelValue d p) (d : Device)
    (p : Port) : b'.channelValue d p = b.channelValue d p ∨ b'.channelValue d p = neutral := by
  rw [h]
  split
  · exact Or.inr rfl
  · exact Or.inl rfl

theorem mkhBroadcastToggleOff_channel (b : Broadcast) (d : Device) (now : Port → Int) (d' : Device)
    (p : Port) :
    (mkhBroadcastToggleOff b d.val now).channelValue d' p = b.channelValue d' p ∨
      (mkhBroadcastToggleOff b d.val now).channelValue d' p = neutral := by
  rcases mkhBroadcastToggleOff_cases b d.val now with heq | ⟨e, -, -, -, t, -, hchannel, heq⟩
  · exact Or.inl (by rw [heq])
  · rw [heq]
    exact channel_cleared hchannel d' p

theorem mkhBroadcastToggleOn_channel (b : Broadcast) (d : Device) (now : Port → Int) (d' : Device)
    (p : Port) :
    (mkhBroadcastToggleOn b d.val now).channelValue d' p = b.channelValue d' p ∨
      (mkhBroadcastToggleOn b d.val now).channelValue d' p = neutral := by
  rcases mkhBroadcastToggleOn_cases b d.val now with heq | ⟨e, -, -, -, t, -, hchannel, heq⟩
  · exact Or.inl (by rw [heq])
  · rw [heq]
    exact channel_cleared hchannel d' p

/-- The other task stages telegrams; it writes no channel. -/
theorem BtstackStep.run_channel (step : BtstackStep) (b : Broadcast) :
    (step.run b).channelValue = b.channelValue := by
  cases step with
  | stateWorking =>
    show (btstackEventState b).channelValue = _
    rcases btstackEventState_cases b with ⟨-, heq⟩ | ⟨-, heq⟩
    · rw [heq]
    · rw [heq]; rfl
  | controlTick =>
    show (controlTimer b).channelValue = _
    rcases controlTimer_cases b with ⟨-, heq⟩ | ⟨d, -, -, ⟨-, heq⟩ | ⟨-, heq⟩⟩ <;> rw [heq] <;> rfl
  | runCallback =>
    show (runLoopCallback b).channelValue = _
    rcases runLoopCallback_cases b with ⟨-, heq⟩ | ⟨_, _, -, heq⟩
    · rw [heq]
    · rw [heq]; rfl

/-! ### The pages -/

/-- What a step of the pages can do: the outputs are only stopped, the controllers keep their slots. -/
structure PageEffect (s s' : Sketch) : Prop where
  live : StopsOnly s.live s'.live
  controllers : s'.myControllers = s.myControllers

theorem PageEffect.refl (s : Sketch) : PageEffect s s := ⟨StopsOnly.refl s.live, rfl⟩

theorem PageEffect.trans {s₁ s₂ s₃ : Sketch} (h₁ : PageEffect s₁ s₂) (h₂ : PageEffect s₂ s₃) :
    PageEffect s₁ s₃ where
  live := h₁.live.trans h₂.live
  controllers := h₂.controllers.trans h₁.controllers

/-- A step within the pages' own state. -/
theorem withUi_effect (s : Sketch) (f : MkhConfig → Ui → Ui) : PageEffect s (s.withUi f) :=
  ⟨StopsOnly.refl s.live, rfl⟩

theorem handleTestToggleTap_effect (s : Sketch) : PageEffect s (handleTestToggleTap s) where
  live := by
    rw [handleTestToggleTap_live]
    split
    · exact StopsOnly.refl s.live
    · exact TableChange.apply_stopsOnly s.live _
  controllers := by
    unfold handleTestToggleTap
    split <;> rfl

theorem performSaveAndExit_effect (oracle : FileOracle) (millis : UInt32) (s : Sketch) :
    PageEffect s (performSaveAndExit oracle millis s) where
  live := by
    rw [performSaveAndExit_live]
    exact TableChange.apply_stopsOnly s.live _
  controllers := by simp [performSaveAndExit]

theorem confirmResetAll_effect (env : TapEnv) (s : Sketch) :
    PageEffect s (confirmResetAll env s) where
  live := by
    rw [confirmResetAll_live]
    exact TableChange.apply_stopsOnly s.live _
  controllers := by simp [confirmResetAll]

theorem settingsReset_effect (env : TapEnv) (s : Sketch) (d : Device) (p : Port) :
    PageEffect s (settingsReset env d p s) where
  live := by
    rw [settingsReset_live]
    exact TableChange.apply_stopsOnly s.live _
  controllers := by simp [settingsReset]

theorem dispatchHubSelectTouch_effect (env : TapEnv) (s : Sketch) (t : Tap) :
    PageEffect s (dispatchHubSelectTouch env s t) := by
  unfold dispatchHubSelectTouch
  by_cases hexit : s.ui.exitPromptActive = true
  · rw [if_pos hexit]
    split
    · exact (withUi_effect s _).trans (performSaveAndExit_effect _ _ _)
    · split
      · exact withUi_effect s _
      · exact PageEffect.refl s
  · rw [if_neg hexit]
    by_cases hreset : s.ui.resetAllPromptActive = true
    · rw [if_pos hreset]
      split
      · exact confirmResetAll_effect env s
      · split
        · exact withUi_effect s _
        · exact PageEffect.refl s
    · rw [if_neg hreset]
      split
      · exact handleTestToggleTap_effect s
      · split
        · exact withUi_effect s _
        · split
          · split <;> exact withUi_effect s _
          · split
            · split
              · exact PageEffect.refl s
              · exact withUi_effect s _
            · exact PageEffect.refl s

theorem dispatchPortSelectTouch_effect (env : TapEnv) (s : Sketch) (t : Tap) :
    PageEffect s (dispatchPortSelectTouch env s t) := by
  unfold dispatchPortSelectTouch
  split
  · exact handleTestToggleTap_effect s
  · split
    · exact withUi_effect s _
    · split
      · exact withUi_effect s _
      · exact PageEffect.refl s

theorem dispatchCaptureTouch_effect (env : TapEnv) (s : Sketch) (t : Tap) :
    PageEffect s (dispatchCaptureTouch env s t) := by
  unfold dispatchCaptureTouch
  split
  · split
    · exact handleTestToggleTap_effect s
    · exact withUi_effect s _
  · exact PageEffect.refl s

theorem settingsTouch_effect (env : TapEnv) (d : Device) (p : Port) (s : Sketch) (t : Tap) :
    PageEffect s (settingsTouch env d p s t) := by
  unfold settingsTouch
  split
  · exact withUi_effect s _
  · split
    · exact handleTestToggleTap_effect s
    · split
      · exact withUi_effect s _
      · split
        · exact settingsReset_effect env s d p
        · split
          · exact (withUi_effect s _).trans (performSaveAndExit_effect _ _ _)
          · exact withUi_effect s _

theorem dispatchSettingsTouch_effect (env : TapEnv) (s : Sketch) (t : Tap) :
    PageEffect s (dispatchSettingsTouch env s t) := by
  unfold dispatchSettingsTouch
  split
  · exact settingsTouch_effect env _ _ s t
  · exact PageEffect.refl s

/-- A hub turned off is stopped, its slots are cleared; a hub turned on is stopped. -/
theorem toggleRow_effect (env : TapEnv) (s : Sketch) (d : Device) :
    PageEffect s (toggleRow env s d) := by
  unfold toggleRow
  split
  · refine ⟨⟨⟨?_, NeutralCalls.of_eq rfl⟩, ?_⟩, rfl⟩
    · exact mkhBroadcastToggleOff_channel _ d (env.setterClock d)
    · intro d' p i
      rw [clearLatchStateForDevice_slots]
      split
      · exact Or.inr rfl
      · exact Or.inl rfl
  · exact ⟨StopsOnly.of_broadcast rfl rfl (mkhBroadcastToggleOn_channel _ d (env.setterClock d)), rfl⟩

theorem rowTap_effect (env : TapEnv) (s : Sketch) (d : Device) : PageEffect s (rowTap env s d) := by
  unfold rowTap
  split
  · exact PageEffect.refl s
  · split
    · exact (withUi_effect s _).trans (toggleRow_effect env _ d)
    · exact PageEffect.refl s

/-- The row's part of a tap is the broadcaster's. -/
theorem rowTap_broadcast (env : TapEnv) (s : Sketch) (d : Device) :
    (rowTap env s d).live.broadcast =
      mkhRowTap s.live.broadcast d env.millis (s.ui.lastToggleMs d) (env.setterClock d) := by
  unfold rowTap mkhRowTap
  split
  · rfl
  · split
    · show (toggleRow env _ d).live.broadcast = _
      unfold toggleRow
      split
      · rename_i hon
        exact (if_pos hon).symm
      · rename_i hoff
        exact (if_neg hoff).symm
    · rfl

theorem dashboardTouch_effect (env : TapEnv) (s : Sketch) (t : Tap) :
    PageEffect s (dashboardTouch env s t) := by
  unfold dashboardTouch
  split
  · exact withUi_effect s _
  · exact rowTap_effect env s _

theorem idleTouch_effect (env : TapEnv) (s : Sketch) (t : Tap) : PageEffect s (idleTouch env s t) := by
  unfold idleTouch
  split <;> exact withUi_effect s _

/-- **A tap stops outputs or leaves them be**, whatever the page and wherever it falls. -/
theorem pageTouch_effect (env : TapEnv) (s : Sketch) (t : Tap) :
    PageEffect s (pageTouch env s t) := by
  unfold pageTouch
  split
  · exact dashboardTouch_effect env s t
  · exact withUi_effect s _
  · exact PageEffect.refl s
  · exact dispatchHubSelectTouch_effect env s t
  · exact dispatchPortSelectTouch_effect env s t
  · exact dispatchCaptureTouch_effect env s t
  · exact dispatchSettingsTouch_effect env s t
  · exact idleTouch_effect env s t

theorem dispatchTouch_effect (env : TapEnv) (s : Sketch) (t : Tap) :
    PageEffect s (dispatchTouch env s t) :=
  (withUi_effect s _).trans (pageTouch_effect env _ t)

theorem idleEntry_effect (millis : UInt32) (s : Sketch) : PageEffect s (idleEntry millis s) := by
  unfold idleEntry
  split
  · exact withUi_effect s _
  · exact PageEffect.refl s

theorem enterDeepSleep_effect (now : SetterClock) (s : Sketch) :
    PageEffect s (enterDeepSleep now s) := by
  refine ⟨StopsOnly.of_broadcast rfl rfl fun d p => ?_, rfl⟩
  have hkeep : ∀ (b : Broadcast) (e : Device),
      (b.channelValue d p = s.live.broadcast.channelValue d p ∨ b.channelValue d p = neutral) →
      ((mkhBroadcastToggleOff b e.val (now e)).channelValue d p =
          s.live.broadcast.channelValue d p ∨
        (mkhBroadcastToggleOff b e.val (now e)).channelValue d p = neutral) := by
    intro b e hb
    rcases mkhBroadcastToggleOff_channel b e (now e) d p with h | h
    · rw [h]
      exact hb
    · exact Or.inr h
  exact ForEach.foldl_keeps hkeep Device.all s.live.broadcast (Or.inl rfl)

theorem idleTick_effect (tick : Tick) (s : Sketch) : PageEffect s (idleTick tick s).1 := by
  unfold idleTick
  split
  · exact withUi_effect s _
  · split
    · simp only
      split
      · exact (withUi_effect s _).trans (withUi_effect _ _)
      · split
        · exact (withUi_effect s _).trans (enterDeepSleep_effect _ _)
        · exact PageEffect.refl s
    · split
      · exact enterDeepSleep_effect _ s
      · exact PageEffect.refl s

theorem checkCapture_effect (bp : Bluepad32) (s : Sketch) : PageEffect s (checkCapture bp s) := by
  unfold checkCapture
  split
  · exact PageEffect.refl s
  · simp only
    split
    · split
      · exact withUi_effect s _
      · exact PageEffect.refl s
    · exact PageEffect.refl s

theorem pageTick_effect (tick : Tick) (bp : Bluepad32) (s : Sketch) :
    PageEffect s (pageTick tick bp s).1 := by
  unfold pageTick
  split
  · exact idleTick_effect tick s
  · show PageEffect s (if _ then s else checkCapture bp s)
    split
    · exact PageEffect.refl s
    · exact checkCapture_effect bp s
  · exact PageEffect.refl s

/-- **The pages' part of an iteration only stops**, and the controllers keep their slots. -/
theorem runPages_effect (tick : Tick) (t : Tank) :
    PageEffect t.sketch (runPages tick t).sketch := by
  show PageEffect t.sketch (pageTick tick t.bp32 (idleEntry tick.idleMillis _)).1
  refine PageEffect.trans ?_ ((idleEntry_effect _ _).trans (pageTick_effect _ _ _))
  split
  · exact dispatchTouch_effect _ _ _
  · exact PageEffect.refl _

@[simp] theorem runPages_bp32 (tick : Tick) (t : Tank) : (runPages tick t).bp32 = t.bp32 := rfl

/-- The sketch once the iteration's tap, if any, was dispatched. -/
def afterTap (tick : Tick) (t : Tank) : Sketch :=
  match tick.tap with
  | some tap => dispatchTouch tick.tapEnv t.sketch tap
  | none => t.sketch

/-- The pages' part of an iteration is the tap and what follows it. -/
theorem runPages_eq (tick : Tick) (t : Tank) :
    runPages tick t =
      { t with
        sketch := (pageTick tick t.bp32 (idleEntry tick.idleMillis (afterTap tick t))).1
        asleep := (pageTick tick t.bp32 (idleEntry tick.idleMillis (afterTap tick t))).2 } := rfl

/-! ### The connection callbacks -/

theorem onConnectedController_live (ctl : Seat) (s : Sketch) :
    (onConnectedController ctl s).live = s.live := by
  unfold onConnectedController
  split <;> rfl

/-- The note is all that the reports change in the sketch. -/
theorem processControllers_note (bp : Bluepad32) (s : Sketch) :
    ∃ xwcState, processControllers bp s = { s with xwcState := xwcState } := by
  unfold processControllers
  generalize Seat.all = slots
  induction slots generalizing s with
  | nil => exact ⟨s.xwcState, rfl⟩
  | cons slot rest ih =>
    rw [List.foldl_cons]
    split
    · exact ih s
    · simp only
      split
      · obtain ⟨xwcState, hrest⟩ := ih { s with xwcState := .active }
        exact ⟨xwcState, hrest⟩
      · exact ih s

theorem processControllers_effect (bp : Bluepad32) (s : Sketch) :
    PageEffect s (processControllers bp s) := by
  obtain ⟨xwcState, hnote⟩ := processControllers_note bp s
  rw [hnote]
  exact ⟨StopsOnly.refl s.live, rfl⟩

theorem stopPort_config (now : SetterClock) (s : Live) (d : Device) (p : Port) :
    (stopPort now s d p).config = s.config := by
  unfold stopPort
  split <;> rfl

theorem stopPort_settles (now : SetterClock) (s : Live) (d : Device) (p : Port) :
    Settles s (stopPort now s d p) := by
  unfold stopPort
  split
  · exact Settles.setChannel s d p (now d p)
  · exact Settles.refl s

theorem disconnectFailsafe_stopsOnly (now : SetterClock) (s : Live) :
    StopsOnly s (disconnectFailsafe now s) := by
  have hstop : Settles s (forEachPort (stopPort now) s) :=
    forEachPort_rel Settles.refl (fun _ _ _ => Settles.trans) (stopPort_settles now) s
  unfold disconnectFailsafe
  generalize forEachPort (stopPort now) s = stopped at hstop
  refine ⟨hstop.trans (Settles.of_eq rfl rfl), ?_⟩
  intro d p i
  exact Or.inr (by simp)

@[simp] theorem disconnectFailsafe_config (now : SetterClock) (s : Live) :
    (disconnectFailsafe now s).config = s.config := by
  have hkeep : ∀ (s' : Live) (d : Device) (p : Port), s'.config = s.config →
      (stopPort now s' d p).config = s.config :=
    fun s' d p hs' => (stopPort_config now s' d p).trans hs'
  have hstop : (forEachPort (stopPort now) s).config = s.config := forEachPort_keeps hkeep rfl
  unfold disconnectFailsafe
  generalize forEachPort (stopPort now) s = stopped at hstop
  exact hstop

theorem onDisconnectedController_stopsOnly (now : SetterClock) (ctl : Seat) (s : Sketch) :
    StopsOnly s.live (onDisconnectedController now ctl s).live := by
  unfold onDisconnectedController
  split
  · exact StopsOnly.refl s.live
  · simp only
    split
    · exact disconnectFailsafe_stopsOnly now s.live
    · exact StopsOnly.refl s.live

end MK1Tank
