/-
What each step of the broadcaster can do.

The setter writes one channel byte and may queue one callback for an active device;
it touches nothing else.  A tick serves at most one device, one that is in rotation,
and drops it exactly when that was the last service of its grace period.  The
results about hub OFF and about rotation are read off these lemmas, without opening
the definitions again.
-/
import MK1Tank.Firmware.Broadcast

namespace MK1Tank

/-! ### The setter -/

/-- What the setter leaves as it was, for any number of calls. -/
structure SetterFrame (s s' : Broadcast) : Prop where
  deviceActive : s'.deviceActive = s.deviceActive
  pendingOffServices : s'.pendingOffServices = s.pendingOffServices
  deviceTransitioning : s'.deviceTransitioning = s.deviceTransitioning
  hubBroadcasting : s'.hubBroadcasting = s.hubBroadcasting
  timeSliceLastDevice : s'.timeSliceLastDevice = s.timeSliceLastDevice
  advertisingStarted : s'.advertisingStarted = s.advertisingStarted
  advBuf : s'.advBuf = s.advBuf
  log : s'.log = s.log
  /-- A callback that was not waiting before is for an active device. -/
  queued : ∀ d ∈ s'.runLoopCallbacks, d ∈ s.runLoopCallbacks ∨ s.deviceActive d = true
  /-- A callback that was waiting still is. -/
  waiting : ∀ d ∈ s.runLoopCallbacks, d ∈ s'.runLoopCallbacks

theorem SetterFrame.refl (s : Broadcast) : SetterFrame s s :=
  ⟨rfl, rfl, rfl, rfl, rfl, rfl, rfl, rfl, fun _ h => Or.inl h, fun _ h => h⟩

theorem SetterFrame.trans {s₁ s₂ s₃ : Broadcast} (h₁ : SetterFrame s₁ s₂)
    (h₂ : SetterFrame s₂ s₃) : SetterFrame s₁ s₃ where
  deviceActive := h₂.deviceActive.trans h₁.deviceActive
  pendingOffServices := h₂.pendingOffServices.trans h₁.pendingOffServices
  deviceTransitioning := h₂.deviceTransitioning.trans h₁.deviceTransitioning
  hubBroadcasting := h₂.hubBroadcasting.trans h₁.hubBroadcasting
  timeSliceLastDevice := h₂.timeSliceLastDevice.trans h₁.timeSliceLastDevice
  advertisingStarted := h₂.advertisingStarted.trans h₁.advertisingStarted
  advBuf := h₂.advBuf.trans h₁.advBuf
  log := h₂.log.trans h₁.log
  queued d hd := by
    rcases h₂.queued d hd with h | h
    · exact h₁.queued d h
    · exact Or.inr (h₁.deviceActive ▸ h)
  waiting d hd := h₂.waiting d (h₁.waiting d hd)

theorem mem_executeOnMainThread {callbacks : List Device} {d d' : Device} :
    d' ∈ executeOnMainThread callbacks d ↔ d' ∈ callbacks ∨ d' = d := by
  unfold executeOnMainThread
  by_cases hc : d ∈ callbacks
  · rw [if_pos hc]
    exact ⟨Or.inl, fun h => h.elim id fun h => h ▸ hc⟩
  · simp [hc]

theorem queueEventSend_frame {s : Broadcast} {d : Device} (now : Int)
    (hd : s.deviceActive d = true) : SetterFrame s (queueEventSend s d now) := by
  unfold queueEventSend
  split
  · refine ⟨rfl, rfl, rfl, rfl, rfl, rfl, rfl, rfl, ?_, ?_⟩
    · intro d' hd'
      rcases mem_executeOnMainThread.mp hd' with h | h
      · exact Or.inl h
      · exact Or.inr (h ▸ hd)
    · exact fun d' hd' => mem_executeOnMainThread.mpr (Or.inl hd')
  · exact SetterFrame.refl s

theorem queueEventSend_channelValue (s : Broadcast) (d : Device) (now : Int) :
    (queueEventSend s d now).channelValue = s.channelValue := by
  unfold queueEventSend
  split <;> rfl

theorem storeChannel_frame (s : Broadcast) (d : Device) (p : Port) (value : UInt8) :
    SetterFrame s (storeChannel s d p value) :=
  ⟨rfl, rfl, rfl, rfl, rfl, rfl, rfl, rfl, fun _ h => Or.inl h, fun _ h => h⟩

theorem mkhSetChannel_frame (s : Broadcast) (deviceId port : Int) (value : UInt8) (now : Int) :
    SetterFrame s (mkhSetChannel s deviceId port value now) := by
  unfold mkhSetChannel
  cases Device.ofId? deviceId with
  | none => exact SetterFrame.refl s
  | some d =>
    cases Port.ofIndex? port with
    | none => exact SetterFrame.refl s
    | some p =>
      have hstore := storeChannel_frame s d p value
      show SetterFrame s (if s.channelValue d p ≠ value ∧ (storeChannel s d p value).deviceActive d
        then queueEventSend (storeChannel s d p value) d now else storeChannel s d p value)
      split
      · rename_i hc
        exact hstore.trans (queueEventSend_frame now hc.2)
      · exact hstore

/-- An in-range call writes its channel and no other. -/
theorem mkhSetChannel_channelValue (s : Broadcast) (d : Device) (p : Port) (value : UInt8)
    (now : Int) :
    (mkhSetChannel s d.val p.val value now).channelValue =
      Function.update s.channelValue d (Function.update (s.channelValue d) p value) := by
  simp only [mkhSetChannel, Device.ofId?_coe, Port.ofIndex?_coe]
  split
  · exact queueEventSend_channelValue _ _ _
  · rfl

theorem mkhSetChannel_apply (s : Broadcast) (d d' : Device) (p p' : Port) (value : UInt8)
    (now : Int) :
    (mkhSetChannel s d.val p.val value now).channelValue d' p' =
      if d' = d ∧ p' = p then value else s.channelValue d' p' := by
  rw [mkhSetChannel_channelValue]
  by_cases hd : d' = d
  · subst hd
    by_cases hp : p' = p
    · simp [hp]
    · simp [hp]
  · simp [hd]

/-! ### All six channels to neutral -/

theorem setAllNeutral_frame (s : Broadcast) (d : Device) (now : Port → Int) :
    SetterFrame s (setAllNeutral s d now) := by
  unfold setAllNeutral
  generalize Port.all = ports
  induction ports generalizing s with
  | nil => exact SetterFrame.refl s
  | cons p rest ih => exact (mkhSetChannel_frame s d.val p.val neutral (now p)).trans (ih _)

/-- Neutralising a list of a device's channels leaves every other channel alone. -/
private theorem foldl_setNeutral_apply (d : Device) (now : Port → Int) (ports : List Port)
    (s : Broadcast) (d' : Device) (p' : Port) :
    (ports.foldl (fun s ch => mkhSetChannel s d.val ch.val neutral (now ch)) s).channelValue d' p'
      = if d' = d ∧ p' ∈ ports then neutral else s.channelValue d' p' := by
  induction ports generalizing s with
  | nil => simp
  | cons p rest ih =>
    rw [List.foldl_cons, ih, mkhSetChannel_apply]
    by_cases hd : d' = d <;> by_cases hp : p' = p <;> simp [hd, hp]

theorem setAllNeutral_apply (s : Broadcast) (d : Device) (now : Port → Int) (d' : Device)
    (p' : Port) :
    (setAllNeutral s d now).channelValue d' p' =
      if d' = d then neutral else s.channelValue d' p' := by
  rw [setAllNeutral, foldl_setNeutral_apply]
  simp

/-! ### The toggles -/

/-- A toggle-off either does nothing, or takes a device that is in rotation and not already on its
way out, neutralises its row and starts its countdown. -/
theorem mkhBroadcastToggleOff_cases (s : Broadcast) (deviceId : Int) (now : Port → Int) :
    mkhBroadcastToggleOff s deviceId now = s ∨
    ∃ d, Device.ofId? deviceId = some d ∧ s.deviceActive d = true ∧ s.pendingOffServices d = 0 ∧
      ∃ t, SetterFrame { s with
          deviceTransitioning := Function.update s.deviceTransitioning d true
          log := .offAccepted d :: s.log } t ∧
        (∀ d' p, t.channelValue d' p = if d' = d then neutral else s.channelValue d' p) ∧
        mkhBroadcastToggleOff s deviceId now = setPendingOffServices t d mkhOffGraceServices := by
  unfold mkhBroadcastToggleOff
  cases Device.ofId? deviceId with
  | none => exact Or.inl rfl
  | some d =>
    by_cases hc : (!s.deviceActive d || decide (s.pendingOffServices d > 0)) = true
    · exact Or.inl (if_pos hc)
    · have hon : s.deviceActive d = true ∧ s.pendingOffServices d = 0 := by simpa using hc
      exact Or.inr ⟨d, rfl, hon.1, hon.2, _, setAllNeutral_frame _ d now,
        fun d' p => setAllNeutral_apply _ d now d' p, if_neg hc⟩

/-- A toggle-on either does nothing, or stages CONNECT and puts a device that may join the rotation
back into it, at neutral and with no countdown. -/
theorem mkhBroadcastToggleOn_cases (s : Broadcast) (deviceId : Int) (now : Port → Int) :
    mkhBroadcastToggleOn s deviceId now = s ∨
    ∃ d, Device.ofId? deviceId = some d ∧ (d : Nat) < mkhTimeSliceNumDevices ∧
      ¬ (s.deviceActive d = true ∧ s.pendingOffServices d = 0) ∧
      ∃ t, SetterFrame (setPendingOffServices { s with
          deviceTransitioning := Function.update s.deviceTransitioning d true
          log := .onAccepted d :: s.log } d 0) t ∧
        (∀ d' p, t.channelValue d' p = if d' = d then neutral else s.channelValue d' p) ∧
        mkhBroadcastToggleOn s deviceId now =
          { stageConnect t with
            deviceActive := Function.update t.deviceActive d true
            hubBroadcasting := Function.update t.hubBroadcasting d true
            deviceTransitioning := Function.update t.deviceTransitioning d false } := by
  unfold mkhBroadcastToggleOn
  cases Device.ofId? deviceId with
  | none => exact Or.inl rfl
  | some d =>
    by_cases hparked : (d : Nat) ≥ mkhTimeSliceNumDevices
    · exact Or.inl (if_pos hparked)
    · by_cases hc : (s.deviceActive d && s.pendingOffServices d == 0) = true
      · exact Or.inl (by simp only [if_neg hparked, if_pos hc])
      · have hoff : ¬ (s.deviceActive d = true ∧ s.pendingOffServices d = 0) := by simpa using hc
        refine Or.inr ⟨d, rfl, Nat.lt_of_not_le hparked, hoff, _, setAllNeutral_frame _ d now,
          fun d' p => setAllNeutral_apply _ d now d' p, ?_⟩
        simp only [if_neg hparked, if_neg hc]
        rfl

/-! ### A tick -/

/-- The device the next tick serves. -/
def servedBy (s : Broadcast) : Option Device :=
  if s.advertisingStarted then mkhNextActiveDevice s.deviceActive s.timeSliceLastDevice else none

theorem mkhNextActiveDevice_active {deviceActive : Device → Bool} {after : Int} {d : Device}
    (h : mkhNextActiveDevice deviceActive after = some d) : deviceActive d = true := by
  obtain ⟨i, _, hi⟩ := List.exists_of_findSome?_eq_some h
  exact (Option.filter_eq_some_iff.mp hi).2

theorem servedBy_active {s : Broadcast} {d : Device} (h : servedBy s = some d) :
    s.deviceActive d = true := by
  unfold servedBy at h
  split at h
  · exact mkhNextActiveDevice_active h
  · cases h

theorem controlTimer_eq (s : Broadcast) :
    controlTimer s =
      match servedBy s with
      | none => s
      | some d => countOffService (serviceDevice s d) d := by
  unfold controlTimer mkhBroadcastControl servedBy
  split <;> rfl

theorem controlTimer_of_none {s : Broadcast} (h : servedBy s = none) : controlTimer s = s := by
  rw [controlTimer_eq, h]

theorem controlTimer_of_some {s : Broadcast} {d : Device} (h : servedBy s = some d) :
    controlTimer s = countOffService (serviceDevice s d) d := by
  rw [controlTimer_eq, h]

/-- A service that is not the last of a grace period only counts. -/
theorem countOffService_of_ne {s : Broadcast} {d : Device} (h : s.pendingOffServices d ≠ 1) :
    countOffService s d = setPendingOffServices s d (s.pendingOffServices d - 1) := by
  by_cases hzero : s.pendingOffServices d = 0
  · have hkeep : Function.update s.pendingOffServices d 0 = s.pendingOffServices := by
      rw [← hzero, Function.update_eq_self]
    simp [countOffService, setPendingOffServices, hzero, hkeep]
  · have hpos : s.pendingOffServices d > 0 := by omega
    have hmore : ¬ s.pendingOffServices d - 1 = 0 := by omega
    simp [countOffService, setPendingOffServices, hpos, hmore]

/-- The last service of a grace period drops the device. -/
theorem countOffService_last {s : Broadcast} {d : Device} (h : s.pendingOffServices d = 1) :
    countOffService s d = dropDevice (setPendingOffServices s d 0) d := by
  simp [countOffService, setPendingOffServices, h]

/-- The telegram a device's row makes. -/
def rowTelegram (s : Broadcast) (d : Device) : Telegram :=
  mkhSetChannels (mkhProtocolControlTelegramNeutral d) (s.channelValue d)

/-- **What a tick does.**  It serves a device that is in rotation; that service counts one, and drops
the device when it was the last of its grace period. -/
theorem controlTimer_cases (s : Broadcast) :
    (servedBy s = none ∧ controlTimer s = s) ∨
    ∃ d, servedBy s = some d ∧ s.deviceActive d = true ∧
      ((s.pendingOffServices d ≠ 1 ∧ controlTimer s =
        setPendingOffServices (serviceDevice s d) d (s.pendingOffServices d - 1)) ∨
      (s.pendingOffServices d = 1 ∧ controlTimer s =
        dropDevice (setPendingOffServices (serviceDevice s d) d 0) d)) := by
  rcases hserved : servedBy s with _ | d
  · exact Or.inl ⟨rfl, controlTimer_of_none hserved⟩
  · refine Or.inr ⟨d, rfl, servedBy_active hserved, ?_⟩
    rw [controlTimer_of_some hserved]
    by_cases hp : s.pendingOffServices d = 1
    · exact Or.inr ⟨hp, countOffService_last (s := serviceDevice s d) hp⟩
    · exact Or.inl ⟨hp, countOffService_of_ne (s := serviceDevice s d) hp⟩

/-! ### The packet handler and the run loop -/

/-- The packet handler starts the advertising once, with CONNECT. -/
theorem btstackEventState_cases (s : Broadcast) :
    (s.advertisingStarted = true ∧ btstackEventState s = s) ∨
    (s.advertisingStarted = false ∧
      btstackEventState s = stageConnect { s with advertisingStarted := true }) := by
  unfold btstackEventState
  cases hstarted : s.advertisingStarted with
  | true => exact Or.inl ⟨rfl, rfl⟩
  | false => exact Or.inr ⟨rfl, rfl⟩

theorem runLoopCallback_of_cons {s : Broadcast} {d : Device} {rest : List Device}
    (h : s.runLoopCallbacks = d :: rest) :
    runLoopCallback s = mkhEventSendCallback { s with runLoopCallbacks := rest } d := by
  unfold runLoopCallback
  rw [h]

/-- The run loop runs the callback that has waited longest, if one waits. -/
theorem runLoopCallback_cases (s : Broadcast) :
    (s.runLoopCallbacks = [] ∧ runLoopCallback s = s) ∨
    ∃ d rest, s.runLoopCallbacks = d :: rest ∧
      runLoopCallback s = mkhEventSendCallback { s with runLoopCallbacks := rest } d := by
  cases hcb : s.runLoopCallbacks with
  | nil =>
    refine Or.inl ⟨rfl, ?_⟩
    unfold runLoopCallback
    rw [hcb]
  | cons d rest => exact Or.inr ⟨d, rest, rfl, runLoopCallback_of_cons hcb⟩

/-! ### What is staged -/

/-- The device a tick serves was in rotation when its telegram was staged. -/
theorem serviceDevice_log {s : Broadcast} {d : Device} (h : s.deviceActive d = true) :
    (serviceDevice s d).log = .control d true (rowTelegram s d) :: s.log := by
  rw [← h]
  rfl

end MK1Tank
