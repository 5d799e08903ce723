/-
What is on the air, what the dashboard shows, and who is in rotation.

The setter looks at `mkh_device_active` when it queues an out-of-turn send; the send
itself happens later, on another task, and does not look again.  As long as no
device is dropped with its send still waiting, everything that waits is for a device
in rotation, and then nothing else is ever aired or shown.  A drop with a send
waiting breaks it: the send airs a device that is out, and lights its row for good.
-/
import MK1Tank.Proofs.Broadcast
import MK1Tank.Proofs.HubOff

namespace MK1Tank

/-- What is aired and what is shown agree with the rotation, so that a tap on a row does what the
row promises. -/
structure AirMatchesRotation (s : Broadcast) : Prop where
  aired : ∀ d active telegram, .control d active telegram ∈ s.log → active = true
  shown : ∀ d, s.hubBroadcasting d = true → s.deviceActive d = true
  tapOn : ∀ d millis last now, s.hubBroadcasting d = true → s.deviceTransitioning d = false →
    millis - last ≥ mkhToggleDebounceMs →
    (mkhRowTap s d millis last now).pendingOffServices d = mkhOffGraceServices
  tapOff : ∀ d millis last now, s.hubBroadcasting d = false → s.deviceTransitioning d = false →
    millis - last ≥ mkhToggleDebounceMs → (d : Nat) < mkhTimeSliceNumDevices →
    (mkhRowTap s d millis last now).deviceActive d = true ∧
      (mkhRowTap s d millis last now).pendingOffServices d = 0

/-- The condition: no tick drops a device whose out-of-turn send is still waiting. -/
def dropsNothingWaiting (s : Broadcast) : BroadcastStep → Prop
  | .controlTick => ∀ d, servedBy s = some d → s.pendingOffServices d = 1 →
      d ∉ s.runLoopCallbacks
  | _ => True

instance (s : Broadcast) : (i : BroadcastStep) → Decidable (dropsNothingWaiting s i)
  | .controlTick => inferInstanceAs (Decidable (∀ d, servedBy s = some d →
      s.pendingOffServices d = 1 → d ∉ s.runLoopCallbacks))
  | .stateWorking | .setChannel .. | .toggleOff .. | .toggleOn .. | .runCallback =>
      inferInstanceAs (Decidable True)

/-! ### The invariant -/

structure InRotation (s : Broadcast) : Prop where
  aired : ∀ d active telegram, .control d active telegram ∈ s.log → active = true
  shown : ∀ d, s.hubBroadcasting d = true → s.deviceActive d = true
  /-- Whatever waits to be sent is for a device in rotation. -/
  waiting : ∀ d ∈ s.runLoopCallbacks, s.deviceActive d = true
  /-- A device on its way out is locked against taps. -/
  leaving : ∀ d, 0 < s.pendingOffServices d → s.deviceTransitioning d = true

theorem inRotation_init : InRotation mkhBroadcastInit where
  aired _ _ _ h := absurd h List.not_mem_nil
  shown _ h := absurd h Bool.false_ne_true
  waiting _ h := absurd h List.not_mem_nil
  leaving _ h := absurd h (Nat.lt_irrefl 0)

theorem InRotation.of_frame {s s' : Broadcast} (h : InRotation s) (hframe : SetterFrame s s') :
    InRotation s' where
  aired d a t ht := h.aired d a t (hframe.log ▸ ht)
  shown d hd := by
    rw [hframe.deviceActive]
    exact h.shown d (hframe.hubBroadcasting ▸ hd)
  waiting d hd := by
    rw [hframe.deviceActive]
    rcases hframe.queued d hd with hwas | hactive
    · exact h.waiting d hwas
    · exact hactive
  leaving d hd := by
    rw [hframe.deviceTransitioning]
    exact h.leaving d (hframe.pendingOffServices ▸ hd)

theorem inRotation_stateWorking {s : Broadcast} (h : InRotation s) :
    InRotation (btstackEventState s) := by
  rcases btstackEventState_cases s with ⟨-, heq⟩ | ⟨-, heq⟩ <;> rw [heq]
  · exact h
  · refine ⟨fun d a t ht => ?_, h.shown, h.waiting, h.leaving⟩
    rcases List.mem_cons.mp ht with heq | hrest
    · cases heq
    · exact h.aired d a t hrest

theorem inRotation_toggleOff {s : Broadcast} (h : InRotation s) (deviceId : Int)
    (now : Port → Int) : InRotation (mkhBroadcastToggleOff s deviceId now) := by
  rcases mkhBroadcastToggleOff_cases s deviceId now with heq | ⟨d, -, -, -, t, ht, -, heq⟩
  · rw [heq]; exact h
  have htapped : InRotation { s with
      deviceTransitioning := Function.update s.deviceTransitioning d true
      log := .offAccepted d :: s.log } := by
    refine ⟨fun d' a t ht => ?_, h.shown, h.waiting, fun d' hd' => ?_⟩
    · rcases List.mem_cons.mp ht with heq | hrest
      · cases heq
      · exact h.aired d' a t hrest
    · by_cases hdev : d' = d
      · rw [hdev]; exact Function.update_self ..
      · show Function.update s.deviceTransitioning d true d' = true
        rw [Function.update_of_ne hdev]
        exact h.leaving d' hd'
  have hset := htapped.of_frame ht
  rw [heq]
  refine ⟨hset.aired, hset.shown, hset.waiting, fun d' hd' => ?_⟩
  by_cases hdev : d' = d
  · show t.deviceTransitioning d' = true
    rw [ht.deviceTransitioning, hdev]
    exact Function.update_self ..
  · refine hset.leaving d' ?_
    simpa [setPendingOffServices, hdev] using hd'

theorem inRotation_toggleOn {s : Broadcast} (h : InRotation s) (deviceId : Int)
    (now : Port → Int) : InRotation (mkhBroadcastToggleOn s deviceId now) := by
  rcases mkhBroadcastToggleOn_cases s deviceId now with heq | ⟨d, -, -, -, t, ht, -, heq⟩
  · rw [heq]; exact h
  have htapped : InRotation (setPendingOffServices { s with
      deviceTransitioning := Function.update s.deviceTransitioning d true
      log := .onAccepted d :: s.log } d 0) := by
    refine ⟨fun d' a t ht => ?_, h.shown, h.waiting, fun d' hd' => ?_⟩
    · rcases List.mem_cons.mp ht with heq | hrest
      · cases heq
      · exact h.aired d' a t hrest
    · show Function.update s.deviceTransitioning d true d' = true
      by_cases hdev : d' = d
      · rw [hdev]; exact Function.update_self ..
      · rw [Function.update_of_ne hdev]
        exact h.leaving d' (by simpa [setPendingOffServices, hdev] using hd')
  have hset := htapped.of_frame ht
  have hactive : ∀ d', t.deviceActive d' = true → Function.update t.deviceActive d true d' = true := by
    intro d' hd'
    by_cases hdev : d' = d
    · rw [hdev]; exact Function.update_self ..
    · rw [Function.update_of_ne hdev]; exact hd'
  rw [heq]
  refine ⟨fun d' a t ht => ?_, fun d' hd' => ?_, fun d' hd' => ?_, fun d' hd' => ?_⟩
  · rcases List.mem_cons.mp ht with heq | hrest
    · cases heq
    · exact hset.aired d' a t hrest
  · show Function.update t.deviceActive d true d' = true
    by_cases hdev : d' = d
    · rw [hdev]; exact Function.update_self ..
    · change Function.update t.hubBroadcasting d true d' = true at hd'
      rw [Function.update_of_ne hdev] at hd'
      exact hactive d' (hset.shown d' hd')
  · exact hactive d' (hset.waiting d' hd')
  · change 0 < t.pendingOffServices d' at hd'
    show Function.update t.deviceTransitioning d false d' = true
    by_cases hdev : d' = d
    · rw [hdev, ht.pendingOffServices] at hd'
      exact absurd hd' (by simp [setPendingOffServices])
    · rw [Function.update_of_ne hdev]
      exact hset.leaving d' hd'

/-- Airing a device that is in rotation keeps the invariant. -/
theorem InRotation.staged {s s' : Broadcast} {d : Device} (h : InRotation s) (telegram : Telegram)
    (hactive : s.deviceActive d = true)
    (hlog : s'.log = .control d true telegram :: s.log)
    (hhub : s'.hubBroadcasting = Function.update s.hubBroadcasting d true)
    (hact : s'.deviceActive = s.deviceActive)
    (hcb : ∀ d' ∈ s'.runLoopCallbacks, d' ∈ s.runLoopCallbacks)
    (htrans : s'.deviceTransitioning = s.deviceTransitioning)
    (hpending : ∀ d', 0 < s'.pendingOffServices d' → 0 < s.pendingOffServices d') :
    InRotation s' where
  aired d' a t ht := by
    rw [hlog] at ht
    rcases List.mem_cons.mp ht with heq | hrest
    · exact (Event.control.inj heq).2.1
    · exact h.aired d' a t hrest
  shown d' hd' := by
    rw [hhub] at hd'
    rw [hact]
    by_cases hdev : d' = d
    · rw [hdev]; exact hactive
    · rw [Function.update_of_ne hdev] at hd'
      exact h.shown d' hd'
  waiting d' hd' := by
    rw [hact]
    exact h.waiting d' (hcb d' hd')
  leaving d' hd' := by
    rw [htrans]
    exact h.leaving d' (hpending d' hd')

/-- Dropping a device with nothing waiting keeps the invariant. -/
theorem inRotation_dropDevice {s : Broadcast} {d : Device} (h : InRotation s)
    (hwaiting : d ∉ s.runLoopCallbacks) (hpending : s.pendingOffServices d = 0) :
    InRotation (dropDevice s d) := by
  refine ⟨fun d' a t ht => ?_, fun d' hd' => ?_, fun d' hd' => ?_, fun d' hd' => ?_⟩
  · rcases List.mem_cons.mp ht with heq | hrest
    · cases heq
    · exact h.aired d' a t hrest
  · change Function.update s.hubBroadcasting d false d' = true at hd'
    show Function.update s.deviceActive d false d' = true
    by_cases hdev : d' = d
    · rw [hdev, Function.update_self] at hd'
      exact absurd hd' Bool.false_ne_true
    · rw [Function.update_of_ne hdev] at hd' ⊢
      exact h.shown d' hd'
  · change d' ∈ s.runLoopCallbacks at hd'
    show Function.update s.deviceActive d false d' = true
    have hdev : d' ≠ d := fun hc => hwaiting (hc ▸ hd')
    rw [Function.update_of_ne hdev]
    exact h.waiting d' hd'
  · change 0 < s.pendingOffServices d' at hd'
    show Function.update s.deviceTransitioning d false d' = true
    have hdev : d' ≠ d := fun hc => by rw [hc, hpending] at hd'; exact absurd hd' (Nat.lt_irrefl 0)
    rw [Function.update_of_ne hdev]
    exact h.leaving d' hd'

theorem inRotation_controlTick {s : Broadcast} (h : InRotation s)
    (hok : dropsNothingWaiting s .controlTick) : InRotation (controlTimer s) := by
  rcases controlTimer_cases s with ⟨-, heq⟩ | ⟨d, hserved, hactive, hcase⟩
  · rw [heq]; exact h
  have hserviced : ∀ n, (0 < n → 0 < s.pendingOffServices d) →
      InRotation (setPendingOffServices (serviceDevice s d) d n) := by
    intro n hn
    refine h.staged _ hactive (serviceDevice_log hactive) rfl rfl (fun _ hd' => hd') rfl ?_
    intro d' hd'
    change 0 < Function.update s.pendingOffServices d n d' at hd'
    by_cases hdev : d' = d
    · rw [hdev, Function.update_self] at hd'
      exact hdev ▸ hn hd'
    · rwa [Function.update_of_ne hdev] at hd'
  rcases hcase with ⟨-, heq⟩ | ⟨hlast, heq⟩
  · rw [heq]
    exact hserviced _ (by omega)
  · rw [heq]
    exact inRotation_dropDevice (hserviced 0 (by omega)) (hok d hserved hlast)
      (Function.update_self ..)

theorem inRotation_runCallback {s : Broadcast} (h : InRotation s) :
    InRotation (runLoopCallback s) := by
  rcases runLoopCallback_cases s with ⟨-, heq⟩ | ⟨d, rest, hcb, heq⟩ <;> rw [heq]
  · exact h
  · have hactive : s.deviceActive d = true := h.waiting d (by rw [hcb]; exact List.mem_cons_self)
    refine h.staged (rowTelegram s d) hactive ?_ rfl rfl ?_ rfl (fun _ hd' => hd')
    · rw [← hactive]; rfl
    · exact fun d' hd' => by rw [hcb]; exact List.mem_cons_of_mem d hd'

/-- One step keeps the invariant when it meets the condition. -/
theorem inRotation_step (s : Broadcast) (i : BroadcastStep) (h : InRotation s)
    (hok : dropsNothingWaiting s i) : InRotation (s.step i) := by
  cases i with
  | stateWorking => exact inRotation_stateWorking h
  | setChannel deviceId port value now =>
    exact h.of_frame (mkhSetChannel_frame s deviceId port value now)
  | toggleOff deviceId now => exact inRotation_toggleOff h deviceId now
  | toggleOn deviceId now => exact inRotation_toggleOn h deviceId now
  | controlTick => exact inRotation_controlTick h hok
  | runCallback => exact inRotation_runCallback h

/-! ### Taps -/

/-- A toggle-off of a device in rotation that is not on its way out takes effect. -/
theorem mkhBroadcastToggleOff_accepts {s : Broadcast} {d : Device} (now : Port → Int)
    (hactive : s.deviceActive d = true) (hpending : s.pendingOffServices d = 0) :
    (mkhBroadcastToggleOff s d.val now).pendingOffServices d = mkhOffGraceServices := by
  simp [mkhBroadcastToggleOff, hactive, hpending, setPendingOffServices]

/-- After a toggle-on, a device that may join the rotation is in it, with no countdown. -/
theorem mkhBroadcastToggleOn_on (s : Broadcast) {d : Device} (now : Port → Int)
    (hd : (d : Nat) < mkhTimeSliceNumDevices) :
    (mkhBroadcastToggleOn s d.val now).deviceActive d = true ∧
      (mkhBroadcastToggleOn s d.val now).pendingOffServices d = 0 := by
  unfold mkhBroadcastToggleOn
  simp only [Device.ofId?_coe, if_neg (Nat.not_le.mpr hd)]
  by_cases hc : (s.deviceActive d && s.pendingOffServices d == 0) = true
  · rw [if_pos hc]
    simpa using hc
  · rw [if_neg hc]
    refine ⟨Function.update_self .., ?_⟩
    show (setAllNeutral _ d now).pendingOffServices d = 0
    rw [(setAllNeutral_frame _ d now).pendingOffServices]
    exact Function.update_self ..

theorem InRotation.airMatchesRotation {s : Broadcast} (h : InRotation s) :
    AirMatchesRotation s where
  aired := h.aired
  shown := h.shown
  tapOn d millis last now hhub htrans hdebounce := by
    have hpending : s.pendingOffServices d = 0 := by
      by_contra hne
      exact absurd (h.leaving d (Nat.pos_of_ne_zero hne)) (by simp [htrans])
    have htap : mkhRowTap s d millis last now = mkhBroadcastToggleOff s d.val now := by
      simp [mkhRowTap, mkhBroadcastIsTransitioning, htrans, hdebounce, hhub]
    rw [htap]
    exact mkhBroadcastToggleOff_accepts now (h.shown d hhub) hpending
  tapOff d millis last now hhub htrans hdebounce hd := by
    have htap : mkhRowTap s d millis last now = mkhBroadcastToggleOn s d.val now := by
      simp [mkhRowTap, mkhBroadcastIsTransitioning, htrans, hdebounce, hhub]
    rw [htap]
    exact mkhBroadcastToggleOn_on s now hd

/-! ### A drop with a send waiting -/

/-- Running enough callbacks runs the one that waits for a device out of rotation, and airs it. -/
theorem runCallbacks_air_inactive {d : Device} :
    ∀ (callbacks : List Device) (s : Broadcast), s.runLoopCallbacks = callbacks →
      d ∈ callbacks → s.deviceActive d = false →
      ∃ n, ¬ AirMatchesRotation
        (Runs.after Broadcast.step s (List.replicate n BroadcastStep.runCallback)) := by
  intro callbacks
  induction callbacks with
  | nil => exact fun _ _ hd _ => absurd hd List.not_mem_nil
  | cons first rest ih =>
    intro s hcb hd hinactive
    have hstep : s.step .runCallback =
        mkhEventSendCallback { s with runLoopCallbacks := rest } first := runLoopCallback_of_cons hcb
    rcases List.mem_cons.mp hd with hfirst | hrest
    · refine ⟨1, fun h => ?_⟩
      have haired := h.aired d false (rowTelegram s d) (by
        show _ ∈ (s.step .runCallback).log
        rw [hstep, ← hinactive, hfirst]
        exact List.mem_cons_self)
      exact absurd haired Bool.false_ne_true
    · obtain ⟨n, hn⟩ := ih (s.step .runCallback) (by rw [hstep]; rfl) hrest
        (by rw [hstep]; exact hinactive)
      exact ⟨n + 1, hn⟩

/-- **Only devices in rotation are aired and shown**, in every run that drops nothing with a send
waiting; and after any other drop the waiting callbacks air a device that is out of rotation. -/
theorem air_matches_rotation (steps : List BroadcastStep) :
    (Runs.Meets Broadcast.step dropsNothingWaiting mkhBroadcastInit steps →
      AirMatchesRotation (broadcastAfter steps)) ∧
    (∀ d, servedBy (broadcastAfter steps) = some d →
      (broadcastAfter steps).pendingOffServices d = 1 →
      d ∈ (broadcastAfter steps).runLoopCallbacks →
      ∃ n, ¬ AirMatchesRotation
        (broadcastAfter (steps ++ .controlTick :: List.replicate n .runCallback))) := by
  refine ⟨fun hok => ?_, fun d hserved hlast hwaiting => ?_⟩
  · exact (Runs.invariant_after inRotation_step steps _ inRotation_init hok).airMatchesRotation
  · have hdrop : (broadcastAfter steps).step .controlTick = dropDevice
        (setPendingOffServices (serviceDevice (broadcastAfter steps) d) d 0) d := by
      show controlTimer _ = _
      rw [controlTimer_of_some hserved, countOffService_last (s := serviceDevice _ d) hlast]
    obtain ⟨n, hn⟩ := runCallbacks_air_inactive (d := d) (broadcastAfter steps).runLoopCallbacks
      ((broadcastAfter steps).step .controlTick) (by rw [hdrop]; rfl) hwaiting
      (by rw [hdrop]; exact Function.update_self ..)
    refine ⟨n, ?_⟩
    rw [broadcastAfter, Runs.after_append, Runs.after_cons]
    exact hn

/-- Hub 1 is turned off; a sweep's send is queued just before its last service. -/
private def sendAtLastService : List BroadcastStep :=
  [.stateWorking, .toggleOff 0 fun _ => 0, .controlTick, .controlTick, .controlTick, .controlTick,
    .setChannel 0 0 0xFF 1000000]

/-- The same, with the send run before the last service. -/
private def sendBeforeLastService : List BroadcastStep :=
  sendAtLastService ++ [.runCallback, .controlTick]

theorem air_matches_rotation_send :
    AirMatchesRotation (broadcastAfter sendBeforeLastService) ∧
      (broadcastAfter sendBeforeLastService).deviceActive 0 = false ∧
      ∃ n, ¬ AirMatchesRotation
        (broadcastAfter (sendAtLastService ++ .controlTick :: List.replicate n .runCallback)) :=
  ⟨(air_matches_rotation sendBeforeLastService).1 (by decide +kernel), by decide +kernel,
    (air_matches_rotation sendAtLastService).2 0 (by decide +kernel) (by decide +kernel)
      (by decide +kernel)⟩

/-- The waiting send runs after the drop: the hub that is out is aired at full power, and its row
stays lit, so that a tap on it asks for a toggle-off that does nothing. -/
theorem dropped_hub_aired : ¬ ∀ steps, AirMatchesRotation (broadcastAfter steps) := by
  intro hall
  have hshown := (hall (sendAtLastService ++ [.controlTick, .runCallback])).shown 0
    (by decide +kernel)
  exact absurd hshown (by decide +kernel)

end MK1Tank
