/-
The third hub is parked.

Its slot is in the tables, and the setter writes its row like any other.  A telegram
is staged for a device by the timer, by a send that waits, or not at all: the timer
serves only devices in rotation, a send is queued only for one, and a toggle-on does
not let the third hub in.  So nothing ever reaches it.
-/
import MK1Tank.Proofs.ConnectPhase

namespace MK1Tank

/-- What says that a hub is parked, and that no telegram for it has been staged. -/
structure Parked (d : Device) (s : Broadcast) : Prop where
  /-- It is out of rotation, with no countdown. -/
  phase : InPhase s d .off
  notShown : s.hubBroadcasting d = false
  /-- No send waits for it. -/
  notWaiting : d ∉ s.runLoopCallbacks
  notStaged : ∀ active telegram, .control d active telegram ∉ s.log
  notOnAir : ∀ row, s.advBuf ≠ controlAdv d row

theorem parked_init {d : Device} (hparked : mkhTimeSliceNumDevices ≤ (d : Nat)) :
    Parked d mkhBroadcastInit where
  phase := by
    have hstart : HubPhase.start d = .off := if_neg (Nat.not_lt.mpr hparked)
    exact hstart ▸ inPhase_init d
  notShown := rfl
  notWaiting := List.not_mem_nil
  notStaged _ _ := List.not_mem_nil
  notOnAir row h := absurd (congrArg List.length h) (by simp [mkhBroadcastInit, controlAdv,
    mkhSetAdvPayload_length])

/-! ### What one step can do for a device -/

/-- What is read back from a row's advertising data. -/
theorem dewhiten_controlAdv (d : Device) (row : Port → UInt8) :
    dewhiten ((controlAdv d row).drop 7) = baseWithRow d row :=
  heard_of_advBuf (s := { mkhBroadcastInit with advBuf := controlAdv d row }) rfl

/-- The advertising data of a row tells the device. -/
theorem controlAdv_device {d d' : Device} {row row' : Port → UInt8}
    (h : controlAdv d row = controlAdv d' row') : d = d' := by
  have hread : baseWithRow d row = baseWithRow d' row' := by
    rw [← dewhiten_controlAdv d row, h, dewhiten_controlAdv]
  have hhead : ∀ (d : Device) (row : Port → UInt8),
      (baseWithRow d row).head? = (kTelegramBase d).head? := by
    intro d row
    fin_cases d <;> rfl
  have haddress : ∀ d d' : Device, (kTelegramBase d).head? = (kTelegramBase d').head? → d = d' := by
    decide
  refine haddress d d' ?_
  rw [← hhead d row, hread, hhead]

/-- A send that waits after a step waited before it, or is for a device in rotation. -/
theorem step_waiting {s : Broadcast} {d : Device} {i : BroadcastStep}
    (h : d ∈ (s.step i).runLoopCallbacks) : d ∈ s.runLoopCallbacks ∨ s.deviceActive d = true := by
  cases i with
  | stateWorking =>
    left
    change d ∈ (btstackEventState s).runLoopCallbacks at h
    rcases btstackEventState_cases s with ⟨-, heq⟩ | ⟨-, heq⟩ <;> rw [heq] at h
    · exact h
    · exact h
  | setChannel deviceId port value now =>
    exact (mkhSetChannel_frame s deviceId port value now).queued d h
  | toggleOff deviceId now =>
    change d ∈ (mkhBroadcastToggleOff s deviceId now).runLoopCallbacks at h
    rcases mkhBroadcastToggleOff_cases s deviceId now with heq | ⟨_, -, -, -, t, ht, -, heq⟩
    · exact Or.inl (heq ▸ h)
    · rw [heq] at h
      exact ht.queued d h
  | toggleOn deviceId now =>
    change d ∈ (mkhBroadcastToggleOn s deviceId now).runLoopCallbacks at h
    rcases mkhBroadcastToggleOn_cases s deviceId now with heq | ⟨_, -, -, -, t, ht, -, heq⟩
    · exact Or.inl (heq ▸ h)
    · rw [heq] at h
      exact ht.queued d h
  | controlTick =>
    left
    change d ∈ (controlTimer s).runLoopCallbacks at h
    rcases controlTimer_cases s with ⟨-, heq⟩ | ⟨_, -, -, ⟨-, heq⟩ | ⟨-, heq⟩⟩
    · exact heq ▸ h
    · rw [heq] at h
      exact h
    · rw [heq] at h
      exact h
  | runCallback =>
    left
    change d ∈ (runLoopCallback s).runLoopCallbacks at h
    rcases runLoopCallback_cases s with ⟨-, heq⟩ | ⟨d', rest, hcb, heq⟩ <;> rw [heq] at h
    · exact h
    · rw [hcb]
      exact List.mem_cons_of_mem d' h

/-- A row that shows green after a step did so before it, or the step airs the device or turns it
on. -/
theorem step_shown {s : Broadcast} {d : Device} {i : BroadcastStep}
    (h : (s.step i).hubBroadcasting d = true) :
    s.hubBroadcasting d = true ∨ airs s i = some d ∨ (d : Nat) < mkhTimeSliceNumDevices := by
  have hset : ∀ {shown : Device → Bool} {d' : Device},
      Function.update shown d' true d = true → shown d = true ∨ d' = d := by
    intro shown d' hd
    by_cases hdev : d = d'
    · exact Or.inr hdev.symm
    · exact Or.inl (by rwa [Function.update_of_ne hdev] at hd)
  cases i with
  | stateWorking =>
    left
    change (btstackEventState s).hubBroadcasting d = true at h
    rcases btstackEventState_cases s with ⟨-, heq⟩ | ⟨-, heq⟩ <;> rw [heq] at h
    · exact h
    · exact h
  | setChannel deviceId port value now =>
    left
    rwa [Broadcast.step, (mkhSetChannel_frame s deviceId port value now).hubBroadcasting] at h
  | toggleOff deviceId now =>
    left
    change (mkhBroadcastToggleOff s deviceId now).hubBroadcasting d = true at h
    rcases mkhBroadcastToggleOff_cases s deviceId now with heq | ⟨_, -, -, -, t, ht, -, heq⟩
    · rwa [heq] at h
    · rw [heq] at h
      exact (congrFun ht.hubBroadcasting d).symm.trans h
  | toggleOn deviceId now =>
    change (mkhBroadcastToggleOn s deviceId now).hubBroadcasting d = true at h
    rcases mkhBroadcastToggleOn_cases s deviceId now with heq | ⟨d', -, hlt, -, t, ht, -, heq⟩
    · exact Or.inl (by rwa [heq] at h)
    · rw [heq] at h
      rcases hset h with hwas | hdev
      · exact Or.inl ((congrFun ht.hubBroadcasting d).symm.trans hwas)
      · exact Or.inr (Or.inr (hdev ▸ hlt))
  | controlTick =>
    change (controlTimer s).hubBroadcasting d = true at h
    rcases controlTimer_cases s with ⟨-, heq⟩ | ⟨d', hserved, -, ⟨-, heq⟩ | ⟨-, heq⟩⟩
    · exact Or.inl (heq ▸ h)
    · rw [heq] at h
      rcases hset h with hwas | hdev
      · exact Or.inl hwas
      · exact Or.inr (Or.inl (hdev ▸ hserved))
    · rw [heq] at h
      change Function.update (Function.update s.hubBroadcasting d' true) d' false d = true at h
      by_cases hdev : d = d'
      · rw [hdev, Function.update_self] at h
        exact absurd h Bool.false_ne_true
      · rw [Function.update_of_ne hdev, Function.update_of_ne hdev] at h
        exact Or.inl h
  | runCallback =>
    change (runLoopCallback s).hubBroadcasting d = true at h
    rcases runLoopCallback_cases s with ⟨-, heq⟩ | ⟨d', rest, hcb, heq⟩ <;> rw [heq] at h
    · exact Or.inl h
    · rcases hset h with hwas | hdev
      · exact Or.inl hwas
      · exact Or.inr (Or.inl (by rw [airs, hcb, ← hdev]; rfl))

/-! ### The parked hub -/

/-- **No step airs a parked hub.** -/
theorem Parked.not_aired {d : Device} {s : Broadcast} (h : Parked d s) (i : BroadcastStep) :
    airs s i ≠ some d := by
  intro hair
  cases i with
  | controlTick =>
    have hactive := servedBy_active hair
    rw [h.phase.active] at hactive
    exact absurd hactive Bool.false_ne_true
  | runCallback => exact h.notWaiting (List.mem_of_head? hair)
  | stateWorking => cases hair
  | setChannel => cases hair
  | toggleOff => cases hair
  | toggleOn => cases hair

theorem parked_step {d : Device} (hparked : mkhTimeSliceNumDevices ≤ (d : Nat)) (s : Broadcast)
    (i : BroadcastStep) (h : Parked d s) : Parked d (s.step i) where
  phase := by
    have hnot := hubEvent_ne_turnOn_of_parked (Nat.not_lt.mpr hparked) s i
    have hoff : ∀ e, e ≠ HubEvent.turnOn → HubPhase.off.step e = .off := by
      intro e he
      cases e with
      | turnOn => exact absurd rfl he
      | turnOff => rfl
      | service => rfl
      | other => rfl
    exact hoff _ hnot ▸ inPhase_step i h.phase
  notShown := by
    by_contra hshown
    rcases step_shown (Bool.eq_true_of_not_eq_false hshown) with hwas | hair | hlt
    · exact absurd (h.notShown.symm.trans hwas) Bool.false_ne_true
    · exact h.not_aired i hair
    · exact absurd hlt (Nat.not_lt.mpr hparked)
  notWaiting hwaits := by
    rcases step_waiting hwaits with hwas | hactive
    · exact h.notWaiting hwas
    · exact absurd (h.phase.active.symm.trans hactive) Bool.false_ne_true
  notStaged active telegram hmem := by
    obtain ⟨new, hlog, hnew⟩ := stagesRow s i
    rw [hlog] at hmem
    rcases List.mem_append.mp hmem with hin | hwas
    · exact h.not_aired i (hnew d active telegram hin).1
    · exact h.notStaged active telegram hwas
  notOnAir row hair := by
    rcases step_air s i with ⟨d', hairs, -, hadv, -⟩ | ⟨-, -, hadv, -⟩ | ⟨-, -, hadv, -⟩
    · have hdev : d' = d := controlAdv_device (hadv.symm.trans hair)
      exact h.not_aired i (hdev ▸ hairs)
    · exact controlAdv_ne_connectAdv d row (hair.symm.trans hadv)
    · exact h.notOnAir row (hadv.symm.trans hair)

/-- **The parked hub stays parked**, whatever its channels are set to. -/
theorem parked_hub_stays_parked (d : Device) (hparked : mkhTimeSliceNumDevices ≤ (d : Nat))
    (steps : List BroadcastStep) :
    (∀ active telegram, .control d active telegram ∉ (broadcastAfter steps).log) ∧
    (∀ row, (broadcastAfter steps).advBuf ≠ controlAdv d row) ∧
    (broadcastAfter steps).deviceActive d = false ∧
    (broadcastAfter steps).hubBroadcasting d = false ∧
    (broadcastAfter steps).deviceTransitioning d = false ∧
    (∀ (p : Port) value now,
      (broadcastAfter (steps ++ [.setChannel d.val p.val value now])).channelValue d p = value) := by
  have h : Parked d (broadcastAfter steps) :=
    Runs.invariant_always (parked_step hparked) steps (parked_init hparked)
  refine ⟨h.notStaged, h.notOnAir, h.phase.active, h.notShown, h.phase.transitioning, ?_⟩
  intro p value now
  rw [broadcastAfter, Runs.after_append]
  exact (mkhSetChannel_apply _ d d p p value now).trans (if_pos ⟨rfl, rfl⟩)

/-- The third hub's channel is driven, its toggle is asked for, and both tasks go on. -/
theorem parked_hub_stays_parked_driven :
    (broadcastAfter [.stateWorking, .setChannel 2 0 0xFF 25000, .toggleOn 2 fun _ => 0, .controlTick,
      .runCallback, .controlTick]).deviceActive 2 = false :=
  (parked_hub_stays_parked 2 (by decide) _).2.2.1

end MK1Tank
