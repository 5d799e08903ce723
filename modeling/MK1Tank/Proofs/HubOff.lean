/-
Turning a hub off.

An OFF neutralises the six channels of the hub at once, and takes the hub out of
rotation only after three more of its telegrams: the point of the order is that the
last thing a dropped hub heard is to stop.  The input sweep keeps writing the same
row while those three telegrams go out, so the order holds of a run exactly as long
as every one of them finds the row at rest.
-/
import MK1Tank.Proofs.Broadcast
import MK1Tank.Lib.Run

namespace MK1Tank

/-! ### What the log must show at a drop -/

/-- A CONTROL telegram for the device, all six channels at rest. -/
def isNeutralControl (d : Device) : Event → Bool
  | .control d' _ telegram => d' = d && telegram = mkhProtocolControlTelegramNeutral d
  | _ => false

/-- The last CONTROL telegram staged for the device. -/
def lastControl (d : Device) (log : List Event) : Option Telegram :=
  log.findSome? fun
    | .control d' _ telegram => if d' = d then some telegram else none
    | _ => none

/-- Since the device's OFF was accepted, at least `n` neutral telegrams were staged for it. -/
def SinceOff (d : Device) (log : List Event) (n : Nat) : Prop :=
  ∃ window older, log = window ++ .offAccepted d :: older ∧
    .offAccepted d ∉ window ∧ .onAccepted d ∉ window ∧ n ≤ window.countP (isNeutralControl d)

/-- The device was told to stop often enough, and was told nothing else after it. -/
def NeutralBeforeDrop (d : Device) (before : List Event) : Prop :=
  SinceOff d before mkhOffGraceServices ∧
    lastControl d before = some (mkhProtocolControlTelegramNeutral d)

/-- Every drop the log records comes after the neutral telegrams it waits for. -/
def DropsOrdered (log : List Event) : Prop :=
  ∀ d before, (.dropped d :: before) <:+ log → NeutralBeforeDrop d before

/-! ### How the window grows -/

theorem SinceOff.start (d : Device) (log : List Event) : SinceOff d (.offAccepted d :: log) 0 :=
  ⟨[], log, rfl, by simp, by simp, by simp⟩

theorem SinceOff.mono {d : Device} {log : List Event} {m n : Nat} (h : SinceOff d log n)
    (hmn : m ≤ n) : SinceOff d log m := by
  obtain ⟨window, older, heq, hoff, hon, hn⟩ := h
  exact ⟨window, older, heq, hoff, hon, Nat.le_trans hmn hn⟩

theorem SinceOff.cons {d : Device} {log : List Event} {n : Nat} {e : Event}
    (h : SinceOff d log n) (hoff : e ≠ .offAccepted d) (hon : e ≠ .onAccepted d) :
    SinceOff d (e :: log) n := by
  obtain ⟨window, older, heq, hnoff, hnon, hn⟩ := h
  refine ⟨e :: window, older, by rw [heq]; rfl, ?_, ?_, ?_⟩
  · simpa using ⟨hoff.symm, hnoff⟩
  · simpa using ⟨hon.symm, hnon⟩
  · exact Nat.le_trans hn (List.countP_cons .. ▸ Nat.le_add_right ..)

theorem SinceOff.neutral {d : Device} {log : List Event} {n : Nat} (active : Bool)
    (h : SinceOff d log n) :
    SinceOff d (.control d active (mkhProtocolControlTelegramNeutral d) :: log) (n + 1) := by
  obtain ⟨window, older, heq, hnoff, hnon, hn⟩ := h
  refine ⟨_ :: window, older, by rw [heq]; rfl, by simpa using hnoff, by simpa using hnon, ?_⟩
  simpa [isNeutralControl] using hn

theorem dropsOrdered_cons {log : List Event} {e : Event} (h : DropsOrdered log)
    (he : ∀ d, e ≠ .dropped d) : DropsOrdered (e :: log) := by
  intro d before hsuffix
  rcases List.suffix_cons_iff.mp hsuffix with heq | hrest
  · exact absurd (List.cons.inj heq).1.symm (he d)
  · exact h d before hrest

theorem dropsOrdered_cons_dropped {log : List Event} {d : Device} (h : DropsOrdered log)
    (hd : NeutralBeforeDrop d log) : DropsOrdered (.dropped d :: log) := by
  intro d' before hsuffix
  rcases List.suffix_cons_iff.mp hsuffix with heq | hrest
  · obtain ⟨hdev, hlog⟩ := List.cons.inj heq
    cases hdev
    rw [hlog]
    exact hd
  · exact h d' before hrest

/-! ### The invariant

While a device waits for its last `k` services, three less `k` neutral telegrams have
gone out since its OFF.
-/

structure GraceKept (s : Broadcast) : Prop where
  since : ∀ d, 0 < s.pendingOffServices d →
    SinceOff d s.log (mkhOffGraceServices - s.pendingOffServices d)
  drops : DropsOrdered s.log

/-- The condition: a tick that serves a device in its grace period finds its row at rest. -/
def graceServesNeutral (s : Broadcast) : BroadcastStep → Prop
  | .controlTick => ∀ d, servedBy s = some d → 0 < s.pendingOffServices d →
      ∀ p, s.channelValue d p = neutral
  | _ => True

instance (s : Broadcast) (i : BroadcastStep) : Decidable (graceServesNeutral s i) := by
  unfold graceServesNeutral
  cases i <;> infer_instance

theorem graceKept_init : GraceKept mkhBroadcastInit where
  since _ hd := absurd hd (Nat.lt_irrefl 0)
  drops _ _ hsuffix := absurd (List.eq_nil_of_suffix_nil hsuffix) (List.cons_ne_nil _ _)

/-- An event that neither opens, closes nor ends a grace period keeps the invariant. -/
theorem GraceKept.push {s s' : Broadcast} (h : GraceKept s) {e : Event}
    (hoff : ∀ d, e ≠ .offAccepted d) (hon : ∀ d, e ≠ .onAccepted d) (hdrop : ∀ d, e ≠ .dropped d)
    (hlog : s'.log = e :: s.log) (hpending : s'.pendingOffServices = s.pendingOffServices) :
    GraceKept s' where
  since d hd := by
    rw [hlog, hpending]
    exact (h.since d (hpending ▸ hd)).cons (hoff d) (hon d)
  drops := hlog ▸ dropsOrdered_cons h.drops hdrop

theorem GraceKept.of_frame {s s' : Broadcast} (h : GraceKept s) (hframe : SetterFrame s s') :
    GraceKept s' where
  since d hd := by
    rw [hframe.log, hframe.pendingOffServices]
    exact h.since d (hframe.pendingOffServices ▸ hd)
  drops := hframe.log ▸ h.drops

theorem graceKept_stateWorking {s : Broadcast} (h : GraceKept s) :
    GraceKept (btstackEventState s) := by
  rcases btstackEventState_cases s with ⟨-, heq⟩ | ⟨-, heq⟩ <;> rw [heq]
  · exact h
  · exact h.push (e := .connect) (by simp) (by simp) (by simp) rfl rfl

theorem graceKept_toggleOff {s : Broadcast} (h : GraceKept s) (deviceId : Int)
    (now : Port → Int) : GraceKept (mkhBroadcastToggleOff s deviceId now) := by
  rcases mkhBroadcastToggleOff_cases s deviceId now with heq | ⟨d, -, -, -, t, ht, -, heq⟩
  · rw [heq]; exact h
  rw [heq]
  have hlog : t.log = .offAccepted d :: s.log := ht.log
  have hpending : t.pendingOffServices = s.pendingOffServices := ht.pendingOffServices
  refine ⟨fun d' hd' => ?_, ?_⟩
  · show SinceOff d' t.log
      (mkhOffGraceServices - Function.update t.pendingOffServices d mkhOffGraceServices d')
    rw [hlog, hpending]
    by_cases hdev : d' = d
    · rw [hdev, Function.update_self, Nat.sub_self]
      exact SinceOff.start d s.log
    · rw [Function.update_of_ne hdev]
      have hd : 0 < s.pendingOffServices d' := by
        simpa [setPendingOffServices, hpending, hdev] using hd'
      exact (h.since d' hd).cons (by simpa using Ne.symm hdev) (by simp)
  · show DropsOrdered t.log
    rw [hlog]
    exact dropsOrdered_cons h.drops (by simp)

theorem graceKept_toggleOn {s : Broadcast} (h : GraceKept s) (deviceId : Int)
    (now : Port → Int) : GraceKept (mkhBroadcastToggleOn s deviceId now) := by
  rcases mkhBroadcastToggleOn_cases s deviceId now with heq | ⟨d, -, -, -, t, ht, -, heq⟩
  · rw [heq]; exact h
  rw [heq]
  have hlog : t.log = .onAccepted d :: s.log := ht.log
  have hpending : t.pendingOffServices = Function.update s.pendingOffServices d 0 :=
    ht.pendingOffServices
  refine ⟨fun d' hd' => ?_, ?_⟩
  · show SinceOff d' (.connect :: t.log) (mkhOffGraceServices - t.pendingOffServices d')
    change 0 < t.pendingOffServices d' at hd'
    rw [hpending] at hd' ⊢
    by_cases hdev : d' = d
    · rw [hdev, Function.update_self] at hd'
      exact absurd hd' (Nat.lt_irrefl 0)
    · rw [Function.update_of_ne hdev] at hd' ⊢
      rw [hlog]
      exact ((h.since d' hd').cons (by simp) (by simpa using Ne.symm hdev)).cons (by simp) (by simp)
  · show DropsOrdered (.connect :: t.log)
    rw [hlog]
    exact dropsOrdered_cons (dropsOrdered_cons h.drops (by simp)) (by simp)

/-- A row at rest makes the neutral telegram. -/
theorem rowTelegram_neutral {s : Broadcast} {d : Device} (h : ∀ p, s.channelValue d p = neutral) :
    rowTelegram s d = mkhProtocolControlTelegramNeutral d :=
  (mkhSetChannels_eq_neutral_iff d _).mpr h

theorem graceKept_controlTick {s : Broadcast} (h : GraceKept s)
    (hok : graceServesNeutral s .controlTick) : GraceKept (controlTimer s) := by
  rcases controlTimer_cases s with ⟨-, heq⟩ | ⟨d, hserved, hactive, hcase⟩
  · rw [heq]; exact h
  have hlog := serviceDevice_log hactive
  have hdrops : DropsOrdered (serviceDevice s d).log :=
    hlog ▸ dropsOrdered_cons h.drops (by simp)
  -- Its own telegram counts for the served device, and for no other.
  have hother : ∀ d', d' ≠ d → 0 < s.pendingOffServices d' → SinceOff d' (serviceDevice s d).log
      (mkhOffGraceServices - s.pendingOffServices d') := by
    intro d' _ hpos
    exact hlog ▸ (h.since d' hpos).cons (by simp) (by simp)
  have hown : 0 < s.pendingOffServices d → SinceOff d (serviceDevice s d).log
      (mkhOffGraceServices - s.pendingOffServices d + 1) := by
    intro hpos
    rw [hlog, rowTelegram_neutral (hok d hserved hpos)]
    exact (h.since d hpos).neutral true
  rcases hcase with ⟨hmore, heq⟩ | ⟨hlast, heq⟩
  · rw [heq]
    refine ⟨fun d' hd' => ?_, hdrops⟩
    show SinceOff d' (serviceDevice s d).log (mkhOffGraceServices -
      Function.update s.pendingOffServices d (s.pendingOffServices d - 1) d')
    change 0 < Function.update s.pendingOffServices d (s.pendingOffServices d - 1) d' at hd'
    by_cases hdev : d' = d
    · subst hdev
      rw [Function.update_self] at hd' ⊢
      exact (hown (by omega)).mono (by omega)
    · rw [Function.update_of_ne hdev] at hd' ⊢
      exact hother d' hdev hd'
  · rw [heq]
    refine ⟨fun d' hd' => ?_, dropsOrdered_cons_dropped hdrops ⟨?_, ?_⟩⟩
    · show SinceOff d' (.dropped d :: (serviceDevice s d).log) (mkhOffGraceServices -
        Function.update s.pendingOffServices d 0 d')
      change 0 < Function.update s.pendingOffServices d 0 d' at hd'
      by_cases hdev : d' = d
      · rw [hdev, Function.update_self] at hd'
        exact absurd hd' (Nat.lt_irrefl 0)
      · rw [Function.update_of_ne hdev] at hd' ⊢
        exact (hother d' hdev hd').cons (by simp) (by simp)
    · have hthree : mkhOffGraceServices - s.pendingOffServices d + 1 = mkhOffGraceServices := by
        rw [hlast]
        rfl
      exact hthree ▸ hown (by omega)
    · show lastControl d (serviceDevice s d).log = _
      rw [hlog, rowTelegram_neutral (hok d hserved (by omega))]
      simp [lastControl]

theorem graceKept_runCallback {s : Broadcast} (h : GraceKept s) :
    GraceKept (runLoopCallback s) := by
  rcases runLoopCallback_cases s with ⟨-, heq⟩ | ⟨_, _, -, heq⟩ <;> rw [heq]
  · exact h
  · exact h.push (e := .control _ _ _) (by simp) (by simp) (by simp) rfl rfl

/-- One step keeps the invariant when it meets the condition. -/
theorem graceKept_step (s : Broadcast) (i : BroadcastStep) (h : GraceKept s)
    (hok : graceServesNeutral s i) : GraceKept (s.step i) := by
  cases i with
  | stateWorking => exact graceKept_stateWorking h
  | setChannel deviceId port value now =>
    exact h.of_frame (mkhSetChannel_frame s deviceId port value now)
  | toggleOff deviceId now => exact graceKept_toggleOff h deviceId now
  | toggleOn deviceId now => exact graceKept_toggleOn h deviceId now
  | controlTick => exact graceKept_controlTick h hok
  | runCallback => exact graceKept_runCallback h

/-! ### Hub OFF over whole runs -/

/-- The broadcaster after a run from boot. -/
def broadcastAfter (steps : List BroadcastStep) : Broadcast :=
  Runs.after Broadcast.step mkhBroadcastInit steps

/-- A last service that finds its row in motion drops a hub that was last told to move. -/
theorem not_dropsOrdered_of_moving (steps : List BroadcastStep) (d : Device) (p : Port)
    (hserved : servedBy (broadcastAfter steps) = some d)
    (hlast : (broadcastAfter steps).pendingOffServices d = 1)
    (hp : (broadcastAfter steps).channelValue d p ≠ neutral) :
    ¬ DropsOrdered (broadcastAfter (steps ++ [.controlTick])).log := by
  intro hordered
  have hlog : (broadcastAfter (steps ++ [.controlTick])).log =
      .dropped d :: .control d true (rowTelegram (broadcastAfter steps) d)
        :: (broadcastAfter steps).log := by
    rw [broadcastAfter, Runs.after_append]
    show (controlTimer (broadcastAfter steps)).log = _
    rw [controlTimer_of_some hserved, countOffService_last (s := serviceDevice _ d) hlast,
      ← serviceDevice_log (servedBy_active hserved)]
    rfl
  rw [hlog] at hordered
  have hcontrol := (hordered d _ List.suffix_rfl).2
  have hrow : rowTelegram (broadcastAfter steps) d = mkhProtocolControlTelegramNeutral d := by
    simpa [lastControl] using hcontrol
  exact hp ((mkhSetChannels_eq_neutral_iff d _).mp hrow p)

/-- **A hub is dropped only after it was told to stop**, in every run whose grace-period services find
the row at rest; and a last service that does not find it so drops the hub while it moves. -/
theorem drop_follows_neutral (steps : List BroadcastStep) :
    (Runs.Meets Broadcast.step graceServesNeutral mkhBroadcastInit steps →
      DropsOrdered (broadcastAfter steps).log) ∧
    (∀ d p, servedBy (broadcastAfter steps) = some d →
      (broadcastAfter steps).pendingOffServices d = 1 →
      (broadcastAfter steps).channelValue d p ≠ neutral →
      ¬ DropsOrdered (broadcastAfter (steps ++ [.controlTick])).log) :=
  ⟨fun hok => (Runs.invariant_after graceKept_step steps _ graceKept_init hok).drops,
    not_dropsOrdered_of_moving steps⟩

/-- Hub 1 is turned off, and both hubs are served in turn until it drops. -/
private def quietOff : List BroadcastStep :=
  [.stateWorking, .toggleOff 0 fun _ => 0, .controlTick, .controlTick, .controlTick, .controlTick,
    .controlTick]

/-- The same up to the last service, with the sweep writing port A right after the tap. -/
private def sweptOff : List BroadcastStep :=
  [.stateWorking, .toggleOff 0 fun _ => 0, .setChannel 0 0 0xFF 0, .controlTick, .controlTick,
    .controlTick, .controlTick]

theorem drop_follows_neutral_quiet :
    DropsOrdered (broadcastAfter quietOff).log ∧
      .dropped 0 ∈ (broadcastAfter quietOff).log ∧
      ¬ DropsOrdered (broadcastAfter (sweptOff ++ [.controlTick])).log :=
  ⟨(drop_follows_neutral quietOff).1 (by decide +kernel), by decide +kernel,
    (drop_follows_neutral sweptOff).2 0 0 (by decide +kernel) (by decide +kernel)
      (by decide +kernel)⟩

/-- The sweep writes full power during the grace period, and the hub is dropped on that order. -/
theorem drop_on_motion : ¬ ∀ steps, DropsOrdered (broadcastAfter steps).log :=
  fun hall => not_dropsOrdered_of_moving sweptOff 0 0 (by decide +kernel) (by decide +kernel)
    (by decide +kernel) (hall _)

/-! ### When the condition is met

It is enough that nothing but neutral is written to a hub in its grace period.
-/

/-- The condition on the setter alone. -/
def leavesGraceNeutral (s : Broadcast) : BroadcastStep → Prop
  | .setChannel deviceId _ value _ => ∀ d, Device.ofId? deviceId = some d →
      0 < s.pendingOffServices d → value = neutral
  | _ => True

/-- The rows of the hubs in their grace period are at rest. -/
def GraceRowsNeutral (s : Broadcast) : Prop :=
  ∀ d, 0 < s.pendingOffServices d → ∀ p, s.channelValue d p = neutral

/-- Clearing one device's row keeps the others as they were. -/
theorem GraceRowsNeutral.clearDevice {s s' : Broadcast} (h : GraceRowsNeutral s) {d : Device}
    (hval : ∀ d' p, s'.channelValue d' p = if d' = d then neutral else s.channelValue d' p)
    (hpending : ∀ d', d' ≠ d → s'.pendingOffServices d' = s.pendingOffServices d') :
    GraceRowsNeutral s' := by
  intro d' hd' p
  rw [hval]
  by_cases hdev : d' = d
  · rw [if_pos hdev]
  · rw [if_neg hdev]
    rw [hpending d' hdev] at hd'
    exact h d' hd' p

theorem mkhSetChannel_eq (s : Broadcast) (deviceId port : Int) (value : UInt8) (now : Int) :
    mkhSetChannel s deviceId port value now = s ∨
    ∃ (d : Device) (p : Port), Device.ofId? deviceId = some d ∧
      mkhSetChannel s deviceId port value now = mkhSetChannel s d.val p.val value now := by
  unfold mkhSetChannel
  cases Device.ofId? deviceId with
  | none => exact Or.inl rfl
  | some d =>
    cases Port.ofIndex? port with
    | none => exact Or.inl rfl
    | some p => exact Or.inr ⟨d, p, rfl, by simp⟩

/-- Nothing is lost where no row changes and no grace period begins. -/
theorem GraceRowsNeutral.of_le {s s' : Broadcast} (h : GraceRowsNeutral s)
    (hvalue : s'.channelValue = s.channelValue)
    (hpending : ∀ d, s'.pendingOffServices d ≤ s.pendingOffServices d) : GraceRowsNeutral s' := by
  intro d hd p
  rw [hvalue]
  exact h d (Nat.lt_of_lt_of_le hd (hpending d)) p

theorem graceRowsNeutral_step (s : Broadcast) (i : BroadcastStep) (h : GraceRowsNeutral s)
    (hok : leavesGraceNeutral s i) : GraceRowsNeutral (s.step i) := by
  cases i with
  | stateWorking =>
    show GraceRowsNeutral (btstackEventState s)
    rcases btstackEventState_cases s with ⟨-, heq⟩ | ⟨-, heq⟩ <;> rw [heq]
    · exact h
    · exact h
  | setChannel deviceId port value now =>
    intro d hd p
    have hframe := mkhSetChannel_frame s deviceId port value now
    change 0 < (mkhSetChannel s deviceId port value now).pendingOffServices d at hd
    show (mkhSetChannel s deviceId port value now).channelValue d p = neutral
    rw [hframe.pendingOffServices] at hd
    rcases mkhSetChannel_eq s deviceId port value now with heq | ⟨d', p', hid, heq⟩
    · rw [heq]
      exact h d hd p
    · rw [heq, mkhSetChannel_apply]
      split
      · rename_i hc
        exact hok d (hc.1 ▸ hid) hd
      · exact h d hd p
  | toggleOff deviceId now =>
    show GraceRowsNeutral (mkhBroadcastToggleOff s deviceId now)
    rcases mkhBroadcastToggleOff_cases s deviceId now with heq | ⟨d, -, -, -, t, ht, hval, heq⟩
    · rw [heq]; exact h
    · rw [heq]
      exact h.clearDevice hval fun d' hdev => by
        simp [setPendingOffServices, hdev, ht.pendingOffServices]
  | toggleOn deviceId now =>
    show GraceRowsNeutral (mkhBroadcastToggleOn s deviceId now)
    rcases mkhBroadcastToggleOn_cases s deviceId now with heq | ⟨d, -, -, -, t, ht, hval, heq⟩
    · rw [heq]; exact h
    · rw [heq]
      refine h.clearDevice hval fun d' hdev => ?_
      show t.pendingOffServices d' = s.pendingOffServices d'
      simp [ht.pendingOffServices, setPendingOffServices, hdev]
  | controlTick =>
    show GraceRowsNeutral (controlTimer s)
    have hcount : ∀ d n d', n ≤ s.pendingOffServices d →
        Function.update s.pendingOffServices d n d' ≤ s.pendingOffServices d' := by
      intro d n d' hn
      by_cases hdev : d' = d
      · rw [hdev, Function.update_self]
        exact hn
      · rw [Function.update_of_ne hdev]
    rcases controlTimer_cases s with ⟨-, heq⟩ | ⟨d, -, -, ⟨-, heq⟩ | ⟨-, heq⟩⟩
    · rw [heq]
      exact h
    · rw [heq]
      exact h.of_le rfl fun d' => hcount d _ d' (Nat.sub_le _ 1)
    · rw [heq]
      exact h.of_le rfl fun d' => hcount d 0 d' (Nat.zero_le _)
  | runCallback =>
    show GraceRowsNeutral (runLoopCallback s)
    rcases runLoopCallback_cases s with ⟨-, heq⟩ | ⟨_, _, -, heq⟩ <;> rw [heq]
    · exact h
    · exact h

/-- **Nothing but neutral written to a hub on its way out** is enough for the condition. -/
theorem graceServesNeutral_of_leavesGraceNeutral (steps : List BroadcastStep)
    (hok : Runs.Meets Broadcast.step leavesGraceNeutral mkhBroadcastInit steps) :
    Runs.Meets Broadcast.step graceServesNeutral mkhBroadcastInit steps := by
  refine Runs.meets_of_invariant graceRowsNeutral_step ?_ steps _
    (fun _ hd => absurd hd (Nat.lt_irrefl 0)) hok
  intro s i h _
  cases i with
  | controlTick => exact fun d _ hpos => h d hpos
  | _ => trivial

end MK1Tank
