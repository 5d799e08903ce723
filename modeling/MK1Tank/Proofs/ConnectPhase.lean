/-
How long CONNECT stays on the air.

A hub is acquired by CONNECT, which is staged at start-up and again by a toggle-on
that is accepted.  Only the timer's delay keeps CONTROL away from it: a send that
waits in the run loop's list does not look at what is on the air, and replaces it.
So CONNECT stays until the next tick exactly in the runs that have no send waiting
when the run loop takes its turn in between.
-/
import MK1Tank.Proofs.Air

namespace MK1Tank

/-! ### What a step hands to the stack -/

/-- The advertising data of a telegram's payload. -/
def connectAdv : List UInt8 :=
  mkhSetAdvPayload (mkhProtocolEncrypt mkhProtocolConnectTelegram mkhPayloadConnectLen)

/-- The advertising data of a device's row. -/
def controlAdv (d : Device) (row : Port → UInt8) : List UInt8 :=
  mkhSetAdvPayload (mkhProtocolEncrypt
    (mkhSetChannels (mkhProtocolControlTelegramNeutral d) row) mkhPayloadControlLen)

theorem mkhSetAdvPayload_length (payload : List UInt8) :
    (mkhSetAdvPayload payload).length = payload.length + 7 := by
  simp [mkhSetAdvPayload]

/-- CONTROL and CONNECT differ already in their length. -/
theorem controlAdv_ne_connectAdv (d : Device) (row : Port → UInt8) :
    controlAdv d row ≠ connectAdv := by
  have hcontrol : (controlAdv d row).length = 27 := by
    have hrow := baseWithRow_length d row
    have hbase : mkhSetChannels (mkhProtocolControlTelegramNeutral d) row = baseWithRow d row :=
      mkhSetChannels_neutral d row
    rw [controlAdv, mkhSetAdvPayload_length, hbase,
      mkhProtocolEncrypt_length (by omega) (by rw [hrow]; decide), hrow]
  have hconnect : connectAdv.length = 25 := by
    rw [connectAdv, mkhSetAdvPayload_length, mkhProtocolEncrypt_length (by decide) (by decide)]
    rfl
  intro h
  rw [h, hconnect] at hcontrol
  omega

/-- The step stages CONNECT: it is the start-up, or a toggle-on of a hub that may join the rotation
and is not fully on. -/
def stagesConnect (s : Broadcast) : BroadcastStep → Bool
  | .stateWorking => !s.advertisingStarted
  | .toggleOn deviceId _ =>
    match Device.ofId? deviceId with
    | none => false
    | some d => decide ((d : Nat) < mkhTimeSliceNumDevices) &&
        !(s.deviceActive d && s.pendingOffServices d == 0)
  | _ => false

/-- What was staged last. -/
def lastStaged (log : List Event) : Option Event :=
  log.find? fun
    | .control .. | .connect => true
    | .offAccepted _ | .onAccepted _ | .dropped _ => false

/-- A toggle-on stages CONNECT or does nothing at all. -/
theorem toggleOn_air (s : Broadcast) (deviceId : Int) (now : Port → Int) :
    (stagesConnect s (.toggleOn deviceId now) = false ∧
      mkhBroadcastToggleOn s deviceId now = s) ∨
    (stagesConnect s (.toggleOn deviceId now) = true ∧
      (mkhBroadcastToggleOn s deviceId now).advBuf = connectAdv ∧
      lastStaged (mkhBroadcastToggleOn s deviceId now).log = some .connect) := by
  simp only [mkhBroadcastToggleOn, stagesConnect]
  cases Device.ofId? deviceId with
  | none => exact Or.inl ⟨rfl, rfl⟩
  | some d =>
    by_cases hparked : (d : Nat) ≥ mkhTimeSliceNumDevices
    · exact Or.inl ⟨by simp [Nat.not_lt.mpr hparked], if_pos hparked⟩
    · by_cases hon : (s.deviceActive d && s.pendingOffServices d == 0) = true
      · exact Or.inl ⟨by simp [hon], by simp only [if_neg hparked, if_pos hon]⟩
      · refine Or.inr ⟨?_, ?_, ?_⟩
        · simp [Nat.lt_of_not_le hparked, hon]
        · simp only [if_neg hparked, if_neg hon]
          rfl
        · simp only [if_neg hparked, if_neg hon]
          rfl

/-- **What a step does to the air.**  It airs a device, or stages CONNECT, or leaves what is there. -/
theorem step_air (s : Broadcast) (i : BroadcastStep) :
    (∃ d, airs s i = some d ∧ stagesConnect s i = false ∧
      (s.step i).advBuf = controlAdv d (s.channelValue d) ∧
      lastStaged (s.step i).log = some (.control d (s.deviceActive d) (rowTelegram s d))) ∨
    (airs s i = none ∧ stagesConnect s i = true ∧ (s.step i).advBuf = connectAdv ∧
      lastStaged (s.step i).log = some .connect) ∨
    (airs s i = none ∧ stagesConnect s i = false ∧ (s.step i).advBuf = s.advBuf ∧
      lastStaged (s.step i).log = lastStaged s.log) := by
  cases i with
  | stateWorking =>
    rcases btstackEventState_cases s with ⟨hstarted, heq⟩ | ⟨hstarted, heq⟩
    · exact Or.inr (Or.inr ⟨rfl, by simp [stagesConnect, hstarted], congrArg Broadcast.advBuf heq,
        congrArg (lastStaged ·.log) heq⟩)
    · exact Or.inr (Or.inl ⟨rfl, by simp [stagesConnect, hstarted], congrArg Broadcast.advBuf heq,
        congrArg (lastStaged ·.log) heq⟩)
  | setChannel deviceId port value now =>
    have hframe := mkhSetChannel_frame s deviceId port value now
    exact Or.inr (Or.inr ⟨rfl, rfl, hframe.advBuf, congrArg lastStaged hframe.log⟩)
  | toggleOff deviceId now =>
    refine Or.inr (Or.inr ⟨rfl, rfl, ?_⟩)
    rcases mkhBroadcastToggleOff_cases s deviceId now with heq | ⟨d, -, -, -, t, ht, -, heq⟩
    · exact ⟨congrArg Broadcast.advBuf heq, congrArg (lastStaged ·.log) heq⟩
    · refine ⟨(congrArg Broadcast.advBuf heq).trans ht.advBuf, ?_⟩
      exact (congrArg (lastStaged ·.log) heq).trans (congrArg lastStaged ht.log)
  | toggleOn deviceId now =>
    rcases toggleOn_air s deviceId now with ⟨hrefused, heq⟩ | ⟨haccepted, hadv, hlast⟩
    · exact Or.inr (Or.inr ⟨rfl, hrefused, congrArg Broadcast.advBuf heq,
        congrArg (lastStaged ·.log) heq⟩)
    · exact Or.inr (Or.inl ⟨rfl, haccepted, hadv, hlast⟩)
  | controlTick =>
    rcases controlTimer_cases s with ⟨hnone, heq⟩ | ⟨d, hserved, -, hcase⟩
    · exact Or.inr (Or.inr ⟨hnone, rfl, congrArg Broadcast.advBuf heq,
        congrArg (lastStaged ·.log) heq⟩)
    · refine Or.inl ⟨d, hserved, rfl, ?_⟩
      rcases hcase with ⟨-, heq⟩ | ⟨-, heq⟩
      · exact ⟨congrArg Broadcast.advBuf heq, congrArg (lastStaged ·.log) heq⟩
      · exact ⟨congrArg Broadcast.advBuf heq, congrArg (lastStaged ·.log) heq⟩
  | runCallback =>
    rcases runLoopCallback_cases s with ⟨hcb, heq⟩ | ⟨d, rest, hcb, heq⟩
    · exact Or.inr (Or.inr ⟨by rw [airs, hcb]; rfl, rfl, congrArg Broadcast.advBuf heq,
        congrArg (lastStaged ·.log) heq⟩)
    · exact Or.inl ⟨d, by rw [airs, hcb]; rfl, rfl, congrArg Broadcast.advBuf heq,
        congrArg (lastStaged ·.log) heq⟩

/-! ### From CONNECT to the next tick -/

/-- The broadcaster, and whether no tick has come since CONNECT was staged. -/
structure AirWatch where
  air : Broadcast
  connecting : Bool

/-- The timer's next turn.  It cannot come before `mkh_broadcast_connect` has armed the timer. -/
def ticks (s : Broadcast) : BroadcastStep → Bool
  | .controlTick => s.advertisingStarted
  | _ => false

def AirWatch.step (w : AirWatch) (i : BroadcastStep) : AirWatch where
  air := w.air.step i
  connecting := stagesConnect w.air i || (w.connecting && !ticks w.air i)

/-- The watched state after these steps, from `mkh_broadcast_init` on. -/
def airWatchAfter (steps : List BroadcastStep) : AirWatch :=
  Runs.after AirWatch.step ⟨mkhBroadcastInit, false⟩ steps

/-- Until the tick that follows it, CONNECT is what was staged last and what is on the air. -/
def ConnectKeepsAir (w : AirWatch) : Prop :=
  w.connecting = true → w.air.advBuf = connectAdv ∧ lastStaged w.air.log = some .connect

/-- The condition: before that tick the run loop has no send to run when it takes a callback. -/
def noSendWhileConnecting (w : AirWatch) : BroadcastStep → Prop
  | .runCallback => w.connecting = true → w.air.runLoopCallbacks = []
  | _ => True

/-- Before the timer is armed a tick airs nobody. -/
theorem airs_none_of_not_started {s : Broadcast} (h : s.advertisingStarted = false) :
    airs s .controlTick = none := by
  simp [airs, servedBy, h]

/-- **One step** that has no send to run leaves CONNECT on the air. -/
theorem connectKeepsAir_step (w : AirWatch) (i : BroadcastStep) (h : ConnectKeepsAir w)
    (hok : noSendWhileConnecting w i) : ConnectKeepsAir (w.step i) := by
  intro hconnecting
  have hwas : stagesConnect w.air i = false → w.connecting = true ∧ ticks w.air i = false := by
    intro hnew
    simpa [AirWatch.step, hnew] using hconnecting
  rcases step_air w.air i with ⟨d, hair, hnew, -⟩ | ⟨-, -, hadv, hlast⟩ | ⟨-, hnew, hadv, hlast⟩
  · -- A device is aired only by a tick, which ends the phase, or by a send that waits.
    obtain ⟨hbefore, htick⟩ := hwas hnew
    cases i with
    | controlTick =>
      rw [airs_none_of_not_started htick] at hair
      cases hair
    | runCallback =>
      rw [airs, hok hbefore] at hair
      cases hair
    | stateWorking => cases hair
    | setChannel => cases hair
    | toggleOff => cases hair
    | toggleOn => cases hair
  · exact ⟨hadv, hlast⟩
  · obtain ⟨hbefore, -⟩ := hwas hnew
    exact ⟨hadv.trans (h hbefore).1, hlast.trans (h hbefore).2⟩

/-- A send that runs in the phase takes the air from CONNECT. -/
theorem not_connectKeepsAir_of_send (w : AirWatch) (i : BroadcastStep)
    (hnot : ¬ noSendWhileConnecting w i) : ¬ ConnectKeepsAir (w.step i) := by
  cases i with
  | runCallback =>
    obtain ⟨hconnecting, hsends⟩ : w.connecting = true ∧ w.air.runLoopCallbacks ≠ [] := by
      simpa [noSendWhileConnecting] using hnot
    obtain ⟨d, rest, hcb⟩ := List.exists_cons_of_ne_nil hsends
    intro h
    have hstill : (w.step .runCallback).connecting = true := by
      simp [AirWatch.step, stagesConnect, ticks, hconnecting]
    rcases step_air w.air .runCallback with ⟨d', -, -, hadv, -⟩ | ⟨hnone, -⟩ | ⟨hnone, -⟩
    · exact controlAdv_ne_connectAdv d' _ (hadv.symm.trans (h hstill).1)
    · rw [airs, hcb] at hnone
      cases hnone
    · rw [airs, hcb] at hnone
      cases hnone
  | stateWorking => exact absurd trivial hnot
  | setChannel => exact absurd trivial hnot
  | toggleOff => exact absurd trivial hnot
  | toggleOn => exact absurd trivial hnot
  | controlTick => exact absurd trivial hnot

/-- **CONNECT keeps the air until the next tick in exactly the runs that run no send before it.** -/
theorem connect_keeps_air_iff (steps : List BroadcastStep) :
    (∀ front back, steps = front ++ back → ConnectKeepsAir (airWatchAfter front)) ↔
      Runs.Meets AirWatch.step noSendWhileConnecting ⟨mkhBroadcastInit, false⟩ steps :=
  Runs.always_iff_meets connectKeepsAir_step (fun _ h => h)
    (fun w i _ hnot => not_connectKeepsAir_of_send w i hnot) steps _
    fun h => absurd h Bool.false_ne_true

/-- A stick moves right after start-up: its send replaces CONNECT before the first tick. -/
theorem send_preempts_connect :
    ¬ ∀ steps, ConnectKeepsAir (airWatchAfter steps) := by
  intro hall
  have h := hall [.stateWorking, .setChannel 0 0 0xFF 25000, .runCallback] (by decide +kernel)
  exact absurd h.2 (by decide +kernel)

end MK1Tank
