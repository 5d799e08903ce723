/-
What the air carries.

A tick and an out-of-turn send build their telegrams in two different places of the
source.  Both build it from the device's row as the table holds it at that moment,
and both give the stack the same bytes for the same row.  A value that the rate limit
kept from getting a send of its own, or that was written while a send was already
queued, is therefore not lost: the next telegram of the device has it, and a device
in rotation is served again within three ticks.
-/
import MK1Tank.Proofs.HubPhase
import MK1Tank.Proofs.Whitening

namespace MK1Tank

/-! ### The telegram of a row -/

/-- The device's base telegram with the six channel bytes at places 3 to 8. -/
def baseWithRow (d : Device) (row : Port → UInt8) : Telegram :=
  (kTelegramBase d).take 3 ++ Port.all.map row ++ (kTelegramBase d).drop 9

/-- What a receiver reads behind the seven bytes that introduce the payload. -/
def heard (s : Broadcast) : Telegram := dewhiten (s.advBuf.drop 7)

theorem baseWithRow_length (d : Device) (row : Port → UInt8) : (baseWithRow d row).length = 10 := by
  have hall : Port.all.length = 6 := by decide
  have hbase : (kTelegramBase d).length = 10 := by
    revert d
    decide
  simp [baseWithRow, hall, hbase]

theorem rowTelegram_eq (s : Broadcast) (d : Device) :
    rowTelegram s d = baseWithRow d (s.channelValue d) :=
  mkhSetChannels_neutral d (s.channelValue d)

/-- What is read back from the advertising data of a row's telegram. -/
theorem heard_of_advBuf {s : Broadcast} {d : Device} {row : Port → UInt8}
    (h : s.advBuf = mkhSetAdvPayload (mkhProtocolEncrypt
      (mkhSetChannels (mkhProtocolControlTelegramNeutral d) row) mkhPayloadControlLen)) :
    heard s = baseWithRow d row := by
  have hlength := baseWithRow_length d row
  rw [heard, h, mkhSetChannels_neutral]
  show dewhiten (mkhProtocolEncrypt (baseWithRow d row) mkhPayloadControlLen) = _
  refine dewhiten_mkhProtocolEncrypt (by omega) ?_
  rw [hlength]
  decide

/-! ### Who is aired by a step -/

/-- The device whose CONTROL telegram the step stages. -/
def airs (s : Broadcast) : BroadcastStep → Option Device
  | .controlTick => servedBy s
  | .runCallback => s.runLoopCallbacks.head?
  | _ => none

/-- The step may write the device's row: it calls `mkh_set_channel` for it. -/
def writesRow (d : Device) : BroadcastStep → Bool
  | .setChannel deviceId _ _ _ | .toggleOff deviceId _ | .toggleOn deviceId _ =>
    Device.ofId? deviceId = some d
  | _ => false

theorem mkhSetChannel_other {s : Broadcast} {d : Device} {deviceId : Int} (port : Int)
    (value : UInt8) (now : Int) (hother : Device.ofId? deviceId ≠ some d) :
    (mkhSetChannel s deviceId port value now).channelValue d = s.channelValue d := by
  unfold mkhSetChannel
  cases hid : Device.ofId? deviceId with
  | none => rfl
  | some d' =>
    cases Port.ofIndex? port with
    | none => rfl
    | some p =>
      have hne : d ≠ d' := fun hc => hother (hid.trans (congrArg some hc.symm))
      have hstore : (storeChannel s d' p value).channelValue d = s.channelValue d :=
        Function.update_of_ne hne _ _
      show (if _ then queueEventSend (storeChannel s d' p value) d' now
        else storeChannel s d' p value).channelValue d = _
      split
      · rw [queueEventSend_channelValue, hstore]
      · exact hstore

/-- **A step that does not write a row leaves it.** -/
theorem step_row {s : Broadcast} {d : Device} {i : BroadcastStep} (h : writesRow d i = false) :
    (s.step i).channelValue d = s.channelValue d := by
  have hne : ∀ {deviceId : Int}, decide (Device.ofId? deviceId = some d) = false →
      Device.ofId? deviceId ≠ some d := fun h => of_decide_eq_false h
  cases i with
  | stateWorking =>
    show (btstackEventState s).channelValue d = _
    rcases btstackEventState_cases s with ⟨-, heq⟩ | ⟨-, heq⟩
    · rw [heq]
    · rw [heq]; rfl
  | setChannel deviceId port value now => exact mkhSetChannel_other port value now (hne h)
  | toggleOff deviceId now =>
    show (mkhBroadcastToggleOff s deviceId now).channelValue d = _
    rcases mkhBroadcastToggleOff_cases s deviceId now with heq | ⟨d', hid, -, -, t, -, hrow, heq⟩
    · rw [heq]
    · have hother : d ≠ d' := fun hc => hne h (hc ▸ hid)
      rw [heq]
      exact funext fun p => (hrow d p).trans (if_neg hother)
  | toggleOn deviceId now =>
    show (mkhBroadcastToggleOn s deviceId now).channelValue d = _
    rcases mkhBroadcastToggleOn_cases s deviceId now with heq | ⟨d', hid, -, -, t, -, hrow, heq⟩
    · rw [heq]
    · have hother : d ≠ d' := fun hc => hne h (hc ▸ hid)
      rw [heq]
      exact funext fun p => (hrow d p).trans (if_neg hother)
  | controlTick =>
    show (controlTimer s).channelValue d = _
    rcases controlTimer_cases s with ⟨-, heq⟩ | ⟨d', -, -, ⟨-, heq⟩ | ⟨-, heq⟩⟩
    · rw [heq]
    · rw [heq]; rfl
    · rw [heq]; rfl
  | runCallback =>
    show (runLoopCallback s).channelValue d = _
    rcases runLoopCallback_cases s with ⟨-, heq⟩ | ⟨_, _, -, heq⟩
    · rw [heq]
    · rw [heq]; rfl

theorem run_row {d : Device} (steps : List BroadcastStep) (s : Broadcast)
    (h : ∀ i ∈ steps, writesRow d i = false) :
    (Runs.after Broadcast.step s steps).channelValue d = s.channelValue d := by
  induction steps generalizing s with
  | nil => rfl
  | cons i rest ih =>
    rw [Runs.after_cons, ih _ fun j hj => h j (List.mem_cons_of_mem i hj),
      step_row (h i List.mem_cons_self)]

/-- What a step stages: every CONTROL telegram it logs is for the device it airs, and carries that
device's row as it stands. -/
def StagesRow (s : Broadcast) (i : BroadcastStep) : Prop :=
  ∃ new, (s.step i).log = new ++ s.log ∧ ∀ d active telegram, .control d active telegram ∈ new →
    airs s i = some d ∧ telegram = baseWithRow d (s.channelValue d)

/-- A step that logs one event, and that no CONTROL telegram, or none at all. -/
theorem StagesRow.of_log {s : Broadcast} {i : BroadcastStep} (new : List Event)
    (hlog : (s.step i).log = new ++ s.log)
    (hnew : ∀ d active telegram, .control d active telegram ∉ new) : StagesRow s i :=
  ⟨new, hlog, fun d active telegram hmem => absurd hmem (hnew d active telegram)⟩

theorem stagesRow (s : Broadcast) (i : BroadcastStep) : StagesRow s i := by
  cases i with
  | stateWorking =>
    rcases btstackEventState_cases s with ⟨-, heq⟩ | ⟨-, heq⟩
    · exact .of_log [] (congrArg Broadcast.log heq) (by simp)
    · exact .of_log [.connect] (congrArg Broadcast.log heq) (by simp)
  | setChannel deviceId port value now =>
    exact .of_log [] (mkhSetChannel_frame s deviceId port value now).log (by simp)
  | toggleOff deviceId now =>
    rcases mkhBroadcastToggleOff_cases s deviceId now with heq | ⟨d, -, -, -, t, ht, -, heq⟩
    · exact .of_log [] (congrArg Broadcast.log heq) (by simp)
    · exact .of_log [.offAccepted d] ((congrArg Broadcast.log heq).trans ht.log) (by simp)
  | toggleOn deviceId now =>
    rcases mkhBroadcastToggleOn_cases s deviceId now with heq | ⟨d, -, -, -, t, ht, -, heq⟩
    · exact .of_log [] (congrArg Broadcast.log heq) (by simp)
    · exact .of_log [.connect, .onAccepted d]
        ((congrArg Broadcast.log heq).trans (congrArg (List.cons Event.connect) ht.log)) (by simp)
  | controlTick =>
    rcases controlTimer_cases s with ⟨-, heq⟩ | ⟨d, hserved, -, ⟨-, heq⟩ | ⟨-, heq⟩⟩
    · exact .of_log [] (congrArg Broadcast.log heq) (by simp)
    · refine ⟨[.control d (s.deviceActive d) (rowTelegram s d)], congrArg Broadcast.log heq, ?_⟩
      intro d' active telegram hmem
      obtain ⟨rfl, -, rfl⟩ := Event.control.inj (List.mem_singleton.mp hmem)
      exact ⟨hserved, rowTelegram_eq s d'⟩
    · refine ⟨[.dropped d, .control d (s.deviceActive d) (rowTelegram s d)],
        congrArg Broadcast.log heq, ?_⟩
      intro d' active telegram hmem
      have hcontrol : Event.control d' active telegram = .control d (s.deviceActive d)
          (rowTelegram s d) := by simpa using hmem
      obtain ⟨rfl, -, rfl⟩ := Event.control.inj hcontrol
      exact ⟨hserved, rowTelegram_eq s d'⟩
  | runCallback =>
    rcases runLoopCallback_cases s with ⟨-, heq⟩ | ⟨d, rest, hcb, heq⟩
    · exact .of_log [] (congrArg Broadcast.log heq) (by simp)
    · refine ⟨[.control d (s.deviceActive d) (rowTelegram s d)], congrArg Broadcast.log heq, ?_⟩
      intro d' active telegram hmem
      obtain ⟨rfl, -, rfl⟩ := Event.control.inj (List.mem_singleton.mp hmem)
      exact ⟨by rw [airs, hcb]; rfl, rowTelegram_eq s d'⟩

/-- **A step that airs a device lets its row be heard.** -/
theorem heard_step {s : Broadcast} {d : Device} {i : BroadcastStep} (h : airs s i = some d) :
    heard (s.step i) = baseWithRow d (s.channelValue d) := by
  cases i with
  | controlTick =>
    refine heard_of_advBuf ?_
    show (controlTimer s).advBuf = _
    rcases controlTimer_cases s with ⟨hnone, -⟩ | ⟨d', hserved, -, hcase⟩
    · rw [airs, hnone] at h
      cases h
    · obtain rfl : d' = d := Option.some.inj (hserved.symm.trans h)
      rcases hcase with ⟨-, heq⟩ | ⟨-, heq⟩
      · rw [heq]; rfl
      · rw [heq]; rfl
  | runCallback =>
    refine heard_of_advBuf ?_
    obtain ⟨rest, hcb⟩ := List.head?_eq_some_iff.mp h
    exact congrArg Broadcast.advBuf (runLoopCallback_of_cons hcb)
  | stateWorking => cases h
  | setChannel => cases h
  | toggleOff => cases h
  | toggleOn => cases h

/-! ### The next turn

The timer goes round: between two services of a device in rotation every other
device has at most one.
-/

/-- How many devices come before the device in the round. -/
def turnsBefore (d : Device) (last : Int) : Nat := ((d.val - last - 1) % mkhMk6NumDevices).toNat

theorem turnsBefore_lt (d : Device) (last : Int) : turnsBefore d last < mkhMk6NumDevices := by
  unfold turnsBefore mkhMk6NumDevices
  omega

theorem mkhNextActiveDevice_turn {deviceActive : Device → Bool} {last : Int} {d : Device}
    (hlast : -1 ≤ last ∧ last < mkhMk6NumDevices) (hd : deviceActive d = true) :
    ∃ d', mkhNextActiveDevice deviceActive last = some d' ∧
      (d' ≠ d → turnsBefore d d'.val < turnsBefore d last) := by
  have hall : ∀ (a0 a1 a2 : Bool) (turn : Fin 4) (d : Device), ![a0, a1, a2] d = true →
      ∃ d', mkhNextActiveDevice ![a0, a1, a2] ((turn.val : Int) - 1) = some d' ∧
        (d' ≠ d → turnsBefore d d'.val < turnsBefore d ((turn.val : Int) - 1)) := by
    decide +kernel
  have htable : ![deviceActive 0, deviceActive 1, deviceActive 2] = deviceActive := by
    funext d
    fin_cases d <;> rfl
  obtain ⟨hlow, hhigh⟩ := hlast
  have hturn : (((last + 1).toNat : Nat) : Int) - 1 = last := by omega
  have hrow := hall (deviceActive 0) (deviceActive 1) (deviceActive 2)
    ⟨(last + 1).toNat, by simp only [mkhMk6NumDevices] at hhigh; omega⟩ d
  rw [htable, hturn] at hrow
  exact hrow hd

/-- The round's place is moved by a tick alone, to the device it serves; and a stack that is up stays
up. -/
theorem step_round (s : Broadcast) (i : BroadcastStep) :
    (s.advertisingStarted = true → (s.step i).advertisingStarted = true) ∧
    ((s.step i).timeSliceLastDevice = s.timeSliceLastDevice ∧
        (i = .controlTick → servedBy s = none) ∨
      ∃ d, i = .controlTick ∧ servedBy s = some d ∧ (s.step i).timeSliceLastDevice = d.val) := by
  have hquiet : ∀ s' : Broadcast, s'.advertisingStarted = s.advertisingStarted →
      s'.timeSliceLastDevice = s.timeSliceLastDevice → i ≠ .controlTick →
      (s.advertisingStarted = true → s'.advertisingStarted = true) ∧
      (s'.timeSliceLastDevice = s.timeSliceLastDevice ∧ (i = .controlTick → servedBy s = none) ∨
        ∃ d, i = .controlTick ∧ servedBy s = some d ∧ s'.timeSliceLastDevice = d.val) :=
    fun s' hstarted hlast hi => ⟨fun h => hstarted.trans h, Or.inl ⟨hlast, fun h => absurd h hi⟩⟩
  cases i with
  | stateWorking =>
    by_cases hstarted : s.advertisingStarted = true
    · have hself : s.step .stateWorking = s := if_pos hstarted
      rw [hself]
      exact hquiet s rfl rfl (by simp)
    · have hup : s.step .stateWorking = mkhBroadcastConnect { s with advertisingStarted := true } :=
        if_neg hstarted
      rw [hup]
      exact ⟨fun _ => rfl, Or.inl ⟨rfl, fun h => absurd h (by simp)⟩⟩
  | setChannel deviceId port value now =>
    have hframe := mkhSetChannel_frame s deviceId port value now
    exact hquiet _ hframe.advertisingStarted hframe.timeSliceLastDevice (by simp)
  | toggleOff deviceId now =>
    rcases mkhBroadcastToggleOff_cases s deviceId now with heq | ⟨d, -, -, -, t, ht, -, heq⟩
    · exact hquiet _ (congrArg Broadcast.advertisingStarted heq)
        (congrArg Broadcast.timeSliceLastDevice heq) (by simp)
    · exact hquiet _ ((congrArg Broadcast.advertisingStarted heq).trans ht.advertisingStarted)
        ((congrArg Broadcast.timeSliceLastDevice heq).trans ht.timeSliceLastDevice) (by simp)
  | toggleOn deviceId now =>
    rcases mkhBroadcastToggleOn_cases s deviceId now with heq | ⟨d, -, -, -, t, ht, -, heq⟩
    · exact hquiet _ (congrArg Broadcast.advertisingStarted heq)
        (congrArg Broadcast.timeSliceLastDevice heq) (by simp)
    · exact hquiet _ ((congrArg Broadcast.advertisingStarted heq).trans ht.advertisingStarted)
        ((congrArg Broadcast.timeSliceLastDevice heq).trans ht.timeSliceLastDevice) (by simp)
  | controlTick =>
    have hstep : s.step .controlTick = controlTimer s := rfl
    rcases controlTimer_cases s with ⟨hnone, heq⟩ | ⟨d, hserved, -, ⟨-, heq⟩ | ⟨-, heq⟩⟩
    · rw [hstep, heq]
      exact ⟨id, Or.inl ⟨rfl, fun _ => hnone⟩⟩
    · rw [hstep, heq]
      exact ⟨id, Or.inr ⟨d, rfl, hserved, rfl⟩⟩
    · rw [hstep, heq]
      exact ⟨id, Or.inr ⟨d, rfl, hserved, rfl⟩⟩
  | runCallback =>
    have hstep : (s.step .runCallback).advertisingStarted = s.advertisingStarted ∧
        (s.step .runCallback).timeSliceLastDevice = s.timeSliceLastDevice := by
      show (runLoopCallback s).advertisingStarted = _ ∧ (runLoopCallback s).timeSliceLastDevice = _
      rcases runLoopCallback_cases s with ⟨-, heq⟩ | ⟨_, _, -, heq⟩ <;> rw [heq] <;> exact ⟨rfl, rfl⟩
    exact hquiet _ hstep.1 hstep.2 (by simp)

/-- The round's place is before the first device or at one. -/
def InRound (s : Broadcast) : Prop :=
  -1 ≤ s.timeSliceLastDevice ∧ s.timeSliceLastDevice < mkhMk6NumDevices

theorem inRound_step (s : Broadcast) (i : BroadcastStep) (h : InRound s) : InRound (s.step i) := by
  unfold InRound at h ⊢
  rcases (step_round s i).2 with ⟨hkeep, -⟩ | ⟨d, -, -, hmove⟩
  · rw [hkeep]
    exact h
  · have hlt : d.val < mkhMk6NumDevices := d.isLt
    rw [hmove]
    omega

theorem inRound_after (steps : List BroadcastStep) : InRound (broadcastAfter steps) :=
  Runs.invariant_always inRound_step steps ⟨by decide, by decide⟩

/-- A device whose turn comes: the stack is up, and the device is in rotation. -/
structure InTurn (d : Device) (s : Broadcast) : Prop where
  started : s.advertisingStarted = true
  phase : ∃ ph : HubPhase, InPhase s d ph ∧ ph.active = true
  round : InRound s

/-- A device stays in turn until a tick serves it. -/
theorem inTurn_step {d : Device} {s : Broadcast} {i : BroadcastStep} (h : InTurn d s)
    (hair : hubEvent d s i ≠ .service) : InTurn d (s.step i) := by
  obtain ⟨ph, hph, hactive⟩ := h.phase
  refine ⟨(step_round s i).1 h.started, ⟨_, inPhase_step i hph, ?_⟩, inRound_step s i h.round⟩
  generalize hubEvent d s i = e at hair
  cases ph with
  | off => cases hactive
  | on => cases e <;> rfl
  | leaving more =>
    cases e with
    | service => exact absurd rfl hair
    | turnOff => rfl
    | turnOn => rfl
    | other => rfl

theorem InTurn.servedBy {d : Device} {s : Broadcast} (h : InTurn d s) :
    ∃ d', servedBy s = some d' ∧
      (d' ≠ d → turnsBefore d d'.val < turnsBefore d s.timeSliceLastDevice) := by
  obtain ⟨ph, hph, hactive⟩ := h.phase
  unfold MK1Tank.servedBy
  rw [if_pos h.started]
  exact mkhNextActiveDevice_turn h.round (hph.active.trans hactive)

/-- The step is a firing of the timer. -/
def isTick : BroadcastStep → Bool
  | .controlTick => true
  | _ => false

/-- **The next turn comes.**  A device in rotation is served by the last of as many ticks as the
round needs to come to it. -/
theorem served_within {d : Device} (steps : List BroadcastStep) {s : Broadcast} (h : InTurn d s)
    (hticks : turnsBefore d s.timeSliceLastDevice < steps.countP isTick) :
    ∃ front back, steps = front ++ .controlTick :: back ∧
      servedBy (Runs.after Broadcast.step s front) = some d := by
  induction steps generalizing s with
  | nil => exact absurd hticks (Nat.not_lt_zero _)
  | cons i rest ih =>
    by_cases hserved : i = .controlTick ∧ servedBy s = some d
    · exact ⟨[], rest, by rw [hserved.1]; rfl, hserved.2⟩
    · have hair : hubEvent d s i ≠ .service := fun hc => hserved (servedBy_of_service hc)
      have hcloser : turnsBefore d (s.step i).timeSliceLastDevice < rest.countP isTick := by
        rw [List.countP_cons] at hticks
        obtain ⟨d', hd', hturn⟩ := h.servedBy
        rcases (step_round s i).2 with ⟨hkeep, hnone⟩ | ⟨d'', hi, hd'', hmove⟩
        · have htick : isTick i = false := by
            cases i with
            | controlTick => exact absurd ((hnone rfl).symm.trans hd') (by simp)
            | _ => rfl
          rw [hkeep]
          simpa [htick] using hticks
        · obtain rfl : d' = d'' := Option.some.inj (hd'.symm.trans hd'')
          have hne : d' ≠ d := fun hc => hserved ⟨hi, hc ▸ hd'⟩
          have hone : (if isTick i = true then 1 else 0) ≤ 1 := by split <;> omega
          have hless := hturn hne
          rw [hmove]
          omega
      obtain ⟨front, back, hsplit, hd⟩ := ih (inTurn_step h hair) hcloser
      exact ⟨i :: front, back, by rw [hsplit]; rfl, hd⟩

/-! ### The air and the table -/

theorem mkhBroadcastControl_advBuf {s : Broadcast} {d : Device}
    (h : mkhNextActiveDevice s.deviceActive s.timeSliceLastDevice = some d) :
    (mkhBroadcastControl s).advBuf = (mkhEventSendCallback s d).advBuf := by
  have hcount : ∀ t : Broadcast, (countOffService t d).advBuf = t.advBuf := by
    intro t
    by_cases hlast : t.pendingOffServices d = 1
    · rw [countOffService_last hlast]
      rfl
    · rw [countOffService_of_ne hlast]
      rfl
  unfold mkhBroadcastControl
  rw [h]
  exact hcount (serviceDevice s d)

/-- **The air carries the table**, whichever path a telegram took; and what was written last is in
the next telegram of the device, which comes within three ticks. -/
theorem air_carries_table (d : Device) :
    (∀ s row, s.channelValue d = row → heard (mkhEventSendCallback s d) = baseWithRow d row ∧
      (mkhNextActiveDevice s.deviceActive s.timeSliceLastDevice = some d →
        (mkhBroadcastControl s).advBuf = (mkhEventSendCallback s d).advBuf)) ∧
    (∀ steps i, StagesRow (broadcastAfter steps) i ∧ (airs (broadcastAfter steps) i = some d →
      heard (broadcastAfter (steps ++ [i])) =
        baseWithRow d ((broadcastAfter steps).channelValue d))) ∧
    (∀ steps p value now since i, (∀ j ∈ since, writesRow d j = false) →
      airs (broadcastAfter (steps ++ .setChannel d.val p value now :: since)) i = some d →
      heard (broadcastAfter (steps ++ .setChannel d.val p value now :: since ++ [i])) =
        baseWithRow d ((broadcastAfter (steps ++ [.setChannel d.val p value now])).channelValue d)) ∧
    (∀ steps (p : Port) value now,
      (broadcastAfter (steps ++ [.setChannel d.val p.val value now])).channelValue d =
        Function.update ((broadcastAfter steps).channelValue d) p value) ∧
    (∀ steps since, (broadcastAfter steps).advertisingStarted = true →
      (broadcastAfter steps).deviceActive d = true → 3 ≤ since.countP isTick →
      ∃ front back, since = front ++ .controlTick :: back ∧
        airs (broadcastAfter (steps ++ front)) .controlTick = some d) := by
  refine ⟨fun s row hrow => ⟨?_, mkhBroadcastControl_advBuf⟩, fun steps i => ⟨stagesRow _ i, ?_⟩,
    ?_, ?_, ?_⟩
  · rw [← hrow]
    exact heard_of_advBuf rfl
  · intro hair
    rw [broadcastAfter, Runs.after_append]
    exact heard_step hair
  · intro steps p value now since i hsince hair
    have hrow : (broadcastAfter (steps ++ .setChannel d.val p value now :: since)).channelValue d =
        (broadcastAfter (steps ++ [.setChannel d.val p value now])).channelValue d := by
      simp only [broadcastAfter, Runs.after_append, Runs.after_cons, Runs.after_nil]
      exact run_row since _ hsince
    rw [broadcastAfter, Runs.after_append, ← hrow]
    exact heard_step hair
  · intro steps p value now
    rw [broadcastAfter, Runs.after_append]
    refine (congrFun (mkhSetChannel_channelValue _ d p value now) d).trans ?_
    exact Function.update_self ..
  · intro steps since hstarted hactive hticks
    obtain ⟨ph, hph⟩ := exists_inPhase steps d
    have hturn : InTurn d (broadcastAfter steps) :=
      ⟨hstarted, ⟨ph, hph, hph.active.symm.trans hactive⟩, inRound_after steps⟩
    have hbefore := turnsBefore_lt d (broadcastAfter steps).timeSliceLastDevice
    obtain ⟨front, back, hsplit, hserved⟩ := served_within since hturn (lt_of_lt_of_le hbefore hticks)
    refine ⟨front, back, hsplit, ?_⟩
    rw [broadcastAfter, Runs.after_append]
    exact hserved

/-- Two values of hub 1 in quick succession: the second gets no send of its own, and is in the send
that the first one queued. -/
theorem air_carries_second_value :
    heard (broadcastAfter [.stateWorking, .setChannel 0 0 0xFF 25000, .setChannel 0 0 0x10 25001,
      .runCallback]) = [0x61, 0x7B, 0xA7, 0x10, 0x80, 0x80, 0x80, 0x80, 0x80, 0x9E] ∧
    ∃ front back, [BroadcastStep.controlTick, .controlTick, .controlTick] =
        front ++ .controlTick :: back ∧
      airs (broadcastAfter ([.stateWorking] ++ front)) .controlTick = some 0 := by
  refine ⟨?_, (air_carries_table 0).2.2.2.2 [.stateWorking] _ (by decide +kernel) (by decide +kernel)
    (by decide)⟩
  have haired := (air_carries_table 0).2.2.1 [.stateWorking, .setChannel 0 0 0xFF 25000] 0 0x10 25001
    [] .runCallback (by simp) (by decide +kernel)
  exact haired.trans (by decide +kernel)

end MK1Tank
