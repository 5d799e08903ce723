/-
The phases of an iteration.

`loop()` is a sequence of parts: the reports are received, the callbacks run seat by
seat, the ports are swept, the pages have their turn.  What is said of every run of the
phases, in whatever order they come, is said of both tasks' runs.  Of a phase only two
things need to be known: it only stops, or it is the sweep.
-/
import MK1Tank.Lib.Run
import MK1Tank.Proofs.Pages

namespace MK1Tank

open Runs

/-! ### The phases of an iteration -/

/-- The parts that an iteration is made of, and the other task's steps. -/
inductive Phase where
  | receive (tick : Tick)
  | callback (tick : Tick) (i : Seat)
  | remember (tick : Tick)
  | note
  | sweep (tick : Tick)
  | pages (tick : Tick)
  | btstack (step : BtstackStep)

def Tank.phase (t : Tank) : Phase → Tank
  | .receive tick => { t with bp32 := t.bp32.receive tick.status }
  | .callback tick i =>
    let (bp, s) := Bluepad32.notify onConnectedController
      (onDisconnectedController tick.failsafeClock) tick.status (t.bp32, t.sketch) i
    { t with bp32 := bp, sketch := s }
  | .remember tick =>
    { t with bp32 := { t.bp32 with prevConnected := fun i => (tick.status i).present } }
  | .note => { t with sketch := processControllers t.bp32 t.sketch }
  | .sweep tick => sweepHeld tick t
  | .pages tick => runPages tick t
  | .btstack step => t.step (.btstack step)

/-- The callbacks of the update tell the sketch that the seat is lost. -/
def Tank.losesSeat (t : Tank) (tick : Tick) (i : Seat) : Bool :=
  t.bp32.prevConnected i && !(tick.status i).present

/-- The phases of the fetch: the callbacks run when a connection changed, the note is taken when a
report came. -/
def Tick.fetchPhases (tick : Tick) (t : Tank) : List Phase :=
  .receive tick ::
    (if ∀ i, (tick.status i).present = t.bp32.prevConnected i then []
      else Seat.all.map (.callback tick) ++ [.remember tick]) ++
    (if Seat.all.any fun i => (tick.status i).delivers then [.note] else [])

theorem after_callbacks (tick : Tick) (seats : List Seat) :
    ∀ t : Tank, after Tank.phase t (seats.map (.callback tick)) =
      { t with
        bp32 := (seats.foldl (Bluepad32.notify onConnectedController
          (onDisconnectedController tick.failsafeClock) tick.status) (t.bp32, t.sketch)).1
        sketch := (seats.foldl (Bluepad32.notify onConnectedController
          (onDisconnectedController tick.failsafeClock) tick.status) (t.bp32, t.sketch)).2 } := by
  induction seats with
  | nil => intro t; rfl
  | cons i rest ih => intro t; exact ih (t.phase (.callback tick i))

theorem fetchControllers_eq_phases (t : Tank) (tick : Tick) :
    fetchControllers tick t = after Tank.phase t (tick.fetchPhases t) := by
  unfold fetchControllers Bluepad32.update Tick.fetchPhases
  have hbits : (t.bp32.receive tick.status).prevConnected = t.bp32.prevConnected := rfl
  simp only [hbits]
  rw [List.cons_append, after_cons, after_append]
  by_cases hsame : ∀ i, (tick.status i).present = t.bp32.prevConnected i
  · rw [if_pos hsame, if_pos hsame, after_nil]
    split <;> rfl
  · rw [if_neg hsame, if_neg hsame, after_append, after_callbacks]
    split <;> rfl

/-- An iteration is its phases, in order. -/
theorem loop_eq_phases (t : Tank) (tick : Tick) (hawake : t.asleep = false) :
    loop t tick = after Tank.phase t (tick.fetchPhases t ++ [.sweep tick, .pages tick]) := by
  unfold loop
  rw [if_neg (by simp [hawake]), fetchControllers_eq_phases, after_append]
  rfl

/-- The phases of a step, of either task. -/
def TankStep.phases (t : Tank) : TankStep → List Phase
  | .loop tick =>
    if t.asleep then [] else tick.fetchPhases t ++ [.sweep tick, .pages tick]
  | .btstack step => [.btstack step]

theorem step_eq_phases (t : Tank) (step : TankStep) :
    t.step step = after Tank.phase t (step.phases t) := by
  cases step with
  | loop tick =>
    show loop t tick = after Tank.phase t (if t.asleep then [] else _)
    cases hasleep : t.asleep with
    | false => exact loop_eq_phases t tick hasleep
    | true => simp [loop, hasleep]
  | btstack step => rfl

/-- Whatever both tasks reach step by step, the phases reach. -/
theorem exists_phases (steps : List TankStep) :
    ∀ t : Tank, ∃ phases, after Tank.step t steps = after Tank.phase t phases := by
  induction steps with
  | nil => intro t; exact ⟨[], rfl⟩
  | cons step rest ih =>
    intro t
    obtain ⟨phases, hrest⟩ := ih (t.step step)
    refine ⟨step.phases t ++ phases, ?_⟩
    rw [after_cons, hrest, after_append, step_eq_phases]

/-- What both callbacks and the note keep of the sketch, the fetch keeps. -/
theorem fetchControllers_keeps {Keep : Sketch → Prop} {tick : Tick}
    (hconnect : ∀ i s, Keep s → Keep (onConnectedController i s))
    (hdisconnect : ∀ i s, Keep s → Keep (onDisconnectedController tick.failsafeClock i s))
    (hnote : ∀ bp s, Keep s → Keep (processControllers bp s)) {t : Tank} (ht : Keep t.sketch) :
    Keep (fetchControllers tick t).sketch := by
  have hnotify : ∀ (st : Bluepad32 × Sketch) (i : Seat), Keep st.2 →
      Keep (Bluepad32.notify onConnectedController (onDisconnectedController tick.failsafeClock)
        tick.status st i).2 := by
    intro st i hst
    unfold Bluepad32.notify
    simp only
    split
    · exact hst
    · split
      · exact hconnect i st.2 hst
      · exact hdisconnect i st.2 hst
  have hloop := ForEach.foldl_keeps hnotify Seat.all (t.bp32.receive tick.status, t.sketch) ht
  unfold fetchControllers Bluepad32.update
  simp only
  split <;> simp only <;> split
  · exact hnote _ _ ht
  · exact ht
  · exact hnote _ _ hloop
  · exact hloop

/-! ### What a phase does to the outputs -/

/-- What a callback does to the sketch. -/
theorem callback_cases (t : Tank) (tick : Tick) (i : Seat) :
    ((t.losesSeat tick i = false ∧ ((t.phase (.callback tick i)).sketch = t.sketch ∨
        (t.phase (.callback tick i)).sketch = onConnectedController i t.sketch)) ∨
      (t.losesSeat tick i = true ∧ (t.phase (.callback tick i)).sketch =
        onDisconnectedController tick.failsafeClock i t.sketch)) := by
  have hphase : (t.phase (.callback tick i)).sketch = (Bluepad32.notify onConnectedController
      (onDisconnectedController tick.failsafeClock) tick.status (t.bp32, t.sketch) i).2 := rfl
  rw [hphase]
  unfold Bluepad32.notify Tank.losesSeat
  simp only
  by_cases hsame : (tick.status i).present = t.bp32.prevConnected i
  · rw [if_pos hsame, ← hsame]
    exact Or.inl ⟨by simp, Or.inl rfl⟩
  · rw [if_neg hsame]
    cases hpresent : (tick.status i).present with
    | true => exact Or.inl ⟨by simp, Or.inr rfl⟩
    | false =>
      have hprev : t.bp32.prevConnected i = true := by
        rw [hpresent] at hsame
        simpa using Ne.symm hsame
      exact Or.inr ⟨by simp [hprev], rfl⟩

theorem sweepHeld_none (tick : Tick) {t : Tank} (hnone : t.sketch.myControllers 0 = none) :
    sweepHeld tick t = t := by
  unfold sweepHeld
  rw [hnone]

theorem sweepHeld_some (tick : Tick) {t : Tank} {ctl : Seat}
    (hheld : t.sketch.myControllers 0 = some ctl) :
    (sweepHeld tick t).sketch.live = processMappedInputs
      (tick.sweep (t.bp32.controllers ctl).data) tick.sweepClock t.sketch.live := by
  unfold sweepHeld
  rw [hheld]

theorem sweepHeld_controllers (tick : Tick) (t : Tank) :
    (sweepHeld tick t).sketch.myControllers = t.sketch.myControllers := by
  unfold sweepHeld
  split <;> rfl

/-- A phase only stops, or it is the sweep for the controller in slot 0. -/
theorem phase_cases (t : Tank) (phase : Phase) :
    StopsOnly t.sketch.live (t.phase phase).sketch.live ∨
      ∃ tick ctl, phase = .sweep tick ∧ t.sketch.myControllers 0 = some ctl ∧
        (t.phase phase).sketch.live = processMappedInputs
          (tick.sweep (t.bp32.controllers ctl).data) tick.sweepClock t.sketch.live := by
  cases phase with
  | receive tick => exact Or.inl (StopsOnly.refl _)
  | callback tick i =>
    refine Or.inl ?_
    rcases callback_cases t tick i with ⟨-, heq | heq⟩ | ⟨-, heq⟩
    · rw [heq]
      exact StopsOnly.refl _
    · rw [heq, onConnectedController_live]
      exact StopsOnly.refl _
    · rw [heq]
      exact onDisconnectedController_stopsOnly tick.failsafeClock i t.sketch
  | remember tick => exact Or.inl (StopsOnly.refl _)
  | note => exact Or.inl (processControllers_effect t.bp32 t.sketch).live
  | sweep tick =>
    have hphase : t.phase (.sweep tick) = sweepHeld tick t := rfl
    rw [hphase]
    cases hheld : t.sketch.myControllers 0 with
    | none =>
      rw [sweepHeld_none tick hheld]
      exact Or.inl (StopsOnly.refl _)
    | some ctl =>
      exact Or.inr ⟨tick, ctl, rfl, rfl, sweepHeld_some tick hheld⟩
  | pages tick => exact Or.inl (runPages_effect tick t).live
  | btstack step =>
    refine Or.inl (StopsOnly.of_broadcast rfl rfl fun d p => Or.inl ?_)
    show (step.run t.sketch.live.broadcast).channelValue d p = _
    rw [BtstackStep.run_channel]

/-- With slot 0 empty, a phase only stops. -/
theorem phase_stopsOnly (t : Tank) (phase : Phase) (hnone : t.sketch.myControllers 0 = none) :
    StopsOnly t.sketch.live (t.phase phase).sketch.live := by
  rcases phase_cases t phase with h | ⟨tick, ctl, -, hheld, -⟩
  · exact h
  · rw [hnone] at hheld
    exact absurd hheld (by simp)

end MK1Tank
