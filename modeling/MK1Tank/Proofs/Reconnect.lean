/-
Input from before a loss.

A `Controller` object keeps the last report it was given.  When its seat is lost and
taken again, the sweep reads that report until a new one is delivered.  A seat counts as
heard from its first delivery after the connection on; as long as slot 0's seat was not
heard, nothing is driven in the runs whose sweeps find that old report at rest.
-/
import MK1Tank.Proofs.Failsafe

namespace MK1Tank

open FileProgram Runs

/-! ### Which seats were heard -/

/-- The firmware, and beside it which seats have delivered a report since their connection. -/
structure Watch where
  tank : Tank
  heard : Seat → Bool

def Watch.phase (w : Watch) (phase : Phase) : Watch where
  tank := w.tank.phase phase
  heard := match phase with
    | .receive tick => fun i => w.heard i || (tick.status i).delivers
    | .callback tick i => if w.tank.losesSeat tick i then Function.update w.heard i false else w.heard
    | _ => w.heard

def Watch.boot (config : MkhConfig) (files : Files Path) : Watch where
  tank := .boot config files
  heard _ := false

/-- No report came from slot 0's controller since it connected, or there is none. -/
def Watch.unheard (w : Watch) : Prop :=
  ∀ ctl, w.tank.sketch.myControllers 0 = some ctl → w.heard ctl = false

/-- A sweep for a controller that was not heard finds its old report at rest. -/
def StaleAtRest (w : Watch) : Phase → Prop
  | .sweep _ => ∀ ctl, w.tank.sketch.myControllers 0 = some ctl → w.heard ctl = false →
    w.tank.sketch.live.config.atRest (w.tank.bp32.controllers ctl).data
  | _ => True

instance (ctl : ControllerData) (cfg : MkhConfig) : Decidable (cfg.atRest ctl) := by
  unfold MkhConfig.atRest PortConfig.atRest
  infer_instance

instance (w : Watch) : Decidable w.unheard := by
  unfold Watch.unheard
  infer_instance

instance (w : Watch) (phase : Phase) : Decidable (StaleAtRest w phase) := by
  cases phase <;> unfold StaleAtRest <;> infer_instance

/-! ### Slot 0 -/

/-- A connection takes slot 0 only when it is empty. -/
theorem onConnectedController_slot (ctl : Seat) (s : Sketch) :
    (onConnectedController ctl s).myControllers 0 = s.myControllers 0 ∨
      s.myControllers 0 = none := by
  cases hheld : s.myControllers 0 with
  | none => exact Or.inr rfl
  | some held =>
    refine Or.inl ?_
    unfold onConnectedController
    cases hfind : findSlot s fun held => held == none with
    | none => exact hheld
    | some i =>
      have hne : (0 : Seat) ≠ i := by
        intro h0
        have hempty := List.find?_some hfind
        rw [← h0, hheld] at hempty
        simp at hempty
      show Function.update s.myControllers i (some ctl) 0 = some held
      rw [Function.update_of_ne hne, hheld]

/-- The loss of a seat that does not hold slot 0 changes neither the slot nor the outputs. -/
theorem onDisconnectedController_other (now : SetterClock) {ctl : Seat} {s : Sketch}
    (hother : s.myControllers 0 ≠ some ctl) :
    (onDisconnectedController now ctl s).live = s.live ∧
      (onDisconnectedController now ctl s).myControllers 0 = s.myControllers 0 := by
  unfold onDisconnectedController
  cases hfind : findSlot s fun held => held == some ctl with
  | none => exact ⟨rfl, rfl⟩
  | some i =>
    have hne : (0 : Seat) ≠ i := by
      intro h0
      have hfound := List.find?_some hfind
      rw [← h0] at hfound
      exact hother (by simpa using hfound)
    simp only
    rw [if_neg (Ne.symm hne)]
    exact ⟨rfl, Function.update_of_ne hne _ _⟩

/-! ### The invariant -/

/-- As long as slot 0's controller was not heard, nothing is started. -/
def Watch.inv (w : Watch) : Prop := w.unheard → w.tank.sketch.live.drive.idle

theorem watch_inv_boot (config : MkhConfig) (files : Files Path) : (Watch.boot config files).inv :=
  fun _ _ _ _ => rfl

/-- A callback that leaves slot 0 unheard found it so, or ran the failsafe. -/
theorem callback_unheard (w : Watch) (tick : Tick) (i : Seat)
    (hunheard : (w.phase (.callback tick i)).unheard) :
    w.unheard ∨ (w.phase (.callback tick i)).tank.sketch.live.drive.idle := by
  have htank : (w.phase (.callback tick i)).tank = w.tank.phase (.callback tick i) := rfl
  have hheard : (w.phase (.callback tick i)).heard =
    if w.tank.losesSeat tick i then Function.update w.heard i false else w.heard := rfl
  unfold Watch.unheard at hunheard ⊢
  rw [htank, hheard] at hunheard
  rw [htank]
  rcases callback_cases w.tank tick i with ⟨hlost, heq | heq⟩ | ⟨hlost, heq⟩
  · rw [heq, hlost] at hunheard
    exact Or.inl hunheard
  · rw [heq, hlost] at hunheard
    refine Or.inl ?_
    rcases onConnectedController_slot i w.tank.sketch with hslot | hempty
    · rw [hslot] at hunheard
      exact hunheard
    · intro ctl hheld
      rw [hempty] at hheld
      exact absurd hheld (by simp)
  · rw [heq, hlost] at hunheard
    rw [heq]
    by_cases hheld : w.tank.sketch.myControllers 0 = some i
    · rw [(onDisconnectedController_held tick.failsafeClock hheld).1]
      exact Or.inr (disconnectFailsafe_idle tick.failsafeClock _)
    · refine Or.inl fun ctl hctl => ?_
      have hne : ctl ≠ i := by
        intro heq
        rw [heq] at hctl
        exact hheld hctl
      rw [(onDisconnectedController_other tick.failsafeClock hheld).2] at hunheard
      have hupdated := hunheard ctl hctl
      rwa [if_pos rfl, Function.update_of_ne hne] at hupdated

/-- A phase that leaves slot 0 unheard found it so, or ran the failsafe. -/
theorem phase_unheard (w : Watch) (phase : Phase) (hunheard : (w.phase phase).unheard) :
    w.unheard ∨ (w.phase phase).tank.sketch.live.drive.idle := by
  cases phase with
  | callback tick i => exact callback_unheard w tick i hunheard
  | receive tick =>
    refine Or.inl fun ctl hheld => ?_
    have hheard : (w.heard ctl || (tick.status ctl).delivers) = false := hunheard ctl hheld
    exact (Bool.or_eq_false_iff.mp hheard).1
  | remember tick => exact Or.inl hunheard
  | note =>
    refine Or.inl fun ctl hheld => hunheard ctl ?_
    rw [← hheld]
    exact congrFun (processControllers_effect w.tank.bp32 w.tank.sketch).controllers 0
  | sweep tick =>
    refine Or.inl fun ctl hheld => hunheard ctl ?_
    rw [← hheld]
    exact congrFun (sweepHeld_controllers tick w.tank) 0
  | pages tick =>
    refine Or.inl fun ctl hheld => hunheard ctl ?_
    rw [← hheld]
    exact congrFun (runPages_effect tick w.tank).controllers 0
  | btstack step => exact Or.inl hunheard

/-- What a phase that leaves slot 0 unheard does: the outputs settle, and nothing is started. -/
theorem watch_phase (w : Watch) (phase : Phase) (hw : w.inv) (hrest : StaleAtRest w phase)
    (hunheard : (w.phase phase).unheard) :
    Settles w.tank.sketch.live (w.phase phase).tank.sketch.live ∧
      (w.phase phase).tank.sketch.live.drive.idle := by
  have htank : (w.phase phase).tank = w.tank.phase phase := rfl
  rcases phase_cases w.tank phase with hstops | ⟨tick, ctl, rfl, hheld, hsweep⟩
  · refine ⟨hstops.toSettles, ?_⟩
    rcases phase_unheard w phase hunheard with hbefore | hidle
    · exact hstops.idle (hw hbefore)
    · exact hidle
  · have hbefore : w.unheard := by
      intro ctl hctl
      refine hunheard ctl ?_
      rw [← hctl]
      exact congrFun (sweepHeld_controllers tick w.tank) 0
    rw [htank, hsweep]
    exact (processMappedInputs_atRest (hrest ctl hheld (hbefore ctl hheld)) (hw hbefore)
      tick.sweepClock).symm

theorem watch_inv_phase (w : Watch) (phase : Phase) (hw : w.inv) (hrest : StaleAtRest w phase) :
    (w.phase phase).inv := fun hunheard => (watch_phase w phase hw hrest hunheard).2

/-! ### Runs -/

/-- Nothing drives before the first report: each phase that leaves slot 0 unheard calls the setter
with the neutral byte only, moves no channel but to neutral, and starts nothing. -/
def NothingDrivesUnheard (w : Watch) (phases : List Phase) : Prop :=
  ∀ front phase back, phases = front ++ phase :: back →
    (after Watch.phase w (front ++ [phase])).unheard →
      Settles (after Watch.phase w front).tank.sketch.live
          (after Watch.phase w (front ++ [phase])).tank.sketch.live ∧
        (after Watch.phase w (front ++ [phase])).tank.sketch.live.drive.idle

/-- **Input from before a loss drives nothing** in the runs whose sweeps find it at rest. -/
theorem nothing_drives_unheard (config : MkhConfig) (files : Files Path) (phases : List Phase)
    (hmeets : Meets Watch.phase StaleAtRest (Watch.boot config files) phases) :
    NothingDrivesUnheard (Watch.boot config files) phases := by
  intro front phase back hsplit hunheard
  rw [hsplit, meets_append, meets_cons] at hmeets
  obtain ⟨hfront, hrest, -⟩ := hmeets
  have hinv := invariant_after watch_inv_phase front _ (watch_inv_boot config files) hfront
  rw [after_append, after_cons, after_nil] at hunheard ⊢
  exact watch_phase _ phase hinv hrest hunheard

/-! ### At a stick's length -/

/-- The phases of an iteration whose update connects or loses seat 0. -/
def changeOf (tick : Tick) : List Phase := [.receive tick, .callback tick 0, .remember tick]

/-- The stick is pushed to the given deflection, the link is lost, and the seat is taken again
without a report. -/
def pushLoseReturn (axisY : Int) : List Phase :=
  changeOf driveOff ++ [.sweep driveOff] ++
    [.receive (tickOf (.success (stickReport axisY)) none), .sweep driveOff] ++
    changeOf (tickOf .invalidDevice none) ++ changeOf (tickOf .noData none)

/-- The stick was let go before the link was lost. -/
theorem nothing_drives_unheard_released :
    NothingDrivesUnheard (Watch.boot stickConfig fun _ => none)
      (pushLoseReturn 0 ++ [.sweep driveOff]) :=
  nothing_drives_unheard stickConfig (fun _ => none) (pushLoseReturn 0 ++ [.sweep driveOff])
    (by decide +kernel)

/-- The stick was held when the link was lost, and the return drives on it at once. -/
theorem old_report_drives :
    ¬ ∀ config files phases, NothingDrivesUnheard (Watch.boot config files) phases := by
  intro hall
  have hstep := hall stickConfig (fun _ => none) (pushLoseReturn (-512) ++ [.sweep driveOff])
    (pushLoseReturn (-512)) (.sweep driveOff) [] rfl (by decide +kernel)
  have hbefore : (after Watch.phase (Watch.boot stickConfig fun _ => none)
      (pushLoseReturn (-512))).tank.sketch.live.broadcast.channelValue 0 mkhPortA = 0x80 := by
    decide +kernel
  have hafter : (after Watch.phase (Watch.boot stickConfig fun _ => none)
      (pushLoseReturn (-512) ++ [.sweep driveOff])).tank.sketch.live.broadcast.channelValue
        0 mkhPortA = 0xFF := by
    decide +kernel
  rcases hstep.1.channel 0 mkhPortA with heq | heq
  · rw [hbefore, hafter] at heq
    exact absurd heq (by decide)
  · rw [hafter] at heq
    exact absurd heq (by decide)

end MK1Tank
