/-
The disconnect failsafe.

When the controller in slot 0 is lost, every port that the table assigns is stopped and
all runtime state is cleared.  A port that the table leaves unassigned is passed over,
so the failsafe stops everything exactly when such ports are at neutral before it runs.
What it stopped stays stopped until a controller takes slot 0: nothing that either task
does in the meantime starts an output.
-/
import MK1Tank.Proofs.Phases

namespace MK1Tank

open FileProgram Runs

/-! ### The failsafe itself -/

/-- Every output is at neutral, and nothing is started in any slot. -/
structure AllStopped (s : Live) : Prop where
  channels : ∀ d p, s.broadcast.channelValue d p = neutral
  idle : s.drive.idle

/-- The failsafe writes the assigned ports, and no other. -/
theorem disconnectFailsafe_channel (now : SetterClock) (s : Live) (d : Device) (p : Port) :
    (disconnectFailsafe now s).broadcast.channelValue d p =
      if (s.config.table d p).bindings = [] then s.broadcast.channelValue d p else neutral := by
  have hkeep : ∀ (s' : Live) (d : Device) (p : Port), s'.config = s.config →
      (stopPort now s' d p).config = s.config :=
    fun s' d p hconfig => (stopPort_config now s' d p).trans hconfig
  have hown : ∀ (s' : Live) (d : Device) (p : Port), s'.config = s.config →
      (stopPort now s' d p).broadcast.channelValue d p =
        if (s.config.table d p).bindings = [] then s'.broadcast.channelValue d p else neutral := by
    intro s' d p hconfig
    unfold stopPort
    rw [hconfig]
    by_cases hnone : (s.config.table d p).bindings = []
    · simp [hnone]
    · rw [if_pos (List.length_pos_iff.mpr hnone), if_neg hnone, Live.setChannel_apply,
        if_pos ⟨rfl, rfl⟩]
  have hother : ∀ (s' : Live) (d : Device) (p : Port) (d' : Device) (p' : Port),
      s'.config = s.config → ¬ (d' = d ∧ p' = p) →
      (stopPort now s' d p).broadcast.channelValue d' p' = s'.broadcast.channelValue d' p' := by
    intro s' d p d' p' _ hother
    unfold stopPort
    split
    · rw [Live.setChannel_apply, if_neg hother]
    · rfl
  have hloop := forEachPort_cell_of_keep (fun (s' : Live) d p => s'.broadcast.channelValue d p)
    (fun d p old => if (s.config.table d p).bindings = [] then old else neutral) hkeep hown hother
    rfl d p
  unfold disconnectFailsafe
  generalize forEachPort (stopPort now) s = stopped at hloop
  exact hloop

theorem disconnectFailsafe_idle (now : SetterClock) (s : Live) :
    (disconnectFailsafe now s).drive.idle := by
  intro d p i
  show ((clearAllLatchState _).slots d p i).started = false
  rw [clearAllLatchState_slots]
  rfl

theorem disconnectFailsafe_allStopped (now : SetterClock) (s : Live) :
    AllStopped (disconnectFailsafe now s) ↔
      ∀ d p, (s.config.table d p).bindings = [] → s.broadcast.channelValue d p = neutral := by
  constructor
  · intro h d p hnone
    rw [← h.channels d p, disconnectFailsafe_channel, if_pos hnone]
  · intro h
    refine ⟨?_, disconnectFailsafe_idle now s⟩
    intro d p
    rw [disconnectFailsafe_channel]
    split
    · rename_i hnone
      exact h d p hnone
    · rfl

/-- The callback for the seat in slot 0 empties the slot and runs the failsafe. -/
theorem onDisconnectedController_held (now : SetterClock) {ctl : Seat} {s : Sketch}
    (hheld : s.myControllers 0 = some ctl) :
    (onDisconnectedController now ctl s).live = disconnectFailsafe now s.live ∧
      (onDisconnectedController now ctl s).myControllers 0 = none := by
  have hfind : findSlot s (fun held => held == some ctl) = some 0 := by
    unfold findSlot
    rw [show Seat.all = 0 :: [1, 2, 3] from rfl, List.find?_cons_of_pos]
    simp [hheld]
  unfold onDisconnectedController
  rw [hfind]
  exact ⟨rfl, by simp⟩

/-! ### Until a controller takes the slot -/

/-- No controller takes slot 0 in the phase. -/
def LeavesSlotEmpty (t : Tank) (phase : Phase) : Prop :=
  (t.phase phase).sketch.myControllers 0 = none

instance (t : Tank) (phase : Phase) : Decidable (LeavesSlotEmpty t phase) := by
  unfold LeavesSlotEmpty
  infer_instance

/-- What is stopped stays stopped, as long as slot 0 stays empty. -/
theorem allStopped_after (t : Tank) (hnone : t.sketch.myControllers 0 = none)
    (hstopped : AllStopped t.sketch.live) (phases : List Phase)
    (hempty : Meets Tank.phase LeavesSlotEmpty t phases) :
    AllStopped (after Tank.phase t phases).sketch.live := by
  have hstep : ∀ (t : Tank) (phase : Phase),
      t.sketch.myControllers 0 = none ∧ AllStopped t.sketch.live → LeavesSlotEmpty t phase →
      (t.phase phase).sketch.myControllers 0 = none ∧ AllStopped (t.phase phase).sketch.live := by
    intro t phase ⟨hnone, hstopped⟩ hempty
    have hstops := phase_stopsOnly t phase hnone
    exact ⟨hempty, hstops.toSettles.neutral hstopped.channels, hstops.idle hstopped.idle⟩
  exact (invariant_after hstep phases t ⟨hnone, hstopped⟩ hempty).2

/-- The seat's controller is lost: its callback runs. -/
def Tank.lose (t : Tank) (now : SetterClock) (ctl : Seat) : Tank :=
  { t with sketch := onDisconnectedController now ctl t.sketch }

/-- The loss of slot 0's controller stops everything, for as long as the slot stays empty. -/
def FailsafeAbsolute (t : Tank) : Prop :=
  ∀ (now : SetterClock) (ctl : Seat), t.sketch.myControllers 0 = some ctl →
    ∀ phases, Meets Tank.phase LeavesSlotEmpty (t.lose now ctl) phases →
      AllStopped (after Tank.phase (t.lose now ctl) phases).sketch.live

/-- **When the failsafe is absolute**: when the ports that the table leaves unassigned, which it
passes over, are at neutral already. -/
theorem failsafeAbsolute_iff (t : Tank) :
    FailsafeAbsolute t ↔
      t.sketch.myControllers 0 = none ∨ UnassignedStopped t.sketch.live := by
  constructor
  · intro h
    cases hheld : t.sketch.myControllers 0 with
    | none => exact Or.inl rfl
    | some ctl =>
      have hstopped : AllStopped (onDisconnectedController (fun _ _ => 0) ctl t.sketch).live :=
        h (fun _ _ => 0) ctl hheld [] trivial
      rw [(onDisconnectedController_held _ hheld).1] at hstopped
      exact Or.inr ((disconnectFailsafe_allStopped _ _).mp hstopped)
  · intro h now ctl hheld phases hempty
    obtain ⟨hlive, hnone⟩ := onDisconnectedController_held now hheld
    have hunassigned : UnassignedStopped t.sketch.live := by
      rcases h with h | h
      · rw [hheld] at h
        exact absurd h (by simp)
      · exact h
    refine allStopped_after (t.lose now ctl) hnone ?_ phases hempty
    show AllStopped (onDisconnectedController now ctl t.sketch).live
    rw [hlive]
    exact (disconnectFailsafe_allStopped now t.sketch.live).mpr hunassigned

/-! ### Along runs -/

/-- A port that the phase leaves with no binding had none before it, or is at neutral. -/
def EmptiesStopped (t : Tank) (phase : Phase) : Prop :=
  ∀ d p, ((t.phase phase).sketch.live.config.table d p).bindings = [] →
    (t.sketch.live.config.table d p).bindings = [] ∨
      t.sketch.live.broadcast.channelValue d p = neutral

instance (t : Tank) (phase : Phase) : Decidable (EmptiesStopped t phase) := by
  unfold EmptiesStopped
  infer_instance

/-- No phase moves a port that it leaves with no binding, other than to neutral. -/
theorem phase_unassigned (t : Tank) (phase : Phase) {d : Device} {p : Port}
    (hvalue : t.sketch.live.broadcast.channelValue d p = neutral)
    (hnone : ((t.phase phase).sketch.live.config.table d p).bindings = []) :
    (t.phase phase).sketch.live.broadcast.channelValue d p = neutral := by
  rcases phase_cases t phase with hstops | ⟨tick, ctl, -, -, hsweep⟩
  · rcases hstops.channel d p with heq | heq
    · rw [heq, hvalue]
    · exact heq
  · rw [hsweep, processMappedInputs_config] at hnone
    rw [hsweep, processMappedInputs_unassigned _ _ _ hnone, hvalue]

theorem unassignedStopped_phase (t : Tank) (phase : Phase) (ht : UnassignedStopped t.sketch.live)
    (hphase : EmptiesStopped t phase) : UnassignedStopped (t.phase phase).sketch.live := by
  intro d p hnone
  refine phase_unassigned t phase ?_ hnone
  rcases hphase d p hnone with hbefore | hvalue
  · exact ht d p hbefore
  · exact hvalue

/-- **The disconnect failsafe.**  In a run in which no table change empties a port that is not at
neutral, the failsafe is absolute in every state, and it stays so over whatever follows until a
controller takes slot 0 again.  In any state that a run reaches it is absolute exactly when the
unassigned ports are at neutral there. -/
theorem failsafe_absolute (config : MkhConfig) (files : Files Path) (phases : List Phase) :
    (Meets Tank.phase EmptiesStopped (Tank.boot config files) phases →
      FailsafeAbsolute (after Tank.phase (Tank.boot config files) phases)) ∧
    (FailsafeAbsolute (after Tank.phase (Tank.boot config files) phases) ↔
      (after Tank.phase (Tank.boot config files) phases).sketch.myControllers 0 = none ∨
        UnassignedStopped (after Tank.phase (Tank.boot config files) phases).sketch.live) := by
  refine ⟨?_, failsafeAbsolute_iff _⟩
  intro hmeets
  have hboot : UnassignedStopped (Tank.boot config files).sketch.live := fun _ _ _ => rfl
  have hrun := invariant_after unassignedStopped_phase phases _ hboot hmeets
  exact (failsafeAbsolute_iff _).mpr (Or.inr hrun)

/-! ### At a stick's length -/

/-- An iteration with at most one seat taken, and at most one tap. -/
def tickOf (status : DataStatus) (tap : Option Tap) : Tick where
  status i := if i = 0 then status else .invalidDevice
  failsafeClock _ _ := 0
  sweepClock _ _ := 0
  sweepMillis := 0
  headingDeg := 0
  imuReady := true
  tuning := .boot
  tap := tap
  tapEnv := { oracle := fun _ => .ok, millis := 0, setterClock := fun _ _ => 0 }
  touchPressed := false
  idleMillis := 0

/-- The tank with the default table, after start-up. -/
def bootedTank : Tank := Tank.boot stickConfig fun _ => none

/-- The stick is pushed, and drives. -/
def driveOff : Tick := tickOf (.success (stickReport (-512))) none

def driveOffPhases : List Phase :=
  [.receive driveOff, .callback driveOff 0, .remember driveOff, .note, .sweep driveOff]

theorem failsafe_absolute_driving :
    (after Tank.phase bootedTank driveOffPhases).sketch.live.broadcast.channelValue 0 mkhPortA = 0xFF ∧
      (after Tank.phase bootedTank driveOffPhases).sketch.myControllers 0 = some 0 ∧
      FailsafeAbsolute (after Tank.phase bootedTank driveOffPhases) :=
  ⟨by decide +kernel, by decide +kernel,
    (failsafe_absolute stickConfig (fun _ => none) driveOffPhases).1 (by decide +kernel)⟩

/-- Into the editor, the only binding of hub 1's port A removed, and the Test toggle put on while
the stick is held forward. -/
def removeThenPush : List TankStep :=
  [.loop (tickOf .invalidDevice (some ⟨0, 0⟩)), .loop (tickOf .invalidDevice (some ⟨5, 5⟩)),
    .loop (tickOf .invalidDevice (some ⟨30, 40⟩)), .loop (tickOf .invalidDevice (some ⟨30, 120⟩)),
    .loop (tickOf .invalidDevice (some ⟨170, 140⟩)),
    .loop (tickOf (.success (stickReport (-512))) (some ⟨300, 10⟩))]

/-- The controller is lost, and the port runs on at full speed. -/
theorem failsafe_passes_over :
    ¬ FailsafeAbsolute (after Tank.step bootedTank removeThenPush) := by
  intro habsolute
  have hheld : (after Tank.step bootedTank removeThenPush).sketch.myControllers 0 = some 0 := by
    decide +kernel
  have hvalue := (habsolute (fun _ _ => 0) 0 hheld [] trivial).channels 0 mkhPortA
  have hfull : ((after Tank.step bootedTank removeThenPush).lose
      (fun _ _ => 0) 0).sketch.live.broadcast.channelValue 0 mkhPortA = 0xFF := by decide +kernel
  rw [after_nil, hfull] at hvalue
  exact absurd hvalue (by decide)

end MK1Tank
