/-
Unassigned ports: when a sweep finds them stopped.

A port with no binding is documented to stay neutral.  The sweep keeps it so by not
touching it, and no change of the live table touches it either: a port that loses its
last binding while it is driven keeps its value, and nothing writes it again.  The
ports stay stopped along exactly those runs in which every change finds the ports it
empties at neutral already.
-/
import MK1Tank.Lib.Run
import MK1Tank.Firmware.Sketch
import MK1Tank.Proofs.LiveTable

namespace MK1Tank

open FileProgram Runs

/-! ### Runs of sweeps and table changes -/

/-- A change of the live table, with what its file calls meet. -/
inductive TableChange where
  /-- Test-ON. -/
  | push (pending : PendingEdits)
  | save (pending : PendingEdits) (files : Files Path) (oracle : FileOracle)
  | resetAll (files : Files Path) (oracle : FileOracle)
  | reload (files : Files Path) (oracle : FileOracle)

/-- A save's part of the live state: where the table is said to come from. -/
def Live.noteSave (s : Live) (files : Files Path) (oracle : FileOracle) : Live :=
  { s with config := ((mkhStorageSaveConfig s.config).run oracle files).2.2 }

def TableChange.apply (s : Live) : TableChange → Live
  | .push pending => pushPendingSessionToLiveTable pending s
  | .save pending files oracle => (pushPendingSessionToLiveTable pending s).noteSave files oracle
  | .resetAll files oracle => (resetAllBindings s).noteSave files oracle
  | .reload files oracle =>
    { s with config := ((mkhStorageReloadConfig s.config).run oracle files).2 }

inductive LiveStep where
  | sweep (sw : Sweep) (now : SetterClock)
  | change (c : TableChange)

def Live.step (s : Live) : LiveStep → Live
  | .sweep sw now => processMappedInputs sw now s
  | .change c => c.apply s

/-- Start-up's channels, under any table and any runtime state. -/
def Live.start (config : MkhConfig) (drive : Drive) : Live where
  config := config
  drive := drive
  broadcast := mkhBroadcastInit
  channelCalls := []

/-! ### The pages make these changes -/

theorem handleTestToggleTap_live (s : Sketch) :
    (handleTestToggleTap s).live =
      if s.ui.testActive then s.live else (TableChange.push s.ui.pendingEdits).apply s.live := by
  unfold handleTestToggleTap
  split <;> rfl

theorem performSaveAndExit_live (oracle : FileOracle) (millis : UInt32) (s : Sketch) :
    (performSaveAndExit oracle millis s).live =
      (TableChange.save s.ui.pendingEdits s.files oracle).apply s.live := by
  unfold performSaveAndExit
  rw [Sketch.withUi_live, Sketch.saveConfig_live, TableChange.apply, Live.noteSave]

theorem confirmResetAll_live (env : TapEnv) (s : Sketch) :
    (confirmResetAll env s).live = (TableChange.resetAll s.files env.oracle).apply s.live := by
  unfold confirmResetAll
  rw [Sketch.withUi_live, Sketch.saveConfig_live, TableChange.apply, Live.noteSave]

theorem settingsReset_live (env : TapEnv) (s : Sketch) (d : Device) (p : Port) :
    (settingsReset env d p s).live = (TableChange.reload s.files env.oracle).apply s.live := by
  unfold settingsReset
  rw [Sketch.withUi_live, Sketch.reloadConfig_live, TableChange.apply]

/-! ### What a change empties -/

/-- The change leaves the port with no binding. -/
def TableChange.empties (s : Live) (c : TableChange) (d : Device) (p : Port) : Bool :=
  match c with
  | .push pending | .save pending _ _ => (pending d p).dirty && (pending d p).bindingCount == 0
  | .resetAll _ _ => true
  | .reload files oracle =>
    (((mkhStorageReloadConfig s.config).run oracle files).2.table d p).bindings.isEmpty

/-- The change leaves the port's list as it is. -/
def TableChange.leaves (c : TableChange) (d : Device) (p : Port) : Bool :=
  match c with
  | .push pending | .save pending _ _ => !(pending d p).dirty
  | .resetAll _ _ | .reload _ _ => false

theorem pushPendingSessionToLiveTable_broadcast (pending : PendingEdits) (s : Live) :
    (pushPendingSessionToLiveTable pending s).broadcast = s.broadcast := by
  unfold pushPendingSessionToLiveTable
  have hkeep : ∀ (s' : Live) (d : Device) (p : Port), s'.broadcast = s.broadcast →
      (pushPort pending s' d p).broadcast = s.broadcast := by
    intro s' d p hs'
    unfold pushPort
    split <;> exact hs'
  exact forEachPort_keeps hkeep rfl

@[simp] theorem Live.noteSave_broadcast (s : Live) (files : Files Path) (oracle : FileOracle) :
    (s.noteSave files oracle).broadcast = s.broadcast := rfl

@[simp] theorem resetAllBindings_broadcast (s : Live) :
    (resetAllBindings s).broadcast = s.broadcast := rfl

/-- No change of the table reaches a channel. -/
@[simp] theorem TableChange.apply_broadcast (s : Live) (c : TableChange) :
    (c.apply s).broadcast = s.broadcast := by
  cases c with
  | push pending => exact pushPendingSessionToLiveTable_broadcast pending s
  | save pending files oracle =>
    rw [TableChange.apply, Live.noteSave_broadcast]
    exact pushPendingSessionToLiveTable_broadcast pending s
  | resetAll files oracle =>
    rw [TableChange.apply, Live.noteSave_broadcast, resetAllBindings_broadcast]
  | reload files oracle => rfl

@[simp] theorem Live.noteSave_table (s : Live) (files : Files Path) (oracle : FileOracle) :
    (s.noteSave files oracle).config.table = s.config.table :=
  save_table oracle s.config files

/-- After a change a port has no binding when the change emptied it, or left it so. -/
theorem TableChange.apply_unassigned (s : Live) (c : TableChange) (d : Device) (p : Port) :
    ((c.apply s).config.table d p).bindings = [] ↔
      c.empties s d p = true ∨ c.leaves d p = true ∧ (s.config.table d p).bindings = [] := by
  have hpush : ∀ pending : PendingEdits,
      ((pushPendingSessionToLiveTable pending s).config.table d p).bindings = [] ↔
        ((pending d p).dirty && (pending d p).bindingCount == 0) = true ∨
          (!(pending d p).dirty) = true ∧ (s.config.table d p).bindings = [] := by
    intro pending
    rw [push_bindings]
    cases hdirty : (pending d p).dirty with
    | true => simp [writtenBindings_eq_nil]
    | false => simp
  cases c with
  | push pending => exact hpush pending
  | save pending files oracle =>
    rw [TableChange.apply, Live.noteSave_table]
    exact hpush pending
  | resetAll files oracle =>
    rw [TableChange.apply, Live.noteSave_table]
    simp [resetAllBindings, wipeAllBindings_bindings, empties]
  | reload files oracle => simp [TableChange.apply, empties, leaves]

/-! ### The invariant -/

/-- Every port the live table leaves unassigned is at neutral. -/
def UnassignedStopped (s : Live) : Prop :=
  ∀ d p, (s.config.table d p).bindings = [] → s.broadcast.channelValue d p = neutral

/-- A change finds every port that it empties at neutral; a sweep is always fine. -/
def FindsStopped (s : Live) : LiveStep → Prop
  | .sweep _ _ => True
  | .change c => ∀ d p, c.empties s d p = true → s.broadcast.channelValue d p = neutral

instance (s : Live) (step : LiveStep) : Decidable (FindsStopped s step) := by
  cases step <;> unfold FindsStopped <;> infer_instance

theorem unassignedStopped_start (config : MkhConfig) (drive : Drive) :
    UnassignedStopped (Live.start config drive) := fun _ _ _ => rfl

theorem unassignedStopped_sweep (s : Live) (sw : Sweep) (now : SetterClock) :
    UnassignedStopped (processMappedInputs sw now s) ↔ UnassignedStopped s := by
  unfold UnassignedStopped
  rw [processMappedInputs_config]
  constructor
  · intro h d p hnone
    rw [← processMappedInputs_unassigned sw now s hnone]
    exact h d p hnone
  · intro h d p hnone
    rw [processMappedInputs_unassigned sw now s hnone]
    exact h d p hnone

/-- A change keeps the unassigned ports stopped exactly when it finds those it empties stopped. -/
theorem unassignedStopped_change {s : Live} (hs : UnassignedStopped s) (c : TableChange) :
    UnassignedStopped (c.apply s) ↔ FindsStopped s (.change c) := by
  constructor
  · intro h d p hempties
    have hnone := (TableChange.apply_unassigned s c d p).mpr (Or.inl hempties)
    rw [← TableChange.apply_broadcast s c]
    exact h d p hnone
  · intro h d p hnone
    rw [TableChange.apply_broadcast]
    rcases (TableChange.apply_unassigned s c d p).mp hnone with hempties | ⟨-, hbefore⟩
    · exact h d p hempties
    · exact hs d p hbefore

theorem unassignedStopped_step (s : Live) (step : LiveStep) (hs : UnassignedStopped s)
    (hstep : FindsStopped s step) : UnassignedStopped (s.step step) := by
  cases step with
  | sweep sw now => exact (unassignedStopped_sweep s sw now).mpr hs
  | change c => exact (unassignedStopped_change hs c).mpr hstep

/-! ### Runs -/

/-- **Unassigned ports are stopped along the runs whose changes find them stopped.**  In such a run
they are stopped in every state, after each sweep in particular; and as the run goes on, the next
change and sweep leave them stopped exactly when that change meets the condition too. -/
theorem unassigned_ports_stopped (config : MkhConfig) (drive : Drive) (steps : List LiveStep)
    (hmeets : Meets Live.step FindsStopped (Live.start config drive) steps) :
    (∀ front back, steps = front ++ back →
      UnassignedStopped (after Live.step (Live.start config drive) front)) ∧
    ∀ c sw now,
      UnassignedStopped (after Live.step (Live.start config drive)
          (steps ++ [.change c, .sweep sw now])) ↔
        FindsStopped (after Live.step (Live.start config drive) steps) (.change c) := by
  have hafter : ∀ front back, steps = front ++ back →
      UnassignedStopped (after Live.step (Live.start config drive) front) := by
    intro front back hsplit
    rw [hsplit, meets_append] at hmeets
    exact invariant_after unassignedStopped_step front _ (unassignedStopped_start config drive)
      hmeets.1
  refine ⟨hafter, ?_⟩
  intro c sw now
  rw [after_append, after_cons, after_cons, after_nil]
  have hnow := hafter steps [] (List.append_nil steps).symm
  exact (unassignedStopped_sweep _ sw now).trans (unassignedStopped_change hnow c)

/-! ### At a button's length -/

/-- The table of a device that was never configured: the left stick on port A of hub 1. -/
def stickConfig : MkhConfig := mkhConfigApplyCompiledInFallbacks blankConfig

/-- The left stick, at a given deflection. -/
def stickReport (axisY : Int) : ControllerData :=
  { ControllerData.zero with klass := .gamepad, axisY := axisY }

def sweepOf (controller : ControllerData) : Sweep where
  controller := controller
  millis := 0
  headingDeg := 0
  imuReady := true
  tuning := .boot

/-- A session that removed the last binding of port A of hub 1. -/
def emptiedPortA : PendingEdits := fun d p =>
  { dirty := d == 0 && p == mkhPortA, slots := fun _ => blankBinding, bindingCount := 0,
    ninth := blankBinding }

/-- The stick pushed, released, and only then its binding removed. -/
def releaseThenRemove : List LiveStep :=
  [.sweep (sweepOf (stickReport (-512))) fun _ _ => 0, .sweep (sweepOf (stickReport 0)) fun _ _ => 0,
    .change (.push emptiedPortA)]

/-- The stick held while its binding is removed. -/
def removeWhileHeld : List LiveStep :=
  [.sweep (sweepOf (stickReport (-512))) fun _ _ => 0, .change (.push emptiedPortA),
    .sweep (sweepOf (stickReport (-512))) fun _ _ => 0]

theorem unassigned_ports_stopped_released :
    UnassignedStopped (after Live.step (Live.start stickConfig .boot) releaseThenRemove) :=
  (unassigned_ports_stopped stickConfig .boot releaseThenRemove (by decide +kernel)).1
    releaseThenRemove [] rfl

/-- The binding is gone, and the port runs on at full speed. -/
theorem removed_binding_keeps_driving :
    ¬ UnassignedStopped (after Live.step (Live.start stickConfig .boot) removeWhileHeld) := by
  intro hstopped
  have hvalue := hstopped 0 mkhPortA (by decide +kernel)
  have hfull : (after Live.step (Live.start stickConfig .boot) removeWhileHeld).broadcast.channelValue
      0 mkhPortA = 0xFF := by decide +kernel
  rw [hfull] at hvalue
  exact absurd hvalue (by decide)

end MK1Tank
