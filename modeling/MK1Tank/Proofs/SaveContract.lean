/-
What a save promises, and what of it holds.

The header promises that a failed save leaves the config file as it was, and that no
reader ever finds a half-written one.  Both rest on the rename.  The save does not
look at what its two writes stored, so a short write is renamed into place as a
success; and it removes the old file before it renames the new one, so between the
two there is no config file at all, and whatever stops it there loses the mapping.
-/
import MK1Tank.Proofs.Storage

namespace MK1Tank

open FileProgram

/-! ### All or nothing -/

/-- A save that reports success left the header and the whole table; one that reports failure left
the config file as it was. -/
def SaveAllOrNothing (oracle : Call Path → Outcome) (cfg : MkhConfig) (files : Files Path) : Prop :=
  let after := (mkhStorageSaveConfig cfg).run oracle files
  (after.2.1 = true → after.1 .config = some (savedText cfg.table)) ∧
    (after.2.1 = false → after.1 .config = files .config)

/-- The condition: the save stops before it touches the config file; or the rename succeeds and both
writes stored all they were given; or the rename fails and there was no config file to lose. -/
def SaveStepsSound (oracle : Call Path → Outcome) (cfg : MkhConfig) (files : Files Path) : Prop :=
  SaveGivesUp oracle files cfg.table ∨
    ((oracle (.rename .tmp .config)).succeeds = true ∧
      (oracle (.append .tmp configSchemaHeader)).stored configSchemaHeader = configSchemaHeader ∧
      (oracle (.append .tmp (tableText cfg.table))).stored (tableText cfg.table)
        = tableText cfg.table) ∨
    ((oracle (.rename .tmp .config)).succeeds = false ∧ files .config = none)

instance (oracle : Call Path → Outcome) (cfg : MkhConfig) (files : Files Path) :
    Decidable (SaveStepsSound oracle cfg files) :=
  inferInstanceAs (Decidable (_ ∨ (_ ∧ _ ∧ _) ∨ (_ ∧ _)))

/-- **A save is all or nothing exactly under the condition**, for every table, every prior content and
every way its calls can end. -/
theorem saveAllOrNothing_iff (oracle : Call Path → Outcome) (cfg : MkhConfig)
    (files : Files Path) :
    SaveAllOrNothing oracle cfg files ↔ SaveStepsSound oracle cfg files := by
  unfold SaveAllOrNothing SaveStepsSound
  rcases save_run oracle cfg files with ⟨hgive, hret, hfile⟩ | ⟨hgo, hrename, hret, hfile⟩ |
    ⟨hgo, hrename, hret, hfile⟩
  · dsimp only
    rw [hret, hfile]
    exact iff_of_true ⟨fun h => absurd h Bool.false_ne_true, fun _ => rfl⟩ (Or.inl hgive)
  · dsimp only
    rw [hret, hfile, hrename]
    refine ⟨fun h => Or.inr (Or.inr ⟨rfl, (h.2 rfl).symm⟩), ?_⟩
    rintro (hgive | ⟨hok, -⟩ | ⟨-, hnone⟩)
    · exact absurd hgive hgo
    · exact absurd hok Bool.false_ne_true
    · exact ⟨fun h => absurd h Bool.false_ne_true, fun _ => hnone.symm⟩
  · dsimp only
    rw [hret, hfile, hrename]
    have hstored : some (storedText oracle cfg.table) = some (savedText cfg.table) ↔ _ :=
      (Option.some_inj).trans (Outcome.stored_append_iff _ _ _ _)
    refine ⟨fun h => Or.inr (Or.inl ⟨rfl, hstored.mp (h.1 rfl)⟩), ?_⟩
    rintro (hgive | ⟨-, hwrites⟩ | ⟨hfail, -⟩)
    · exact absurd hgive hgo
    · exact ⟨fun _ => hstored.mpr hwrites, fun h => absurd h.symm Bool.false_ne_true⟩
    · exact absurd hfail.symm Bool.false_ne_true

/-- A file system that holds the compiled-in default. -/
def freshFiles : Files Path
  | .config => some defaultConfigText
  | .tmp => none

/-- The rename fails, after the old file was removed: the save reports failure and the file is gone. -/
theorem save_loses_file : ¬ ∀ oracle cfg files, SaveAllOrNothing oracle cfg files := by
  intro hall
  have hsound := (saveAllOrNothing_iff _ _ _).mp
    (hall (fun call => if call = .rename .tmp .config then .fail else .ok) blankConfig freshFiles)
  revert hsound
  decide +kernel

/-! ### A power cut -/

/-- Two tables with the same bindings on every port, in the same order. -/
def SameTable (t t' : Table) : Prop := ∀ d p, (t d p).bindings = (t' d p).bindings

/-- Every stick axis has the one mode that it comes back with from a file. -/
def ModesKept (t : Table) : Prop :=
  ∀ d p, ∀ b ∈ (t d p).bindings, mkhConfigInputClass b.input = .axis → b.mode = .proportional

/-- The table the next boot resolves. -/
def bootedTable (cfg : MkhConfig) (files : Files Path) : Table :=
  ((mkhStorageBootRead cfg).run (fun _ => .ok) files).2.table

theorem bootedTable_eq (cfg : MkhConfig) (files : Files Path) :
    bootedTable cfg files = tableOf ((files .config).getD defaultConfigText) := by
  unfold bootedTable
  cases hfile : files .config with
  | none => exact boot_table_absent cfg hfile
  | some text => exact boot_table _ cfg hfile rfl rfl

/-- Whatever a power cut leaves of a save resolves to the old table or to the saved one. -/
def CrashSafe (cfg : MkhConfig) (files : Files Path) (calls bytes : Nat) : Prop :=
  ∀ memory, let cut := (mkhStorageSaveConfig cfg).runCut files calls bytes
    SameTable (bootedTable memory cut) (bootedTable memory files) ∨
      SameTable (bootedTable memory cut) cfg.table

/-- The condition: nothing of the config file was touched yet; or it was just removed, and the
compiled-in default happens to be the old table or the saved one; or the new file is in place, and
it keeps the whole table (the two ports that have a compiled-in binding are not empty, and no stick
axis has a mode to lose), or resolving it happens to give the old table. -/
def CutHarmless (cfg : MkhConfig) (files : Files Path) (calls : Nat) : Prop :=
  saveBufSize ≤ (tableText cfg.table).length ∨ calls ≤ 4 ∨
    let old := tableOf ((files .config).getD defaultConfigText)
    if (files .config).isSome = true ∧ calls = 5 then
      SameTable (tableOf defaultConfigText) old ∨ SameTable (tableOf defaultConfigText) cfg.table
    else
      SameTable (tableOf (savedText cfg.table)) old ∨
        ((cfg.table 0 mkhPortA).bindings ≠ [] ∧ (cfg.table 1 mkhPortA).bindings ≠ [] ∧
          ModesKept cfg.table)

/-- A binding comes back from a file as it is, unless it is a stick axis with another mode. -/
theorem Binding.onFile_eq_self (b : Binding) :
    b.onFile = b ↔ (mkhConfigInputClass b.input = .axis → b.mode = .proportional) := by
  unfold Binding.onFile
  by_cases haxis : mkhConfigInputClass b.input = .axis
  · have hdefault : defaultModeForInput b.input = .proportional := by
      simp [defaultModeForInput, haxis]
    rw [if_pos haxis, hdefault]
    refine ⟨fun h _ => (congrArg Binding.mode h).symm, fun h => ?_⟩
    rw [← h haxis]
  · rw [if_neg haxis]
    exact iff_of_true rfl fun h => absurd h haxis

/-- A list of bindings comes back as it is when each of them does. -/
theorem map_onFile_eq_self (bs : List Binding) :
    bs.map Binding.onFile = bs ↔
      ∀ b ∈ bs, mkhConfigInputClass b.input = .axis → b.mode = .proportional := by
  induction bs with
  | nil => simp
  | cons b rest ih =>
    rw [List.map_cons, List.cons.injEq, List.forall_mem_cons, ih, b.onFile_eq_self]

/-- A saved file resolves to its own table exactly when neither port with a compiled-in binding is
empty and no stick axis has a mode to lose. -/
theorem sameTable_savedText {table : Table} (hwf : TableWellFormed table) :
    SameTable (tableOf (savedText table)) table ↔
      (table 0 mkhPortA).bindings ≠ [] ∧ (table 1 mkhPortA).bindings ≠ [] ∧ ModesKept table := by
  unfold SameTable
  simp only [tableOf_savedText hwf]
  constructor
  · intro hsame
    refine ⟨fun hempty => ?_, fun hempty => ?_, fun d p => ?_⟩
    · have h := hsame 0 mkhPortA
      rw [hempty] at h
      exact absurd h (by decide)
    · have h := hsame 1 mkhPortA
      rw [hempty] at h
      exact absurd h (by decide)
    · by_cases hempty : (table d p).bindings = []
      · simp [hempty]
      · have h := hsame d p
        rw [if_neg hempty] at h
        exact (map_onFile_eq_self _).mp h
  · intro ⟨hfirst, hsecond, hmodes⟩ d p
    by_cases hempty : (table d p).bindings = []
    · rw [if_pos hempty, hempty]
      unfold fallbackBindings
      by_cases hp : p = mkhPortA
      · rw [if_pos hp]
        have h0 : d ≠ 0 := fun hd => hfirst (hd ▸ hp ▸ hempty)
        have h1 : d ≠ 1 := fun hd => hsecond (hd ▸ hp ▸ hempty)
        rw [if_neg h0, if_neg h1]
      · rw [if_neg hp]
    · rw [if_neg hempty]
      exact (map_onFile_eq_self _).mpr (hmodes d p)

/-- **A save survives a power cut exactly under the condition**, wherever the cut falls. -/
theorem crashSafe_iff {cfg : MkhConfig} (hwf : TableWellFormed cfg.table) (files : Files Path)
    (calls bytes : Nat) :
    CrashSafe cfg files calls bytes ↔ CutHarmless cfg files calls := by
  unfold CrashSafe CutHarmless
  simp only [bootedTable_eq, forall_const]
  by_cases hfits : saveBufSize ≤ (tableText cfg.table).length
  · rw [save_cut_unfit hfits]
    exact iff_of_true (Or.inl fun _ _ => rfl) (Or.inl hfits)
  rw [save_cut (Nat.not_le.mp hfits)]
  by_cases hearly : calls ≤ 4
  · rw [if_pos hearly]
    exact iff_of_true (Or.inl fun _ _ => rfl) (Or.inr (Or.inl hearly))
  rw [if_neg hearly]
  simp only [hfits, hearly, false_or]
  by_cases hgap : (files .config).isSome = true ∧ calls = 5
  · rw [if_pos hgap, if_pos hgap]
    rfl
  · rw [if_neg hgap, if_neg hgap]
    exact or_congr Iff.rfl (sameTable_savedText hwf)

instance (t t' : Table) : Decidable (SameTable t t') :=
  inferInstanceAs (Decidable (∀ (d : Device) (p : Port), (t d p).bindings = (t' d p).bindings))

instance (t : Table) : Decidable (ModesKept t) :=
  inferInstanceAs (Decidable (∀ (d : Device) (p : Port), ∀ b ∈ (t d p).bindings,
    mkhConfigInputClass b.input = .axis → b.mode = .proportional))

instance (cfg : MkhConfig) (files : Files Path) (calls : Nat) :
    Decidable (CutHarmless cfg files calls) := by
  unfold CutHarmless
  infer_instance

/-- A table with one button on one port. -/
def buttonTable (d : Device) (p : Port) (input : InputSource) : Table :=
  (blankConfig.setPort d p
    { bindings := [{ input := input, invert := false, maxPercent := 100, mode := .momentary }]
      fromFile := true
      count_le := by simp }).table

/-- A save of a button on hub 2's port A over a file with a button on hub 3's port F. -/
private def buttonConfig : MkhConfig := ⟨buttonTable 1 mkhPortA .btnA, true, 0⟩

private def buttonFiles : Files Path
  | .config => some (savedText (buttonTable 2 5 .btnB))
  | .tmp => none

theorem crashSafe_button :
    CrashSafe buttonConfig buttonFiles 4 0 ∧ ¬ CrashSafe buttonConfig buttonFiles 5 0 :=
  ⟨(crashSafe_iff (by decide +kernel) buttonFiles 4 0).mpr (by decide +kernel),
    fun h => absurd ((crashSafe_iff (by decide +kernel) buttonFiles 5 0).mp h) (by decide +kernel)⟩

/-- The power goes after the remove: the next boot finds no file and drives the compiled-in default,
which is neither the old table nor the saved one. -/
theorem powerCut_loses_file : ¬ ∀ cfg files calls bytes, TableWellFormed cfg.table →
    CrashSafe cfg files calls bytes := fun hall =>
  absurd ((crashSafe_iff (by decide +kernel) buttonFiles 5 0).mp
    (hall buttonConfig buttonFiles 5 0 (by decide +kernel))) (by decide +kernel)

/-! ### What the next boot drives -/

/-- What a port comes back with: its own bindings, or, when it was left empty, the compiled-in one if
it has one. -/
def savedBindings (table : Table) (d : Device) (p : Port) : List Binding :=
  if (table d p).bindings = [] then fallbackBindings d p
  else (table d p).bindings.map Binding.onFile

/-- **What is saved is what the next boot or reload drives**, when the writes stored all they were
given: every port has its bindings back in order, and a port without any stays without, unless it
is one of the two that have a compiled-in binding. -/
theorem saved_bindings_return {oracle : Call Path → Outcome} {cfg : MkhConfig}
    {files : Files Path} (hwf : TableWellFormed cfg.table)
    (hheader : (oracle (.append .tmp configSchemaHeader)).stored configSchemaHeader
      = configSchemaHeader)
    (htext : (oracle (.append .tmp (tableText cfg.table))).stored (tableText cfg.table)
      = tableText cfg.table)
    (hsaved : ((mkhStorageSaveConfig cfg).run oracle files).2.1 = true)
    {later : Call Path → Outcome} (hmount : (later .mount).succeeds = true)
    (hread : (later (.read .config)).succeeds = true) (memory : MkhConfig) (d : Device) (p : Port) :
    let after := ((mkhStorageSaveConfig cfg).run oracle files).1
    (((mkhStorageBootRead memory).run later after).2.table d p).bindings
        = savedBindings cfg.table d p ∧
      (((mkhStorageReloadConfig memory).run later after).2.table d p).bindings
        = savedBindings cfg.table d p := by
  have hfile : ((mkhStorageSaveConfig cfg).run oracle files).1 .config =
      some (savedText cfg.table) := by
    rcases save_run oracle cfg files with ⟨-, hret, -⟩ | ⟨-, -, hret, -⟩ | ⟨-, -, -, hfile⟩
    · exact absurd (hret.symm.trans hsaved) Bool.false_ne_true
    · exact absurd (hret.symm.trans hsaved) Bool.false_ne_true
    · rw [hfile, storedText, hheader, htext, savedText]
  dsimp only
  unfold mkhStorageReloadConfig
  rw [boot_table later memory hfile hmount hread, readAndParse_table later memory hfile hread,
    tableOf_savedText hwf]
  exact ⟨rfl, rfl⟩

theorem saved_bindings_return_button :
    (((mkhStorageBootRead blankConfig).run (fun _ => .ok)
      ((mkhStorageSaveConfig buttonConfig).run (fun _ => .ok) buttonFiles).1).2.table 1
        mkhPortA).bindings
      = [{ input := .btnA, invert := false, maxPercent := 100, mode := .momentary }] :=
  (saved_bindings_return (by decide +kernel) rfl rfl (by decide +kernel) rfl rfl blankConfig 1
    mkhPortA).1

/-- Two tables with the same bindings, but for the mode of stick axes. -/
def SameBindings (t t' : Table) : Prop :=
  ∀ d p, (t d p).bindings.map Binding.onFile = (t' d p).bindings.map Binding.onFile

instance (t t' : Table) : Decidable (SameBindings t t') :=
  inferInstanceAs (Decidable (∀ (d : Device) (p : Port),
    (t d p).bindings.map Binding.onFile = (t' d p).bindings.map Binding.onFile))

/-- The table RESET ALL writes comes back with the compiled-in bindings. -/
theorem emptied_table_refilled : ¬ ∀ (cfg : MkhConfig) (files : Files Path),
    TableWellFormed cfg.table →
    ((mkhStorageSaveConfig cfg).run (fun _ => .ok) files).2.1 = true →
    SameBindings (bootedTable blankConfig ((mkhStorageSaveConfig cfg).run (fun _ => .ok) files).1)
      cfg.table := fun hall =>
  absurd (hall blankConfig freshFiles (by decide +kernel) (by decide +kernel)) (by decide +kernel)

/-! ### Whether a table fits -/

/-- The save aborts for size: it makes no call at all. -/
def AbortsForSize (cfg : MkhConfig) : Prop := mkhStorageSaveConfig cfg = .done (false, cfg)

/-- **A save aborts for size exactly when the lines of the table fill the buffer**; up to 30 bindings
always fit. -/
theorem abortsForSize_iff (cfg : MkhConfig) :
    (AbortsForSize cfg ↔ saveBufSize ≤ (tableText cfg.table).length) ∧
      (TableWellFormed cfg.table → (tableEntries cfg.table).length ≤ 30 → ¬ AbortsForSize cfg) := by
  have hiff : AbortsForSize cfg ↔ saveBufSize ≤ (tableText cfg.table).length := by
    unfold AbortsForSize mkhStorageSaveConfig
    by_cases hfits : saveBufSize ≤ (tableText cfg.table).length
    · rw [serialize_of_not_fits hfits]
      exact iff_of_true rfl hfits
    · rw [serialize_of_fits (Nat.not_le.mp hfits)]
      exact iff_of_false (fun h => by cases h) hfits
  refine ⟨hiff, fun hwf hcount habort => ?_⟩
  have hlen := tableText_length_le hwf
  have hfull := hiff.mp habort
  unfold saveBufSize at hfull
  omega

theorem abortsForSize_button : ¬ AbortsForSize buttonConfig :=
  (abortsForSize_iff buttonConfig).2 (by decide +kernel) (by decide +kernel)

/-- Every port with eight bindings of its left trigger. -/
def fullTable : Table := fun _ _ =>
  { bindings := List.replicate 8
      { input := .lt, invert := false, maxPercent := 100, mode := .momentary }
    fromFile := true
    count_le := by decide }

/-- The editor lets a user build a table that cannot be saved. -/
theorem full_table_aborts : ¬ ∀ cfg : MkhConfig, TableWellFormed cfg.table → ¬ AbortsForSize cfg :=
  fun hall => hall ⟨fullTable, true, 0⟩ (by decide +kernel)
    ((abortsForSize_iff ⟨fullTable, true, 0⟩).1.mpr (by decide +kernel))

end MK1Tank
