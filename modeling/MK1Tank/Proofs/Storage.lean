/-
What the storage programs do to the config file.

A save is decided by few things: whether the table fits its buffer, and how four of
its calls end.  Each way it can end is one lemma, and so is each stretch of it a
power cut can fall into.  A boot is a function of the text it finds, and of nothing
that was in memory before.
-/
import MK1Tank.Firmware.Storage
import MK1Tank.Proofs.ConfigCodec

namespace MK1Tank

open CString FileProgram

/-! ### The ways a save ends -/

/-- The text a complete save leaves. -/
def savedText (table : Table) : List Char := configSchemaHeader ++ tableText table

/-- What the two writes of a save left in the temporary file. -/
def storedText (oracle : Call Path → Outcome) (table : Table) : List Char :=
  (oracle (.append .tmp configSchemaHeader)).stored configSchemaHeader
    ++ (oracle (.append .tmp (tableText table))).stored (tableText table)

/-- The save stops before it touches the config file. -/
def SaveGivesUp (oracle : Call Path → Outcome) (files : Files Path) (table : Table) : Prop :=
  saveBufSize ≤ (tableText table).length ∨
    (oracle (.openWrite .tmp)).succeeds = false ∨
    ((files .config).isSome = true ∧ (oracle (.remove .config)).succeeds = false)

instance (oracle : Call Path → Outcome) (files : Files Path) (table : Table) :
    Decidable (SaveGivesUp oracle files table) :=
  inferInstanceAs (Decidable (_ ∨ _ ∨ _))

theorem serialize_of_fits {table : Table} (h : (tableText table).length < saveBufSize) :
    mkhConfigSerialize table saveBufSize = some (tableText table) := by
  rw [mkhConfigSerialize_eq table (by decide), if_pos h]

theorem serialize_of_not_fits {table : Table} (h : saveBufSize ≤ (tableText table).length) :
    mkhConfigSerialize table saveBufSize = none := by
  rw [mkhConfigSerialize_eq table (by decide), if_neg (Nat.not_lt.mpr h)]

/-- **Every way a save can end**: it gives up with the config file as it was, or the rename fails with
the old file already gone, or the stored text is the config file. -/
theorem save_run (oracle : Call Path → Outcome) (cfg : MkhConfig) (files : Files Path) :
    let after := (mkhStorageSaveConfig cfg).run oracle files
    (SaveGivesUp oracle files cfg.table ∧ after.2.1 = false ∧
      after.1 .config = files .config) ∨
    (¬ SaveGivesUp oracle files cfg.table ∧ (oracle (.rename .tmp .config)).succeeds = false ∧
      after.2.1 = false ∧ after.1 .config = none) ∨
    (¬ SaveGivesUp oracle files cfg.table ∧ (oracle (.rename .tmp .config)).succeeds = true ∧
      after.2.1 = true ∧ after.1 .config = some (storedText oracle cfg.table)) := by
  unfold mkhStorageSaveConfig SaveGivesUp storedText
  by_cases hfits : (tableText cfg.table).length < saveBufSize
  · rw [serialize_of_fits hfits]
    have hsmall : ¬ saveBufSize ≤ (tableText cfg.table).length := Nat.not_le.mpr hfits
    cases hopen : (oracle (.openWrite .tmp)).succeeds
    · simp [Program.run_call, perform, hopen]
    · cases hpresent : (files .config).isSome <;>
        cases hremove : (oracle (.remove .config)).succeeds <;>
        cases hrename : (oracle (.rename .tmp .config)).succeeds <;>
        simp_all [Program.run_call, perform, Function.update]
  · rw [serialize_of_not_fits (Nat.not_lt.mp hfits)]
    exact Or.inl ⟨Or.inl (Nat.not_lt.mp hfits), rfl, rfl⟩

/-- A save changes nothing of the configuration but where it comes from. -/
theorem save_config (oracle : Call Path → Outcome) (cfg : MkhConfig) (files : Files Path) :
    ((mkhStorageSaveConfig cfg).run oracle files).2.2 = cfg ∨
      ((mkhStorageSaveConfig cfg).run oracle files).2.2 = mkhConfigNoteSource cfg true := by
  unfold mkhStorageSaveConfig
  split
  · exact Or.inl rfl
  · simp only [Program.run_call]
    split
    · exact Or.inl rfl
    · simp only [Program.run_call]
      split
      · rw [Program.run_call]
        split
        · exact Or.inl rfl
        · rw [Program.run_call]
          split
          · exact Or.inl rfl
          · exact Or.inr rfl
      · rw [Program.run_call]
        split
        · exact Or.inl rfl
        · exact Or.inr rfl

/-- A save does not touch the live table. -/
theorem save_table (oracle : Call Path → Outcome) (cfg : MkhConfig) (files : Files Path) :
    ((mkhStorageSaveConfig cfg).run oracle files).2.2.table = cfg.table := by
  rcases save_config oracle cfg files with h | h <;> rw [h]
  rfl

theorem save_skippedLines (oracle : Call Path → Outcome) (cfg : MkhConfig) (files : Files Path) :
    ((mkhStorageSaveConfig cfg).run oracle files).2.2.skippedLines = cfg.skippedLines := by
  rcases save_config oracle cfg files with h | h <;> rw [h]
  rfl

/-! ### Where a power cut can fall -/

/-- **What a power cut leaves of the config file.**  Four calls deal with the temporary file and with
whether there is an old one; then the old file, if any, is removed, and only then is the temporary
file renamed. -/
theorem save_cut {cfg : MkhConfig} (hfits : (tableText cfg.table).length < saveBufSize)
    (files : Files Path) (calls bytes : Nat) :
    (mkhStorageSaveConfig cfg).runCut files calls bytes .config =
      if calls ≤ 4 then files .config
      else if (files .config).isSome = true ∧ calls = 5 then none
      else some (savedText cfg.table) := by
  unfold mkhStorageSaveConfig
  rw [serialize_of_fits hfits]
  rcases calls with _ | _ | _ | _ | _ | _ | calls <;>
    cases hpresent : files .config <;>
    simp [Program.runCut, perform, Function.update, hpresent, savedText, Outcome.succeeds,
      Outcome.stored]

/-- A table that does not fit the buffer is not saved at all. -/
theorem save_cut_unfit {cfg : MkhConfig} (h : saveBufSize ≤ (tableText cfg.table).length)
    (files : Files Path) (calls bytes : Nat) :
    (mkhStorageSaveConfig cfg).runCut files calls bytes = files := by
  unfold mkhStorageSaveConfig
  rw [serialize_of_not_fits h]
  rfl

/-! ### What a boot resolves -/

/-- A table with nothing bound, read from nowhere. -/
def blankConfig : MkhConfig := ⟨fun _ _ => .unassigned, false, 0⟩

instance : Inhabited MkhConfig := ⟨blankConfig⟩

/-- The table a config file's text resolves to. -/
def tableOf (text : List Char) : Table :=
  (resolveLines (mkhConfigSetDefaults blankConfig) (fileLines text)).table

/-- Where the table comes from does not matter to a line. -/
theorem takeContent_noteSource (cfg : MkhConfig) (source : Bool) (content : LineContent) :
    takeContent (mkhConfigNoteSource cfg source) content =
      mkhConfigNoteSource (takeContent cfg content) source := by
  cases content with
  | ignored => rfl
  | malformed => rfl
  | binding d p b =>
    show takeBinding (mkhConfigNoteSource cfg source) d p b =
      mkhConfigNoteSource (takeBinding cfg d p b) source
    have htable : (mkhConfigNoteSource cfg source).table = cfg.table := rfl
    by_cases hroom : (cfg.table d p).bindings.length < mkhMaxBindingsPerPort
    · rw [takeBinding_room b hroom, takeBinding_room b (htable ▸ hroom)]
      rfl
    · rw [takeBinding_full b hroom, takeBinding_full b (htable ▸ hroom)]
      rfl

theorem parseLines_noteSource (source : Bool) :
    ∀ (lines : List (List Char)) (cfg : MkhConfig),
      parseLines (mkhConfigNoteSource cfg source) lines =
        mkhConfigNoteSource (parseLines cfg lines) source := by
  intro lines
  induction lines with
  | nil => exact fun _ => rfl
  | cons line rest ih =>
    intro cfg
    rw [parseLines_cons, parseLines_cons, mkhConfigParseLine_eq, takeContent_noteSource,
      ← mkhConfigParseLine_eq, ih]

/-- What was in memory before a boot does not reach the table. -/
theorem resolveLines_setDefaults (cfg : MkhConfig) (lines : List (List Char)) :
    resolveLines (mkhConfigSetDefaults cfg) lines =
      resolveLines (mkhConfigSetDefaults blankConfig) lines := by
  have hblank : mkhConfigSetDefaults cfg =
      mkhConfigNoteSource (mkhConfigSetDefaults blankConfig) cfg.sourceIsFile := rfl
  unfold resolveLines
  rw [hblank, parseLines_noteSource]
  rfl

/-- A file that is read resolves to what its lines resolve to, written back or not. -/
theorem readAndParse_resolves (oracle : Call Path → Outcome) (cfg : MkhConfig) {files : Files Path}
    {text : List Char} (hfile : files .config = some text)
    (hread : (oracle (.read .config)).succeeds = true) :
    let after := ((readAndParseConfigFile cfg).run oracle files).2
    after.table = (resolveLines cfg (fileLines text)).table ∧
      after.skippedLines = (resolveLines cfg (fileLines text)).skippedLines := by
  unfold readAndParseConfigFile
  rw [Program.run_call]
  simp only [perform, hfile, hread, if_true, Bool.not_true, Bool.false_eq_true, if_false]
  split
  · rw [Program.run_bind]
    exact ⟨save_table oracle _ _, save_skippedLines oracle _ _⟩
  · exact ⟨rfl, rfl⟩

theorem readAndParse_table (oracle : Call Path → Outcome) (cfg : MkhConfig) {files : Files Path}
    {text : List Char} (hfile : files .config = some text)
    (hread : (oracle (.read .config)).succeeds = true) :
    ((readAndParseConfigFile (mkhConfigSetDefaults cfg)).run oracle files).2.table =
      tableOf text := by
  have hresolves := (readAndParse_resolves oracle (mkhConfigSetDefaults cfg) hfile hread).1
  rw [resolveLines_setDefaults] at hresolves
  exact hresolves

/-- **A boot that finds the file** resolves to the table of its text. -/
theorem boot_table (oracle : Call Path → Outcome) (cfg : MkhConfig) {files : Files Path}
    {text : List Char} (hfile : files .config = some text)
    (hmount : (oracle .mount).succeeds = true)
    (hread : (oracle (.read .config)).succeeds = true) :
    ((mkhStorageBootRead cfg).run oracle files).2.table = tableOf text := by
  unfold mkhStorageBootRead
  simp only [Program.run_call, perform, hmount, hfile, Option.isSome_some, Bool.not_true,
    Bool.false_eq_true, if_false]
  exact readAndParse_table oracle cfg hfile hread

/-- **A boot that finds no file** resolves to the table of the compiled-in text. -/
theorem boot_table_absent (cfg : MkhConfig) {files : Files Path} (hfile : files .config = none) :
    ((mkhStorageBootRead cfg).run (fun _ => .ok) files).2.table = tableOf defaultConfigText := by
  unfold mkhStorageBootRead
  simp only [Program.run_call, perform, hfile, Option.isSome_none, Bool.not_true, Outcome.succeeds,
    Bool.false_eq_true, if_false, Bool.not_false, if_true, Outcome.stored]
  exact readAndParse_table _ cfg (by simp) rfl

/-! ### The compiled-in bindings -/

/-- What a port is given when nothing was read for it. -/
def fallbackBindings (d : Device) (p : Port) : List Binding :=
  if p = mkhPortA then
    if d = 0 then [compiledInBinding .lsns] else if d = 1 then [compiledInBinding .rsns] else []
  else []

theorem applyFallback_bindings (cfg : MkhConfig) (d : Device) (p : Port) (input : InputSource)
    (d' : Device) (p' : Port) :
    ((applyFallback cfg d p input).table d' p').bindings =
      if (d' = d ∧ p' = p) ∧ (cfg.table d' p').bindings = [] then [compiledInBinding input]
      else (cfg.table d' p').bindings := by
  unfold applyFallback
  by_cases hempty : (cfg.table d p).bindings.length = 0
  · rw [if_pos hempty, MkhConfig.setPort_apply]
    by_cases hc : d' = d ∧ p' = p
    · obtain ⟨rfl, rfl⟩ := hc
      rw [if_pos ⟨rfl, rfl⟩, if_pos ⟨⟨rfl, rfl⟩, List.length_eq_zero_iff.mp hempty⟩]
    · rw [if_neg hc, if_neg fun h => hc h.1]
  · rw [if_neg hempty, if_neg]
    rintro ⟨⟨rfl, rfl⟩, hnil⟩
    exact hempty (List.length_eq_zero_iff.mpr hnil)

/-- **The fallback fills exactly the two ports it is for, and only when they are empty.** -/
theorem fallbacks_bindings (cfg : MkhConfig) (d : Device) (p : Port) :
    ((mkhConfigApplyCompiledInFallbacks cfg).table d p).bindings =
      if (cfg.table d p).bindings = [] then fallbackBindings d p
      else (cfg.table d p).bindings := by
  unfold mkhConfigApplyCompiledInFallbacks fallbackBindings
  simp only [applyFallback_bindings]
  by_cases hempty : (cfg.table d p).bindings = []
  · by_cases hp : p = mkhPortA
    · by_cases h0 : d = 0
      · simp [hp, h0]
      · by_cases h1 : d = 1 <;> simp [hp, h0, h1]
    · simp [hempty, hp]
  · simp [hempty]

/-! ### Reading a saved file -/

/-- The header's line. -/
def schemaLine : List Char := "# MK1CONFIG_SCHEMA_VERSION=3".toList

theorem fileLines_savedText (table : Table) :
    fileLines (savedText table) = schemaLine :: tableLines table := by
  have hheader : configSchemaHeader = schemaLine ++ ['\n'] := by decide
  rw [savedText, hheader, List.append_assoc, List.singleton_append,
    fileLines_cons _ (by decide), fileLines_tableText]

theorem lineContent_schemaLine : lineContent schemaLine = .ignored := by rfl

/-- **What is saved is what is read**, but for the mode of a stick axis and for an empty port that has
a compiled-in binding. -/
theorem tableOf_savedText {table : Table} (hwf : TableWellFormed table) (d : Device) (p : Port) :
    (tableOf (savedText table) d p).bindings =
      if (table d p).bindings = [] then fallbackBindings d p
      else (table d p).bindings.map Binding.onFile := by
  unfold tableOf resolveLines
  rw [fallbacks_bindings, fileLines_savedText, parseLines_cons, mkhConfigParseLine_eq,
    lineContent_schemaLine]
  have hread := (parseLines_tableLines hwf blankConfig).1 d p
  show (if ((parseLines (mkhConfigSetDefaults blankConfig) (tableLines table)).table d p).bindings
    = [] then _ else ((parseLines (mkhConfigSetDefaults blankConfig) (tableLines table)).table d
      p).bindings) = _
  rw [hread]
  simp only [List.map_eq_nil_iff]

end MK1Tank
