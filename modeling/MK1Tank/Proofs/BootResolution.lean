/-
What a boot makes of a config file.

Which lines of a file are valid is a matter of their text alone, so the file can be
read off without the parser: the valid lines of each port, in order.  A port's list is
the first eight of them, a line that finds its port full is skipped like a malformed
one, and the compiled-in bindings come in where a port has no valid line at all.  What
such a table is written back as resolves to the same table, under a header that asks
for no second writing.
-/
import MK1Tank.Proofs.AxisModes
import MK1Tank.Proofs.TableInvariant

namespace MK1Tank

open CString FileProgram

/-! ### The valid lines of a port -/

/-- The binding a line gives a port. -/
def boundBy (d : Device) (p : Port) (line : List Char) : Option Binding :=
  match lineContent line with
  | .binding d' p' b => if d' = d ∧ p' = p then some b else none
  | .ignored | .malformed => none

/-- The bindings of the valid lines that address a port, in file order. -/
def validBindings (lines : List (List Char)) (d : Device) (p : Port) : List Binding :=
  lines.filterMap (boundBy d p)

def isRejected (line : List Char) : Bool :=
  match lineContent line with
  | .malformed => true
  | .ignored | .binding _ _ _ => false

/-- The lines of a file that are skipped: the rejected ones, and every port's valid lines beyond the
cap. -/
def skippedOf (lines : List (List Char)) : Nat :=
  lines.countP isRejected +
    ∑ d : Device, ∑ p : Port, ((validBindings lines d p).length - mkhMaxBindingsPerPort)

theorem validBindings_concat (front : List (List Char)) (line : List Char) (d : Device) (p : Port) :
    validBindings (front ++ [line]) d p = validBindings front d p ++ (boundBy d p line).toList := by
  unfold validBindings
  rw [List.filterMap_append]
  cases h : boundBy d p line <;> simp [h]

theorem takeBinding_bindings (cfg : MkhConfig) (d : Device) (p : Port) (b : Binding)
    (hroom : (cfg.table d p).bindings.length < mkhMaxBindingsPerPort) (d' : Device) (p' : Port) :
    ((takeBinding cfg d p b).table d' p').bindings =
      (cfg.table d' p').bindings ++ if d = d' ∧ p = p' then [b] else [] := by
  rw [takeBinding_room b hroom, appendBinding, MkhConfig.setPort_apply]
  by_cases hc : d' = d ∧ p' = p
  · obtain ⟨rfl, rfl⟩ := hc
    simp
  · have hc' : ¬ (d = d' ∧ p = p') := fun h => hc ⟨h.1.symm, h.2.symm⟩
    simp [hc, hc']

/-- One port gets one more entry: what all ports are over the cap by grows when that one was full. -/
private theorem sum_over_cap (count : Device → Port → Nat) (d : Device) (p : Port) :
    ∑ d', ∑ p', (count d' p' + (if d = d' ∧ p = p' then 1 else 0) - mkhMaxBindingsPerPort) =
      ∑ d', ∑ p', (count d' p' - mkhMaxBindingsPerPort) +
        if mkhMaxBindingsPerPort ≤ count d p then 1 else 0 := by
  have hcell : ∀ d' p', count d' p' + (if d = d' ∧ p = p' then 1 else 0) - mkhMaxBindingsPerPort =
      (count d' p' - mkhMaxBindingsPerPort) +
        if d = d' then if p = p' then if mkhMaxBindingsPerPort ≤ count d p then 1 else 0 else 0
        else 0 := by
    intro d' p'
    by_cases hd : d = d'
    · by_cases hp : p = p'
      · subst hd hp
        simp only [and_self, if_true]
        split <;> omega
      · simp [hp]
    · simp [hd]
  simp only [hcell, Finset.sum_add_distrib]
  congr 1
  rw [Finset.sum_eq_single_of_mem d (Finset.mem_univ d)]
  · simp
  · intro d' _ hd
    simp [hd.symm]

/-- A line that binds nothing adds to no port. -/
theorem validBindings_unbound {line : List Char} (h : ∀ d p, boundBy d p line = none)
    (front : List (List Char)) (d : Device) (p : Port) :
    validBindings (front ++ [line]) d p = validBindings front d p := by
  rw [validBindings_concat, h]
  exact List.append_nil _

theorem validBindings_bound {line : List Char} {d : Device} {p : Port} {b : Binding}
    (h : lineContent line = .binding d p b) (front : List (List Char)) (d' : Device) (p' : Port) :
    validBindings (front ++ [line]) d' p' =
      validBindings front d' p' ++ if d = d' ∧ p = p' then [b] else [] := by
  rw [validBindings_concat]
  by_cases hc : d = d' ∧ p = p' <;> simp [boundBy, h, hc]

theorem countP_isRejected_concat (front : List (List Char)) (line : List Char) :
    (front ++ [line]).countP isRejected =
      front.countP isRejected + if isRejected line then 1 else 0 := by
  rw [List.countP_append, List.countP_singleton]

theorem skippedOf_unbound {line : List Char} (h : ∀ d p, boundBy d p line = none)
    (front : List (List Char)) :
    skippedOf (front ++ [line]) = skippedOf front + if isRejected line then 1 else 0 := by
  simp only [skippedOf, validBindings_unbound h, countP_isRejected_concat]
  omega

/-- A valid line is skipped when its port is full. -/
theorem skippedOf_bound {line : List Char} {d : Device} {p : Port} {b : Binding}
    (h : lineContent line = .binding d p b) (front : List (List Char)) :
    skippedOf (front ++ [line]) =
      skippedOf front +
        if mkhMaxBindingsPerPort ≤ (validBindings front d p).length then 1 else 0 := by
  have hnot : isRejected line = false := by simp [isRejected, h]
  have hlength : ∀ d' p', (validBindings (front ++ [line]) d' p').length =
      (validBindings front d' p').length + if d = d' ∧ p = p' then 1 else 0 := by
    intro d' p'
    rw [validBindings_bound h, List.length_append]
    split <;> rfl
  unfold skippedOf
  simp only [hlength, countP_isRejected_concat, hnot, Bool.false_eq_true, if_false, Nat.add_zero]
  rw [sum_over_cap (fun d' p' => (validBindings front d' p').length), Nat.add_assoc]

/-- **What has been read of a file.**  The invariant of the reading loop. -/
structure ReadSoFar (front : List (List Char)) (cfg : MkhConfig) : Prop where
  bindings : ∀ d p, (cfg.table d p).bindings = (validBindings front d p).take mkhMaxBindingsPerPort
  skipped : cfg.skippedLines = skippedOf front

/-- **What one line does**, wherever in the file it stands. -/
structure LineEffect (front : List (List Char)) (line : List Char) (before after : MkhConfig) : Prop where
  ignored : lineContent line = .ignored → after = before
  rejected : lineContent line = .malformed →
    after.table = before.table ∧ after.skippedLines = before.skippedLines + 1
  overCap : ∀ d p b, lineContent line = .binding d p b →
    mkhMaxBindingsPerPort ≤ (validBindings front d p).length →
    after.table = before.table ∧ after.skippedLines = before.skippedLines + 1
  valid : ∀ d p b, lineContent line = .binding d p b →
    (validBindings front d p).length < mkhMaxBindingsPerPort →
    (∀ d' p', (after.table d' p').bindings =
      (before.table d' p').bindings ++ if d = d' ∧ p = p' then [b] else []) ∧
    after.skippedLines = before.skippedLines

/-- A port is full once it has had that many valid lines. -/
theorem ReadSoFar.full_iff {front : List (List Char)} {cfg : MkhConfig} (h : ReadSoFar front cfg)
    (d : Device) (p : Port) :
    (cfg.table d p).bindings.length < mkhMaxBindingsPerPort ↔
      (validBindings front d p).length < mkhMaxBindingsPerPort := by
  rw [h.bindings, List.length_take]
  omega

theorem ReadSoFar.lineEffect {front : List (List Char)} {cfg : MkhConfig} (h : ReadSoFar front cfg)
    (line : List Char) : LineEffect front line cfg (mkhConfigParseLine cfg line) := by
  rw [mkhConfigParseLine_eq]
  refine ⟨?_, ?_, ?_, ?_⟩
  · intro hline
    rw [hline]
    rfl
  · intro hline
    rw [hline]
    exact ⟨rfl, rfl⟩
  · intro d p b hline hfull
    have hroom : ¬ (cfg.table d p).bindings.length < mkhMaxBindingsPerPort := by
      rw [h.full_iff]
      omega
    rw [hline, takeContent, takeBinding_full b hroom]
    exact ⟨rfl, rfl⟩
  · intro d p b hline hfits
    have hroom := (h.full_iff d p).mpr hfits
    rw [hline]
    refine ⟨takeBinding_bindings cfg d p b hroom, ?_⟩
    rw [takeContent, takeBinding_room b hroom]
    rfl

theorem ReadSoFar.concat {front : List (List Char)} {cfg : MkhConfig} (h : ReadSoFar front cfg)
    (line : List Char) : ReadSoFar (front ++ [line]) (mkhConfigParseLine cfg line) := by
  have heffect := h.lineEffect line
  cases hline : lineContent line with
  | ignored =>
    have hunbound : ∀ d p, boundBy d p line = none := fun d p => by simp [boundBy, hline]
    have hnot : ¬ isRejected line = true := by simp [isRejected, hline]
    rw [heffect.ignored hline]
    refine ⟨fun d p => ?_, ?_⟩
    · rw [validBindings_unbound hunbound, h.bindings]
    · rw [skippedOf_unbound hunbound, if_neg hnot, h.skipped, Nat.add_zero]
  | malformed =>
    have hunbound : ∀ d p, boundBy d p line = none := fun d p => by simp [boundBy, hline]
    have hrejected : isRejected line = true := by simp [isRejected, hline]
    obtain ⟨htable, hskipped⟩ := heffect.rejected hline
    refine ⟨fun d p => ?_, ?_⟩
    · rw [htable, validBindings_unbound hunbound, h.bindings]
    · rw [hskipped, skippedOf_unbound hunbound, if_pos hrejected, h.skipped]
  | binding d p b =>
    by_cases hfull : mkhMaxBindingsPerPort ≤ (validBindings front d p).length
    · obtain ⟨htable, hskipped⟩ := heffect.overCap d p b hline hfull
      refine ⟨fun d' p' => ?_, by rw [hskipped, h.skipped, skippedOf_bound hline, if_pos hfull]⟩
      rw [htable, h.bindings, validBindings_bound hline]
      by_cases hc : d = d' ∧ p = p'
      · obtain ⟨rfl, rfl⟩ := hc
        exact (List.take_append_of_le_length hfull).symm
      · rw [if_neg hc, List.append_nil]
    · obtain ⟨hbindings, hskipped⟩ := heffect.valid d p b hline (Nat.lt_of_not_le hfull)
      refine ⟨fun d' p' => ?_,
        by rw [hskipped, h.skipped, skippedOf_bound hline, if_neg hfull, Nat.add_zero]⟩
      rw [hbindings, h.bindings, validBindings_bound hline]
      by_cases hc : d = d' ∧ p = p'
      · obtain ⟨rfl, rfl⟩ := hc
        have hshort : (validBindings front d p ++ [b]).length ≤ mkhMaxBindingsPerPort := by
          rw [List.length_append, List.length_singleton]
          omega
        rw [if_pos ⟨rfl, rfl⟩, List.take_of_length_le hshort, List.take_of_length_le (by omega)]
      · rw [if_neg hc, List.append_nil, List.append_nil]

/-- **The reading loop**, after any number of lines. -/
theorem parseLines_readSoFar (cfg : MkhConfig) (lines : List (List Char)) :
    ReadSoFar lines (parseLines (mkhConfigSetDefaults cfg) lines) := by
  induction lines using List.reverseRecOn with
  | nil => exact ⟨fun _ _ => rfl, by simp [skippedOf, validBindings, parseLines, mkhConfigSetDefaults]⟩
  | append_singleton front line ih =>
    rw [parseLines_append]
    exact ih.concat line

/-! ### What a boot resolves a file to -/

theorem fallbacks_skippedLines (cfg : MkhConfig) :
    (mkhConfigApplyCompiledInFallbacks cfg).skippedLines = cfg.skippedLines := by
  have hone : ∀ cfg d p input, (applyFallback cfg d p input).skippedLines = cfg.skippedLines := by
    intro cfg d p input
    unfold applyFallback
    split <;> rfl
  unfold mkhConfigApplyCompiledInFallbacks
  rw [hone, hone]

theorem resolveLines_eq (cfg : MkhConfig) (lines : List (List Char)) :
    (∀ d p, ((resolveLines (mkhConfigSetDefaults cfg) lines).table d p).bindings =
      if validBindings lines d p = [] then fallbackBindings d p
      else (validBindings lines d p).take mkhMaxBindingsPerPort) ∧
    (resolveLines (mkhConfigSetDefaults cfg) lines).skippedLines = skippedOf lines := by
  obtain ⟨hbindings, hskipped⟩ := parseLines_readSoFar cfg lines
  unfold resolveLines
  refine ⟨fun d p => ?_, (fallbacks_skippedLines _).trans hskipped⟩
  rw [fallbacks_bindings]
  show (if ((parseLines (mkhConfigSetDefaults cfg) lines).table d p).bindings = [] then _
    else ((parseLines (mkhConfigSetDefaults cfg) lines).table d p).bindings) = _
  rw [hbindings]
  simp only [List.take_eq_nil_iff, OfNat.ofNat_ne_zero, false_or]

/-- A boot gets to open and read the config file, and this text is in it: what was there, or what was
stored of the compiled-in default. -/
structure BootReads (oracle : Call Path → Outcome) (files : Files Path) (text : List Char) : Prop where
  mounts : (oracle .mount).succeeds = true
  reads : (oracle (.read .config)).succeeds = true
  found : files .config = some text ∨
    (files .config = none ∧ (oracle (.openWrite .config)).succeeds = true ∧
      (oracle (.append .config defaultConfigText)).stored defaultConfigText = text)

theorem boot_resolves {oracle : Call Path → Outcome} {files : Files Path} {text : List Char}
    (h : BootReads oracle files text) (cfg : MkhConfig) :
    let after := ((mkhStorageBootRead cfg).run oracle files).2
    after.table = (resolveLines (mkhConfigSetDefaults cfg) (fileLines text)).table ∧
      after.skippedLines =
        (resolveLines (mkhConfigSetDefaults cfg) (fileLines text)).skippedLines := by
  unfold mkhStorageBootRead
  rcases h.found with hfile | ⟨hfile, hopen, hstored⟩
  · simp only [Program.run_call, perform, h.mounts, hfile, Option.isSome_some, Bool.not_true,
      Bool.false_eq_true, if_false]
    exact readAndParse_resolves oracle _ hfile h.reads
  · simp only [Program.run_call, perform, h.mounts, hfile, hopen, Option.isSome_none, Bool.not_true,
      Bool.false_eq_true, if_false, Bool.not_false, if_true]
    exact readAndParse_resolves oracle _ (by simp [hstored]) h.reads

/-- **Boot resolution.**  Whatever was in memory, a boot that reads a file gives each port the bindings
of its first valid lines, up to the cap, and its compiled-in binding when there is no valid line for it;
it counts every rejected and every over-cap line, and each line acts on its own. -/
theorem boot_resolution {oracle : Call Path → Outcome} {files : Files Path} {text : List Char}
    (h : BootReads oracle files text) (cfg : MkhConfig) :
    let lines := fileLines text
    let after := ((mkhStorageBootRead cfg).run oracle files).2
    (∀ d p, (after.table d p).bindings =
      if validBindings lines d p = [] then fallbackBindings d p
      else (validBindings lines d p).take mkhMaxBindingsPerPort) ∧
    after.skippedLines = skippedOf lines ∧
    ∀ front line back, lines = front ++ line :: back →
      let before := parseLines (mkhConfigSetDefaults cfg) front
      LineEffect front line before (mkhConfigParseLine before line) := by
  obtain ⟨htable, hskipped⟩ := boot_resolves h cfg
  obtain ⟨hbindings, hcount⟩ := resolveLines_eq cfg (fileLines text)
  refine ⟨fun d p => ?_, hskipped.trans hcount, fun front line back _ => ?_⟩
  · rw [htable]
    exact hbindings d p
  · exact (parseLines_readSoFar cfg front).lineEffect line

/-- A file with a comment, a line no parser could take, and a lower-case line for hub 1's port A. -/
def handEditedText : List Char :=
  "# mine\nHUB4_PORT_A = A\nHUB1_PORT_a = rt max=+50\n".toList

theorem boot_resolution_hand_edited :
    let after := ((mkhStorageBootRead blankConfig).run (fun _ => .ok)
      fun _ => some handEditedText).2
    (after.table 0 0).bindings = [⟨.rt, false, 50, .proportional⟩] ∧
      (after.table 1 0).bindings = [compiledInBinding .rsns] ∧ after.skippedLines = 1 := by
  have hreads : BootReads (fun _ => .ok) (fun _ => some handEditedText) handEditedText :=
    ⟨rfl, rfl, Or.inl rfl⟩
  obtain ⟨hbindings, hskipped, -⟩ := boot_resolution hreads blankConfig
  refine ⟨(hbindings 0 0).trans ?_, (hbindings 1 0).trans ?_, hskipped.trans ?_⟩ <;> decide +kernel

/-! ### Booting twice -/

/-- The binding of a file agrees with the one it was written for. -/
theorem SameBinding.onFile (b : Binding) : SameBinding b b.onFile := by
  rw [onFile_eq]
  split
  · rename_i haxis
    exact ⟨rfl, rfl, rfl, fun hne => absurd haxis hne⟩
  · exact .refl b

/-- A boot that finds this text writes it back. -/
def WrittenBack (text : List Char) : Prop :=
  0 ≤ fileSchemaVersion (fileLines text) ∧
    fileSchemaVersion (fileLines text) < configSchemaVersionCurrent ∧
    (tableText (tableOf text)).length < saveBufSize

instance (text : List Char) : Decidable (WrittenBack text) :=
  inferInstanceAs (Decidable (_ ∧ _ ∧ _))

/-- The files as a boot finds them, the config file written first where there was none. -/
def seeded (files : Files Path) : Files Path :=
  if (files .config).isSome then files
  else Function.update files .config (some defaultConfigText)

theorem exists_seeded (files : Files Path) : ∃ text, seeded files .config = some text := by
  unfold seeded
  cases hfile : files .config with
  | some text => exact ⟨text, by simp [hfile]⟩
  | none => exact ⟨defaultConfigText, by simp⟩

theorem boot_eq_seeded (cfg : MkhConfig) (files : Files Path) :
    (mkhStorageBootRead cfg).run (fun _ => .ok) files =
      (readAndParseConfigFile (mkhConfigSetDefaults cfg)).run (fun _ => .ok) (seeded files) := by
  unfold mkhStorageBootRead seeded
  cases hfile : files .config <;>
    simp [Program.run_call, perform, hfile, Outcome.succeeds, Outcome.stored]

theorem resolveLines_table (cfg : MkhConfig) (text : List Char) :
    (resolveLines (mkhConfigSetDefaults cfg) (fileLines text)).table = tableOf text :=
  congrArg MkhConfig.table (resolveLines_setDefaults cfg _)

/-- When a boot does not write the file back it makes no call that writes. -/
theorem readAndParse_calls {files : Files Path} {text : List Char} (hfile : files .config = some text)
    (h : ¬ WrittenBack text) (cfg : MkhConfig) :
    ∀ c ∈ (readAndParseConfigFile (mkhConfigSetDefaults cfg)).calls (fun _ => .ok) files,
      c.writes = false := by
  have htable := resolveLines_table cfg text
  unfold readAndParseConfigFile
  rw [Program.calls_call]
  simp only [perform, hfile, Outcome.succeeds, if_true, Bool.not_true, Bool.false_eq_true, if_false]
  split
  · rename_i hversion
    have hlong : saveBufSize ≤ (tableText (tableOf text)).length := by
      refine Nat.not_lt.mp fun hfits => h ⟨hversion.1, hversion.2, hfits⟩
    unfold mkhStorageSaveConfig
    rw [htable, serialize_of_not_fits hlong]
    simp [Program.bind, Program.calls, Call.writes]
  · simp [Program.calls, Call.writes]

theorem readAndParse_written {files : Files Path} {text : List Char} (hfile : files .config = some text)
    (h : WrittenBack text) (cfg : MkhConfig) :
    ((readAndParseConfigFile (mkhConfigSetDefaults cfg)).run (fun _ => .ok) files).1 .config =
      some (savedText (tableOf text)) := by
  obtain ⟨hlow, hhigh, hfits⟩ := h
  have htable := resolveLines_table cfg text
  unfold readAndParseConfigFile
  rw [Program.run_call]
  simp only [perform, hfile, Outcome.succeeds, if_true, Bool.not_true, Bool.false_eq_true, if_false]
  rw [if_pos ⟨hlow, hhigh⟩, Program.run_bind]
  rcases save_run (fun _ => .ok) (resolveLines (mkhConfigSetDefaults cfg) (fileLines text)) files
    with ⟨hgives, -, -⟩ | ⟨-, hrename, -, -⟩ | ⟨-, -, -, hstored⟩
  · rw [htable] at hgives
    rcases hgives with hlong | hopen | ⟨-, hremove⟩
    · exact absurd hfits (Nat.not_lt.mpr hlong)
    · cases hopen
    · cases hremove
  · cases hrename
  · rw [htable] at hstored
    exact hstored

theorem tableOf_wellFormed (text : List Char) : TableWellFormed (tableOf text) :=
  fallbacks_wellFormed (parseLines_wellFormed _ (setDefaults_wellFormed blankConfig))

/-- A resolved table leaves no port without the compiled-in binding it is due. -/
theorem fallback_of_empty {text : List Char} {d : Device} {p : Port}
    (h : (tableOf text d p).bindings = []) : fallbackBindings d p = [] := by
  unfold tableOf resolveLines at h
  rw [fallbacks_bindings] at h
  split at h
  · exact h
  · contradiction

/-- **What is written back resolves to the same table.** -/
theorem tableOf_writtenBack (text : List Char) (d : Device) (p : Port) :
    (tableOf (savedText (tableOf text)) d p).bindings =
      (tableOf text d p).bindings.map Binding.onFile := by
  rw [tableOf_savedText (tableOf_wellFormed text)]
  split
  · rename_i hempty
    rw [fallback_of_empty hempty, hempty]
    rfl
  · rfl

/-- A text with the current header is not written back. -/
theorem not_writtenBack_saved (table : Table) : ¬ WrittenBack (savedText table) := by
  have hversion : parseSchemaVersion schemaLine = 3 := by decide
  rintro ⟨-, hold, -⟩
  rw [fileLines_savedText, fileSchemaVersion, hversion] at hold
  exact absurd hold (by decide)

/-- A boot that finds a file it does not write back makes no call that writes. -/
theorem boot_calls {files : Files Path} {text : List Char} (hfile : files .config = some text)
    (h : ¬ WrittenBack text) (cfg : MkhConfig) :
    ∀ c ∈ (mkhStorageBootRead cfg).calls (fun _ => .ok) files, c.writes = false := by
  unfold mkhStorageBootRead
  simp only [Program.calls_call, perform, hfile, Outcome.succeeds, Option.isSome_some, Bool.not_true,
    Bool.false_eq_true, if_false, List.mem_cons, forall_eq_or_imp]
  exact ⟨rfl, rfl, readAndParse_calls hfile h cfg⟩

/-- **A second boot changes nothing.**  It resolves every port to the list of the first boot, the mode
of a stick axis apart, and makes no call that writes, whether the first boot wrote the file back or
not. -/
theorem boot_twice (cfg cfg' : MkhConfig) (files : Files Path) :
    let first := (mkhStorageBootRead cfg).run (fun _ => .ok) files
    let second := (mkhStorageBootRead cfg').run (fun _ => .ok) first.1
    SameBesidesAxisModes first.2.table second.2.table ∧ second.1 = first.1 ∧
      ∀ c ∈ (mkhStorageBootRead cfg').calls (fun _ => .ok) first.1, c.writes = false := by
  obtain ⟨text, hseeded⟩ := exists_seeded files
  have hfirst : ((mkhStorageBootRead cfg).run (fun _ => .ok) files).2.table = tableOf text := by
    rw [boot_eq_seeded]
    exact readAndParse_table _ cfg hseeded rfl
  -- What the first boot leaves is a text that no boot writes back, of the same table.
  obtain ⟨text', hleft, hunwritten, hsame⟩ : ∃ text',
      ((mkhStorageBootRead cfg).run (fun _ => .ok) files).1 .config = some text' ∧
      ¬ WrittenBack text' ∧ SameBesidesAxisModes (tableOf text) (tableOf text') := by
    rw [boot_eq_seeded]
    by_cases hback : WrittenBack text
    · refine ⟨_, readAndParse_written hseeded hback cfg, not_writtenBack_saved _, fun d p => ?_⟩
      rw [tableOf_writtenBack, List.forall₂_map_right_iff, List.forall₂_same]
      exact fun b _ => SameBinding.onFile b
    · refine ⟨text, ?_, hback, fun d p => List.forall₂_same.mpr fun b _ => SameBinding.refl b⟩
      rw [Program.run_of_not_writes _ _ _ (readAndParse_calls hseeded hback cfg), hseeded]
  have hcalls := boot_calls hleft hunwritten cfg'
  refine ⟨?_, Program.run_of_not_writes _ _ _ hcalls, hcalls⟩
  rw [hfirst, boot_table _ cfg' hleft rfl rfl]
  exact hsame

end MK1Tank
