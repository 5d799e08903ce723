/-
Which bindings can be in the table.

A line of the file never yields a binding without an input, nor one past 100 percent,
and the compiled-in bindings are of that kind too.  So every table that is read is well
formed, whatever the file says, and the changes of the live table keep it so, as long as
the session that is pushed holds such bindings only.
-/
import MK1Tank.Proofs.Unassigned

namespace MK1Tank

open FileProgram CString

/-! ### What the parser yields -/

theorem findToken_input_ne_none {name : List Char} {input : InputSource}
    (h : findToken kInputTokens name = some input) : input ≠ .none := by
  obtain ⟨token, hmem, -, rfl⟩ := findToken_mem h
  have hall : ∀ token ∈ kInputTokens, token.2 ≠ .none := by decide
  exact hall token hmem

theorem parseMax_le {value : List Char} {v : Nat} (h : parseMax value = some v) : v ≤ 100 := by
  unfold parseMax at h
  split at h
  · split at h
    · cases h
    · rename_i hbounds
      obtain rfl := Option.some.inj h
      omega
  · cases h

theorem parseAttribute_wellFormed {b b' : Binding} {token : List Char} (hb : b.WellFormed)
    (h : parseAttribute b token = some b') : b'.WellFormed := by
  unfold parseAttribute at h
  split at h
  · cases h
  · split at h
    · split at h
      · obtain rfl := Option.some.inj h
        exact ⟨hb.input, hb.maxPercent⟩
      · split at h
        · obtain rfl := Option.some.inj h
          exact ⟨hb.input, hb.maxPercent⟩
        · cases h
    · split at h
      · obtain ⟨v, hmax, rfl⟩ := Option.map_eq_some_iff.mp h
        exact ⟨hb.input, parseMax_le hmax⟩
      · split at h
        · obtain rfl := Option.some.inj h
          exact hb
        · split at h
          · obtain ⟨mode, -, rfl⟩ := Option.map_eq_some_iff.mp h
            exact ⟨hb.input, hb.maxPercent⟩
          · cases h

theorem parseAttributes_wellFormed (tokens : List (List Char)) :
    ∀ {b b' : Binding}, b.WellFormed → tokens.foldlM parseAttribute b = some b' →
      b'.WellFormed := by
  induction tokens with
  | nil =>
    intro b b' hb h
    obtain rfl := Option.some.inj h
    exact hb
  | cons token rest ih =>
    intro b b' hb h
    rw [List.foldlM_cons, Option.bind_eq_bind, Option.bind_eq_some_iff] at h
    obtain ⟨b₁, hfirst, hrest⟩ := h
    exact ih (parseAttribute_wellFormed hb hfirst) hrest

theorem parseValue_wellFormed {value : List Char} {b : Binding} (h : parseValue value = some b) :
    b.WellFormed := by
  unfold parseValue at h
  split at h
  · cases h
  · rw [Option.bind_eq_bind, Option.bind_eq_some_iff] at h
    obtain ⟨input, hinput, hattributes⟩ := h
    refine parseAttributes_wellFormed _ ?_ hattributes
    exact ⟨findToken_input_ne_none hinput, Nat.le_refl 100⟩

/-- What a line binds, it binds well formed. -/
theorem lineContent_wellFormed {rawLine : List Char} {d : Device} {p : Port} {b : Binding}
    (h : lineContent rawLine = .binding d p b) : b.WellFormed := by
  have hassignment : ∀ key value, assignmentContent key value = .binding d p b →
      b.WellFormed := by
    intro key value h
    unfold assignmentContent at h
    rcases hkey : scanKey key with _ | ⟨hubNum, portLetter⟩
    · simp [hkey] at h
    rcases hdev : mkhDeviceProtocolIndex hubNum with _ | d'
    · simp [hkey, hdev] at h
    rcases hport : mkhPortFromLetter portLetter with _ | p'
    · simp [hkey, hdev, hport] at h
    rcases hvalue : parseValue value with _ | b'
    · simp [hkey, hvalue] at h
    · simp only [hkey, hdev, hport, hvalue, Option.bind_eq_bind, Option.bind_some, Option.pure_def,
        Option.getD_some, LineContent.binding.injEq] at h
      exact h.2.2 ▸ parseValue_wellFormed hvalue
  unfold lineContent at h
  simp only at h
  split at h
  · cases h
  · split at h
    · cases h
    · exact hassignment _ _ h

/-! ### Tables that are read -/

theorem takeContent_wellFormed {cfg : MkhConfig} {content : LineContent}
    (hcfg : TableWellFormed cfg.table)
    (hcontent : ∀ d p b, content = .binding d p b → b.WellFormed) :
    TableWellFormed (takeContent cfg content).table := by
  cases content with
  | ignored => exact hcfg
  | malformed => exact hcfg
  | binding d p b =>
    show TableWellFormed (takeBinding cfg d p b).table
    by_cases hroom : (cfg.table d p).bindings.length < mkhMaxBindingsPerPort
    · rw [takeBinding_room b hroom]
      intro d' p' b' hb'
      rw [appendBinding, MkhConfig.setPort_apply] at hb'
      split at hb'
      · rcases List.mem_append.mp hb' with h | h
        · exact hcfg d p b' h
        · rw [List.mem_singleton.mp h]
          exact hcontent d p b rfl
      · exact hcfg d' p' b' hb'
    · rw [takeBinding_full b hroom]
      exact hcfg

theorem parseLines_wellFormed (lines : List (List Char)) :
    ∀ {cfg : MkhConfig}, TableWellFormed cfg.table →
      TableWellFormed (parseLines cfg lines).table := by
  induction lines with
  | nil => intro cfg hcfg; exact hcfg
  | cons line rest ih =>
    intro cfg hcfg
    rw [parseLines_cons, mkhConfigParseLine_eq]
    exact ih (takeContent_wellFormed hcfg fun d p b h => lineContent_wellFormed h)

theorem fallbacks_wellFormed {cfg : MkhConfig} (hcfg : TableWellFormed cfg.table) :
    TableWellFormed (mkhConfigApplyCompiledInFallbacks cfg).table := by
  have hfallback : ∀ d p, ∀ b ∈ fallbackBindings d p, b.WellFormed := by decide
  intro d p b hb
  rw [fallbacks_bindings] at hb
  split at hb
  · exact hfallback d p b hb
  · exact hcfg d p b hb

theorem setDefaults_wellFormed (cfg : MkhConfig) :
    TableWellFormed (mkhConfigSetDefaults cfg).table := by
  intro d p b hb
  cases hb

/-- **Every table a reload resolves to is well formed**, whatever the file holds and however the
calls end. -/
theorem reload_wellFormed (oracle : FileOracle) (cfg : MkhConfig) (files : Files Path) :
    TableWellFormed ((mkhStorageReloadConfig cfg).run oracle files).2.table := by
  unfold mkhStorageReloadConfig readAndParseConfigFile
  rw [Program.run_call]
  simp only
  split
  · exact fallbacks_wellFormed (setDefaults_wellFormed cfg)
  · have hlines : ∀ lines,
        TableWellFormed (resolveLines (mkhConfigSetDefaults cfg) lines).table :=
      fun lines => fallbacks_wellFormed (parseLines_wellFormed lines (setDefaults_wellFormed cfg))
    split
    · rw [Program.run_bind, Program.run_done, save_table]
      exact hlines _
    · exact hlines _

/-! ### Changes of the live table -/

/-- A working copy that fits the array, with bindings the file could hold. -/
structure PendingPortEdit.Fits (edit : PendingPortEdit) : Prop where
  count : edit.bindingCount ≤ mkhMaxBindingsPerPort
  stored : ∀ i < edit.bindingCount, (edit.bindings i).WellFormed

/-- The sessions that a change pushes fit. -/
def TableChange.fits : TableChange → Prop
  | .push pending | .save pending _ _ => ∀ d p, (pending d p).Fits
  | .resetAll _ _ | .reload _ _ => True

theorem push_wellFormed {pending : PendingEdits} {s : Live} (hs : TableWellFormed s.config.table)
    (hpending : ∀ d p, (pending d p).Fits) :
    TableWellFormed (pushPendingSessionToLiveTable pending s).config.table := by
  intro d p b hb
  rw [push_bindings] at hb
  split at hb
  · obtain ⟨i, hi, rfl⟩ := List.mem_map.mp hb
    exact (hpending d p).stored i (by simp at hi; omega)
  · exact hs d p b hb

theorem TableChange.apply_wellFormed {s : Live} {c : TableChange}
    (hs : TableWellFormed s.config.table) (hc : c.fits) :
    TableWellFormed (c.apply s).config.table := by
  cases c with
  | push pending => exact push_wellFormed hs hc
  | save pending files oracle =>
    rw [TableChange.apply, Live.noteSave_table]
    exact push_wellFormed hs hc
  | resetAll files oracle =>
    rw [TableChange.apply, Live.noteSave_table]
    intro d p b hb
    have hnone : ((resetAllBindings s).config.table d p).bindings = [] :=
      wipeAllBindings_bindings s.config d p
    rw [hnone] at hb
    cases hb
  | reload files oracle => exact reload_wellFormed oracle s.config files

end MK1Tank
