/-
What the touch driver makes of its interrupts.

A run is watched for what the glass did and which of it the driver saw.  The finger's
transitions are numbered, so that an odd number is a finger-down, and a sample is the
number of the transition it came after.  The driver keeps one bit of the last sample and
one bit of what came since.

The flag goes down before the read, which is right when an edge comes during the read and
wrong when the read fails: the edge is gone, and until the next one the driver goes on
with what it saw before.  And as a sample is one bit, a release and a new press between
two samples look like a finger that stayed.  Along the runs in which neither happens the
driver keeps its contract, and along no others.
-/
import MK1Tank.Firmware.Touch

namespace MK1Tank

open Runs

/-! ### Watching a run -/

/-- The driver, and what a run so far has come to. -/
structure TouchWatch where
  touch : Touch
  /-- The finger's transitions so far; the finger is down after an odd number of them. -/
  turns : Nat
  /-- The poll under way began after the last transition. -/
  begun : Bool
  /-- A poll begun after the last transition has returned, and its read did not fail. -/
  settled : Bool
  /-- An interrupt was taken by a read that failed, and no later read has taken one up. -/
  owed : Bool
  /-- The transitions before the read of the poll under way. -/
  sample : Nat
  /-- The transitions before the last read that a poll returned with. -/
  lastSample : Nat
  /-- The release the finger is in was taken by a read that failed, and was not sampled since. -/
  lostRelease : Bool
  /-- The finger-downs that came after such a release. -/
  orphans : List Nat
  /-- The finger-downs that were sampled, once for each poll that did. -/
  sampledDowns : List Nat
  /-- The finger-downs that were reported, once for each report. -/
  reported : List Nat

namespace TouchWatch

/-- The finger's actual state. -/
def finger (w : TouchWatch) : Bool := w.touch.chip.pressed

/-- What a change of the registers adds to the watch: nothing, unless the finger went down or up. -/
def noteFinger (w : TouchWatch) (regs : TouchRegs) : TouchWatch :=
  if regs.pressed = w.finger then w
  else
    { w with
      turns := w.turns + 1
      begun := false
      settled := false
      lostRelease := false
      orphans := if regs.pressed ∧ w.lostRelease then (w.turns + 1) :: w.orphans else w.orphans }

/-- A poll begins, or returns at once when it finds no interrupt. -/
def noteEnter (w : TouchWatch) : TouchWatch :=
  if w.touch.phase ≠ .outside then w
  else if w.touch.touchReady ∧ w.touch.touchIntFlag then { w with begun := true }
  else { w with settled := true }

/-- A read takes up what is pending. -/
def noteClear (w : TouchWatch) : TouchWatch :=
  match w.touch.phase with
  | .taken => { w with owed := false }
  | _ => w

def noteRead (w : TouchWatch) (reply : WireReply) : TouchWatch :=
  match w.touch.phase with
  | .reading =>
    match cst816ReadRegs w.touch.chip reply with
    | none =>
      { w with
        owed := true
        lostRelease := w.lostRelease || (!w.finger && !w.touch.touchIntFlag) }
    | some _ =>
      { w with
        sample := w.turns
        lostRelease := w.lostRelease && w.finger }
  | _ => w

def noteReturn (w : TouchWatch) : TouchWatch :=
  match w.touch.phase with
  | .got buf =>
    { w with
      settled := w.settled || w.begun
      lastSample := w.sample
      sampledDowns := if buf.pressed then w.sample :: w.sampledDowns else w.sampledDowns
      reported :=
        if (touchSample w.touch.wasPressed buf).2.isSome then w.sample :: w.reported
        else w.reported }
  | _ => w

def note (w : TouchWatch) : TouchStep → TouchWatch
  | .finger regs => w.noteFinger regs
  | .pollEnter => w.noteEnter
  | .pollClear => w.noteClear
  | .pollRead reply => w.noteRead reply
  | .pollReturn => w.noteReturn

/-- One step of the driver, watched. -/
def step (w : TouchWatch) (i : TouchStep) : TouchWatch :=
  { w.note i with touch := w.touch.step i }

def boot : TouchWatch where
  touch := touchBoot
  turns := 0
  begun := false
  settled := false
  owed := false
  sample := 0
  lastSample := 0
  lostRelease := false
  orphans := []
  sampledDowns := []
  reported := []

end TouchWatch

/-- The watch after a run from start-up. -/
def watched (steps : List TouchStep) : TouchWatch := after TouchWatch.step .boot steps

/-- What the driver is to keep. -/
structure TouchContract (w : TouchWatch) : Prop where
  /-- After a poll made with a working bus since the last transition, `mkh_touch_is_pressed` is the
  finger's state. -/
  accurate : w.settled = true → mkhTouchIsPressed w.touch = w.finger
  /-- A finger-down that was sampled, after a release that was sampled or pending, was reported
  once. -/
  once : ∀ k ∈ w.sampledDowns, k ∉ w.orphans → w.reported.count k = 1
  /-- An interrupt whose read failed is still pending. -/
  kept : w.owed = true → w.touch.touchIntFlag = true

/-- A failing read leaves an interrupt behind it, since an edge came after the flag went down; and a
sample that finds the finger down again finds the press that the last sample found. -/
def TouchUndisturbed (w : TouchWatch) : TouchStep → Prop
  | .pollRead reply =>
    w.touch.phase = .reading → cst816ReadRegs w.touch.chip reply = none →
      w.touch.touchIntFlag = true
  | .pollReturn => ∀ buf, w.touch.phase = .got buf → buf.pressed = true →
      w.touch.wasPressed = true → w.sample = w.lastSample
  | _ => True

/-- What a list of samples and a list of reports are to each other after the last sample: what was
sampled was reported once, and nothing else was. -/
structure SeenDowns (last : Nat) (downs reports : List Nat) : Prop where
  sampled : ∀ k ∈ downs, k ≤ last ∧ reports.count k = 1
  seen : last % 2 = 1 → last ∈ downs
  reported : ∀ k ∈ reports, k ∈ downs

/-- What holds of a block that was read, until the poll returns. -/
structure TouchGot (w : TouchWatch) (buf : TouchRegs) : Prop where
  last_le : w.lastSample ≤ w.sample
  sample_le : w.sample ≤ w.turns
  pressed : buf.pressed = decide (w.sample % 2 = 1)
  synced : w.touch.touchIntFlag = false → w.sample = w.turns
  since : w.begun = true ∨ w.settled = true → w.sample = w.turns

/-- What holds along an undisturbed run. -/
structure TouchInv (w : TouchWatch) : Prop where
  ready : w.touch.touchReady = true
  finger : w.finger = decide (w.turns % 2 = 1)
  pressed : w.touch.wasPressed = decide (w.lastSample % 2 = 1)
  last_le : w.lastSample ≤ w.turns
  /-- With no interrupt pending the last sample is what the finger does. -/
  synced : w.touch.phase = .outside → w.touch.touchIntFlag = false → w.lastSample = w.turns
  taken : w.touch.phase = .taken → w.touch.touchIntFlag = true
  got : ∀ buf, w.touch.phase = .got buf → TouchGot w buf
  settled : w.settled = true → w.lastSample = w.turns
  owed : w.owed = true → w.touch.touchIntFlag = true
  noLoss : w.lostRelease = false ∧ w.orphans = []
  downs : SeenDowns w.lastSample w.sampledDowns w.reported

theorem TouchInv.contract {w : TouchWatch} (h : TouchInv w) : TouchContract w where
  accurate := by
    intro hsettled
    rw [mkhTouchIsPressed, h.pressed, h.finger, h.settled hsettled]
  once := fun k hk _ => (h.downs.sampled k hk).2
  kept := h.owed

theorem touchInv_boot : TouchInv .boot where
  ready := rfl
  finger := rfl
  pressed := rfl
  last_le := Nat.le_refl 0
  synced := fun _ _ => rfl
  taken := fun h => by cases h
  got := fun buf h => by cases h
  settled := fun h => by cases h
  owed := fun h => by cases h
  noLoss := ⟨rfl, rfl⟩
  downs :=
    { sampled := fun k hk => by cases hk
      seen := fun h => by cases h
      reported := fun k hk => by cases hk }

/-! ### One step -/

theorem bool_eq_turn {b c : Bool} {n : Nat} (hc : c = decide (n % 2 = 1)) (hne : b ≠ c) :
    b = decide ((n + 1) % 2 = 1) := by
  have hflip : b = !c := by cases b <;> cases c <;> simp_all
  rw [hflip, hc, ← decide_not]
  exact decide_eq_decide.mpr (by omega)

theorem TouchInv.finger_step {w : TouchWatch} (h : TouchInv w) (regs : TouchRegs) :
    TouchInv (w.step (.finger regs)) := by
  by_cases hsame : regs.pressed = w.finger
  · -- the controller pulled its line without a transition
    have hstep : w.step (.finger regs) = { w with touch := w.touch.step (.finger regs) } := by
      simp [TouchWatch.step, TouchWatch.note, TouchWatch.noteFinger, hsame]
    rw [hstep]
    exact { h with
      ready := h.ready
      finger := hsame.trans h.finger
      pressed := h.pressed
      synced := fun _ hflag => by cases hflag
      taken := fun _ => rfl
      got := fun buf hgot => { h.got buf hgot with synced := fun hflag => by cases hflag }
      owed := fun _ => rfl }
  · have hstep : w.step (.finger regs) = { w with
        touch := w.touch.step (.finger regs)
        turns := w.turns + 1
        begun := false
        settled := false
        lostRelease := false
        orphans := [] } := by
      simp [TouchWatch.step, TouchWatch.note, TouchWatch.noteFinger, hsame, h.noLoss.1, h.noLoss.2]
    rw [hstep]
    exact { h with
      ready := h.ready
      finger := bool_eq_turn h.finger hsame
      pressed := h.pressed
      last_le := h.last_le.trans (Nat.le_succ _)
      synced := fun _ hflag => by cases hflag
      taken := fun _ => rfl
      got := fun buf hgot => { h.got buf hgot with
        sample_le := (h.got buf hgot).sample_le.trans (Nat.le_succ _)
        synced := fun hflag => by cases hflag
        since := fun hsince => by simp at hsince }
      settled := fun hsettled => by cases hsettled
      owed := fun _ => rfl
      noLoss := ⟨rfl, rfl⟩ }

theorem TouchInv.enter_step {w : TouchWatch} (h : TouchInv w) : TouchInv (w.step .pollEnter) := by
  by_cases hphase : w.touch.phase = .outside
  · cases hflag : w.touch.touchIntFlag with
    | true =>
      have hstep : w.step .pollEnter = { w with
          touch := { w.touch with phase := .taken }
          begun := true } := by
        simp [TouchWatch.step, TouchWatch.note, TouchWatch.noteEnter, Touch.step, pollEnter, hphase,
          hflag, h.ready]
      rw [hstep]
      exact { h with
        synced := fun hout => by cases hout
        taken := fun _ => hflag
        got := fun buf hgot => by cases hgot }
    | false =>
      have hstep : w.step .pollEnter = { w with
          touch := { w.touch with polled := none }
          settled := true } := by
        simp [TouchWatch.step, TouchWatch.note, TouchWatch.noteEnter, Touch.step, pollEnter, hphase,
          hflag, h.ready]
      rw [hstep]
      exact { h with
        got := fun buf hgot => absurd (hphase.symm.trans hgot) (by simp)
        settled := fun _ => h.synced hphase hflag }
  · have hstep : w.step .pollEnter = w := by
      simp [TouchWatch.step, TouchWatch.note, TouchWatch.noteEnter, Touch.step, pollEnter, hphase]
    rw [hstep]
    exact h

theorem TouchInv.clear_step {w : TouchWatch} (h : TouchInv w) : TouchInv (w.step .pollClear) := by
  by_cases hphase : w.touch.phase = .taken
  · have hstep : w.step .pollClear = { w with
        touch := { w.touch with touchIntFlag := false, phase := .reading }
        owed := false } := by
      simp [TouchWatch.step, TouchWatch.note, TouchWatch.noteClear, Touch.step, pollClear, hphase]
    rw [hstep]
    exact { h with
      synced := fun hout => by cases hout
      taken := fun htaken => by cases htaken
      got := fun buf hgot => by cases hgot
      owed := fun howed => by cases howed }
  · have hstep : w.step .pollClear = w := by
      cases hat : w.touch.phase with
      | taken => exact absurd hat hphase
      | _ => simp [TouchWatch.step, TouchWatch.note, TouchWatch.noteClear, Touch.step, pollClear, hat]
    rw [hstep]
    exact h

/-- A read that fails is harmless when an edge came after the flag went down; one that does not
samples the finger. -/
theorem TouchInv.read_step {w : TouchWatch} (h : TouchInv w) (reply : WireReply)
    (hok : TouchUndisturbed w (.pollRead reply)) : TouchInv (w.step (.pollRead reply)) := by
  by_cases hphase : w.touch.phase = .reading
  · rcases hread : cst816ReadRegs w.touch.chip reply with _ | buf
    · have hflag : w.touch.touchIntFlag = true := hok hphase hread
      have hstep : w.step (.pollRead reply) = { w with
          touch := { w.touch with phase := .outside, polled := none }
          owed := true } := by
        simp [TouchWatch.step, TouchWatch.note, TouchWatch.noteRead, Touch.step, pollRead, hphase,
          hread, hflag]
      rw [hstep]
      exact { h with
        synced := fun _ hlow => absurd (hflag.symm.trans hlow) (by simp)
        taken := fun htaken => by cases htaken
        got := fun buf hgot => by cases hgot
        owed := fun _ => hflag }
    · have hchip : buf = w.touch.chip := by
        unfold cst816ReadRegs at hread
        split at hread
        · cases hread
        · split at hread
          · cases hread
          · exact (Option.some.inj hread).symm
      have hstep : w.step (.pollRead reply) = { w with
          touch := { w.touch with phase := .got buf }
          sample := w.turns } := by
        simp [TouchWatch.step, TouchWatch.note, TouchWatch.noteRead, Touch.step, pollRead, hphase,
          hread, h.noLoss.1]
      rw [hstep]
      exact { h with
        synced := fun hout => by cases hout
        taken := fun htaken => by cases htaken
        got := by
          intro buf' hgot
          obtain rfl : buf = buf' := PollPhase.got.inj hgot
          exact
            { last_le := h.last_le
              sample_le := Nat.le_refl _
              pressed := (congrArg TouchRegs.pressed hchip).trans h.finger
              synced := fun _ => rfl
              since := fun _ => rfl } }
  · have hstep : w.step (.pollRead reply) = w := by
      cases hat : w.touch.phase with
      | reading => exact absurd hat hphase
      | _ => simp [TouchWatch.step, TouchWatch.note, TouchWatch.noteRead, Touch.step, pollRead, hat]
    rw [hstep]
    exact h

/-! ### The rest of a poll -/

@[simp] theorem touchSample_fst (was : Bool) (buf : TouchRegs) : (touchSample was buf).1 = buf.pressed := by
  simp only [touchSample]
  split
  · rfl
  · rename_i h
    exact (not_not.mp h).symm

/-- A press is reported when it is down in this sample and was not in the last. -/
@[simp] theorem touchSample_isSome (was : Bool) (buf : TouchRegs) :
    (touchSample was buf).2.isSome = (buf.pressed && !was) := by
  simp only [touchSample]
  split
  · rename_i h
    exact h.symm
  · rename_i h
    exact (Bool.of_not_eq_true h).symm

/-- The watch after a poll has returned with a block. -/
theorem TouchWatch.step_return {w : TouchWatch} {buf : TouchRegs} (hgot : w.touch.phase = .got buf) :
    w.step .pollReturn = { w with
      touch := { w.touch with
        wasPressed := buf.pressed
        polled := (touchSample w.touch.wasPressed buf).2
        phase := .outside }
      settled := w.settled || w.begun
      lastSample := w.sample
      sampledDowns := if buf.pressed then w.sample :: w.sampledDowns else w.sampledDowns
      reported := if buf.pressed && !w.touch.wasPressed then w.sample :: w.reported
        else w.reported } := by
  simp [TouchWatch.step, TouchWatch.note, TouchWatch.noteReturn, Touch.step, pollReturn, hgot]

section Downs

variable {last n : Nat} {downs reports : List Nat}

/-- A finger-down that came after the last sample was not sampled, nor reported. -/
theorem SeenDowns.fresh (h : SeenDowns last downs reports) (hn : last < n) :
    n ∉ downs ∧ reports.count n = 0 := by
  have hnew : n ∉ downs := fun hmem => absurd (h.sampled n hmem).1 (by omega)
  exact ⟨hnew, List.count_eq_zero.mpr fun hmem => hnew (h.reported n hmem)⟩

theorem SeenDowns.up (h : SeenDowns last downs reports) (hle : last ≤ n) (heven : n % 2 ≠ 1) :
    SeenDowns n downs reports where
  sampled := fun k hk => ⟨(h.sampled k hk).1.trans hle, (h.sampled k hk).2⟩
  seen := fun hodd => absurd hodd heven
  reported := h.reported

theorem SeenDowns.again (h : SeenDowns last downs reports) (hodd : last % 2 = 1) :
    SeenDowns last (last :: downs) reports where
  sampled := by
    intro k hk
    rcases List.mem_cons.mp hk with rfl | hk
    · exact h.sampled k (h.seen hodd)
    · exact h.sampled k hk
  seen := fun _ => List.mem_cons_self
  reported := fun k hk => List.mem_cons_of_mem _ (h.reported k hk)

theorem SeenDowns.press (h : SeenDowns last downs reports) (hlt : last < n) :
    SeenDowns n (n :: downs) (n :: reports) where
  sampled := by
    intro k hk
    rcases List.mem_cons.mp hk with rfl | hk
    · refine ⟨Nat.le_refl k, ?_⟩
      rw [List.count_cons_self, (h.fresh hlt).2]
    · have hle := (h.sampled k hk).1
      refine ⟨by omega, ?_⟩
      rw [List.count_cons_of_ne (by omega)]
      exact (h.sampled k hk).2
  seen := fun _ => List.mem_cons_self
  reported := by
    intro k hk
    rcases List.mem_cons.mp hk with rfl | hk
    · exact List.mem_cons_self
    · exact List.mem_cons_of_mem _ (h.reported k hk)

end Downs

/-- **A poll that returns with a block** keeps the lists, unless it takes one press for another. -/
theorem TouchInv.downs_return {w : TouchWatch} {buf : TouchRegs} (h : TouchInv w)
    (hgot : TouchGot w buf)
    (hok : buf.pressed = true → w.touch.wasPressed = true → w.sample = w.lastSample) :
    SeenDowns w.sample (if buf.pressed then w.sample :: w.sampledDowns else w.sampledDowns)
      (if buf.pressed && !w.touch.wasPressed then w.sample :: w.reported else w.reported) := by
  have hnow := hgot.pressed
  have hbefore := h.pressed
  have hle := hgot.last_le
  cases hpressed : buf.pressed with
  | false =>
    rw [hpressed] at hnow
    exact h.downs.up hle (of_decide_eq_false hnow.symm)
  | true =>
    rw [hpressed] at hnow
    have hodd := of_decide_eq_true hnow.symm
    cases hwas : w.touch.wasPressed with
    | false =>
      rw [hwas] at hbefore
      have heven := of_decide_eq_false hbefore.symm
      have hlt : w.lastSample < w.sample :=
        Nat.lt_of_le_of_ne hle fun hc => heven (hc ▸ hodd)
      exact h.downs.press hlt
    | true =>
      have hsame := hok hpressed hwas
      rw [hsame] at hodd ⊢
      exact h.downs.again hodd

theorem TouchInv.return_step {w : TouchWatch} (h : TouchInv w)
    (hok : TouchUndisturbed w .pollReturn) : TouchInv (w.step .pollReturn) := by
  rcases hphase : w.touch.phase with _ | _ | _ | buf
  case got =>
    have hgot := h.got buf hphase
    have hsettled : (w.settled || w.begun) = true → w.sample = w.turns := fun hs =>
      hgot.since (Bool.or_eq_true_iff.mp hs).symm
    rw [TouchWatch.step_return hphase]
    exact { h with
      pressed := hgot.pressed
      last_le := hgot.sample_le
      synced := fun _ hflag => hgot.synced hflag
      taken := fun htaken => by cases htaken
      got := fun buf' hgot' => by cases hgot'
      settled := hsettled
      downs := h.downs_return hgot (hok buf hphase) }
  all_goals
    have hstep : w.step .pollReturn = w := by
      simp [TouchWatch.step, TouchWatch.note, TouchWatch.noteReturn, Touch.step, pollReturn, hphase]
    rw [hstep]
    exact h

/-- **The step lemma**, one case for each kind of step. -/
theorem touchInv_step (w : TouchWatch) (i : TouchStep) (h : TouchInv w)
    (hok : TouchUndisturbed w i) : TouchInv (w.step i) := by
  cases i with
  | finger regs => exact h.finger_step regs
  | pollEnter => exact h.enter_step
  | pollClear => exact h.clear_step
  | pollRead reply => exact h.read_step reply hok
  | pollReturn => exact h.return_step hok

/-! ### What a disturbed step breaks -/

/-- A read that fails with no edge behind it loses the interrupt it took. -/
theorem read_breaks {w : TouchWatch} {reply : WireReply}
    (hbad : ¬ TouchUndisturbed w (.pollRead reply)) : ¬ TouchContract (w.step (.pollRead reply)) := by
  simp only [TouchUndisturbed, Classical.not_imp] at hbad
  obtain ⟨hphase, hread, hflag⟩ := hbad
  intro hcontract
  have howed : (w.step (.pollRead reply)).owed = true := by
    simp [TouchWatch.step, TouchWatch.note, TouchWatch.noteRead, hphase, hread]
  have hlow : (w.step (.pollRead reply)).touch.touchIntFlag = w.touch.touchIntFlag := by
    simp [TouchWatch.step, Touch.step, pollRead, hphase, hread]
  exact hflag (hlow.symm.trans (hcontract.kept howed))

/-- A sample that takes a new press for the one before it leaves the new one unreported. -/
theorem return_breaks {w : TouchWatch} (h : TouchInv w) (hbad : ¬ TouchUndisturbed w .pollReturn) :
    ¬ TouchContract (w.step .pollReturn) := by
  simp only [TouchUndisturbed, not_forall] at hbad
  obtain ⟨buf, hphase, hpressed, hwas, hother⟩ := hbad
  have hlater : w.lastSample < w.sample :=
    Nat.lt_of_le_of_ne (h.got buf hphase).last_le (Ne.symm hother)
  intro hcontract
  have honce := hcontract.once w.sample
  rw [TouchWatch.step_return hphase] at honce
  simp only [hpressed, hwas, h.noLoss.2, Bool.not_true, Bool.and_false, Bool.false_eq_true,
    if_true, if_false, (h.downs.fresh hlater).2] at honce
  exact absurd (honce List.mem_cons_self List.not_mem_nil) Nat.zero_ne_one

/-- **The driver keeps its contract along the undisturbed runs, and along no others.**  A run is
undisturbed when no read fails with no edge since the flag went down, and no sample that finds
the finger down comes after a release and a new press that the samples before it missed. -/
theorem touch_contract_iff (steps : List TouchStep) :
    (∀ front back, steps = front ++ back → TouchContract (watched front)) ↔
      Meets TouchWatch.step TouchUndisturbed .boot steps := by
  refine always_iff_meets touchInv_step (fun w h => h.contract) (fun w i h hbad => ?_) steps .boot
    touchInv_boot
  cases i with
  | pollRead reply => exact read_breaks hbad
  | pollReturn => exact return_breaks h hbad
  | finger regs => exact absurd trivial hbad
  | pollEnter => exact absurd trivial hbad
  | pollClear => exact absurd trivial hbad

/-- A finger in the middle of the glass. -/
def midGlass : TouchRegs := { fingerNum := 1, xposH := 0, xposL := 100, yposH := 0, yposL := 150 }

/-- A read that the controller does not acknowledge. -/
def wireNack : WireReply := { endTransmission := 2, requestFrom := 0 }

/-- A read that goes through. -/
def wireAck : WireReply := { endTransmission := 0, requestFrom := 5 }

/-- The finger goes down, and the poll that takes its interrupt cannot read. -/
def failedRead : List TouchStep := .finger midGlass :: pollSteps wireNack ++ pollSteps wireAck

/-- The finger goes up and down again between two polls. -/
def missedRelease : List TouchStep :=
  .finger midGlass :: pollSteps wireAck ++ .finger touchBoot.chip :: .finger midGlass ::
    pollSteps wireAck

/-- After the failed read the next poll, on a bus that works, does not read: the finger is down, the
driver says it is not, and no interrupt is left to tell it.  After the missed release the second
press, the third transition, was sampled and is not reported. -/
theorem touch_loses_press :
    ((watched failedRead).settled = true ∧ (watched failedRead).finger = true ∧
      mkhTouchIsPressed (watched failedRead).touch = false ∧ (watched failedRead).owed = true ∧
      (watched failedRead).touch.touchIntFlag = false ∧ ¬ TouchContract (watched failedRead)) ∧
    (watched missedRelease).sampledDowns = [3, 1] ∧ (watched missedRelease).orphans = [] ∧
      (watched missedRelease).reported = [1] ∧ ¬ TouchContract (watched missedRelease) := by
  refine ⟨⟨by decide, by decide, by decide, by decide, by decide, fun h => ?_⟩,
    by decide, by decide, by decide, fun h => ?_⟩
  · exact absurd (h.kept (by decide)) (by decide)
  · exact absurd (h.once 3 (by decide) (by decide)) (by decide)

end MK1Tank
