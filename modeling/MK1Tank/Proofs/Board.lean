/-
What the sketch knows of the seats.

The sketch gives a controller a slot when it finds its seat taken, and takes the slot away
when it finds the seat free.  Between two looks at a seat it knows nothing: a seat that
was given up and taken again is to it the same controller, and a seat that was lost is
one whose controller never leaves.
-/
import MK1Tank.Firmware.Board
import MK1Tank.Proofs.Mail
import MK1Tank.Proofs.DriverAwake

namespace MK1Tank

open FileProgram Runs

/-! ### The bridge's part -/

theorem board_bridge (b : Board) (step : BoardStep) :
    (b.step step).bridge = (b.bridgeStep step).elim b.bridge b.bridge.step := by
  cases step with
  | probe =>
    simp only [Board.step, Board.bridgeStep]
    split_ifs
    · rfl
    · split
      · rfl
      · split_ifs <;> rfl
  | fetch =>
    simp only [Board.step, Board.bridgeStep]
    split_ifs
    · cases b.asking <;> rfl
    · rfl
  | tear torn =>
    simp only [Board.step, Board.bridgeStep]
    split_ifs
    · cases b.asking with
      | none => rfl
      | some i =>
        simp only [Option.map_some, Option.elim, Bridge.step]
        split_ifs <;> rfl
    · rfl
  | loop tick =>
    simp only [Board.step, Board.bridgeStep]
    split_ifs <;> rfl
  | _ => rfl

/-- What every step of the bridge keeps, every step of the board keeps. -/
theorem board_keeps {Keep : Bridge → Prop} (h : ∀ s step, Keep s → Keep (s.step step)) (b : Board)
    (step : BoardStep) (hb : Keep b.bridge) : Keep (b.step step).bridge := by
  rw [board_bridge]
  cases b.bridgeStep step with
  | none => exact hb
  | some bstep => exact h b.bridge bstep hb

theorem board_mailed_after (config : MkhConfig) (files : Files Path) (steps : List BoardStep) :
    (after Board.step (Board.boot config files) steps).bridge.Mailed := by
  have hkeep : ∀ (b : Board) step, b.bridge.Mailed → (b.step step).bridge.Mailed :=
    fun b step hb => board_keeps step_mailed b step hb
  exact invariant_always hkeep steps bridge_boot_mailed

/-! ### The sketch's part -/

theorem onConnectedController_holds (ctl : Seat) {s : Sketch} {k i : Seat}
    (h : s.myControllers k = some i) : (onConnectedController ctl s).myControllers k = some i := by
  unfold onConnectedController
  cases hfind : findSlot s fun held => held == none with
  | none => exact h
  | some j =>
    have hempty : s.myControllers j = none := by
      have hfound := List.find?_some hfind
      simpa using hfound
    have hne : k ≠ j := by
      rintro rfl
      exact absurd (h.symm.trans hempty) (by simp)
    show Function.update s.myControllers j (some ctl) k = some i
    rw [Function.update_of_ne hne, h]

theorem onDisconnectedController_holds (now : SetterClock) {ctl : Seat} {s : Sketch} {k i : Seat}
    (h : s.myControllers k = some i) (hne : ctl ≠ i) :
    (onDisconnectedController now ctl s).myControllers k = some i := by
  unfold onDisconnectedController
  cases hfind : findSlot s fun held => held == some ctl with
  | none => exact h
  | some j =>
    have hheld : s.myControllers j = some ctl := by
      have hfound := List.find?_some hfind
      simpa using hfound
    have hkj : k ≠ j := by
      rintro rfl
      exact hne (Option.some.inj (hheld.symm.trans h))
    simp only
    split_ifs <;> exact (Function.update_of_ne hkj _ _).trans h

theorem notify_holds (tick : Tick) {k i : Seat} (hpresent : (tick.status i).present = true)
    (st : Bluepad32 × Sketch) (j : Seat) (h : st.2.myControllers k = some i) :
    (Bluepad32.notify onConnectedController (onDisconnectedController tick.failsafeClock) tick.status
      st j).2.myControllers k = some i := by
  unfold Bluepad32.notify
  simp only
  split_ifs with _ hj
  · exact h
  · exact onConnectedController_holds j h
  · refine onDisconnectedController_holds _ h ?_
    rintro rfl
    exact hj hpresent

/-- The slot of a seat that was found taken is kept. -/
theorem fetchControllers_holds (tick : Tick) {t : Tank} {k i : Seat}
    (hpresent : (tick.status i).present = true) (h : t.sketch.myControllers k = some i) :
    (fetchControllers tick t).sketch.myControllers k = some i := by
  have hkeep : ∀ (st : Bluepad32 × Sketch) j, st.2.myControllers k = some i →
      (Bluepad32.notify onConnectedController (onDisconnectedController tick.failsafeClock)
        tick.status st j).2.myControllers k = some i := notify_holds tick hpresent
  have hloop := ForEach.foldl_keeps hkeep Seat.all (t.bp32.receive tick.status, t.sketch) h
  have hnote : ∀ bp s, s.myControllers k = some i →
      (processControllers bp s).myControllers k = some i := by
    intro bp s hs
    rw [(processControllers_effect bp s).controllers]
    exact hs
  unfold fetchControllers Bluepad32.update
  simp only
  split <;> simp only <;> split
  · exact hnote _ _ h
  · exact h
  · exact hnote _ _ hloop
  · exact hloop

/-- The report that a seat's controller has after the status is received. -/
def dataAfter (status : DataStatus) (old : ControllerData) : ControllerData :=
  match status with
  | .success data => data
  | _ => old

theorem fetchControllers_data (tick : Tick) (t : Tank) (i : Seat) :
    ((fetchControllers tick t).bp32.controllers i).data =
      dataAfter (tick.status i) (t.bp32.controllers i).data := by
  have hreceive : ((t.bp32.receive tick.status).controllers i).data =
      dataAfter (tick.status i) (t.bp32.controllers i).data := by
    show ((t.bp32.controllers i).receive i (tick.status i)).data = _
    cases tick.status i <;> rfl
  have hkeep : ∀ (st : Bluepad32 × Sketch) j,
      (st.1.controllers i).data = dataAfter (tick.status i) (t.bp32.controllers i).data →
      ((Bluepad32.notify onConnectedController (onDisconnectedController tick.failsafeClock)
        tick.status st j).1.controllers i).data =
          dataAfter (tick.status i) (t.bp32.controllers i).data := by
    intro st j hst
    unfold Bluepad32.notify
    simp only
    split_ifs
    · exact hst
    · rw [setConnected_controller]
      exact hst
    · rw [setConnected_controller]
      exact hst
  have hloop := ForEach.foldl_keeps hkeep Seat.all (t.bp32.receive tick.status, t.sketch) hreceive
  unfold fetchControllers Bluepad32.update
  simp only
  split
  · exact hreceive
  · exact hloop

theorem step_settled (t : Tank) (step : TankStep) (h : Settled t) : Settled (t.step step) := by
  cases step with
  | btstack step => exact ⟨h.seating, h.flags⟩
  | loop tick =>
    cases hasleep : t.asleep with
    | true =>
      rw [loop_asleep hasleep]
      exact h
    | false =>
      obtain ⟨hsettled, -, -, -⟩ := fetchControllers_spec tick h
      obtain ⟨hbp, hslots, -⟩ := loop_fetched hasleep tick
      constructor
      · rw [hbp, hslots]
        exact hsettled.seating
      · rw [hbp]
        exact hsettled.flags

/-! ### An update

What a seat has answered is what it was when the sketch looked.
-/

/-- What the seat has answered in this update, if it was asked. -/
def Board.answer (b : Board) (i : Seat) : Option DataStatus := b.polled[i.val]?

theorem asking_eq_some {b : Board} {i : Seat} : b.asking = some i ↔ b.polled.length = i.val := by
  unfold Board.asking
  rw [ofIdx_eq_some]
  omega

/-- An answer is added to those that were given. -/
theorem answer_append {b : Board} {i j : Seat} (hasking : b.asking = some j) (status : DataStatus) :
    (b.polled ++ [status])[i.val]? = if i = j then some status else b.answer i := by
  have hlength := asking_eq_some.mp hasking
  by_cases hi : i = j
  · rw [if_pos hi, hi, ← hlength, List.getElem?_concat_length]
  · rw [if_neg hi]
    unfold Board.answer
    have hne : i.val ≠ b.polled.length := fun heq => hi (Fin.ext (heq.trans hlength))
    rw [List.getElem?_append]
    split_ifs with hlt
    · rfl
    · rw [List.getElem?_singleton, if_neg (by omega), List.getElem?_eq_none (by omega)]

/-- A seat that is asked next has not answered. -/
theorem answer_of_asking {b : Board} {i : Seat} (hasking : b.asking = some i) : b.answer i = none := by
  have hlength := asking_eq_some.mp hasking
  exact List.getElem?_eq_none (by omega)

/-- A look answers for the seat it finds free. -/
theorem answer_probe (b : Board) (i : Seat) :
    (b.step .probe).answer i =
      if b.probed = false ∧ b.asking = some i ∧ b.bridge.taken i = false then some .invalidDevice
      else b.answer i := by
  cases hprobed : b.probed with
  | true => simp [Board.step, hprobed]
  | false =>
    cases hasking : b.asking with
    | none => simp [Board.step, hprobed, hasking]
    | some j =>
      cases htaken : b.bridge.taken j with
      | true =>
        have hsame : (b.step .probe).answer i = b.answer i := by
          simp [Board.step, hprobed, hasking, htaken, Board.answer]
        rw [hsame, if_neg]
        rintro ⟨-, hij, hfree⟩
        obtain rfl := Option.some.inj hij
        exact absurd (htaken.symm.trans hfree) (by decide)
      | false =>
        have hanswer : (b.step .probe).answer i =
            if i = j then some .invalidDevice else b.answer i := by
          rw [← answer_append hasking]
          simp [Board.step, hprobed, hasking, htaken, Board.answer]
        rw [hanswer]
        by_cases hi : i = j
        · subst hi
          simp [htaken]
        · have hne : some j ≠ some i := by simpa using Ne.symm hi
          rw [if_neg hi, if_neg fun h => hne h.2.1]

/-- What a fetch finds in the seat it asks, if it is one and can happen. -/
def Board.gets (b : Board) (i : Seat) : BoardStep → Option DataStatus
  | .fetch => some (fetchData b.bridge i).2
  | .tear torn => if b.bridge.clears i then some (fetchTorn b.bridge i torn).2 else none
  | _ => none

/-- A fetch answers for the seat that was found taken. -/
theorem answer_fetch (b : Board) (i : Seat) :
    (b.step .fetch).answer i =
      if b.probed = true ∧ b.asking = some i then some (fetchData b.bridge i).2 else b.answer i := by
  cases hprobed : b.probed with
  | false => simp [Board.step, hprobed]
  | true =>
    cases hasking : b.asking with
    | none => simp [Board.step, hprobed, hasking]
    | some j =>
      have hanswer : (b.step .fetch).answer i =
          if i = j then some (fetchData b.bridge j).2 else b.answer i := by
        rw [← answer_append hasking]
        simp [Board.step, hprobed, hasking, Board.answer]
      rw [hanswer]
      by_cases hi : i = j
      · subst hi
        simp
      · have hne : some j ≠ some i := by simpa using Ne.symm hi
        rw [if_neg hi, if_neg fun h => hne h.2]

theorem answer_tear (b : Board) (i : Seat) (torn : Option ControllerData) :
    (b.step (.tear torn)).answer i =
      if b.probed = true ∧ b.asking = some i ∧ b.bridge.clears i = true then
        some (fetchTorn b.bridge i torn).2
      else b.answer i := by
  cases hprobed : b.probed with
  | false => simp [Board.step, hprobed]
  | true =>
    cases hasking : b.asking with
    | none => simp [Board.step, hprobed, hasking]
    | some j =>
      cases hclears : b.bridge.clears j with
      | false =>
        have hsame : (b.step (.tear torn)).answer i = b.answer i := by
          simp [Board.step, hprobed, hasking, hclears]
        rw [hsame, if_neg]
        rintro ⟨-, hij, hi⟩
        obtain rfl := Option.some.inj hij
        exact absurd (hclears.symm.trans hi) (by decide)
      | true =>
        have hanswer : (b.step (.tear torn)).answer i =
            if i = j then some (fetchTorn b.bridge j torn).2 else b.answer i := by
          rw [← answer_append hasking]
          simp [Board.step, hprobed, hasking, hclears, Board.answer]
        rw [hanswer]
        by_cases hi : i = j
        · subst hi
          simp [hclears]
        · have hne : some j ≠ some i := by simpa using Ne.symm hi
          rw [if_neg hi, if_neg fun h => hne h.2.1]

/-- What a step does to a seat's answer. -/
theorem answer_step (b : Board) (step : BoardStep) (i : Seat) :
    (b.step step).answer i = b.answer i ∨ (b.step step).answer i = none ∨
      (step = .probe ∧ b.probed = false ∧ b.asking = some i ∧ b.bridge.taken i = false ∧
        (b.step step).answer i = some .invalidDevice) ∨
      ∃ status, b.gets i step = some status ∧ b.probed = true ∧ b.asking = some i ∧
        (b.step step).answer i = some status := by
  cases step with
  | probe =>
    rw [answer_probe]
    split_ifs with h
    · exact Or.inr (Or.inr (Or.inl ⟨rfl, h.1, h.2.1, h.2.2, rfl⟩))
    · exact Or.inl rfl
  | fetch =>
    rw [answer_fetch]
    split_ifs with h
    · exact Or.inr (Or.inr (Or.inr ⟨_, rfl, h.1, h.2, rfl⟩))
    · exact Or.inl rfl
  | tear torn =>
    rw [answer_tear]
    split_ifs with h
    · exact Or.inr (Or.inr (Or.inr ⟨_, if_pos h.2.2, h.1, h.2.1, rfl⟩))
    · exact Or.inl rfl
  | loop tick =>
    simp only [Board.step]
    split_ifs
    · exact Or.inr (Or.inl rfl)
    · exact Or.inl rfl
  | _ => exact Or.inl rfl

theorem answer_of_complete {b : Board} (hcomplete : b.polled.length = bp32MaxGamepads) (i : Seat) :
    b.answer i = some (b.status i) := by
  have hlt : i.val < b.polled.length := by
    rw [hcomplete]
    exact i.isLt
  unfold Board.answer Board.status
  rw [List.getD_eq_getElem?_getD, List.getElem?_eq_getElem hlt, Option.getD_some]

/-- A seat that is fetched counts as taken, whatever is found there. -/
theorem gets_present {b : Board} {i : Seat} {step : BoardStep} {status : DataStatus}
    (hgets : b.gets i step = some status) : status.present = true := by
  cases step with
  | fetch =>
    obtain rfl := Option.some.inj hgets
    unfold fetchData
    split_ifs <;> rfl
  | tear torn =>
    simp only [Board.gets] at hgets
    split_ifs at hgets
    obtain rfl := Option.some.inj hgets
    unfold fetchTorn
    split_ifs
    · cases torn <;> rfl
    · rfl
  | _ => exact absurd hgets (by simp [Board.gets])

/-- What a step does to the tank. -/
theorem tank_step (b : Board) (step : BoardStep) :
    (b.step step).tank = b.tank ∨
      (∃ bstep, (b.step step).tank = b.tank.step (.btstack bstep)) ∨
      ∃ tick, step = .loop tick ∧ b.polled.length = bp32MaxGamepads ∧
        (b.step step).tank = b.tank.step (.loop { tick with status := b.status }) := by
  cases step with
  | btstack bstep => exact Or.inr (Or.inl ⟨bstep, rfl⟩)
  | probe =>
    refine Or.inl ?_
    simp only [Board.step]
    split_ifs
    · rfl
    · split
      · rfl
      · split_ifs <;> rfl
  | fetch =>
    refine Or.inl ?_
    simp only [Board.step]
    split_ifs
    · split <;> rfl
    · rfl
  | tear torn =>
    refine Or.inl ?_
    simp only [Board.step]
    split_ifs
    · split
      · rfl
      · split_ifs <;> rfl
    · rfl
  | loop tick =>
    by_cases hcomplete : b.polled.length = bp32MaxGamepads
    · exact Or.inr (Or.inr ⟨tick, rfl, hcomplete, by simp only [Board.step, if_pos hcomplete]⟩)
    · exact Or.inl (by simp only [Board.step, if_neg hcomplete])
  | _ => exact Or.inl rfl

theorem board_step_settled (b : Board) (step : BoardStep) (hb : Settled b.tank) :
    Settled (b.step step).tank := by
  rcases tank_step b step with hsame | ⟨bstep, htank⟩ | ⟨tick, -, -, htank⟩
  · rwa [hsame]
  · rw [htank]
    exact step_settled b.tank (.btstack bstep) hb
  · rw [htank]
    exact step_settled b.tank _ hb

theorem board_settled_after (config : MkhConfig) (files : Files Path) (steps : List BoardStep) :
    Settled (after Board.step (Board.boot config files) steps).tank :=
  invariant_always board_step_settled steps (seatWatch_inv_boot config files).settled

/-! ### What an update has found -/

/-- What the update under way has found of a seat that was taken, or free, when it looked. -/
structure Found (i : Seat) (taken : Bool) (b : Board) : Prop where
  answer : ∀ status, b.answer i = some status → status.present = taken
  probed : b.probed = true → b.asking = some i → taken = true

theorem step_found {i : Seat} {taken : Bool} {b : Board} {step : BoardStep} (h : Found i taken b)
    (hstays : ∀ tick, step ≠ .loop tick)
    (hlook : step = .probe → b.probed = false → b.asking = some i → b.bridge.taken i = taken) :
    Found i taken (b.step step) where
  answer status hanswer := by
    rcases answer_step b step i with
      hsame | hnone | ⟨rfl, hprobed, hasking, hfree, hgot⟩ | ⟨got, hgets, hprobed, hasking, hgot⟩
    · exact h.answer status (hsame ▸ hanswer)
    · exact absurd (hnone.symm.trans hanswer) (by simp)
    · obtain rfl := Option.some.inj (hgot.symm.trans hanswer)
      exact hfree.symm.trans (hlook rfl hprobed hasking)
    · obtain rfl := Option.some.inj (hgot.symm.trans hanswer)
      rw [h.probed hprobed hasking]
      exact gets_present hgets
  probed hprobed hasking := by
    cases step with
    | loop tick => exact absurd rfl (hstays tick)
    | probe =>
      cases hbefore : b.probed with
      | true =>
        simp only [Board.step, hbefore, if_true] at hasking
        exact h.probed hbefore hasking
      | false =>
        simp only [Board.step, hbefore, Bool.false_eq_true, if_false] at hprobed hasking
        cases hasked : b.asking with
        | none =>
          rw [hasked] at hprobed
          exact absurd (hbefore.symm.trans hprobed) (by decide)
        | some j =>
          simp only [hasked] at hprobed hasking
          cases htaken : b.bridge.taken j with
          | false => simp only [htaken, Bool.false_eq_true, if_false] at hprobed
          | true =>
            simp only [htaken, if_true] at hasking
            obtain rfl : j = i := Option.some.inj (hasked.symm.trans hasking)
            exact (hlook rfl hbefore hasked).symm.trans htaken
    | fetch =>
      cases hbefore : b.probed with
      | false =>
        simp only [Board.step, hbefore, Bool.false_eq_true, if_false] at hprobed
      | true =>
        simp only [Board.step, hbefore, if_true] at hprobed hasking
        cases hasked : b.asking with
        | none =>
          rw [hasked] at hasking
          exact absurd (hasked.symm.trans hasking) (by simp)
        | some j => simp [hasked] at hprobed
    | tear torn =>
      cases hbefore : b.probed with
      | false =>
        simp only [Board.step, hbefore, Bool.false_eq_true, if_false] at hprobed
      | true =>
        cases hasked : b.asking with
        | none => simp [Board.step, hbefore, hasked] at hasking
        | some j =>
          cases hclears : b.bridge.clears j with
          | true => simp [Board.step, hbefore, hasked, hclears] at hprobed
          | false =>
            have hsame : b.step (.tear torn) = b := by simp [Board.step, hbefore, hasked, hclears]
            rw [hsame] at hasking
            exact h.probed hbefore hasking
    | _ => exact h.probed hprobed hasking

/-- The sketch is about to ask the first seat. -/
def Board.Fresh (b : Board) : Prop := b.polled = [] ∧ b.probed = false

theorem Board.Fresh.found {b : Board} (h : b.Fresh) (i : Seat) (taken : Bool) : Found i taken b where
  answer status hanswer := by
    unfold Board.answer at hanswer
    rw [h.1] at hanswer
    exact absurd hanswer (by simp)
  probed hprobed := absurd (h.2.symm.trans hprobed) (by decide)

/-- An awake iteration gives a seat a slot, or takes it away, as the update found. -/
theorem loop_slots {b : Board} (hsettled : Settled b.tank)
    (hcomplete : b.polled.length = bp32MaxGamepads) (hawake : b.tank.asleep = false) (tick : Tick)
    (i : Seat) :
    (∃ k, (b.step (.loop tick)).tank.sketch.myControllers k = some i) ↔
      (b.status i).present = true := by
  have htank : (b.step (.loop tick)).tank = b.tank.step (.loop { tick with status := b.status }) := by
    simp only [Board.step, if_pos hcomplete]
  have hnext := fetchControllers_spec { tick with status := b.status } hsettled
  rw [htank, (loop_fetched hawake _).2.1, ← hnext.1.seating.held i, hnext.2.1 i]

/-! ### A slot that is kept -/

/-- The board, with what the last look at a seat found. -/
structure LookWatch where
  board : Board
  found : Bool

def LookWatch.step (i : Seat) (w : LookWatch) (step : BoardStep) : LookWatch where
  board := w.board.step step
  found :=
    match step with
    | .probe =>
      if w.board.probed = false ∧ w.board.asking = some i then w.board.bridge.taken i else w.found
    | _ => w.found

theorem look_board (i : Seat) (w : LookWatch) (step : BoardStep) :
    (w.step i step).board = w.board.step step := rfl

/-- An awake iteration goes on from an update that found the seat taken. -/
def ActsOnTaken (w : LookWatch) : BoardStep → Prop
  | .loop _ =>
    w.board.polled.length = bp32MaxGamepads → w.board.tank.asleep = false → w.found = true
  | _ => True

instance (w : LookWatch) : (step : BoardStep) → Decidable (ActsOnTaken w step)
  | .loop _ => inferInstanceAs (Decidable (_ → _ → _))
  | .event _ | .depart _ | .cleared | .drain | .post | .btstack _ | .probe | .fetch | .tear _
  | .request _ => inferInstanceAs (Decidable True)

/-- The slot has the seat's controller, and the update under way knows what the look found. -/
structure LookWatch.Keeps (k i : Seat) (w : LookWatch) : Prop where
  slot : w.board.tank.sketch.myControllers k = some i
  settled : Settled w.board.tank
  found : Found i w.found w.board
  asked : w.board.probed = true → ∃ j, w.board.asking = some j

theorem loop_holds {t : Tank} {tick : Tick} {k i : Seat} (hpresent : (tick.status i).present = true)
    (h : t.sketch.myControllers k = some i) :
    (t.step (.loop tick)).sketch.myControllers k = some i := by
  cases hasleep : t.asleep with
  | true => rwa [loop_asleep hasleep]
  | false =>
    rw [(loop_fetched hasleep tick).2.1]
    exact fetchControllers_holds tick hpresent h

/-- A slot is kept by a step that does not act on an answer that the seat is free. -/
theorem tank_step_holds {b : Board} {k i : Seat} (step : BoardStep)
    (h : b.tank.sketch.myControllers k = some i)
    (hpresent : ∀ tick, step = .loop tick → b.polled.length = bp32MaxGamepads → b.tank.asleep = false →
      (b.status i).present = true) :
    (b.step step).tank.sketch.myControllers k = some i := by
  rcases tank_step b step with hsame | ⟨bstep, htank⟩ | ⟨tick, hstep, hcomplete, htank⟩
  · rwa [hsame]
  · rwa [htank]
  · rw [htank]
    cases hasleep : b.tank.asleep with
    | true => rwa [loop_asleep hasleep]
    | false => exact loop_holds (hpresent tick hstep hcomplete hasleep) h

theorem step_asked {b : Board} (step : BoardStep) (h : b.probed = true → ∃ j, b.asking = some j)
    (hprobed : (b.step step).probed = true) : ∃ j, (b.step step).asking = some j := by
  cases step with
  | probe =>
    cases hbefore : b.probed with
    | true =>
      have hsame : b.step .probe = b := by simp [Board.step, hbefore]
      rw [hsame]
      exact h hbefore
    | false =>
      cases hasked : b.asking with
      | none => simp [Board.step, hbefore, hasked] at hprobed
      | some j =>
        cases htaken : b.bridge.taken j with
        | false => simp [Board.step, hbefore, hasked, htaken] at hprobed
        | true =>
          refine ⟨j, ?_⟩
          simp only [Board.step, hbefore, hasked, htaken, Bool.false_eq_true, if_false, if_true]
          exact hasked
  | fetch =>
    cases hbefore : b.probed with
    | false => simp [Board.step, hbefore] at hprobed
    | true =>
      obtain ⟨j, hasked⟩ := h hbefore
      simp [Board.step, hbefore, hasked] at hprobed
  | tear torn =>
    cases hbefore : b.probed with
    | false => simp [Board.step, hbefore] at hprobed
    | true =>
      obtain ⟨j, hasked⟩ := h hbefore
      cases hclears : b.bridge.clears j with
      | true => simp [Board.step, hbefore, hasked, hclears] at hprobed
      | false =>
        have hsame : b.step (.tear torn) = b := by simp [Board.step, hbefore, hasked, hclears]
        rw [hsame]
        exact ⟨j, hasked⟩
  | loop tick =>
    by_cases hcomplete : b.polled.length = bp32MaxGamepads
    · refine ⟨0, asking_eq_some.mpr ?_⟩
      simp [Board.step, hcomplete]
    · simp only [Board.step, if_neg hcomplete] at hprobed ⊢
      exact h hprobed
  | _ => exact h hprobed

/-- The update knows what the last look found. -/
theorem look_found {i : Seat} {w : LookWatch} (step : BoardStep) (h : Found i w.found w.board)
    (hasked : w.board.probed = true → ∃ j, w.board.asking = some j) :
    Found i (w.step i step).found (w.step i step).board := by
  cases step with
  | probe =>
    by_cases hlooks : w.board.probed = false ∧ w.board.asking = some i
    · have hfound : (w.step i .probe).found = w.board.bridge.taken i := if_pos hlooks
      have hblank : Found i (w.board.bridge.taken i) w.board := by
        refine ⟨fun status hanswer => ?_, fun hprobed => ?_⟩
        · exact absurd ((answer_of_asking hlooks.2).symm.trans hanswer) (by simp)
        · exact absurd (hlooks.1.symm.trans hprobed) (by decide)
      rw [hfound, look_board]
      exact step_found hblank (by simp) fun _ _ _ => rfl
    · have hfound : (w.step i .probe).found = w.found := if_neg hlooks
      rw [hfound, look_board]
      exact step_found h (by simp) fun _ hprobed hasking => absurd ⟨hprobed, hasking⟩ hlooks
  | loop tick =>
    show Found i w.found (w.board.step (.loop tick))
    by_cases hcomplete : w.board.polled.length = bp32MaxGamepads
    · have hidle : w.board.probed = false := by
        by_contra hprobed
        obtain ⟨j, hj⟩ := hasked (by simpa using hprobed)
        have hlength := asking_eq_some.mp hj
        omega
      have hfresh : (w.board.step (.loop tick)).Fresh := by
        simp only [Board.step, if_pos hcomplete]
        exact ⟨rfl, hidle⟩
      exact hfresh.found i w.found
    · simp only [Board.step, if_neg hcomplete]
      exact h
  | _ =>
    rw [look_board]
    exact step_found h (by simp) (by simp)

theorem LookWatch.Keeps.step {k i : Seat} {w : LookWatch} (h : w.Keeps k i) (step : BoardStep)
    (hacts : ActsOnTaken w step) : (w.step i step).Keeps k i where
  slot := by
    refine tank_step_holds step h.slot fun tick hstep hcomplete hawake => ?_
    rw [h.found.answer _ (answer_of_complete hcomplete i)]
    subst hstep
    exact hacts hcomplete hawake
  settled := board_step_settled w.board step h.settled
  found := look_found step h.found h.asked
  asked := step_asked step h.asked

theorem LookWatch.Keeps.lets_go {k i : Seat} {w : LookWatch} (h : w.Keeps k i) (step : BoardStep)
    (hacts : ¬ ActsOnTaken w step) : (w.step i step).board.tank.sketch.myControllers k ≠ some i := by
  cases step with
  | loop tick =>
    simp only [ActsOnTaken] at hacts
    push Not at hacts
    obtain ⟨hcomplete, hawake, hfree⟩ := hacts
    intro hslot
    have hpresent := (loop_slots h.settled hcomplete hawake tick i).mp ⟨k, hslot⟩
    exact hfree ((h.found.answer _ (answer_of_complete hcomplete i)).symm.trans hpresent)
  | _ => exact absurd trivial hacts

/-- **A controller keeps its slot exactly as long as every update that an awake iteration goes on from
found its seat taken**, whoever may have come and gone in between. -/
theorem slot_kept_iff (config : MkhConfig) (files : Files Path) (front steps : List BoardStep)
    (k i : Seat)
    (hfresh : (after Board.step (Board.boot config files) front).Fresh)
    (hslot : (after Board.step (Board.boot config files) front).tank.sketch.myControllers k = some i) :
    (∀ before later, steps = before ++ later →
      (after (LookWatch.step i) ⟨after Board.step (Board.boot config files) front, true⟩
        before).board.tank.sketch.myControllers k = some i) ↔
      Meets (LookWatch.step i) ActsOnTaken ⟨after Board.step (Board.boot config files) front, true⟩
        steps := by
  have hstart : LookWatch.Keeps k i ⟨after Board.step (Board.boot config files) front, true⟩ :=
    ⟨hslot, board_settled_after config files front, hfresh.found i true,
      fun hprobed => absurd (hfresh.2.symm.trans hprobed) (by decide)⟩
  have hstep : ∀ w step, LookWatch.Keeps k i w → ActsOnTaken w step →
      LookWatch.Keeps k i (w.step i step) := fun _ step h hacts => h.step step hacts
  have hbreak : ∀ w step, LookWatch.Keeps k i w → ¬ ActsOnTaken w step →
      ¬ (w.step i step).board.tank.sketch.myControllers k = some i :=
    fun _ step h hacts => h.lets_go step hacts
  exact always_iff_meets hstep (fun _ h => h.slot) hbreak steps _ hstart

/-- A device joins. -/
def boardJoining : List BoardStep := (joiningEvents .absent).map .event

/-- An update that finds it in seat 0, and the iteration that goes on from there. -/
def zeroPolled : List BoardStep := [.probe, .fetch, .probe, .probe, .probe]

def idleLoop : BoardStep := .loop (tickOf .noData none)

/-- The sketch has given the device slot 0. -/
def boardJoined : List BoardStep := boardJoining ++ zeroPolled ++ [idleLoop]

/-- The device leaves, and an update finds that. -/
def boardLeft : List BoardStep :=
  [.event (.disconnectDevice 0), .probe, .probe, .probe, .probe, idleLoop]

theorem slot_kept_iff_left :
    (∀ before later, boardLeft = before ++ later →
      (after (LookWatch.step 0) ⟨after Board.step (Board.boot stickConfig fun _ => none) boardJoined, true⟩
        before).board.tank.sketch.myControllers 0 = some 0) ↔
      Meets (LookWatch.step 0) ActsOnTaken
        ⟨after Board.step (Board.boot stickConfig fun _ => none) boardJoined, true⟩ boardLeft :=
  slot_kept_iff stickConfig (fun _ => none) boardJoined boardLeft 0 0
    ⟨by decide +kernel, by decide +kernel⟩ (by decide +kernel)

/-! ### A seat that stays as it is for an update -/

/-- No iteration ends, and the seat is taken or free as it was. -/
def Stays (i : Seat) (taken : Bool) (b : Board) : BoardStep → Prop
  | .loop _ => False
  | _ => b.bridge.taken i = taken

instance (i : Seat) (taken : Bool) (b : Board) : (step : BoardStep) → Decidable (Stays i taken b step)
  | .loop _ => .isFalse id
  | .event _ | .depart _ | .cleared | .drain | .post | .btstack _ | .probe | .fetch | .tear _
  | .request _ => inferInstanceAs (Decidable (b.bridge.taken i = taken))

theorem Found.stays {i : Seat} {taken : Bool} (b : Board) (step : BoardStep) (h : Found i taken b)
    (hstays : Stays i taken b step) : Found i taken (b.step step) := by
  refine step_found h (fun tick hloop => ?_) fun hprobe _ _ => ?_
  · subst hloop
    exact hstays
  · subst hprobe
    exact hstays

/-- **After an update the slots are those of the seats**: a seat that was taken throughout has exactly
one, and a seat that was free throughout has none. -/
theorem slots_follow_seats (config : MkhConfig) (files : Files Path) (front poll : List BoardStep)
    (tick : Tick) (i : Seat) (taken : Bool)
    (hstart : (after Board.step (Board.boot config files) front).Fresh)
    (hstays : Meets Board.step (Stays i taken) (after Board.step (Board.boot config files) front) poll)
    (hcomplete : (after Board.step (Board.boot config files) (front ++ poll)).polled.length =
      bp32MaxGamepads)
    (hawake : (after Board.step (Board.boot config files) (front ++ poll)).tank.asleep = false) :
    (taken = true → ∃! k, (after Board.step (Board.boot config files)
      (front ++ poll ++ [.loop tick])).tank.sketch.myControllers k = some i) ∧
    (taken = false → ∀ k, (after Board.step (Board.boot config files)
      (front ++ poll ++ [.loop tick])).tank.sketch.myControllers k ≠ some i) := by
  have hfound : Found i taken (after Board.step (Board.boot config files) (front ++ poll)) := by
    rw [after_append]
    exact invariant_after Found.stays poll _ (hstart.found i taken) hstays
  have hsettled := board_settled_after config files (front ++ poll)
  rw [after_append _ (front ++ poll), after_cons, after_nil]
  set b := after Board.step (Board.boot config files) (front ++ poll)
  have hslots := loop_slots hsettled hcomplete hawake tick i
  rw [hfound.answer _ (answer_of_complete hcomplete i)] at hslots
  refine ⟨fun htaken => ?_, fun hfree k hk => ?_⟩
  · obtain ⟨k, hk⟩ := hslots.mpr htaken
    exact ⟨k, hk, fun k' hk' =>
      (board_step_settled b (.loop tick) hsettled).seating.inj k' k i hk' hk⟩
  · exact absurd (hfree.symm.trans (hslots.mp ⟨k, hk⟩)) (by decide)

theorem slots_follow_seats_joining :
    (true = true → ∃! k, (after Board.step (Board.boot stickConfig fun _ => none)
      (boardJoining ++ zeroPolled ++ [idleLoop])).tank.sketch.myControllers k = some 0) ∧
    (true = false → ∀ k, (after Board.step (Board.boot stickConfig fun _ => none)
      (boardJoining ++ zeroPolled ++ [idleLoop])).tank.sketch.myControllers k ≠ some 0) :=
  slots_follow_seats stickConfig (fun _ => none) boardJoining zeroPolled (tickOf .noData none) 0 true
    ⟨by decide +kernel, by decide +kernel⟩ (by decide +kernel) (by decide +kernel) (by decide +kernel)

/-! ### The reports of a seat -/

/-- The report that an iteration brings the sketch from a seat. -/
def receivedFrom (i : Seat) (b : Board) : BoardStep → List ControllerData
  | .loop _ =>
    if b.polled.length = bp32MaxGamepads ∧ b.tank.asleep = false then (b.status i).report.toList else []
  | _ => []

/-- The report that a step posts to a seat, or tears out of it. -/
def boardMade (i : Seat) (b : Board) (step : BoardStep) : List ControllerData :=
  (b.bridgeStep step).elim [] (madeFor i b.bridge)

/-- The report that the update under way has fetched. -/
def Board.fetched (b : Board) (i : Seat) : Option ControllerData := (b.answer i).bind DataStatus.report

/-- What a step does to what the update has fetched. -/
def fetchedOp (i : Seat) (b : Board) : BoardStep → Option (Mailbox.Op ControllerData)
  | .loop _ =>
    if b.polled.length = bp32MaxGamepads then
      if b.tank.asleep then some .clear else some .take
    else none
  | step =>
    if b.probed = true ∧ b.asking = some i then
      ((b.gets i step).bind DataStatus.report).map .post
    else none

theorem fetched_of_asking {b : Board} {i : Seat} (hasking : b.asking = some i) :
    b.fetched i = none := by
  unfold Board.fetched
  rw [answer_of_asking hasking]
  rfl

/-- The post of a report that was fetched, into a box that holds none. -/
theorem post_report (report : Option ControllerData) :
    report = (report.map Mailbox.Op.post).elim none (Mailbox.step none) := by
  cases report <;> rfl

theorem step_fetched (i : Seat) (b : Board) (step : BoardStep) :
    (b.step step).fetched i =
      (fetchedOp i b step).elim (b.fetched i) (Mailbox.step (b.fetched i)) := by
  cases step with
  | fetch =>
    simp only [fetchedOp, Board.gets]
    split_ifs with h
    · rw [fetched_of_asking h.2]
      unfold Board.fetched
      rw [answer_fetch, if_pos h]
      exact post_report _
    · show (b.step .fetch).fetched i = b.fetched i
      unfold Board.fetched
      rw [answer_fetch, if_neg h]
  | tear torn =>
    by_cases h : b.probed = true ∧ b.asking = some i ∧ b.bridge.clears i = true
    · have hop : fetchedOp i b (.tear torn) = (fetchTorn b.bridge i torn).2.report.map .post := by
        simp [fetchedOp, Board.gets, h.1, h.2.1, h.2.2]
      rw [hop, fetched_of_asking h.2.1]
      unfold Board.fetched
      rw [answer_tear, if_pos h]
      exact post_report _
    · have hop : fetchedOp i b (.tear torn) = none := by
        simp only [fetchedOp, Board.gets]
        split_ifs with hasked hclears
        · exact absurd ⟨hasked.1, hasked.2, hclears⟩ h
        · rfl
        · rfl
      rw [hop]
      show (b.step (.tear torn)).fetched i = b.fetched i
      unfold Board.fetched
      rw [answer_tear, if_neg h]
  | probe =>
    have hop : fetchedOp i b .probe = none := by simp [fetchedOp, Board.gets]
    rw [hop]
    show (b.step .probe).fetched i = b.fetched i
    by_cases h : b.probed = false ∧ b.asking = some i ∧ b.bridge.taken i = false
    · rw [fetched_of_asking h.2.1]
      unfold Board.fetched
      rw [answer_probe, if_pos h]
      rfl
    · unfold Board.fetched
      rw [answer_probe, if_neg h]
  | loop tick =>
    simp only [Board.step, fetchedOp]
    split_ifs <;> rfl
  | _ =>
    simp only [fetchedOp, Board.gets]
    split_ifs <;> rfl

/-- What the update fetches is what is taken out of the seat. -/
theorem fetched_posts (i : Seat) :
    Mailbox.posts (fetchedOp i) =
      fun (b : Board) step => (b.bridgeStep step).elim [] (fetchedFrom i b.bridge) := by
  funext b step
  cases step with
  | fetch =>
    simp only [Mailbox.posts, fetchedOp, Board.bridgeStep, Board.gets]
    cases hprobed : b.probed with
    | false => simp
    | true =>
      cases hasking : b.asking with
      | none => simp
      | some j =>
        by_cases hj : j = i
        · subst hj
          simp only [and_self, if_true, Option.map_some, Option.elim, fetchedFrom, Option.bind_some]
          cases (fetchData b.bridge j).2.report <;> rfl
        · simp [fetchedFrom, hj]
  | tear torn =>
    simp only [Mailbox.posts, fetchedOp, Board.bridgeStep, Board.gets]
    cases hprobed : b.probed with
    | false => simp
    | true =>
      cases hasking : b.asking with
      | none => simp
      | some j =>
        by_cases hj : j = i
        · subst hj
          cases hclears : b.bridge.clears j with
          | false => simp [fetchedFrom, tornFrom, hclears]
          | true =>
            simp only [and_self, if_true, Option.map_some, Option.elim, fetchedFrom, tornFrom, hclears,
              Option.bind_some]
            cases (fetchTorn b.bridge j torn).2.report <;> rfl
        · simp [fetchedFrom, tornFrom, hj]
  | loop tick =>
    simp only [Mailbox.posts, fetchedOp, Board.bridgeStep]
    split_ifs <;> rfl
  | _ => simp [Mailbox.posts, fetchedOp, Board.gets, Board.bridgeStep, fetchedFrom, tornFrom]

theorem received_takes (i : Seat) :
    Mailbox.takes (fetchedOp i) (fun b : Board => b.fetched i) = receivedFrom i := by
  funext b step
  cases step with
  | loop tick =>
    simp only [Mailbox.takes, fetchedOp, receivedFrom]
    by_cases hcomplete : b.polled.length = bp32MaxGamepads
    · cases hasleep : b.tank.asleep with
      | true => simp [hcomplete, Mailbox.taken]
      | false =>
        simp [hcomplete, Mailbox.taken, Board.fetched, answer_of_complete hcomplete]
    · simp [hcomplete]
  | _ =>
    simp only [Mailbox.takes, fetchedOp, receivedFrom]
    split_ifs
    · cases (b.gets i _).bind DataStatus.report <;> rfl
    · rfl

/-- The seat is a mailbox of the board, and so is what the update has fetched from it. -/
theorem board_mailbox (i : Seat) :
    Mailbox.Within Board.step (fun b step => (b.bridgeStep step).bind (mailOp i b.bridge))
      (fun b => b.bridge.box i) (fun b => b.bridge.Mailed) where
  keep b step h := board_keeps step_mailed b step h
  box b step h := by
    rw [board_bridge]
    cases b.bridgeStep step with
    | none => rfl
    | some bstep => exact step_box h.toPlaced i bstep

theorem fetched_mailbox (i : Seat) :
    Mailbox.Within Board.step (fetchedOp i) (fun b : Board => b.fetched i) fun _ => True where
  keep _ _ _ := trivial
  box b step _ := step_fetched i b step

theorem board_takes (i : Seat) :
    Mailbox.takes (fun b step => (b.bridgeStep step).bind (mailOp i b.bridge))
      (fun b : Board => b.bridge.box i) =
      fun b step => (b.bridgeStep step).elim [] (fetchedFrom i b.bridge) := by
  funext b step
  cases hstep : b.bridgeStep step with
  | none => simp [Mailbox.takes, hstep]
  | some bstep =>
    simp only [Mailbox.takes, hstep, Option.bind_some, Option.elim]
    rw [← takes_eq_fetched i]
    rfl

theorem board_posts (i : Seat) :
    Mailbox.posts (fun (b : Board) step => (b.bridgeStep step).bind (mailOp i b.bridge)) =
      boardMade i := by
  funext b step
  cases hstep : b.bridgeStep step with
  | none => simp [Mailbox.posts, boardMade, hstep]
  | some bstep =>
    simp only [Mailbox.posts, boardMade, hstep, Option.bind_some, Option.elim]
    rw [← posts_eq_made i]
    rfl

/-- **The sketch gets the reports of a seat in the order they were posted, once each at most**, and
beside them only what it tore out of the seat while that was being cleared. -/
theorem received_in_order (config : MkhConfig) (files : Files Path) (steps : List BoardStep) (i : Seat) :
    ((trace Board.step (receivedFrom i) (Board.boot config files) steps).flatten).Sublist
      (trace Board.step (boardMade i) (Board.boot config files) steps).flatten := by
  have hreceived := (fetched_mailbox i).takes_sublist_posts steps
    (show True from trivial) (s := Board.boot config files)
  rw [received_takes, fetched_posts] at hreceived
  have hfetched := (board_mailbox i).takes_sublist_posts steps
    (show (Board.boot config files).bridge.Mailed from bridge_boot_mailed)
  rw [board_takes, board_posts] at hfetched
  exact hreceived.trans hfetched

/-! ### A seat that was lost -/

/-- The controller of a lost seat, when its last report has been fetched. -/
structure Phantom (k i : Seat) (data : ControllerData) (b : Board) : Prop where
  mailed : b.bridge.Mailed
  lost : b.bridge.lost i
  empty : b.bridge.box i = none
  slot : b.tank.sketch.myControllers k = some i
  data : (b.tank.bp32.controllers i).data = data
  answer : ∀ status, b.answer i = some status → status = .noData

/-- No step brings the report of a lost seat. -/
theorem lost_box {s : Bridge} {i : Seat} (hmailed : s.Mailed) (hlost : s.lost i)
    (hempty : s.box i = none) (step : BridgeStep) : (s.step step).box i = none := by
  rw [step_box hmailed.toPlaced]
  cases hop : mailOp i s step with
  | none => exact hempty
  | some op =>
    cases op with
    | post ctl =>
      obtain ⟨d, -, hphase, hseat⟩ := mailOp_post.mp hop
      exact absurd (hmailed.sits_of_posting hphase hseat).2 (hlost.2 d)
    | take => rfl
    | garble ctl => rfl
    | clear => rfl

theorem gets_of_empty {b : Board} {i : Seat} {step : BoardStep} {status : DataStatus}
    (hempty : b.bridge.box i = none) (hgets : b.gets i step = some status) : status = .noData := by
  unfold Bridge.box at hempty
  cases step with
  | fetch =>
    obtain rfl := Option.some.inj hgets
    unfold fetchData
    split_ifs at hempty ⊢
    rfl
  | tear torn =>
    simp only [Board.gets] at hgets
    split_ifs at hgets
    obtain rfl := Option.some.inj hgets
    unfold fetchTorn
    split_ifs at hempty ⊢
    rfl
  | _ => exact absurd hgets (by simp [Board.gets])

theorem step_phantom {k i : Seat} {data : ControllerData} (b : Board) (step : BoardStep)
    (h : Phantom k i data b) : Phantom k i data (b.step step) := by
  have hbridge : (b.step step).bridge.Mailed ∧ (b.step step).bridge.lost i ∧
      (b.step step).bridge.box i = none := by
    have hkeep : ∀ (s : Bridge) step, s.Mailed ∧ s.lost i ∧ s.box i = none →
        (s.step step).Mailed ∧ (s.step step).lost i ∧ (s.step step).box i = none := by
      rintro s step ⟨hmailed, hlost, hempty⟩
      exact ⟨step_mailed s step hmailed, (step_move s step).lost hmailed.toPlaced hlost,
        lost_box hmailed hlost hempty step⟩
    exact board_keeps hkeep b step ⟨h.mailed, h.lost, h.empty⟩
  have hslot : (b.step step).tank.sketch.myControllers k = some i := by
    refine tank_step_holds step h.slot fun tick _ hcomplete _ => ?_
    rw [h.answer _ (answer_of_complete hcomplete i)]
    rfl
  refine ⟨hbridge.1, hbridge.2.1, hbridge.2.2, hslot, ?_, ?_⟩
  · rcases tank_step b step with hsame | ⟨bstep, htank⟩ | ⟨tick, -, hcomplete, htank⟩
    · rw [hsame]
      exact h.data
    · rw [htank]
      exact h.data
    · have hnoData := h.answer _ (answer_of_complete hcomplete i)
      rw [htank]
      cases hasleep : b.tank.asleep with
      | true =>
        rw [loop_asleep hasleep]
        exact h.data
      | false =>
        rw [(loop_fetched hasleep _).1, fetchControllers_data]
        show dataAfter (b.status i) _ = data
        rw [hnoData]
        exact h.data
  · intro status hanswer
    rcases answer_step b step i with
      hsame | hnone | ⟨-, -, -, hfree, -⟩ | ⟨got, hgets, -, -, hgot⟩
    · exact h.answer status (hsame ▸ hanswer)
    · exact absurd (hnone.symm.trans hanswer) (by simp)
    · exact absurd (h.lost.1.symm.trans hfree) (by decide)
    · obtain rfl := Option.some.inj (hgot.symm.trans hanswer)
      exact gets_of_empty h.empty hgets

/-- **The controller of a lost seat never leaves.**  Its slot stays, and with it the last report it
sent, whatever happens on either core. -/
theorem lost_controller_stays (config : MkhConfig) (files : Files Path) (front back : List BoardStep)
    (k i : Seat) (hlost : (after Board.step (Board.boot config files) front).bridge.lost i)
    (hfetched : (after Board.step (Board.boot config files) front).bridge.box i = none)
    (hslot : (after Board.step (Board.boot config files) front).tank.sketch.myControllers k = some i)
    (hfresh : (after Board.step (Board.boot config files) front).polled = []) :
    (after Board.step (Board.boot config files) (front ++ back)).tank.sketch.myControllers k = some i ∧
      ((after Board.step (Board.boot config files) (front ++ back)).tank.bp32.controllers i).data =
        ((after Board.step (Board.boot config files) front).tank.bp32.controllers i).data := by
  have hstart : Phantom k i
      ((after Board.step (Board.boot config files) front).tank.bp32.controllers i).data
      (after Board.step (Board.boot config files) front) := by
    refine ⟨board_mailed_after config files front, hlost, hfetched, hslot, rfl,
      fun status hanswer => ?_⟩
    unfold Board.answer at hanswer
    rw [hfresh] at hanswer
    exact absurd hanswer (by simp)
  rw [after_append]
  have hlast := invariant_always step_phantom back hstart
  exact ⟨hlast.slot, hlast.data⟩

/-- The driver's service is reported again, and the driver leaves. -/
def driverLost : List BoardStep :=
  boardJoining ++ zeroPolled ++
    [idleLoop, .event (.hidServiceConnected 1 0 .none), .event (.disconnectDevice 0)]

theorem lost_controller_stays_driver :
    (after Board.step (Board.boot stickConfig fun _ => none)
        (driverLost ++ zeroPolled)).tank.sketch.myControllers 0 = some 0 ∧
      ((after Board.step (Board.boot stickConfig fun _ => none)
        (driverLost ++ zeroPolled)).tank.bp32.controllers 0).data =
        ((after Board.step (Board.boot stickConfig fun _ => none) driverLost).tank.bp32.controllers
          0).data :=
  lost_controller_stays stickConfig (fun _ => none) driverLost zeroPolled 0 0
    ⟨by decide +kernel, by decide +kernel⟩ (by decide +kernel) (by decide +kernel) (by decide +kernel)

end MK1Tank
