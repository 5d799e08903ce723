/-
From the controls of a controller to the sketch.

What the sketch holds of a controller comes out of a seat, what is in the seat was posted by
the Bluetooth task, and what is posted was made of a report.  So what holds of every report
that comes in holds of what the sweep reads, as long as no call copies a report while its
seat is being cleared.  Reports that are read by the descriptor are the controls of some
gamepad each, and a stick of it drives as far as it was pushed.
-/
import MK1Tank.Proofs.Board
import MK1Tank.Proofs.Monotone
import MK1Tank.Proofs.XboxOne

namespace MK1Tank

open FileProgram Runs

/-! ### Where the reports come from -/

/-- What comes in with the step: reports of which `P` holds, and no copy of one that is being
cleared. -/
def Sends (P : ControllerData → Prop) : BoardStep → Prop
  | .event (.hidReport _ ctl) => P ctl
  | .tear torn => torn = none
  | _ => True

/-- Every report on its way to the sketch, and every one that it has, is one of which `P` holds. -/
structure Sourced (P : ControllerData → Prop) (b : Board) : Prop where
  mailed : b.bridge.Mailed
  waiting : ∀ i ctl, b.bridge.box i = some ctl → P ctl
  handled : ∀ d ctl, b.bridge.phase = .draining d ctl ∨ b.bridge.phase = .posting d ctl → P ctl
  answered : ∀ i ctl, b.answer i = some (.success ctl) → P ctl
  slots : ∀ i, P (b.tank.bp32.controllers i).data

variable {P : ControllerData → Prop}

theorem boot_sourced (config : MkhConfig) (files : Files Path) (hzero : P .zero) :
    Sourced P (Board.boot config files) where
  mailed := bridge_boot_mailed
  waiting i ctl h :=
    absurd h (by simp [Board.boot, Bridge.boot, Bridge.box, ArduinoController.unassigned])
  handled d ctl h := absurd h (by simp [Board.boot, Bridge.boot])
  answered i ctl h := absurd h (by simp [Board.boot, Board.answer])
  slots _ := hzero

/-- What is posted is the report that was handled. -/
theorem step_boxed {s : Bridge} (hmailed : s.Mailed)
    (hwaiting : ∀ i ctl, s.box i = some ctl → P ctl)
    (hhandled : ∀ d ctl, s.phase = .draining d ctl ∨ s.phase = .posting d ctl → P ctl)
    (step : BridgeStep) : ∀ i ctl, (s.step step).box i = some ctl → P ctl := by
  intro i ctl hbox
  rw [step_box hmailed.toPlaced] at hbox
  cases hop : mailOp i s step with
  | none =>
    rw [hop] at hbox
    exact hwaiting i ctl hbox
  | some op =>
    rw [hop] at hbox
    cases op with
    | post posted =>
      obtain rfl : posted = ctl := Option.some.inj hbox
      obtain ⟨d, -, hphase, -⟩ := mailOp_post.mp hop
      exact hhandled d posted (Or.inr hphase)
    | take => exact absurd hbox (by simp [Mailbox.step])
    | garble torn => exact absurd hbox (by simp [Mailbox.step])
    | clear => exact absurd hbox (by simp [Mailbox.step])

/-- Only a report that comes in begins to be handled. -/
theorem step_handled {s : Bridge} (hmailed : s.Mailed)
    (hhandled : ∀ d ctl, s.phase = .draining d ctl ∨ s.phase = .posting d ctl → P ctl)
    {step : BridgeStep} (hsends : ∀ cid ctl, step = .event (.hidReport cid ctl) → P ctl) :
    ∀ d ctl, (s.step step).phase = .draining d ctl ∨ (s.step step).phase = .posting d ctl → P ctl := by
  intro d ctl hphase
  rcases step_handling hmailed.toPlaced hphase with ⟨hwas, -⟩ | ⟨cid, hevent, -⟩
  · exact hhandled d ctl hwas
  · exact hsends cid ctl hevent

/-- What a call gets waited in the seat. -/
theorem gets_waiting {b : Board} {i : Seat} {step : BoardStep} (hsends : Sends P step)
    (hwaiting : ∀ ctl, b.bridge.box i = some ctl → P ctl) {ctl : ControllerData}
    (hgets : b.gets i step = some (.success ctl)) : P ctl := by
  cases step with
  | fetch =>
    refine hwaiting ctl ?_
    rw [← fetchData_report]
    exact congrArg DataStatus.report (Option.some.inj hgets)
  | tear torn =>
    obtain rfl : torn = none := hsends
    simp only [Board.gets] at hgets
    split_ifs at hgets
    unfold fetchTorn at hgets
    split_ifs at hgets <;> exact absurd hgets (by simp)
  | _ => exact absurd hgets (by simp [Board.gets])

/-- Only an event is one to the bridge. -/
theorem event_of_bridgeStep {b : Board} {step : BoardStep} {e : BtEvent}
    (h : b.bridgeStep step = some (.event e)) : step = .event e := by
  cases step with
  | event e' => simpa [Board.bridgeStep] using h
  | fetch =>
    simp only [Board.bridgeStep] at h
    split_ifs at h
    cases hasking : b.asking <;> simp [hasking] at h
  | tear torn =>
    simp only [Board.bridgeStep] at h
    split_ifs at h
    cases hasking : b.asking <;> simp [hasking] at h
  | _ => simp [Board.bridgeStep] at h

theorem step_sourced (b : Board) (step : BoardStep) (h : Sourced P b) (hsends : Sends P step) :
    Sourced P (b.step step) := by
  have hbridge : ∀ Keep : Bridge → Prop, Keep b.bridge →
      (∀ bstep, b.bridgeStep step = some bstep → Keep (b.bridge.step bstep)) →
      Keep (b.step step).bridge := by
    intro Keep hkeep hstep
    rw [board_bridge]
    cases hb : b.bridgeStep step with
    | none => exact hkeep
    | some bstep => exact hstep bstep hb
  constructor
  · exact hbridge Bridge.Mailed h.mailed fun bstep _ => step_mailed b.bridge bstep h.mailed
  · exact hbridge (fun s => ∀ i ctl, s.box i = some ctl → P ctl) h.waiting fun bstep _ =>
      step_boxed h.mailed h.waiting h.handled bstep
  · refine hbridge (fun s => ∀ d ctl, s.phase = .draining d ctl ∨ s.phase = .posting d ctl → P ctl)
      h.handled fun bstep hb => step_handled h.mailed h.handled fun cid ctl hevent => ?_
    obtain rfl := event_of_bridgeStep (hevent ▸ hb)
    exact hsends
  · intro i ctl hanswer
    rcases answer_step b step i with
      hsame | hnone | ⟨-, -, -, -, hfree⟩ | ⟨status, hgets, -, -, hgot⟩
    · exact h.answered i ctl (hsame ▸ hanswer)
    · exact absurd (hnone.symm.trans hanswer) (by simp)
    · exact absurd (hfree.symm.trans hanswer) (by simp)
    · obtain rfl := Option.some.inj (hgot.symm.trans hanswer)
      exact gets_waiting hsends (h.waiting i) hgets
  · intro i
    rcases tank_step b step with hsame | ⟨bstep, htank⟩ | ⟨tick, -, hcomplete, htank⟩
    · rw [hsame]
      exact h.slots i
    · rw [htank]
      exact h.slots i
    · rw [htank]
      cases hasleep : b.tank.asleep with
      | true =>
        rw [loop_asleep hasleep]
        exact h.slots i
      | false =>
        rw [(loop_fetched hasleep _).1, fetchControllers_data]
        show P (dataAfter (b.status i) _)
        cases hstatus : b.status i with
        | success ctl => exact h.answered i ctl (hstatus ▸ answer_of_complete hcomplete i)
        | noData => exact h.slots i
        | invalidDevice => exact h.slots i

/-! ### What the sweep reads -/

/-- One of the reports, read by the descriptor for a controller of firmware 4.8 or 5. -/
def ReadFrom (reports : HidReport → Prop) (ctl : ControllerData) : Prop :=
  ∃ (report : HidReport) (d : XboxDevice), reports report ∧ d.version ≠ .v3_1 ∧
    ctl = (parseXboxReport report d).controller.data

/-- **What the sketch has of a controller are the controls of one of the reports.**  That is so in
every state of every run in which the reports, whatever stands in them, are read by the descriptor,
and no call copies one while its seat is being cleared. -/
theorem slots_hold_pads (config : MkhConfig) (files : Files Path) (steps : List BoardStep)
    (reports : HidReport → Prop) (hsends : ∀ step ∈ steps, Sends (ReadFrom reports) step) (i : Seat) :
    ((after Board.step (Board.boot config files) steps).tank.bp32.controllers i).data = .zero ∨
      ∃ report, reports report ∧
        ((after Board.step (Board.boot config files) steps).tank.bp32.controllers i).data =
          (padRead report).data := by
  have hmeets : Meets Board.step (fun _ step =>
      Sends (fun ctl => ctl = .zero ∨ ∃ report, reports report ∧ ctl = (padRead report).data) step)
      (Board.boot config files) steps := by
    refine meets_iff_forall.mpr fun front step back hsplit => ?_
    have hstep := hsends step (by simp [hsplit])
    unfold Sends at hstep ⊢
    split at hstep
    · obtain ⟨report, d, hreport, hversion, rfl⟩ := hstep
      exact Or.inr ⟨report, hreport, parse_data report hversion⟩
    · exact hstep
    · trivial
  exact (invariant_after (fun b step hb hok => step_sourced b step hb hok) steps _
    (boot_sourced config files (Or.inl rfl)) hmeets).slots i

/-- A controller joins, and a report of it is posted and fetched. -/
def padDriving : List BoardStep :=
  boardJoining ++
    [.event (.hidReport 1 (parseXboxReport pushedReport (xboxoneSetup true 0 .zero)).controller.data),
      .drain, .post] ++
    zeroPolled ++ [idleLoop]

theorem slots_hold_pads_driving :
    ((after Board.step (Board.boot stickConfig fun _ => none)
        padDriving).tank.bp32.controllers 0).data = .zero ∨
      ∃ report, report = pushedReport ∧
        ((after Board.step (Board.boot stickConfig fun _ => none)
          padDriving).tank.bp32.controllers 0).data = (padRead report).data := by
  refine slots_hold_pads stickConfig (fun _ => none) padDriving (· = pushedReport) ?_ 0
  intro step hstep
  simp only [padDriving, boardJoining, joiningEvents, zeroPolled, List.map, List.cons_append,
    List.nil_append, List.mem_cons, List.not_mem_nil, or_false] at hstep
  rcases hstep with rfl | rfl | rfl | rfl | rfl | rfl | rfl | rfl | rfl | rfl | rfl | rfl | rfl
  case inr.inr.inr.inr.inl => exact ⟨pushedReport, xboxoneSetup true 0 .zero, rfl, by decide, rfl⟩
  all_goals trivial

/-- The stick that an input reads; one of another kind reads none, as a stick at rest. -/
def XboxPad.stick (pad : XboxPad) : InputSource → Fin 65536
  | .lsns => pad.leftY
  | .lsew => pad.leftX
  | .rsns => pad.rightY
  | .rsew => pad.rightX
  | _ => XboxPad.rest.leftY

theorem readTokenRaw_stick (pad : XboxPad) {input : InputSource}
    (haxis : mkhConfigInputClass input = .axis) :
    readTokenRaw pad.data input = axisOf (pad.stick input) := by
  have hread : ∀ place, (Int32.ofInt (axisOf place)).toInt = axisOf place := by
    intro place
    have hbounds := axisOf_bounds place
    exact Int32.toInt_ofInt_of_le (by omega) (by omega)
  cases input with
  | lsns => exact hread pad.leftY
  | lsew => exact hread pad.leftX
  | rsns => exact hread pad.rightY
  | rsew => exact hread pad.rightX
  | _ => exact absurd haxis (by decide)

theorem axisOf_mono {place place' : Fin 65536} (h : place ≤ place') : axisOf place ≤ axisOf place' := by
  have hval : (place.val : Int) ≤ place'.val := Int.ofNat_le.mpr h
  exact Int.tdiv_le_tdiv (by norm_num) (by omega)

/-- Further down is further back, from the first of the stick's places to the last. -/
theorem stickByte_antitone {place place' : Fin 65536} (h : place ≤ place') :
    (mkStickYToChannelByte (axisOf place')).toNat ≤ (mkStickYToChannelByte (axisOf place)).toNat :=
  mkStickYToChannelByte_antitone (axisOf_mono h)

/-- Where a stick stands when it drives at full speed, and when it does not drive. -/
theorem stickByte_iff (place : Fin 65536) :
    (mkStickYToChannelByte (axisOf place) = 0xFF ↔ place.val ≤ 64) ∧
      (mkStickYToChannelByte (axisOf place) = neutral ↔ 30080 < place.val ∧ place.val < 35456) ∧
      (mkStickYToChannelByte (axisOf place) = 0x00 ↔ 65472 ≤ place.val) := by
  -- Beyond a threshold the byte is at most what it is there, and before it at least that.
  have hafter : ∀ {start : Fin 65536} {level}, (mkStickYToChannelByte (axisOf start)).toNat = level →
      start.val ≤ place.val → (mkStickYToChannelByte (axisOf place)).toNat ≤ level := by
    intro start level hlevel h
    rw [← hlevel]
    exact stickByte_antitone h
  have hbefore : ∀ {start : Fin 65536} {level}, (mkStickYToChannelByte (axisOf start)).toNat = level →
      place.val ≤ start.val → level ≤ (mkStickYToChannelByte (axisOf place)).toNat := by
    intro start level hlevel h
    rw [← hlevel]
    exact stickByte_antitone h
  have hfull := hbefore (show (mkStickYToChannelByte (axisOf 64)).toNat = 255 by decide +kernel)
  have hless := hafter (show (mkStickYToChannelByte (axisOf 65)).toNat = 254 by decide +kernel)
  have hforward := hbefore (show (mkStickYToChannelByte (axisOf 30080)).toNat = 129 by decide +kernel)
  have hrests := hafter (show (mkStickYToChannelByte (axisOf 30081)).toNat = 128 by decide +kernel)
  have hstill := hbefore (show (mkStickYToChannelByte (axisOf 35455)).toNat = 128 by decide +kernel)
  have hbackward := hafter (show (mkStickYToChannelByte (axisOf 35456)).toNat = 127 by decide +kernel)
  have hmore := hbefore (show (mkStickYToChannelByte (axisOf 65471)).toNat = 1 by decide +kernel)
  have hback := hafter (show (mkStickYToChannelByte (axisOf 65472)).toNat = 0 by decide +kernel)
  have hbyte : (mkStickYToChannelByte (axisOf place)).toNat < 256 := UInt8.toNat_lt _
  rw [← UInt8.toNat_inj, ← UInt8.toNat_inj, ← UInt8.toNat_inj, show (0xFF : UInt8).toNat = 255 from rfl,
    show neutral.toNat = 128 from rfl, show (0x00 : UInt8).toNat = 0 from rfl]
  change place.val ≤ 64 → _ at hfull
  change 65 ≤ place.val → _ at hless
  change place.val ≤ 30080 → _ at hforward
  change 30081 ≤ place.val → _ at hrests
  change place.val ≤ 35455 → _ at hstill
  change 35456 ≤ place.val → _ at hbackward
  change place.val ≤ 65471 → _ at hmore
  change 65472 ≤ place.val → _ at hback
  omega

/-- **From the stick to the byte.**  A binding of a stick, in a sweep that reads a report of the
controls, drives at full speed at the first 65 and at the last 64 of the stick's 65536 places, and
does not drive when it is less than 2688 from the middle. -/
theorem stick_report_byte (pad : XboxPad) (spare : Fin 5 → Nat) (more : List UInt8)
    (behind : Nat → UInt8) {d : XboxDevice} (hversion : d.version ≠ .v3_1) (sw : Sweep) {b : Binding}
    (haxis : mkhConfigInputClass b.input = .axis) (slot : Slot) :
    let report := parseXboxReport (pad.report spare more behind) d
    let byte := (bindingPass { sw with controller := report.controller.data } b slot).rawByte
    (byte = 0xFF ↔ (pad.stick b.input).val ≤ 64) ∧
      (byte = neutral ↔ 30080 < (pad.stick b.input).val ∧ (pad.stick b.input).val < 35456) ∧
      (byte = 0x00 ↔ 65472 ≤ (pad.stick b.input).val) := by
  have hread : (parseXboxReport (pad.report spare more behind) d).controller.data = pad.data := by
    rw [parse_pad rfl hversion, readPad_report]
    rfl
  have hbyte : (bindingPass { sw with controller := pad.data } b slot).rawByte =
      mkStickYToChannelByte (axisOf (pad.stick b.input)) := by
    unfold bindingPass
    rw [if_pos haxis, readTokenRaw_stick pad haxis]
  simp only [hread, hbyte]
  exact stickByte_iff (pad.stick b.input)

def forwardBinding : Binding where
  input := .lsns
  invert := false
  maxPercent := 100
  mode := .proportional

theorem stick_report_byte_pushed :
    let report := parseXboxReport (XboxPad.pushed.report (fun _ => 0) [] fun _ => 0)
      (xboxoneSetup true 0 .zero)
    let byte := (bindingPass
      { (tickOf .noData none).sweep .zero with controller := report.controller.data } forwardBinding
      .clear).rawByte
    (byte = 0xFF ↔ (XboxPad.pushed.stick .lsns).val ≤ 64) ∧
      (byte = neutral ↔
        30080 < (XboxPad.pushed.stick .lsns).val ∧ (XboxPad.pushed.stick .lsns).val < 35456) ∧
      (byte = 0x00 ↔ 65472 ≤ (XboxPad.pushed.stick .lsns).val) :=
  stick_report_byte .pushed (fun _ => 0) [] (fun _ => 0) (show XboxoneFirmware.v5 ≠ .v3_1 by decide)
    ((tickOf .noData none).sweep .zero) (show mkhConfigInputClass .lsns = .axis from rfl) .clear

end MK1Tank
