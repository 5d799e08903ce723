/-
What an Xbox controller's report says.

The descriptor is the same for every report, so the iterator's way through it is worked out
once; what is left of a report is the values of its fields.  The report with the sticks in it
has the id 1, and what the gamepad holds after it is what the controller put into it.  The
others have a field each, and they come at the price of all that the gamepad held.
-/
import MK1Tank.Firmware.XboxOne
import MK1Tank.Proofs.HidParser

namespace MK1Tank

open BitFields

/-! ### The layout -/

/-- A field of the descriptor, each of whose values has a place of its own. -/
def xboxField (id bitPos : UInt16) (size : UInt8) (page usage : UInt16) (min max : Int32)
    (count : UInt8) : UsageItem × HidGlobals :=
  ({ reportId := id, bitPos := bitPos, usagePage := page, usage := usage, size := size
     isVariable := true, globalLogicalMinimum := min },
    { logicalMinimum := min, logicalMaximum := max, usagePage := page, reportSize := size
      reportCount := count })

def stickField (bitPos usage : UInt16) : UsageItem × HidGlobals :=
  xboxField 1 bitPos 16 0x01 usage 0 65535 2

def triggerField (bitPos usage : UInt16) : UsageItem × HidGlobals :=
  xboxField 1 bitPos 10 0x02 usage 0 1023 1

def hatField : UsageItem × HidGlobals := xboxField 1 96 4 0x01 0x39 1 8 1

def buttonField (n : UInt16) : UsageItem × HidGlobals := xboxField 1 (103 + n) 1 0x09 n 0 1 15

def backField : UsageItem × HidGlobals := xboxField 1 120 1 0x0c 0x224 0 1 1

/-- The field of report 2. -/
def homeField : UsageItem × HidGlobals := xboxField 2 0 1 0x0c 0x223 0 1 1

/-- The field of report 4. -/
def batteryField : UsageItem × HidGlobals := xboxField 4 0 8 0x06 0x20 0 255 1

/-- The fields of the sticks, the triggers and the hat. -/
def analogLayout : List (UsageItem × HidGlobals) :=
  [stickField 0 0x30, stickField 16 0x31, stickField 32 0x32, stickField 48 0x35,
    triggerField 64 0xc5, triggerField 80 0xc4, hatField]

/-- The fields of report 1. -/
def padLayout : List (UsageItem × HidGlobals) :=
  analogLayout ++ [1, 2, 3, 4, 5, 6, 7, 8, 9, 10, 11, 12, 13, 14, 15].map buttonField ++ [backField]

/-- **The iterator's way through the descriptor**, to its end. -/
theorem xbox_inputFields :
    inputFields xboxHidDescriptor48Fw = padLayout ++ [homeField, batteryField] ∧
      (fieldsFrom maxFields (btstackHidUsageIteratorInit xboxHidDescriptor48Fw .input)).2 = true := by
  decide +kernel

/-- The number of a field, in a report of any length. -/
def rawValue (report : HidReport) (item : UsageItem) : Nat := (item.unsignedValue report).toNat

/-- A field whose numbers have no sign. -/
structure PlainField (item : UsageItem) : Prop where
  isVariable : item.isVariable = true
  unsigned : ¬ item.globalLogicalMinimum < 0
  small : item.size.toNat < 32

theorem getField_plain {item : UsageItem} (h : PlainField item) (report : HidReport) :
    btstackHidParserGetField item report =
      (item.usage, (UInt32.ofNat (rawValue report item)).toInt32) := by
  unfold btstackHidParserGetField rawValue
  simp only [h.isVariable, if_true, decide_eq_false h.unsigned, Bool.false_and, Bool.false_eq_true,
    if_false, UInt32.ofNat_toNat]

theorem padLayout_plain : ∀ f ∈ padLayout, f.1.reportId = 1 ∧ PlainField f.1 := by
  have hall : ∀ f ∈ padLayout, f.1.reportId = 1 ∧ f.1.isVariable = true ∧
      ¬ f.1.globalLogicalMinimum < 0 ∧ f.1.size.toNat < 32 := by
    decide +kernel
  intro f hf
  obtain ⟨hid, hvariable, hunsigned, hsmall⟩ := hall f hf
  exact ⟨hid, hvariable, hunsigned, hsmall⟩

/-! ### The controls -/

/-- The controls of the controller, as a report 1 has them. -/
structure XboxPad where
  leftX : Fin 65536
  leftY : Fin 65536
  rightX : Fin 65536
  rightY : Fin 65536
  leftTrigger : Fin 1024
  rightTrigger : Fin 1024
  /-- The eight places of the hat are counted from one, clockwise from the top. -/
  hat : Fin 16
  button : Fin 15 → Bool
  back : Bool

/-- A stick's place, in ten bits about the middle. -/
def axisOf (place : Fin 65536) : Int := ((place.val : Int) - 32768).tdiv 64

/-- The directions of a place of the hat. -/
def dpadOf (hat : Fin 16) : UInt8 :=
  [0, dpadUp, dpadUp ||| dpadRight, dpadRight, dpadRight ||| dpadDown, dpadDown, dpadDown ||| dpadLeft,
    dpadLeft, dpadLeft ||| dpadUp].getD hat.val 0

/-- A bit that is set when its button is down. -/
def raise {α : Type} [OrOp α] (held : α) (bit : Bool × α) : α := if bit.1 then held ||| bit.2 else held

/-- What the gamepad holds for the controls.  A trigger counts as a button as well. -/
def XboxPad.controller (pad : XboxPad) : UniController where
  dpad := dpadOf pad.hat
  axisX := Int32.ofInt (axisOf pad.leftX)
  axisY := Int32.ofInt (axisOf pad.leftY)
  axisRX := Int32.ofInt (axisOf pad.rightX)
  axisRY := Int32.ofInt (axisOf pad.rightY)
  brake := Int32.ofInt pad.leftTrigger.val
  throttle := Int32.ofInt pad.rightTrigger.val
  buttons :=
    [(decide (32 ≤ pad.leftTrigger.val), buttonTriggerL),
      (decide (32 ≤ pad.rightTrigger.val), buttonTriggerR), (pad.button 0, buttonA),
      (pad.button 1, buttonB), (pad.button 3, buttonX), (pad.button 4, buttonY),
      (pad.button 6, buttonShoulderL), (pad.button 7, buttonShoulderR), (pad.button 13, buttonThumbL),
      (pad.button 14, buttonThumbR)].foldl raise 0
  miscButtons :=
    [(pad.button 10, miscButtonSelect), (pad.button 11, miscButtonStart),
      (pad.button 12, miscButtonSystem), (pad.back, miscButtonSelect)].foldl raise 0
  battery := 0

/-- The controls that the numbers of the fields speak of. -/
def padOf (number : UsageItem → Nat) : XboxPad where
  leftX := Fin.ofNat _ (number (stickField 0 0x30).1)
  leftY := Fin.ofNat _ (number (stickField 16 0x31).1)
  rightX := Fin.ofNat _ (number (stickField 32 0x32).1)
  rightY := Fin.ofNat _ (number (stickField 48 0x35).1)
  leftTrigger := Fin.ofNat _ (number (triggerField 64 0xc5).1)
  rightTrigger := Fin.ofNat _ (number (triggerField 80 0xc4).1)
  hat := Fin.ofNat _ (number hatField.1)
  button n := number (buttonField (UInt16.ofNat (n.val + 1))).1 ≠ 0
  back := number backField.1 ≠ 0

/-! ### From a number to the gamepad -/

theorem toInt_ofNat_toInt32 {n : Nat} (h : n < 2 ^ 31) : (UInt32.ofNat n).toInt32.toInt = n := by
  rw [show (UInt32.ofNat n).toInt32 = Int32.ofNat n from rfl, Int32.toInt_ofNat_of_lt (by omega)]

theorem axisOf_bounds (place : Fin 65536) : -512 ≤ axisOf place ∧ axisOf place ≤ 511 := by
  have hplace := place.isLt
  unfold axisOf
  rcases Int.le_total 32768 (place.val : Int) with hright | hleft
  · rw [Int.tdiv_eq_ediv_of_nonneg (by omega)]
    omega
  · have hneg : ((place.val : Int) - 32768).tdiv 64 = -((32768 - (place.val : Int)).tdiv 64) := by
      rw [← Int.neg_tdiv, Int.neg_sub]
    rw [hneg, Int.tdiv_eq_ediv_of_nonneg (by omega)]
    omega

theorem processAxis_stick (bitPos usage : UInt16) (place : Fin 65536) :
    uniHidParserProcessAxis (stickField bitPos usage).2 (UInt32.ofNat place.val).toInt32 =
      Int32.ofInt (axisOf place) := by
  have hplace := place.isLt
  have hrange : logicalRange (stickField bitPos usage).2 = 65536 := by
    simp [logicalRange, logicalMax, stickField, xboxField]
  have hcentered : ((UInt32.ofNat place.val).toInt32.toUInt32 - (65536 / 2 : Int32).toUInt32 -
      (stickField bitPos usage).2.logicalMinimum.toUInt32).toInt32.toInt =
        (place.val : Int) - 32768 := by
    have hzero : (stickField bitPos usage).2.logicalMinimum.toUInt32 = 0 := rfl
    rw [hzero, UInt32.sub_zero, UInt32.toInt32_sub, Int32.toInt_sub]
    show ((UInt32.ofNat place.val).toInt32.toInt - 32768).bmod (2 ^ 32) = _
    rw [toInt_ofNat_toInt32 (by omega)]
    exact Int.bmod_eq_of_le (by omega) (by omega)
  have hlevel : Int.tdiv (((place.val : Int) - 32768) * 1024) 65536 = axisOf place := by
    rw [axisOf, show (65536 : Int) = 64 * 1024 by norm_num,
      Int.mul_tdiv_mul_of_pos_left _ _ (by norm_num)]
  have hbounds := axisOf_bounds place
  unfold uniHidParserProcessAxis
  rw [hrange]
  refine Int32.toInt_inj.mp ?_
  rw [Int32.toInt_div_of_ne_right _ _ (by decide), Int32.toInt_mul, hcentered]
  show Int.tdiv ((((place.val : Int) - 32768) * 1024).bmod (2 ^ 32)) 65536 = _
  rw [Int.bmod_eq_of_le (by omega) (by omega), hlevel, Int32.toInt_ofInt_of_le (by omega) (by omega)]

theorem processPedal_trigger (bitPos usage : UInt16) (pull : Fin 1024) :
    uniHidParserProcessPedal (triggerField bitPos usage).2 (UInt32.ofNat pull.val).toInt32 =
      Int32.ofInt pull.val := by
  have hpull := pull.isLt
  have hrange : logicalRange (triggerField bitPos usage).2 = 1024 := by
    simp [logicalRange, logicalMax, triggerField, xboxField]
  have hproduct : (UInt32.ofNat pull.val).toInt32.toUInt32 * axisNormalizeRange /
      (1024 : Int32).toUInt32 = UInt32.ofNat pull.val := by
    have hvalue : (UInt32.ofNat pull.val).toNat = pull.val := UInt32.toNat_ofNat_of_lt' (by
      show pull.val < 2 ^ 32
      omega)
    refine UInt32.toNat_inj.mp ?_
    rw [UInt32.toUInt32_toInt32, UInt32.toNat_div, UInt32.toNat_mul, hvalue]
    show pull.val * 1024 % 2 ^ 32 / 1024 = pull.val
    omega
  unfold uniHidParserProcessPedal
  rw [hrange, hproduct]
  refine Int32.toInt_inj.mp ?_
  rw [toInt_ofNat_toInt32 (by omega), Int32.toInt_ofInt_of_le (by omega) (by omega)]

theorem processHat_place (hat : Fin 16) :
    uniHidParserHatToDpad (uniHidParserProcessHat hatField.2 (UInt32.ofNat hat.val).toInt32) =
      dpadOf hat := by
  revert hat
  decide +kernel

/-- A button is down when its number is not zero. -/
theorem pressed_iff {n : Nat} (h : n < 2 ^ 31) : (UInt32.ofNat n).toInt32 ≠ 0 ↔ n ≠ 0 := by
  rw [not_iff_not, ← Int32.toInt_inj, toInt_ofNat_toInt32 h]
  show (n : Int) = 0 ↔ n = 0
  omega

theorem pulled_iff (pull : Fin 1024) :
    Int32.ofInt pull.val ≥ triggerButtonThreshold ↔ 32 ≤ pull.val := by
  have hpull := pull.isLt
  rw [ge_iff_le, Int32.le_iff_toInt_le, Int32.toInt_ofInt_of_le (by omega) (by omega)]
  show (32 : Int) ≤ pull.val ↔ _
  omega

/-! ### The fields, one after the other -/

theorem press_raise (ctl : UniController) (value : Int32) (button : UInt16) :
    ctl.press value button =
      { ctl with buttons := raise ctl.buttons (decide (value ≠ 0), button) } := by
  simp only [UniController.press, raise, decide_eq_true_eq]

theorem pressMisc_raise (ctl : UniController) (value : Int32) (button : UInt8) :
    ctl.pressMisc value button =
      { ctl with miscButtons := raise ctl.miscButtons (decide (value ≠ 0), button) } := by
  simp only [UniController.pressMisc, raise, decide_eq_true_eq]

theorem pull_raise (ctl : UniController) (pedal : Int32) (button : UInt16) :
    ctl.pull pedal button =
      { ctl with buttons := raise ctl.buttons (decide (pedal ≥ triggerButtonThreshold), button) } := by
  simp only [UniController.pull, raise, decide_eq_true_eq]

/-- What the buttons do, by their numbers. -/
theorem parseButton_table (ctl : UniController) (value : Int32) :
    [1, 2, 3, 4, 5, 6, 7, 8, 9, 10, 11, 12, 13, 14, 15].map (parseButtonFirmwareV4V5 ctl · value) =
      [ctl.press value buttonA, ctl.press value buttonB, ctl, ctl.press value buttonX,
        ctl.press value buttonY, ctl, ctl.press value buttonShoulderL,
        ctl.press value buttonShoulderR, ctl, ctl, ctl.pressMisc value miscButtonSelect,
        ctl.pressMisc value miscButtonStart, ctl.pressMisc value miscButtonSystem,
        ctl.press value buttonThumbL, ctl.press value buttonThumbR] := rfl

/-- A field's page, usage and number, handed to the parser. -/
def takeField (number : UsageItem → Nat) (d : XboxDevice) (f : UsageItem × HidGlobals) : XboxDevice :=
  uniHidParserXboxoneParseUsage d f.2 f.1.usagePage f.1.usage (UInt32.ofNat (number f.1)).toInt32

/-- What a field does to the gamepad of firmware 4.8 and 5. -/
def padEffect (number : UsageItem → Nat) (ctl : UniController) (f : UsageItem × HidGlobals) :
    UniController :=
  (parseUsageFirmwareV4V5 { version := .v5, controller := ctl } f.2 f.1.usagePage f.1.usage
    (UInt32.ofNat (number f.1)).toInt32).controller

theorem parseUsage_v4V5 {d : XboxDevice} (hversion : d.version ≠ .v3_1) (globals : HidGlobals)
    (usagePage usage : UInt16) (value : Int32) :
    uniHidParserXboxoneParseUsage d globals usagePage usage value =
      parseUsageFirmwareV4V5 d globals usagePage usage value := by
  unfold uniHidParserXboxoneParseUsage
  cases hd : d.version with
  | v3_1 => exact absurd hd hversion
  | v4_8 => rfl
  | v5 => rfl

theorem takeField_effect (number : UsageItem → Nat) {d : XboxDevice} (hversion : d.version ≠ .v3_1) :
    ∀ f ∈ padLayout, takeField number d f = d.withController (padEffect number · f) := by
  intro f hf
  unfold takeField
  rw [parseUsage_v4V5 hversion]
  revert f
  simp only [padLayout, analogLayout, List.map, List.forall_mem_append, List.forall_mem_cons]
  refine ⟨⟨⟨rfl, rfl, rfl, rfl, rfl, rfl, rfl, ?_⟩, rfl, rfl, rfl, rfl, rfl, rfl, rfl, rfl, rfl, rfl,
    rfl, rfl, rfl, rfl, rfl, ?_⟩, rfl, ?_⟩ <;> simp

theorem foldl_takeField (number : UsageItem → Nat) {fields : List (UsageItem × HidGlobals)}
    (hfields : ∀ f ∈ fields, f ∈ padLayout) {d : XboxDevice} (hversion : d.version ≠ .v3_1) :
    fields.foldl (takeField number) d =
      d.withController fun ctl => fields.foldl (padEffect number) ctl := by
  induction fields generalizing d with
  | nil => rfl
  | cons f rest ih =>
    have hrest := ih (fun f hf => hfields f (List.mem_cons_of_mem _ hf))
      (d := d.withController (padEffect number · f)) hversion
    rw [List.foldl_cons, takeField_effect number hversion f (hfields f List.mem_cons_self), hrest]
    rfl

/-- Every number fits its field. -/
def NumbersFit (number : UsageItem → Nat) : Prop :=
  ∀ item : UsageItem, item.size.toNat < 32 → number item < 2 ^ item.size.toNat

theorem rawValue_fits (report : HidReport) : NumbersFit (rawValue report) := fun item hsmall =>
  item.unsignedValue_lt hsmall report

/-- What a stick's field makes of its number. -/
def stickValue (number : UsageItem → Nat) (bitPos usage : UInt16) : Int32 :=
  uniHidParserProcessAxis (stickField bitPos usage).2
    (UInt32.ofNat (number (stickField bitPos usage).1)).toInt32

def triggerValue (number : UsageItem → Nat) (bitPos usage : UInt16) : Int32 :=
  uniHidParserProcessPedal (triggerField bitPos usage).2
    (UInt32.ofNat (number (triggerField bitPos usage).1)).toInt32

def hatValue (number : UsageItem → Nat) : UInt8 :=
  uniHidParserHatToDpad (uniHidParserProcessHat hatField.2 (UInt32.ofNat (number hatField.1)).toInt32)

theorem stickValue_eq {number : UsageItem → Nat} (h : NumbersFit number) (bitPos usage : UInt16) :
    stickValue number bitPos usage =
      Int32.ofInt (axisOf (Fin.ofNat _ (number (stickField bitPos usage).1))) := by
  have hfits : number (stickField bitPos usage).1 < 65536 := h _ (show 16 < 32 by decide)
  rw [← processAxis_stick bitPos usage, Fin.ofNat]
  exact congrArg (fun n => uniHidParserProcessAxis _ (UInt32.ofNat n).toInt32)
    (Nat.mod_eq_of_lt hfits).symm

theorem triggerValue_eq {number : UsageItem → Nat} (h : NumbersFit number) (bitPos usage : UInt16) :
    triggerValue number bitPos usage =
      Int32.ofInt (Fin.ofNat 1024 (number (triggerField bitPos usage).1)).val := by
  have hfits : number (triggerField bitPos usage).1 < 1024 := h _ (show 10 < 32 by decide)
  rw [← processPedal_trigger bitPos usage, Fin.ofNat]
  exact congrArg (fun n => uniHidParserProcessPedal _ (UInt32.ofNat n).toInt32)
    (Nat.mod_eq_of_lt hfits).symm

theorem hatValue_eq {number : UsageItem → Nat} (h : NumbersFit number) :
    hatValue number = dpadOf (Fin.ofNat _ (number hatField.1)) := by
  have hfits : number hatField.1 < 16 := h _ (by decide)
  rw [← processHat_place, Fin.ofNat]
  exact congrArg (fun n => uniHidParserHatToDpad (uniHidParserProcessHat _ (UInt32.ofNat n).toInt32))
    (Nat.mod_eq_of_lt hfits).symm

theorem analog_table (number : UsageItem → Nat) (ctl : UniController) :
    analogLayout.map (padEffect number ctl) =
      [{ ctl with axisX := stickValue number 0 0x30 }, { ctl with axisY := stickValue number 16 0x31 },
        { ctl with axisRX := stickValue number 32 0x32 },
        { ctl with axisRY := stickValue number 48 0x35 },
        { ctl with brake := triggerValue number 64 0xc5 }.pull (triggerValue number 64 0xc5)
          buttonTriggerL,
        { ctl with throttle := triggerValue number 80 0xc4 }.pull (triggerValue number 80 0xc4)
          buttonTriggerR,
        { ctl with dpad := hatValue number }] := rfl

/-- The sticks, the triggers and the hat. -/
theorem analog_fold {number : UsageItem → Nat} (h : NumbersFit number) :
    analogLayout.foldl (padEffect number) .zero =
      { (padOf number).controller with
        buttons :=
          [(decide (32 ≤ (padOf number).leftTrigger.val), buttonTriggerL),
            (decide (32 ≤ (padOf number).rightTrigger.val), buttonTriggerR)].foldl raise 0
        miscButtons := 0 } := by
  have htable := analog_table number
  simp only [analogLayout, List.map_cons, List.map_nil, List.cons.injEq, and_true, forall_and] at htable
  simp only [analogLayout, List.foldl_cons, List.foldl_nil, htable, pull_raise, stickValue_eq h,
    triggerValue_eq h, hatValue_eq h, pulled_iff]
  rfl

theorem buttons_fold {number : UsageItem → Nat} (h : NumbersFit number) (ctl : UniController) :
    ([1, 2, 3, 4, 5, 6, 7, 8, 9, 10, 11, 12, 13, 14, 15].map buttonField).foldl (padEffect number) ctl =
      let down (n : Fin 15) := (padOf number).button n
      { ctl with
        buttons :=
          [(down 0, buttonA), (down 1, buttonB), (down 3, buttonX), (down 4, buttonY),
            (down 6, buttonShoulderL), (down 7, buttonShoulderR), (down 13, buttonThumbL),
            (down 14, buttonThumbR)].foldl raise ctl.buttons
        miscButtons :=
          [(down 10, miscButtonSelect), (down 11, miscButtonStart),
            (down 12, miscButtonSystem)].foldl raise ctl.miscButtons } := by
  have htable := fun (ctl : UniController) (value : Int32) => parseButton_table ctl value
  simp only [List.map_cons, List.map_nil, List.cons.injEq, and_true, forall_and] at htable
  have heffect : ∀ ctl n, padEffect number ctl (buttonField n) =
      parseButtonFirmwareV4V5 ctl n (UInt32.ofNat (number (buttonField n).1)).toInt32 :=
    fun _ _ => rfl
  have hdown : ∀ n, (UInt32.ofNat (number (buttonField n).1)).toInt32 ≠ 0 ↔
      number (buttonField n).1 ≠ 0 := by
    intro n
    have hfits : number (buttonField n).1 < 2 := h _ (show 1 < 32 by decide)
    exact pressed_iff (by omega)
  simp only [List.map_cons, List.map_nil, List.foldl_cons, List.foldl_nil, heffect, htable, press_raise,
    pressMisc_raise, hdown]
  rfl

/-- **The fields of a report 1 leave in the gamepad what the controls are.** -/
theorem foldl_padEffect {number : UsageItem → Nat} (h : NumbersFit number) :
    padLayout.foldl (padEffect number) .zero = (padOf number).controller := by
  have hback : ∀ ctl, padEffect number ctl backField =
      ctl.pressMisc (UInt32.ofNat (number backField.1)).toInt32 miscButtonSelect := fun _ => rfl
  have hdown : (UInt32.ofNat (number backField.1)).toInt32 ≠ 0 ↔ number backField.1 ≠ 0 := by
    have hfits : number backField.1 < 2 := h _ (by decide)
    exact pressed_iff (by omega)
  rw [padLayout, List.foldl_append, List.foldl_append, analog_fold h, buttons_fold h, List.foldl_cons,
    List.foldl_nil, hback, pressMisc_raise]
  simp only [hdown]
  rfl

/-! ### Whole reports -/

/-- The controls that a report 1 speaks of, whatever its length. -/
def readPad (report : HidReport) : XboxPad := padOf (rawValue report)

theorem skip_fields {fields : List (UsageItem × HidGlobals)} {report : HidReport}
    (h : ∀ f ∈ fields, f.1.inReport report = false) (d : XboxDevice) :
    parseFields uniHidParserXboxoneParseUsage fields report d = d := by
  unfold parseFields
  induction fields with
  | nil => rfl
  | cons f rest ih =>
    simp only [List.foldl_cons, h f List.mem_cons_self, Bool.false_eq_true, if_false]
    exact ih fun f hf => h f (List.mem_cons_of_mem _ hf)

theorem parseXboxReport_split (report : HidReport) (d : XboxDevice) :
    parseXboxReport report d =
      parseFields uniHidParserXboxoneParseUsage [homeField, batteryField] report
        (parseFields uniHidParserXboxoneParseUsage padLayout report
          (uniHidParserXboxoneInitReport d)) := by
  unfold parseXboxReport uniHidParseInputReport
  rw [xbox_inputFields.1]
  exact List.foldl_append

/-- **A report 1 leaves in the gamepad what its controls are**, and nothing of what was there. -/
theorem parse_pad {report : HidReport} (hid : report.mem 0 = 1) {d : XboxDevice}
    (hversion : d.version ≠ .v3_1) :
    parseXboxReport report d = { d with controller := (readPad report).controller } := by
  have hothers : ∀ f ∈ [homeField, batteryField], f.1.inReport report = false := by
    simp [homeField, batteryField, xboxField, UsageItem.inReport, hid, hidReportIdUndefined]
  have hpad : parseFields uniHidParserXboxoneParseUsage padLayout report
      (uniHidParserXboxoneInitReport d) =
        padLayout.foldl (takeField (rawValue report)) (uniHidParserXboxoneInitReport d) := by
    refine List.foldl_ext _ _ _ fun s f hf => ?_
    obtain ⟨hone, hplain⟩ := padLayout_plain f hf
    have hin : f.1.inReport report = true := by simp [UsageItem.inReport, hone, hid]
    simp only [hin, if_true, getField_plain hplain]
    rfl
  rw [parseXboxReport_split, hpad, skip_fields hothers,
    foldl_takeField _ (fun _ hf => hf) (d := uniHidParserXboxoneInitReport d) hversion]
  show { d with controller := padLayout.foldl (padEffect (rawValue report)) .zero } = _
  rw [foldl_padEffect (rawValue_fits report)]
  rfl

/-- The controls at rest. -/
def XboxPad.rest : XboxPad where
  leftX := 32768
  leftY := 32768
  rightX := 32768
  rightY := 32768
  leftTrigger := 0
  rightTrigger := 0
  hat := 0
  button _ := false
  back := false

/-- The other reports have no place in the gamepad but the battery's. -/
theorem others_keep_data (report : HidReport) {d : XboxDevice} (hversion : d.version ≠ .v3_1) :
    (parseFields uniHidParserXboxoneParseUsage [homeField, batteryField] report d).controller.data =
      d.controller.data := by
  have hhome : ∀ value, uniHidParserXboxoneParseUsage d homeField.2 homeField.1.usagePage
      homeField.1.usage value = d := by
    intro value
    rw [parseUsage_v4V5 hversion]
    rfl
  have hbattery : ∀ value, (uniHidParserXboxoneParseUsage d batteryField.2 batteryField.1.usagePage
      batteryField.1.usage value).controller.data = d.controller.data := by
    intro value
    rw [parseUsage_v4V5 hversion]
    rfl
  have hplain : ∀ f ∈ [homeField, batteryField], PlainField f.1 := by
    have hall : ∀ f ∈ [homeField, batteryField], f.1.isVariable = true ∧
        ¬ f.1.globalLogicalMinimum < 0 ∧ f.1.size.toNat < 32 := by decide
    exact fun f hf => ⟨(hall f hf).1, (hall f hf).2.1, (hall f hf).2.2⟩
  unfold parseFields
  simp only [List.foldl_cons, List.foldl_nil, getField_plain (hplain homeField (by simp)),
    getField_plain (hplain batteryField (by simp)), hhome, ite_self]
  split
  · exact hbattery _
  · rfl

/-- **Any other report puts the gamepad to rest.** -/
theorem parse_other {report : HidReport} (hid : report.mem 0 ≠ 1) {d : XboxDevice}
    (hversion : d.version ≠ .v3_1) :
    (parseXboxReport report d).controller.data = XboxPad.rest.controller.data := by
  have hskip : ∀ f ∈ padLayout, f.1.inReport report = false := by
    intro f hf
    have hother : (1 : UInt16) ≠ (report.mem 0).toUInt16 := fun heq => hid (by
      rw [← UInt8.toNat_inj, ← UInt8.toNat_toUInt16, ← heq]
      rfl)
    simp [UsageItem.inReport, (padLayout_plain f hf).1, hother, hidReportIdUndefined]
  rw [parseXboxReport_split, skip_fields hskip]
  exact (others_keep_data report (d := uniHidParserXboxoneInitReport d) hversion).trans
    (show UniController.zero.data = XboxPad.rest.controller.data by decide +kernel)

/-- What the controls give to the sketch. -/
def XboxPad.data (pad : XboxPad) : ControllerData := pad.controller.data

/-- The controls that a report speaks of.  Only report 1 has any. -/
def padRead (report : HidReport) : XboxPad := if report.mem 0 = 1 then readPad report else .rest

/-- **What the sketch is given of a report are the controls it speaks of**, whatever stands in it. -/
theorem parse_data (report : HidReport) {d : XboxDevice} (hversion : d.version ≠ .v3_1) :
    (parseXboxReport report d).controller.data = (padRead report).data := by
  unfold padRead
  split_ifs with hid
  · rw [parse_pad hid hversion]
    rfl
  · exact parse_other hid hversion

/-! ### A report as the controller makes it -/

/-- The fields of a report 1, each with its size; the descriptor's constant fields hold what they
like. -/
def XboxPad.fields (pad : XboxPad) (spare : Fin 5 → Nat) : List (Nat × Nat) :=
  [(16, pad.leftX.val), (16, pad.leftY.val), (16, pad.rightX.val), (16, pad.rightY.val),
    (10, pad.leftTrigger.val), (6, spare 0 % 64), (10, pad.rightTrigger.val), (6, spare 1 % 64),
    (4, pad.hat.val), (4, spare 2 % 16)] ++
  (List.finRange 15).map (fun n => (1, (pad.button n).toNat)) ++
  [(1, spare 3 % 2), (1, pad.back.toNat), (7, spare 4 % 128)]

/-- A report 1 of the controls, with more bytes after it and other memory behind. -/
def XboxPad.report (pad : XboxPad) (spare : Fin 5 → Nat) (more : List UInt8) (behind : Nat → UInt8) :
    HidReport :=
  .ofBytes ([1] ++ toBytes 16 (pack (pad.fields spare)) ++ more) behind

theorem XboxPad.fields_fit (pad : XboxPad) (spare : Fin 5 → Nat) : Fits (pad.fields spare) := by
  unfold Fits XboxPad.fields
  simp only [List.forall_mem_append, List.forall_mem_cons, List.forall_mem_map]
  have hbit : ∀ down : Bool, down.toNat < 2 := by decide
  have hspare : ∀ i {n : Nat}, 0 < n → spare i % n < n := fun i _ hpos => Nat.mod_lt _ hpos
  refine ⟨⟨⟨pad.leftX.isLt, pad.leftY.isLt, pad.rightX.isLt, pad.rightY.isLt, pad.leftTrigger.isLt,
    hspare 0 (by decide), pad.rightTrigger.isLt, hspare 1 (by decide), pad.hat.isLt,
    hspare 2 (by decide), by simp⟩, fun n _ => hbit _⟩, hspare 3 (by decide), hbit _,
    hspare 4 (by decide), by simp⟩

theorem XboxPad.width_fields (pad : XboxPad) (spare : Fin 5 → Nat) :
    width (pad.fields spare) = 128 := by
  simp [XboxPad.fields, width, Function.comp_def]

theorem XboxPad.fields_button (pad : XboxPad) (spare : Fin 5 → Nat) (k : Fin 15) :
    (pad.fields spare)[10 + k.val]? = some (1, (pad.button k).toNat) ∧
      width ((pad.fields spare).take (10 + k.val)) = 104 + k.val := by
  have hk := k.isLt
  constructor
  · unfold XboxPad.fields
    rw [List.getElem?_append_left (by simp; omega), List.getElem?_append_right (by simp)]
    simp
  · unfold XboxPad.fields
    rw [List.take_append_of_le_length (by simp; omega), List.take_append,
      List.take_of_length_le (by simp)]
    simp [width, ← List.map_take, Function.comp_def]
    omega

theorem XboxPad.fields_back (pad : XboxPad) (spare : Fin 5 → Nat) :
    (pad.fields spare)[26]? = some (1, pad.back.toNat) ∧ width ((pad.fields spare).take 26) = 120 := by
  constructor
  · simp [XboxPad.fields]
  · simp [XboxPad.fields, width, Function.comp_def]

theorem padLayout_narrow : ∀ f ∈ padLayout, 0 < f.1.size.toNat ∧
    f.1.firstBit % 8 + f.1.size.toNat ≤ 32 ∧ f.1.size.toNat < 32 := by
  decide +kernel

/-- A field of the report holds what was packed there. -/
theorem XboxPad.rawValue_report (pad : XboxPad) (spare : Fin 5 → Nat) (more : List UInt8)
    (behind : Nat → UInt8) {f : UsageItem × HidGlobals} (hf : f ∈ padLayout) {n value : Nat}
    (hn : (pad.fields spare)[n]? = some (f.1.size.toNat, value))
    (hfirst : f.1.firstBit = 8 + width ((pad.fields spare).take n)) :
    rawValue (pad.report spare more behind) f.1 = value := by
  have hwidth := pad.width_fields spare
  have hfit : width ((pad.fields spare).take n) + f.1.size.toNat ≤ 128 := hwidth ▸ width_take_le hn
  have hinside : f.1.Inside (pad.report spare more behind) := by
    obtain ⟨hnonempty, hnarrow, hsmall⟩ := padLayout_narrow f hf
    refine ⟨hnonempty, hnarrow, hsmall, ?_⟩
    have hlen : (pad.report spare more behind).len = 17 + more.length := by
      simp [XboxPad.report, HidReport.ofBytes]
      omega
    omega
  have hbytes : width ((pad.fields spare).take n) + f.1.size.toNat ≤
      8 * (toBytes 16 (pack (pad.fields spare))).length := by
    rwa [length_toBytes]
  rw [rawValue, unsignedValue_toNat hinside, hfirst, XboxPad.report, HidReport.bytes_ofBytes]
  exact (field_mid [1] more hbytes).trans (field_toBytes (pad.fields_fit spare) (le_of_eq hwidth) hn)

/-- **The controls are read back from their report.** -/
theorem readPad_report (pad : XboxPad) (spare : Fin 5 → Nat) (more : List UInt8)
    (behind : Nat → UInt8) : readPad (pad.report spare more behind) = pad := by
  have hread : ∀ {f n value}, f ∈ padLayout → (pad.fields spare)[n]? = some (f.1.size.toNat, value) →
      f.1.firstBit = 8 + width ((pad.fields spare).take n) →
      rawValue (pad.report spare more behind) f.1 = value :=
    fun hf hn hfirst => pad.rawValue_report spare more behind hf hn hfirst
  have hlx : rawValue (pad.report spare more behind) (stickField 0 0x30).1 = pad.leftX.val :=
    hread (n := 0) (by decide) rfl rfl
  have hly : rawValue (pad.report spare more behind) (stickField 16 0x31).1 = pad.leftY.val :=
    hread (n := 1) (by decide) rfl rfl
  have hrx : rawValue (pad.report spare more behind) (stickField 32 0x32).1 = pad.rightX.val :=
    hread (n := 2) (by decide) rfl rfl
  have hry : rawValue (pad.report spare more behind) (stickField 48 0x35).1 = pad.rightY.val :=
    hread (n := 3) (by decide) rfl rfl
  have hlt : rawValue (pad.report spare more behind) (triggerField 64 0xc5).1 = pad.leftTrigger.val :=
    hread (n := 4) (by decide) rfl rfl
  have hrt : rawValue (pad.report spare more behind) (triggerField 80 0xc4).1 = pad.rightTrigger.val :=
    hread (n := 6) (by decide) rfl rfl
  have hhat : rawValue (pad.report spare more behind) hatField.1 = pad.hat.val :=
    hread (n := 8) (by decide) rfl rfl
  have hbutton : ∀ k : Fin 15, rawValue (pad.report spare more behind)
      (buttonField (UInt16.ofNat (k.val + 1))).1 = (pad.button k).toNat := by
    intro k
    obtain ⟨hn, hwidth⟩ := pad.fields_button spare k
    have hmem : ∀ k : Fin 15, buttonField (UInt16.ofNat (k.val + 1)) ∈ padLayout := by decide +kernel
    have hfirst : ∀ k : Fin 15, (buttonField (UInt16.ofNat (k.val + 1))).1.firstBit = 112 + k.val := by
      decide +kernel
    refine hread (hmem k) hn ?_
    rw [hfirst, hwidth]
    omega
  have hback : rawValue (pad.report spare more behind) backField.1 = pad.back.toNat := by
    obtain ⟨hn, hwidth⟩ := pad.fields_back spare
    refine hread (by decide) hn ?_
    rw [hwidth]
    rfl
  have hfin : ∀ {n : Nat} [NeZero n] (i : Fin n), Fin.ofNat n i.val = i := fun i =>
    Fin.ofNat_val_eq_self i
  have hdown : ∀ down : Bool, decide (down.toNat ≠ 0) = down := by decide
  unfold readPad padOf
  simp only [hlx, hly, hrx, hry, hlt, hrt, hhat, hbutton, hback, hfin, hdown]

/-- The left stick is pushed forward, and A is held. -/
def XboxPad.pushed : XboxPad := { XboxPad.rest with leftY := 0, button := fun n => n = 0 }

def pushedReport : HidReport := XboxPad.pushed.report (fun _ => 0) [] fun _ => 0

end MK1Tank
