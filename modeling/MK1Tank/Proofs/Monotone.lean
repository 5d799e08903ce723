/-
Proportional drive is monotone and capped.

Every step between a reading and the byte it adds keeps the order of its inputs: the
deadzone, the two spans and the rounding of a stick, the mirror with its clamp, the cap
with its truncation.  An inverted binding turns the order round.  So a port whose
bindings of one input share their invert follows that input, sum and final clamp
included, and no binding takes it further from neutral than its own share.
-/
import MK1Tank.Proofs.Alternatives

namespace MK1Tank

open Rounding

/-! ### From a reading to a byte, in order -/

theorem clampByte_toNat (v : Int) : ((clampByte v).toNat : Int) = max 0 (min 255 v) := by
  have hlow : (0 : Int) ≤ max 0x00 (min 0xFF v) := by omega
  have hhigh : max 0x00 (min 0xFF v) < 256 := by omega
  unfold clampByte castByte
  rw [Int.emod_eq_of_lt hlow hhigh, UInt8.toNat_ofNat']
  omega

/-- How far a stick is out of its deadzone, as a signed level: forward is positive. -/
def stickLevel (axisY : Int) : Int :=
  if axisY ≥ -stickDeadzone ∧ axisY ≤ stickDeadzone then 0
  else if axisY < 0 then
    lround (min ((-axisY - stickDeadzone : Int) / ((mkhStickAxisMagnitude - stickDeadzone : Int) : ℚ)) 1
      * 127)
  else
    lround (-(min ((axisY - stickDeadzone : Int) / ((mkhStickAxisMagnitude - stickDeadzone : Int) : ℚ)) 1
      * 128))

theorem mkStickYToChannelByte_level (axisY : Int) :
    mkStickYToChannelByte axisY = clampByte (128 + stickLevel axisY) := by
  unfold mkStickYToChannelByte stickLevel
  split
  · decide
  · by_cases hforward : axisY < 0
    · simp [hforward]
    · simp [hforward]

/-- The part of the travel that a reading covers, in order. -/
theorem fraction_mono {deadzone travel a b : Int} (htravel : 0 < travel) (hab : a ≤ b) :
    min ((a - deadzone : Int) / (travel : ℚ)) 1 ≤ min ((b - deadzone : Int) / (travel : ℚ)) 1 := by
  have hpos : (0 : ℚ) < travel := by exact_mod_cast htravel
  have hle : ((a - deadzone : Int) : ℚ) ≤ (b - deadzone : Int) := by
    exact_mod_cast Int.sub_le_sub_right hab deadzone
  exact min_le_min_right 1 (div_le_div_of_nonneg_right hle hpos.le)

theorem fraction_nonneg {deadzone travel a : Int} (htravel : 0 < travel) (ha : deadzone ≤ a) :
    0 ≤ min ((a - deadzone : Int) / (travel : ℚ)) 1 := by
  have hpos : (0 : ℚ) < travel := by exact_mod_cast htravel
  have hnum : (0 : ℚ) ≤ (a - deadzone : Int) := by exact_mod_cast Int.sub_nonneg_of_le ha
  exact le_min (div_nonneg hnum hpos.le) zero_le_one

theorem stickTravel_pos : 0 < mkhStickAxisMagnitude - stickDeadzone := by decide

theorem stickDeadzone_pos : 0 < stickDeadzone := by decide

theorem stickLevel_forward {axisY : Int} (h : axisY < -stickDeadzone) : 0 ≤ stickLevel axisY := by
  have hpos := stickDeadzone_pos
  rw [stickLevel, if_neg (by omega), if_pos (by omega)]
  exact lround_nonneg (mul_nonneg (fraction_nonneg stickTravel_pos (by omega)) (by norm_num))

theorem stickLevel_backward {axisY : Int} (h : stickDeadzone < axisY) : stickLevel axisY ≤ 0 := by
  have hpos := stickDeadzone_pos
  rw [stickLevel, if_neg (by omega), if_neg (by omega)]
  have hfraction := fraction_nonneg stickTravel_pos (le_of_lt h)
  exact lround_nonpos (by linarith [mul_nonneg hfraction (show (0 : ℚ) ≤ 128 by norm_num)])

/-- Further down is further back. -/
theorem stickLevel_antitone {a b : Int} (h : a ≤ b) : stickLevel b ≤ stickLevel a := by
  have hpos := stickDeadzone_pos
  by_cases haforward : a < -stickDeadzone
  · by_cases hbforward : b < -stickDeadzone
    · rw [stickLevel, stickLevel, if_neg (by omega), if_pos (by omega), if_neg (by omega),
        if_pos (by omega)]
      exact lround_mono (mul_le_mul_of_nonneg_right (fraction_mono stickTravel_pos (by omega))
        (by norm_num))
    · have ha := stickLevel_forward haforward
      by_cases hbrest : b ≤ stickDeadzone
      · rw [stickLevel, if_pos (by omega)]
        exact ha
      · exact (stickLevel_backward (by omega)).trans ha
  · by_cases harest : a ≤ stickDeadzone
    · have ha : stickLevel a = 0 := if_pos (by omega)
      rw [ha]
      by_cases hbrest : b ≤ stickDeadzone
      · rw [stickLevel, if_pos (by omega)]
      · exact stickLevel_backward (by omega)
    · rw [stickLevel, stickLevel, if_neg (by omega), if_neg (by omega), if_neg (by omega),
        if_neg (by omega)]
      exact lround_mono (neg_le_neg (mul_le_mul_of_nonneg_right
        (fraction_mono stickTravel_pos (by omega)) (by norm_num)))

theorem mkStickYToChannelByte_antitone {a b : Int} (h : a ≤ b) :
    (mkStickYToChannelByte b).toNat ≤ (mkStickYToChannelByte a).toNat := by
  have hlevel := stickLevel_antitone h
  have ha := clampByte_toNat (128 + stickLevel a)
  have hb := clampByte_toNat (128 + stickLevel b)
  rw [mkStickYToChannelByte_level, mkStickYToChannelByte_level]
  omega

/-- How far a trigger is pulled out of its deadzone. -/
def triggerLevel (value : Int) : Int :=
  if value ≤ triggerDeadzone then 0
  else lround (min ((value - triggerDeadzone : Int) /
    ((triggerMagnitude - triggerDeadzone : Int) : ℚ)) 1 * 127)

theorem triggerTravel_pos : 0 < triggerMagnitude - triggerDeadzone := by decide

theorem triggerLevel_nonneg (value : Int) : 0 ≤ triggerLevel value := by
  unfold triggerLevel
  split
  · exact le_rfl
  · exact lround_nonneg (mul_nonneg (fraction_nonneg triggerTravel_pos (by omega)) (by norm_num))

theorem triggerLevel_mono {a b : Int} (h : a ≤ b) : triggerLevel a ≤ triggerLevel b := by
  by_cases ha : a ≤ triggerDeadzone
  · rw [triggerLevel, if_pos ha]
    exact triggerLevel_nonneg b
  · rw [triggerLevel, triggerLevel, if_neg ha, if_neg (by omega)]
    exact lround_mono (mul_le_mul_of_nonneg_right (fraction_mono triggerTravel_pos h) (by norm_num))

/-- A trigger has no clamp from below, and needs none. -/
theorem mkTriggerToChannelByte_level (value : Int) :
    mkTriggerToChannelByte value = clampByte (128 + triggerLevel value) := by
  have hnonneg := triggerLevel_nonneg value
  unfold mkTriggerToChannelByte
  unfold triggerLevel at hnonneg ⊢
  split
  · decide
  · rename_i hpulled
    rw [if_neg hpulled] at hnonneg
    simp only
    rw [clampByte, max_eq_right (by omega)]

theorem mkTriggerToChannelByte_mono {a b : Int} (h : a ≤ b) :
    (mkTriggerToChannelByte a).toNat ≤ (mkTriggerToChannelByte b).toNat := by
  have hlevel := triggerLevel_mono h
  have ha := clampByte_toNat (128 + triggerLevel a)
  have hb := clampByte_toNat (128 + triggerLevel b)
  rw [mkTriggerToChannelByte_level, mkTriggerToChannelByte_level]
  omega

/-! ### Invert and cap -/

/-- Where a push takes a byte: up, or down through an inverted binding. -/
def Follows (invert : Bool) (byte byte' : UInt8) : Prop :=
  if invert then byte'.toNat ≤ byte.toNat else byte.toNat ≤ byte'.toNat

instance (invert : Bool) (byte byte' : UInt8) : Decidable (Follows invert byte byte') := by
  unfold Follows
  infer_instance

theorem Follows.refl (invert : Bool) (byte : UInt8) : Follows invert byte byte := by
  unfold Follows
  split <;> exact le_rfl

theorem mkApplyBindingConfig_toNat {b : Binding} (hmode : b.mode ≠ .thl) (rawByte : UInt8) :
    ((mkApplyBindingConfig rawByte b).toNat : Int) = max 0 (min 255
      (128 + ((invertByte rawByte b.invert - 0x80) * b.maxPercent).tdiv 100)) := by
  rw [mkApplyBindingConfig_eq, if_neg hmode, clampByte_toNat]

theorem cap_mono {v w : Int} (h : v ≤ w) (maxPercent : Nat) :
    ((v - 0x80) * maxPercent).tdiv 100 ≤ ((w - 0x80) * maxPercent).tdiv 100 :=
  Int.tdiv_le_tdiv (by decide)
    (Int.mul_le_mul_of_nonneg_right (by omega) (Int.natCast_nonneg maxPercent))

/-- **A binding follows its raw byte**, against it when inverted. -/
theorem mkApplyBindingConfig_follows {b : Binding} (hmode : b.mode ≠ .thl) {rawByte rawByte' : UInt8}
    (h : rawByte.toNat ≤ rawByte'.toNat) :
    Follows b.invert (mkApplyBindingConfig rawByte b) (mkApplyBindingConfig rawByte' b) := by
  have hraw := mkApplyBindingConfig_toNat hmode rawByte
  have hraw' := mkApplyBindingConfig_toNat hmode rawByte'
  unfold Follows
  cases hinvert : b.invert with
  | false =>
    rw [hinvert] at hraw hraw'
    have hmono : invertByte rawByte false ≤ invertByte rawByte' false := by
      simp only [invertByte, Bool.false_eq_true, if_false]
      omega
    have hcap := cap_mono hmono b.maxPercent
    simp only [Bool.false_eq_true, if_false]
    omega
  | true =>
    rw [hinvert] at hraw hraw'
    have hmono : invertByte rawByte' true ≤ invertByte rawByte true := by
      simp only [invertByte, if_true]
      omega
    have hcap := cap_mono hmono b.maxPercent
    simp only [if_true]
    omega

/-- A binding's share of the channel. -/
def share (b : Binding) : Nat := 128 * b.maxPercent / 100

/-- The cap survives truncation on both sides. -/
theorem mkApplyBindingConfig_capped {b : Binding} (hmode : b.mode ≠ .thl) (rawByte : UInt8) :
    |((mkApplyBindingConfig rawByte b).toNat : Int) - 0x80| ≤ share b := by
  obtain ⟨hlow, hhigh⟩ := invertByte_range rawByte b.invert
  have hwidth : (invertByte rawByte b.invert - 0x80).natAbs ≤ 128 := by omega
  have hscaled : (((invertByte rawByte b.invert - 0x80) * b.maxPercent).tdiv 100).natAbs ≤ share b := by
    rw [Int.natAbs_tdiv, Int.natAbs_mul, Int.natAbs_natCast]
    exact Nat.div_le_div_right (Nat.mul_le_mul_right b.maxPercent hwidth)
  have hbyte := mkApplyBindingConfig_toNat hmode rawByte
  rw [abs_le]
  omega

/-! ### A port of proportional bindings -/

/-- A stick axis or a trigger in proportional mode, and no heading lock. -/
structure Binding.Proportional (b : Binding) : Prop where
  notLock : b.mode ≠ .thl
  analog : mkhConfigInputClass b.input = .axis ∨
    (mkhConfigInputClass b.input = .trigger ∧ b.mode = .proportional)

instance (b : Binding) : Decidable b.Proportional :=
  decidable_of_iff (b.mode ≠ .thl ∧ (mkhConfigInputClass b.input = .axis ∨
      (mkhConfigInputClass b.input = .trigger ∧ b.mode = .proportional)))
    ⟨fun h => ⟨h.1, h.2⟩, fun h => ⟨h.notLock, h.analog⟩⟩

/-- How far an input drives forward: up on a stick is negative, a trigger pulls one way. -/
def drives (ctl : ControllerData) (input : InputSource) : Int :=
  if mkhConfigInputClass input = .axis then -readTokenRaw ctl input else readTokenRaw ctl input

/-- Two reports that differ in one input at most. -/
def DifferOnlyIn (input : InputSource) (ctl ctl' : ControllerData) : Prop :=
  ∀ t ≠ input, readTokenRaw ctl' t = readTokenRaw ctl t

/-- What a proportional binding makes of a report. -/
def proportionalByte (ctl : ControllerData) (b : Binding) : UInt8 :=
  mkApplyBindingConfig
    (if mkhConfigInputClass b.input = .axis then mkStickYToChannelByte (readTokenRaw ctl b.input)
      else mkTriggerToChannelByte (readTokenRaw ctl b.input)) b

theorem proportionalByte_follows {ctl ctl' : ControllerData} {b : Binding} (h : b.Proportional)
    (hdrives : drives ctl b.input ≤ drives ctl' b.input) :
    Follows b.invert (proportionalByte ctl b) (proportionalByte ctl' b) := by
  unfold drives at hdrives
  unfold proportionalByte
  by_cases haxis : mkhConfigInputClass b.input = .axis
  · rw [if_pos haxis, if_pos haxis] at hdrives
    rw [if_pos haxis, if_pos haxis]
    exact mkApplyBindingConfig_follows h.notLock (mkStickYToChannelByte_antitone (by omega))
  · rw [if_neg haxis, if_neg haxis] at hdrives
    rw [if_neg haxis, if_neg haxis]
    exact mkApplyBindingConfig_follows h.notLock (mkTriggerToChannelByte_mono hdrives)

/-- A slot with no binding adds nothing to a sum over the slots. -/
private theorem sum_slots {α : Type} (value : α → Int) (items : List α) :
    ∀ n, items.length ≤ n →
      ((List.finRange n).map fun i => (items[i.val]?).elim 0 value).sum = (items.map value).sum := by
  induction items with
  | nil =>
    intro n _
    exact List.sum_eq_zero fun x hx => by simpa using (List.mem_map.mp hx).choose_spec.2.symm
  | cons item rest ih =>
    intro n hn
    obtain ⟨m, rfl⟩ : ∃ m, n = m + 1 := ⟨n - 1, by simp at hn; omega⟩
    rw [List.finRange_succ, List.map_cons, List.sum_cons, List.map_map, List.map_cons, List.sum_cons,
      ← ih m (by simpa using hn)]
    rfl

/-- How far the bindings of a port take it off neutral, before the last clamp. -/
def proportionalSum (ctl : ControllerData) (cfg : PortConfig) : Int :=
  (cfg.bindings.map fun b => ((proportionalByte ctl b).toNat : Int) - 0x80).sum

/-- The shares of the bindings that are off neutral. -/
def sharesOff (ctl : ControllerData) (cfg : PortConfig) : Nat :=
  ((cfg.bindings.filter fun b => proportionalByte ctl b ≠ neutral).map share).sum

section Port

variable {cfg : PortConfig} (hprop : ∀ b ∈ cfg.bindings, b.Proportional)
include hprop

/-- Such a port is driven by the report alone: no lock, no runtime state. -/
theorem sweptByte_proportional (sw : Sweep) (slots : PortSlots) :
    ((sweptByte sw cfg slots).toNat : Int) =
      0x80 + max (-128) (min 127 (proportionalSum sw.controller cfg)) := by
  have hbound : ∀ {i b}, cfg.bindingIn i = some b → b.Proportional :=
    fun hb => hprop _ (List.mem_of_getElem? hb)
  have hnone : heldLock sw cfg slots = none :=
    heldLock_of_no_lock (fun _ _ hb => (hbound hb).notLock) sw slots
  have hbytes : sweptBytes sw cfg slots = passedBytes sw cfg slots := by
    unfold sweptBytes
    rw [portPass_eq, hnone]
    rfl
  have hcontribution : contribution cfg (sweptBytes sw cfg slots) = fun i =>
      (cfg.bindings[i.val]?).elim 0 fun b =>
        ((proportionalByte sw.controller b).toNat : Int) - 0x80 := by
    funext i
    show _ = (cfg.bindingIn i).elim 0 _
    cases hb : cfg.bindingIn i with
    | none => exact contribution_of_unbound hb _
    | some b =>
      rw [contribution_of_bound hb, Option.elim_some, hbytes, passedBytes_own hb, ownRawByte,
        proportionalByte]
      rcases (hbound hb).analog with haxis | htrigger
      · rw [if_pos haxis, if_pos haxis]
      · have hclass : mkhConfigInputClass b.input ≠ .axis := by
          rw [htrigger.1]
          decide
        rw [if_neg hclass, if_neg hclass, if_pos htrigger]
  rw [sweptByte_toNat, hcontribution, BindingSlot.all, sum_slots _ cfg.bindings _ cfg.count_le,
    proportionalSum]

/-- **The sum follows a pushed input.** -/
theorem proportionalSum_follows {ctl ctl' : ControllerData} {input : InputSource} {invert : Bool}
    (hothers : DifferOnlyIn input ctl ctl')
    (hinvert : ∀ b ∈ cfg.bindings, b.input = input → b.invert = invert)
    (hdrives : drives ctl input ≤ drives ctl' input) :
    if invert then proportionalSum ctl' cfg ≤ proportionalSum ctl cfg
    else proportionalSum ctl cfg ≤ proportionalSum ctl' cfg := by
  have hfollows : ∀ b ∈ cfg.bindings,
      Follows invert (proportionalByte ctl b) (proportionalByte ctl' b) := by
    intro b hb
    by_cases hinput : b.input = input
    · rw [← hinvert b hb hinput]
      exact proportionalByte_follows (hprop b hb) (hinput ▸ hdrives)
    · have hsame : proportionalByte ctl' b = proportionalByte ctl b := by
        rw [proportionalByte, proportionalByte, hothers b.input hinput]
      rw [hsame]
      exact Follows.refl invert _
  unfold proportionalSum
  cases invert with
  | false =>
    refine List.sum_le_sum fun b hb => ?_
    have hle : (proportionalByte ctl b).toNat ≤ (proportionalByte ctl' b).toNat := hfollows b hb
    omega
  | true =>
    refine List.sum_le_sum fun b hb => ?_
    have hle : (proportionalByte ctl' b).toNat ≤ (proportionalByte ctl b).toNat := hfollows b hb
    omega

/-- **The sum is within the shares of the bindings off neutral.** -/
theorem proportionalSum_capped (ctl : ControllerData) :
    |proportionalSum ctl cfg| ≤ sharesOff ctl cfg := by
  unfold proportionalSum sharesOff
  generalize cfg.bindings = bindings at hprop
  induction bindings with
  | nil => simp
  | cons b rest ih =>
    have hrest := ih fun b' hb' => hprop b' (List.mem_cons_of_mem b hb')
    have hcap := mkApplyBindingConfig_capped (hprop b List.mem_cons_self).notLock
      (if mkhConfigInputClass b.input = .axis then mkStickYToChannelByte (readTokenRaw ctl b.input)
        else mkTriggerToChannelByte (readTokenRaw ctl b.input))
    change |((proportionalByte ctl b).toNat : Int) - 0x80| ≤ share b at hcap
    rw [List.map_cons, List.sum_cons, List.filter_cons]
    by_cases hoff : proportionalByte ctl b = neutral
    · have hzero : ((proportionalByte ctl b).toNat : Int) - 0x80 = 0 := by
        rw [hoff]
        rfl
      rw [hzero, zero_add]
      simpa [hoff] using hrest
    · simp only [ne_eq, hoff, not_false_eq_true, decide_true, if_true, List.map_cons, List.sum_cons,
        Nat.cast_add]
      exact (abs_add_le _ _).trans (add_le_add hcap hrest)

end Port

/-- The last clamp keeps the order of the sums. -/
theorem follows_of_sums {invert : Bool} {byte byte' : UInt8} {sum sum' : Int}
    (h : (byte.toNat : Int) = 0x80 + max (-128) (min 127 sum))
    (h' : (byte'.toNat : Int) = 0x80 + max (-128) (min 127 sum'))
    (hsum : if invert then sum' ≤ sum else sum ≤ sum') : Follows invert byte byte' := by
  unfold Follows
  cases invert with
  | false =>
    simp only [Bool.false_eq_true, if_false] at hsum ⊢
    omega
  | true =>
    simp only [if_true] at hsum ⊢
    omega

/-- **Proportional drive is monotone and capped**, whatever state the sweeps meet: a port whose
bindings of an input share their invert moves only the way that input is pushed, and is never
further from neutral than the shares of its bindings that are off neutral. -/
theorem proportional_drive_monotone (d : Device) (p : Port) (s : Live)
    (hbound : (s.config.table d p).bindings ≠ [])
    (hprop : ∀ b ∈ (s.config.table d p).bindings, b.Proportional) :
    (∀ s' : Live, s'.config.table d p = s.config.table d p → ∀ sw sw' now now' input invert,
      DifferOnlyIn input sw.controller sw'.controller →
      (∀ b ∈ (s.config.table d p).bindings, b.input = input → b.invert = invert) →
      (drives sw.controller input ≤ drives sw'.controller input →
        Follows invert ((processMappedInputs sw now s).broadcast.channelValue d p)
          ((processMappedInputs sw' now' s').broadcast.channelValue d p)) ∧
      (drives sw'.controller input ≤ drives sw.controller input →
        Follows invert ((processMappedInputs sw' now' s').broadcast.channelValue d p)
          ((processMappedInputs sw now s).broadcast.channelValue d p))) ∧
    ∀ sw now, |(((processMappedInputs sw now s).broadcast.channelValue d p).toNat : Int) - 0x80| ≤
      sharesOff sw.controller (s.config.table d p) := by
  have hbyte : ∀ s' : Live, s'.config.table d p = s.config.table d p → ∀ sw now,
      (((processMappedInputs sw now s').broadcast.channelValue d p).toNat : Int) =
        0x80 + max (-128) (min 127 (proportionalSum sw.controller (s.config.table d p))) := by
    intro s' htable sw now
    rw [processMappedInputs_channel, htable, if_neg hbound]
    exact sweptByte_proportional hprop sw _
  refine ⟨?_, fun sw now => ?_⟩
  · intro s' htable sw sw' now now' input invert hothers hinvert
    have hat := hbyte s rfl sw now
    have hat' := hbyte s' htable sw' now'
    refine ⟨fun hdrives => ?_, fun hdrives => ?_⟩
    · exact follows_of_sums hat hat' (proportionalSum_follows hprop hothers hinvert hdrives)
    · have hback : DifferOnlyIn input sw'.controller sw.controller := fun t ht => (hothers t ht).symm
      exact follows_of_sums hat' hat (proportionalSum_follows hprop hback hinvert hdrives)
  · have hcap := proportionalSum_capped hprop sw.controller
    rw [abs_le] at hcap ⊢
    rw [hbyte s rfl sw now]
    omega

/-- The stick half forward, and then further. -/
theorem proportional_drive_monotone_stick :
    Follows false
        ((processMappedInputs (sweepOf (stickReport (-200))) (fun _ _ => 0)
          (Live.start stickConfig .boot)).broadcast.channelValue 0 mkhPortA)
        ((processMappedInputs (sweepOf (stickReport (-400))) (fun _ _ => 0)
          (Live.start stickConfig .boot)).broadcast.channelValue 0 mkhPortA) ∧
      sharesOff (stickReport (-400)) (stickConfig.table 0 mkhPortA) = 128 := by
  obtain ⟨hfollows, -⟩ := proportional_drive_monotone 0 mkhPortA (Live.start stickConfig .boot)
    (by decide +kernel) (by decide +kernel)
  have hothers : DifferOnlyIn .lsns (stickReport (-200)) (stickReport (-400)) := by
    intro t ht
    cases t <;> first | rfl | exact absurd rfl ht
  refine ⟨(hfollows _ rfl (sweepOf (stickReport (-200))) (sweepOf (stickReport (-400))) (fun _ _ => 0)
    (fun _ _ => 0) .lsns false hothers (by decide +kernel)).1 (by decide), by decide +kernel⟩

end MK1Tank
