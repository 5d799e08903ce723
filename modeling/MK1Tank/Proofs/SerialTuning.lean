/-
What the serial port makes of the tunables.

A line is a command when it is short enough for the buffer and its words are `thl`, the
name of a tunable and a decimal numeral, no other, of a number that is not negative and
that a `float` holds.  The reader goes further: it takes what the buffer holds of a line
when that only begins like a command, and it takes infinities and NaNs.  So the tunables
are what the commands have made of them exactly as long as every line that is taken is a
command, or sets a tunable to what it is.  In what pieces the bytes came in, and what has
come of an unfinished line, does not matter.
-/
import MK1Tank.Lib.LineFeed
import MK1Tank.Firmware.ThlTune
import MK1Tank.Proofs.ControlLaw

namespace MK1Tank

open CString Runs LineFeed

/-! ### Commands -/

def tuneParamName : TuneParam → List Char
  | .deadband => "deadband".toList
  | .kp => "kp".toList
  | .floor => "floor".toList
  | .ceiling => "ceiling".toList
  | .cancel => "cancel".toList

/-- The line, in full, sets the tunable to this number. -/
inductive TuneCommand (line : List Char) (p : TuneParam) (q : ℚ) : Prop
  | mk {cmd param value : List Char} {exact : ℚ} (hlength : line.length ≤ thlTuneLineMax)
      (hwords : strtok isBlank line = [cmd, param, value])
      (hcmd : strcasecmp cmd "thl".toList = true)
      (hparam : strcasecmp param (tuneParamName p) = true)
      (hvalue : Decimal value exact) (hnonneg : 0 ≤ exact)
      (hfinite : Binary32.ofRat exact = .finite q)

/-- A line is to set what it commands, and nothing if it is no command. -/
inductive Obeys (t : Tunables) (line : List Char) : Tunables → Prop
  | command {p : TuneParam} {q : ℚ} (h : TuneCommand line p q) : Obeys t line (t.set p (.finite q))
  | other (h : ∀ p q, ¬ TuneCommand line p q) : Obeys t line t

/-- The lines that have come in, without their carriage returns. -/
def received (stream : List Char) : List (List Char) :=
  (ended '\n' stream).map (·.filter (· ≠ '\r'))

/-- The tunables after the commands among the lines. -/
def Tuned (lines : List (List Char)) (t : Tunables) : Prop := Follows Obeys .boot lines t

/-! ### What is taken -/

/-- What the buffer holds of the line begins like a command. -/
inductive TakenAs (line : List Char) (p : TuneParam) (v : Binary32) : Prop
  | mk {cmd param valueStr left : List Char} {more : List (List Char)}
      (hwords : strtok isBlank (cStr (line.take thlTuneLineMax)) = cmd :: param :: valueStr :: more)
      (hcmd : strcasecmp cmd "thl".toList = true)
      (hparam : strcasecmp param (tuneParamName p) = true)
      (hvalue : strtof valueStr = some (v, left)) (hsign : v.negative = false)

/-- If the line is taken at all, it is a command, or its tunable has the value already. -/
def HarmlessLine (t : Tunables) (line : List Char) : Prop :=
  ∀ p v, TakenAs line p v → (∃ q, TuneCommand line p q) ∨ t.get p = v

section Lines

variable {line param : List Char} {p p' : TuneParam} {v v' : Binary32} {q q' : ℚ} {t : Tunables}

theorem tuneParam_eq_some : tuneParam param = some p ↔ strcasecmp param (tuneParamName p) = true := by
  have hname : ∀ {name}, strcasecmp param name = true → ∀ p',
      strcasecmp param (tuneParamName p') = strcasecmp name (tuneParamName p') := by
    intro name hname p'
    unfold strcasecmp
    rw [beq_iff_eq.mp hname]
  unfold tuneParam
  split_ifs with hdeadband hkp hfloor hceiling hcancel
  · rw [hname hdeadband]; cases p <;> decide
  · rw [hname hkp]; cases p <;> decide
  · rw [hname hfloor]; cases p <;> decide
  · rw [hname hceiling]; cases p <;> decide
  · rw [hname hcancel]; cases p <;> decide
  · refine iff_of_false (by simp) ?_
    cases p <;> assumption

/-- A line is taken in one way. -/
theorem TakenAs.unique (h : TakenAs line p v) (h' : TakenAs line p' v') : p = p' ∧ v = v' := by
  obtain ⟨hwords, -, hparam, hvalue, -⟩ := h
  obtain ⟨hwords', -, hparam', hvalue', -⟩ := h'
  obtain ⟨-, hafter⟩ := List.cons.inj (hwords.symm.trans hwords')
  obtain ⟨rfl, hmore⟩ := List.cons.inj hafter
  obtain ⟨rfl, -⟩ := List.cons.inj hmore
  refine ⟨?_, (Prod.mk.inj (Option.some.inj (hvalue.symm.trans hvalue'))).1⟩
  exact Option.some.inj ((tuneParam_eq_some.mpr hparam).symm.trans (tuneParam_eq_some.mpr hparam'))

/-- **The reader sets what it takes**, and nothing else. -/
theorem applyTuneLine_taken (t : Tunables) (h : TakenAs line p v) :
    (applyTuneLine t (line.take thlTuneLineMax)).tunables = t.set p v := by
  obtain ⟨hwords, hcmd, hparam, hvalue, hsign⟩ := h
  unfold applyTuneLine
  rw [hwords]
  simp only [hcmd, if_true]
  unfold applyTuneValue
  rw [hvalue]
  simp only [hsign, Bool.false_eq_true, if_false, tuneParam_eq_some.mpr hparam]

theorem applyTuneLine_other (t : Tunables) (h : ∀ p v, ¬ TakenAs line p v) :
    (applyTuneLine t (line.take thlTuneLineMax)).tunables = t := by
  unfold applyTuneLine
  split
  · rfl
  · rename_i cmd words hwords
    split_ifs with hcmd
    · split
      · rename_i param valueStr more
        unfold applyTuneValue
        split
        · rfl
        · rename_i value left hvalue
          split_ifs with hsign
          · rfl
          · split
            · rename_i p hparam
              exact absurd (TakenAs.mk hwords hcmd (tuneParam_eq_some.mp hparam) hvalue
                (by simpa using hsign)) (h p value)
            · rfl
      · rfl
    · rfl

/-- **A command is taken as it stands.** -/
theorem TuneCommand.taken (h : TuneCommand line p q) : TakenAs line p (.finite q) := by
  obtain ⟨hlength, hwords, hcmd, hparam, hvalue, hnonneg, hfinite⟩ := h
  rename_i cmd param value exact
  have hplain : '\x00' ∉ line := by
    intro hmem
    obtain ⟨word, hword, hnul⟩ := mem_strtok hmem (show isBlank '\x00' = false by decide)
    rw [hwords] at hword
    simp only [List.mem_cons, List.not_mem_nil, or_false] at hword
    rcases hword with rfl | rfl | rfl
    · exact strcasecmp_not_mem hcmd (by decide) (by decide) hnul
    · exact strcasecmp_not_mem hparam (by cases p <;> decide) (by decide) hnul
    · exact hvalue.nul_not_mem hnul
  have hbuffer : cStr (line.take thlTuneLineMax) = line := by
    rw [List.take_of_length_le hlength, cStr_eq_self hplain]
  have hread : strtof value = some (.finite q, []) := by
    rw [← hfinite]
    exact strtof_decimal hvalue
  have hsign : (Binary32.finite q).negative = false := by
    rw [← hfinite]
    exact Binary32.negative_ofRat hnonneg
  exact ⟨by rw [hbuffer]; exact hwords, hcmd, hparam, hread, hsign⟩

section Value

variable {cmd value : List Char} {exact : ℚ}

/-- The number that a command sets is the `float` for the number it writes. -/
theorem TuneCommand.ofRat_eq (h : TuneCommand line p q)
    (hwords : strtok isBlank line = [cmd, param, value]) (hvalue : Decimal value exact) :
    Binary32.ofRat exact = .finite q := by
  obtain ⟨-, hwords', -, -, hvalue', -, hfinite⟩ := h
  obtain ⟨-, -, rfl⟩ : _ = _ ∧ _ = _ ∧ _ = _ := by simpa using hwords.symm.trans hwords'
  have hread := (strtof_decimal hvalue).symm.trans (strtof_decimal hvalue')
  rw [← hfinite]
  exact (Prod.mk.inj (Option.some.inj hread)).1

/-- **Digits of a whole number below `2 ^ 24` are set exactly.** -/
theorem TuneCommand.digits (h : TuneCommand line p q)
    (hwords : strtok isBlank line = [cmd, param, value]) (hdigits : ∀ c ∈ value, c.isDigit = true)
    (hsmall : digitsValue value < 2 ^ 24) : q = digitsValue value := by
  have hne : value ≠ [] := by
    have hmem : value ∈ strtok isBlank line := by rw [hwords]; simp
    have hkept := (List.mem_filter.mp hmem).2
    rintro rfl
    cases hkept
  have hfinite := h.ofRat_eq hwords (Decimal.digits hne hdigits)
  rw [Binary32.ofRat_natCast hsmall] at hfinite
  exact (Binary32.finite.inj hfinite).symm

end Value

/-- **The reader does what a line is to do exactly when the line is harmless.** -/
theorem obeys_iff_harmless :
    Obeys t line (applyTuneLine t (line.take thlTuneLineMax)).tunables ↔ HarmlessLine t line := by
  by_cases htaken : ∃ p v, TakenAs line p v
  · obtain ⟨p, v, htaken⟩ := htaken
    rw [applyTuneLine_taken t htaken]
    constructor
    · intro hobeys p' v' htaken'
      obtain ⟨rfl, rfl⟩ := htaken.unique htaken'
      generalize hset : t.set p v = t' at hobeys
      cases hobeys with
      | @command p' q hcommand =>
        obtain ⟨rfl, -⟩ := htaken.unique hcommand.taken
        exact .inl ⟨q, hcommand⟩
      | other =>
        have hget := Tunables.get_set t p v
        rw [hset] at hget
        exact .inr hget
    · intro hharmless
      rcases hharmless p v htaken with ⟨q, hcommand⟩ | hget
      · obtain ⟨-, rfl⟩ := htaken.unique hcommand.taken
        exact .command hcommand
      · by_cases hcommand : ∃ p q, TuneCommand line p q
        · obtain ⟨p', q, hcommand⟩ := hcommand
          obtain ⟨rfl, rfl⟩ := htaken.unique hcommand.taken
          exact .command hcommand
        · have hsame : t.set p v = t := by rw [← hget, Tunables.set_get]
          rw [hsame]
          exact .other fun p q h => hcommand ⟨p, q, h⟩
  · have hnone : ∀ p v, ¬ TakenAs line p v := fun p v h => htaken ⟨p, v, h⟩
    rw [applyTuneLine_other t hnone]
    exact iff_of_true (.other fun p q h => hnone p _ h.taken) fun p v h => absurd h (hnone p v)

theorem Obeys.unique {t' t'' : Tunables} (h : Obeys t line t') (h' : Obeys t line t'') :
    t' = t'' := by
  cases h with
  | command hcommand =>
    cases h' with
    | command hcommand' =>
      obtain ⟨rfl, hsame⟩ := hcommand.taken.unique hcommand'.taken
      rw [hsame]
    | other hnone => exact absurd hcommand (hnone _ _)
  | other hnone =>
    cases h' with
    | command hcommand' => exact absurd hcommand' (hnone _ _)
    | other => rfl

end Lines

/-! ### The stream -/

/-- The reader on a line that has come in. -/
def applyReceived (t : Tunables) (line : List Char) : Tunables :=
  (applyTuneLine t (line.take thlTuneLineMax)).tunables

theorem readTuneByte_collects : Collects '\n' (· ≠ '\r') thlTuneLineMax readTuneByte
    SerialTuning.lineBuf SerialTuning.tunables fun t line => (applyTuneLine t line).tunables := by
  have hend : ∀ s, readTuneByte s '\n' =
      if 0 < s.lineBuf.length then
        { lineBuf := []
          tunables := (applyTuneLine s.tunables s.lineBuf).tunables
          log := s.log ++ (applyTuneLine s.tunables s.lineBuf).log
          length_le := Nat.zero_le _ }
      else s := fun s => rfl
  have hempty : ∀ s : SerialTuning, ¬ 0 < s.lineBuf.length → s.lineBuf = [] := fun s h =>
    List.length_eq_zero_iff.mp (by omega)
  refine ⟨fun s => ?_, fun s => ?_, fun s c hc => ?_, fun s c hc => ?_⟩
  · rw [hend]
    split_ifs with hline
    · rfl
    · exact hempty s hline
  · rw [hend]
    split_ifs with hline
    · rfl
    · rw [hempty s hline]
      rfl
  · unfold readTuneByte
    by_cases hreturn : c = '\r'
    · rw [if_pos hreturn, if_neg (by simp [hreturn])]
    · rw [if_neg hreturn, if_neg hc]
      by_cases hroom : s.lineBuf.length < thlTuneLineMax
      · rw [dif_pos hroom, if_pos ⟨by simpa using hreturn, hroom⟩]
      · rw [dif_neg hroom, if_neg fun h => hroom h.2]
  · unfold readTuneByte
    split_ifs <;> rfl

/-- **The polls leave what the lines make of the tunables**, in whatever pieces they came in. -/
theorem polled_tunables (polls : List (List Char)) :
    (after mkhThlPollSerialTuning .boot polls).tunables =
      after applyReceived .boot (received polls.flatten) := by
  have hflat : after mkhThlPollSerialTuning .boot polls = after readTuneByte .boot polls.flatten :=
    List.foldl_flatten.symm
  rw [hflat, (readTuneByte_collects.after rfl polls.flatten).2, received]
  unfold after
  rw [List.foldl_map, List.foldl_map]
  rfl

/-- **The tunables are throughout what the commands make of them exactly when every line that has come
in is harmless.** -/
theorem serial_tuning_iff (stream : List Char) :
    (∀ front back, stream = front ++ back → ∀ polls, polls.flatten = front →
      Tuned (received front) (after mkhThlPollSerialTuning .boot polls).tunables) ↔
    ∀ before line rest t, received stream = before ++ line :: rest → Tuned before t →
      HarmlessLine t line := by
  have hsteps : (∀ front back, received stream = front ++ back →
        Tuned front (after applyReceived .boot front)) ↔
      ∀ front line back t, received stream = front ++ line :: back → Tuned front t →
        Obeys t line (applyReceived t line) :=
    follows_always_iff fun _ _ _ _ h h' => h.unique h'
  simp only [applyReceived, obeys_iff_harmless] at hsteps
  refine Iff.trans ?_ hsteps
  constructor
  · intro h before rest hsplit
    obtain ⟨lines, more, hended, hbefore, -⟩ := List.map_eq_append_iff.mp hsplit
    obtain ⟨front, back, hstream, hfront⟩ := ended_prefix hended
    have hreceived : received front = before := by rw [received, hfront, hbefore]
    have htuned := h front back hstream [front] (by simp)
    rw [polled_tunables, List.flatten_singleton, hreceived] at htuned
    exact htuned
  · rintro h front back rfl polls rfl
    obtain ⟨rest, hrest⟩ := ended_append '\n' polls.flatten back
    rw [polled_tunables]
    exact h _ (rest.map _) (by rw [received, hrest, List.map_append]; rfl)

/-- What is no number goes into the gain. -/
theorem serial_tuning_nan : ¬ ∀ stream polls, polls.flatten = stream →
    Tuned (received stream) (after mkhThlPollSerialTuning .boot polls).tunables := by
  intro hall
  have htuned := hall "thl kp nan\n".toList ["thl kp nan\n".toList] (by decide)
  have hline : received "thl kp nan\n".toList = ["thl kp nan".toList] := by decide
  have hkp : (after mkhThlPollSerialTuning .boot ["thl kp nan\n".toList]).tunables.kpPctPerDeg =
      .nan := by decide +kernel
  have hread : strtof "nan".toList = some (.nan, []) := by decide +kernel
  rw [hline] at htuned
  generalize (after mkhThlPollSerialTuning .boot ["thl kp nan\n".toList]).tunables = t at htuned hkp
  obtain ⟨⟩ := htuned
  rename_i hobeys hnil
  obtain ⟨⟩ := hnil
  cases hobeys with
  | other => exact absurd hkp (by decide)
  | command hcommand =>
    obtain ⟨-, hwords, -, -, hvalue, -, hfinite⟩ := hcommand
    have hsplit : strtok isBlank "thl kp nan".toList =
        ["thl".toList, "kp".toList, "nan".toList] := by decide
    obtain ⟨rfl, rfl, rfl⟩ : _ = _ ∧ _ = _ ∧ _ = _ := by
      simpa using hsplit.symm.trans hwords
    have hnan := (Prod.mk.inj (Option.some.inj (hread.symm.trans (strtof_decimal hvalue)))).1
    rw [hfinite] at hnan
    cases hnan

/-! ### What the control law is given -/

/-- Tunables that the control law is stated for: numbers, and none of them negative. -/
def Tunables.Lawful (t : Tunables) : Prop :=
  ∃ tuning : ThlTuning, tuning.NonNeg ∧ t = .ofTuning tuning

theorem Obeys.lawful {t t' : Tunables} {line : List Char} (h : t.Lawful) (hobeys : Obeys t line t') :
    t'.Lawful := by
  obtain ⟨tuning, hnonneg, rfl⟩ := h
  cases hobeys with
  | other => exact ⟨tuning, hnonneg, rfl⟩
  | @command p q hcommand =>
    obtain ⟨-, -, -, -, -, hexact, hfinite⟩ := hcommand
    have hq : 0 ≤ q := by
      rw [← (Binary32.ofRat_eq_finite.mp hfinite).2]
      exact Binary32.nearest_nonneg hexact
    obtain ⟨hdeadband, hkp, hfloor, hceiling⟩ := hnonneg
    cases p with
    | deadband => exact ⟨{ tuning with deadbandDeg := q }, ⟨hq, hkp, hfloor, hceiling⟩, rfl⟩
    | kp => exact ⟨{ tuning with kpPctPerDeg := q }, ⟨hdeadband, hq, hfloor, hceiling⟩, rfl⟩
    | floor => exact ⟨{ tuning with floorPct := q }, ⟨hdeadband, hkp, hq, hceiling⟩, rfl⟩
    | ceiling => exact ⟨{ tuning with ceilingPct := q }, ⟨hdeadband, hkp, hfloor, hq⟩, rfl⟩
    | cancel =>
      exact ⟨{ tuning with cancelThresholdPct := q }, ⟨hdeadband, hkp, hfloor, hceiling⟩, rfl⟩

/-- **Commands leave tunables that the control law is stated for.** -/
theorem Tuned.lawful {lines : List (List Char)} {t : Tunables} (h : Tuned lines t) : t.Lawful :=
  Follows.invariant h (fun _ _ _ hs hstep => hstep.lawful hs) ⟨.boot, by constructor <;> decide, rfl⟩

end MK1Tank
