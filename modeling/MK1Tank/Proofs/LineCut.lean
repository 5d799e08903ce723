/-
Lines that the parser's buffers cut.

The parser reads what its buffers hold, the first 127 characters of a line and the first
95 of its value, and nothing tells it that there was more.  When what they hold is a line
of its own, it is taken for the whole; that is right exactly when the words that were cut
or dropped are attributes that leave the binding as it is.
-/
import MK1Tank.Proofs.LineContract

namespace MK1Tank

open CString

/-! ### What is lost -/

/-- What the second list has past the front that both share. -/
def pastCommon {α : Type} [DecidableEq α] : List α → List α → List α
  | a :: as, b :: bs => if a = b then pastCommon as bs else b :: bs
  | _, bs => bs

theorem pastCommon_append {α : Type} [DecidableEq α] (front as bs : List α) :
    pastCommon (front ++ as) (front ++ bs) = pastCommon as bs := by
  induction front with
  | nil => rfl
  | cons a front ih =>
    rw [List.cons_append, List.cons_append, pastCommon, if_pos rfl]
    exact ih

/-- The words of a value that the buffers hold. -/
def keptWords (line : List Char) : List (List Char) :=
  strtok isBlank ((valuePart (line.take 127)).take 95)

/-- The words of the whole line that they do not hold, or not to their end. -/
def lostWords (line : List Char) : List (List Char) :=
  pastCommon (keptWords line) (strtok isBlank (valuePart line))

/-- What was lost would have left the binding as it is. -/
def TailHarmless (line : List Char) (b : Binding) : Prop :=
  ∃ changes, List.Forall₂ (Attribute scanned) (lostWords line) changes ∧
    changes.foldl (fun b change => change b) b = b

section Words

variable {word tail name : List Char} {b b' : Binding}

/-- A longer word gives the field that the shorter one gave. -/
theorem parseAttribute_longer (h : parseAttribute b word = some b') :
    parseAttribute b (word ++ tail) = parseAttribute b' (word ++ tail) := by
  obtain ⟨change, hattribute, rfl⟩ := parseAttribute_eq_some.mp h
  have hkeyed : ∀ {key value name : List Char}, strcasecmp key name = true →
      '=' ∉ name.map Char.toLower →
      strchr (key ++ '=' :: value ++ tail) '=' = some (key, value ++ tail) := by
    intro key value name hkey hname
    rw [List.append_assoc, List.cons_append]
    exact attributeKey_cut (value ++ tail) hkey hname
  unfold parseAttribute
  cases hattribute with
  | @invert key value invert hkey hvalue =>
    rw [hkeyed hkey (by decide)]
    simp only [hkey, if_true]
  | @max key value n hkey hvalue =>
    have hinvert : strcasecmp key "invert".toList = false :=
      (strcasecmp_trans_right hkey _).trans (by decide)
    rw [hkeyed hkey (by decide)]
    simp only [hinvert, hkey, Bool.false_eq_true, if_false, if_true]
  | @curve key value hkey =>
    rfl
  | @mode key value mode hkey hvalue =>
    obtain ⟨hinvert, hmax, hcurve⟩ := modeKey_other hkey
    rw [hkeyed hkey (by decide)]
    simp only [hinvert, hmax, hcurve, hkey, Bool.false_eq_true, if_false, if_true]

theorem strcasecmp_head {a b : List Char} (h : strcasecmp a b = true) :
    a.head?.map Char.toLower = b.head?.map Char.toLower := by
  rw [← List.head?_map, ← List.head?_map, beq_iff_eq.mp h]

/-- No token of an input begins another. -/
theorem findToken_longer {input : InputSource} (hname : findToken kInputTokens name = some input)
    (htail : tail ≠ []) : findToken kInputTokens (name ++ tail) = none := by
  have hlengths : ∀ short ∈ kInputTokens, ∀ long ∈ kInputTokens,
      (short.1.map Char.toLower).isPrefixOf (long.1.map Char.toLower) = true →
        short.1.length = long.1.length := by decide
  cases hlonger : findToken kInputTokens (name ++ tail) with
  | none => rfl
  | some input' =>
    obtain ⟨short, hshort, hshortName, -⟩ := findToken_mem hname
    obtain ⟨long, hlong, hlongName, -⟩ := findToken_mem hlonger
    have hshortSame : name.map Char.toLower = short.1.map Char.toLower := beq_iff_eq.mp hshortName
    have hlongSame : (name ++ tail).map Char.toLower = long.1.map Char.toLower :=
      beq_iff_eq.mp hlongName
    have hprefix : (short.1.map Char.toLower).isPrefixOf (long.1.map Char.toLower) = true := by
      rw [← hshortSame, ← hlongSame, List.map_append]
      exact List.isPrefixOf_iff_prefix.mpr (List.prefix_append _ _)
    have hsame := hlengths short hshort long hlong hprefix
    have hshortLength := congrArg List.length hshortSame
    have hlongLength := congrArg List.length hlongSame
    simp only [List.length_map, List.length_append] at hshortLength hlongLength
    have hpos := List.length_pos_iff.mpr htail
    omega

/-- No token of an input begins an attribute. -/
theorem parseAttribute_input {input : InputSource} (hname : findToken kInputTokens name = some input)
    (b : Binding) : parseAttribute b (name ++ tail) = none := by
  have hheads : ∀ token ∈ kInputTokens, token.1.head?.map Char.toLower ≠ none ∧
      token.1.head?.map Char.toLower ∉ [some 'i', some 'm', some 'c'] := by decide
  obtain ⟨token, htoken, htokenName, -⟩ := findToken_mem hname
  obtain ⟨hsome, hother⟩ := hheads token htoken
  rw [← strcasecmp_head htokenName] at hsome hother
  have hfirst : (name ++ tail).head?.map Char.toLower = name.head?.map Char.toLower := by
    cases name with
    | nil => exact absurd rfl hsome
    | cons first name => rfl
  rw [← hfirst] at hother
  have hkey : ∀ {key value label : List Char}, strcasecmp key label = true → label ≠ [] →
      (key ++ '=' :: value).head?.map Char.toLower = label.head?.map Char.toLower := by
    intro key value label hkey hne
    rw [← strcasecmp_head hkey]
    cases key with
    | nil => exact absurd (List.map_eq_nil_iff.mp (beq_iff_eq.mp hkey).symm) hne
    | cons first key => rfl
  cases hattribute : parseAttribute b (name ++ tail) with
  | none => rfl
  | some b' =>
    obtain ⟨change, hspelled, -⟩ := parseAttribute_eq_some.mp hattribute
    generalize name ++ tail = word at hspelled hother
    cases hspelled with
    | invert hlabel =>
      rw [hkey hlabel (by decide)] at hother
      exact absurd (by decide) hother
    | max hlabel =>
      rw [hkey hlabel (by decide)] at hother
      exact absurd (by decide) hother
    | curve hlabel =>
      rw [hkey hlabel (by decide)] at hother
      exact absurd (by decide) hother
    | mode hlabel =>
      rw [hkey hlabel (by decide)] at hother
      exact absurd (by decide) hother

theorem parseWords_cons (name : List Char) (attributes : List (List Char)) :
    parseWords (name :: attributes) = (findToken kInputTokens name).bind fun input =>
      attributes.foldlM parseAttribute (defaultBinding input) := rfl

theorem pastCommon_self {α : Type} [DecidableEq α] (as more : List α) :
    pastCommon as (as ++ more) = more := by
  have hcommon := pastCommon_append as [] more
  rw [List.append_nil] at hcommon
  exact hcommon

/-- **The whole value says what its front says exactly when the words past the front leave it so.** -/
theorem parseWords_append {front back : List Char} (h : parseWords (strtok isBlank front) = some b) :
    parseWords (strtok isBlank (front ++ back)) = some b ↔
      (pastCommon (strtok isBlank front) (strtok isBlank (front ++ back))).foldlM parseAttribute b =
        some b := by
  rcases strtok_append isBlank front back with
    ⟨more, hmore⟩ | ⟨tokens, last, tail, more, hfront, htail, hmore⟩
  · rw [hmore, pastCommon_self]
    generalize strtok isBlank front = words at h
    cases words with
    | nil => cases h
    | cons name attributes =>
      obtain ⟨input, hinput, hattributes⟩ := Option.bind_eq_some_iff.mp h
      rw [List.cons_append, parseWords_cons, hinput, Option.bind_some, List.foldlM_append,
        hattributes]
      rfl
  · have hdiffer : last ≠ last ++ tail := fun heq => htail (by simpa using heq)
    have hlost : pastCommon (tokens ++ [last]) (tokens ++ (last ++ tail) :: more) =
        (last ++ tail) :: more := by
      rw [pastCommon_append, pastCommon, if_neg hdiffer]
    rw [hfront] at h ⊢
    rw [hmore, hlost]
    cases tokens with
    | nil =>
      -- The token of the input itself goes on.
      obtain ⟨input, hinput, -⟩ := Option.bind_eq_some_iff.mp h
      have hwhole : parseWords ((last ++ tail) :: more) = none := by
        rw [parseWords_cons, findToken_longer hinput htail, Option.bind_none]
      rw [List.nil_append, hwhole, List.foldlM_cons, parseAttribute_input hinput b]
      exact iff_of_false (by simp) (by simp)
    | cons name attributes =>
      rw [List.cons_append, parseWords_cons] at h
      obtain ⟨input, hinput, hattributes⟩ := Option.bind_eq_some_iff.mp h
      rw [List.foldlM_append] at hattributes
      obtain ⟨mid, hmid, hlast⟩ := Option.bind_eq_some_iff.mp hattributes
      have hlast : parseAttribute mid last = some b := by simpa using hlast
      rw [List.cons_append, parseWords_cons, hinput, Option.bind_some, List.foldlM_append, hmid,
        List.foldlM_cons, ← parseAttribute_longer hlast]
      rfl

end Words

/-! ### The whole line -/

/-- What the buffers hold of a line is a line for this binding. -/
def KeptSays (line : List Char) (d : Device) (p : Port) (b : Binding) : Prop :=
  LineSays scanned (fun value => (skipSpaces value).take 95) (line.take 127) d p b

section Whole

variable {line lead key gap value trail : List Char} {d : Device} {p : Port} {b : Binding}

/-- A line that goes on has the key of its front, and a longer value. -/
theorem Spelled.longer {front : List Char} (h : Spelled front lead key gap value trail)
    (back : List Char) :
    ∃ more trail', Spelled (front ++ back) lead key gap (value ++ more) trail' := by
  obtain ⟨trail', hsplit, htrail⟩ := rstrip_split isLineEnd (trail ++ back)
  refine ⟨rstrip isLineEnd (trail ++ back), trail', ?_, h.lead, h.gap, htrail, h.key,
    trimmed_append (rstrip_trimmed isLineEnd _) fun _ => h.value⟩
  calc
    front ++ back = lead ++ (key ++ (gap ++ '=' :: (value ++ (trail ++ back)))) := by
      rw [h.text]
      simp only [List.append_assoc, List.cons_append]
    _ = lead ++ (key ++ (gap ++ '=' :: (value ++ (rstrip isLineEnd (trail ++ back) ++ trail')))) := by
      rw [← hsplit]
    _ = _ := by simp only [List.append_assoc]

theorem lineSays_parts (h : Spelled line lead key gap value trail) (hkey : scanned.key key d p) :
    LineSays scanned id line d p b ↔ WordsSay scanned (strtok isBlank (valuePart line)) b := by
  obtain ⟨-, hvaluePart⟩ := h.parts (scanned_key_first hkey)
  constructor
  · rintro ⟨lead', key', gap', value', trail', hspelled, hkey', hwords⟩
    obtain ⟨-, hvaluePart'⟩ := hspelled.parts (scanned_key_first hkey')
    rw [hvaluePart', strtok_skipSpaces]
    exact hwords
  · intro hwords
    rw [hvaluePart, strtok_skipSpaces] at hwords
    exact ⟨lead, key, gap, value, trail, h, hkey, hwords⟩

/-- **The whole line says what its front says exactly when what was lost is harmless.** -/
theorem KeptSays.whole (h : KeptSays line d p b) :
    LineSays scanned id line d p b ↔ TailHarmless line b := by
  obtain ⟨lead, key, gap, value, trail, hspelled, hkey, hwords⟩ := h
  obtain ⟨-, hkeptValue⟩ := hspelled.parts (scanned_key_first hkey)
  obtain ⟨more, trail', hwhole⟩ := hspelled.longer (line.drop 127)
  rw [List.take_append_drop] at hwhole
  obtain ⟨-, hvalue⟩ := hwhole.parts (scanned_key_first hkey)
  have hne : skipSpaces value ≠ [] := by
    intro hnil
    obtain ⟨name, input, attributes, changes, hsplit, -⟩ := hwords
    simp [hnil, strtok] at hsplit
  have hskip : skipSpaces (value ++ more) =
      (skipSpaces value).take 95 ++ ((skipSpaces value).drop 95 ++ more) := by
    rw [← List.append_assoc, List.take_append_drop]
    unfold skipSpaces at hne ⊢
    rw [List.dropWhile_append, if_neg (by simpa using hne)]
  have hwordsKept : parseWords (strtok isBlank ((skipSpaces value).take 95)) = some b :=
    parseWords_eq_some.mpr hwords
  rw [lineSays_parts hwhole hkey, ← parseWords_eq_some]
  unfold TailHarmless lostWords keptWords
  rw [hvalue, hkeptValue, hskip, parseWords_append hwordsKept, parseAttributes_eq_some]
  constructor
  · rintro ⟨changes, hchanges, hsame⟩
    exact ⟨changes, hchanges, hsame.symm⟩
  · rintro ⟨changes, hchanges, hsame⟩
    exact ⟨changes, hchanges, hsame.symm⟩

end Whole

/-! ### Keeping the meaning -/

/-- The line is skipped, or taken as its whole text is with buffers that hold it. -/
def KeepsMeaning (cfg : MkhConfig) (line : List Char) : Prop :=
  (mkhConfigParseLine cfg line).table = cfg.table ∨ ∃ d p b,
    lineContentIn line.length line.length line = .binding d p b ∧
      mkhConfigParseLine cfg line = takeBinding cfg d p b

theorem valuePart_length_le (line : List Char) : (valuePart line).length ≤ line.length := by
  unfold valuePart
  split
  · rename_i front back hcut
    obtain ⟨hline, -⟩ := strchr_eq_some.mp hcut
    have hstrip : (rstrip isLineEnd line).length ≤ line.length :=
      (List.rdropWhile_prefix isLineEnd line).length_le
    have hskip : (skipSpaces back).length ≤ back.length :=
      (List.dropWhile_sublist isBlank).length_le
    rw [hline, List.length_append, List.length_cons] at hstrip
    omega
  · exact Nat.zero_le _

/-- A binding that is taken with room for it is no other. -/
theorem takeBinding_inj {cfg : MkhConfig} {d d' : Device} {p p' : Port} {b b' : Binding}
    (hroom : (cfg.table d p).bindings.length < mkhMaxBindingsPerPort)
    (h : takeBinding cfg d p b = takeBinding cfg d' p' b') : d' = d ∧ p' = p ∧ b' = b := by
  rw [takeBinding_room b hroom] at h
  by_cases hroom' : (cfg.table d' p').bindings.length < mkhMaxBindingsPerPort
  · rw [takeBinding_room b' hroom'] at h
    have hlist := congrArg (fun cfg : MkhConfig => (cfg.table d p).bindings) h
    unfold appendBinding at hlist
    simp only [MkhConfig.setPort_apply, and_self, if_true] at hlist
    by_cases hsame : d = d' ∧ p = p'
    · obtain ⟨rfl, rfl⟩ := hsame
      simp only [and_self, if_true, List.append_cancel_left_eq, List.cons.injEq, and_true] at hlist
      exact ⟨rfl, rfl, hlist.symm⟩
    · rw [if_neg hsame] at hlist
      exact absurd (congrArg List.length hlist) (by simp)
  · rw [takeBinding_full b' hroom'] at h
    have htable := congrArg MkhConfig.table h
    exact absurd htable (appendBinding_ne_skipLine hroom)

/-- **A line keeps its meaning exactly when what the buffers hold is no line for a port with room, or
what was lost is harmless.** -/
theorem cut_line_meaning_iff (cfg : MkhConfig) (line : List Char) (htext : '\x00' ∉ line) :
    KeepsMeaning cfg line ↔ ∀ d p b, (cfg.table d p).bindings.length < mkhMaxBindingsPerPort →
      KeptSays line d p b → TailHarmless line b := by
  have hkept : ∀ {d p b}, lineContent line = .binding d p b ↔ KeptSays line d p b := by
    intro d p b
    rw [lineContent_eq_in]
    exact lineContentIn_binding htext
  have hwhole : ∀ {d p b}, lineContentIn line.length line.length line = .binding d p b ↔
      LineSays scanned id line d p b := by
    intro d p b
    rw [lineContentIn_binding htext]
    exact lineSays_uncut scanned_key_first (Nat.le_refl _) (valuePart_length_le line)
  constructor
  · rintro hkeeps d p b hroom hmeant
    have hparsed : mkhConfigParseLine cfg line = takeBinding cfg d p b := by
      rw [mkhConfigParseLine_eq, hkept.mpr hmeant]
      rfl
    rcases hkeeps with hskipped | ⟨d', p', b', hcontent, htaken⟩
    · rw [hparsed, takeBinding_room b hroom] at hskipped
      exact absurd hskipped (appendBinding_ne_skipLine hroom)
    · obtain ⟨rfl, rfl, rfl⟩ := takeBinding_inj hroom (hparsed.symm.trans htaken)
      exact hmeant.whole.mp (hwhole.mp hcontent)
  · intro hharmless
    unfold KeepsMeaning
    rw [mkhConfigParseLine_eq]
    cases hcontent : lineContent line with
    | ignored => exact Or.inl rfl
    | malformed => exact Or.inl rfl
    | binding d p b =>
      by_cases hroom : (cfg.table d p).bindings.length < mkhMaxBindingsPerPort
      · have hmeant := hkept.mp hcontent
        exact Or.inr ⟨d, p, b, hwhole.mpr (hmeant.whole.mpr (hharmless d p b hroom hmeant)), rfl⟩
      · refine Or.inl ?_
        show (takeBinding cfg d p b).table = cfg.table
        rw [takeBinding_full b hroom]
        rfl

/-- A line whose curve is cut. -/
def longCurve : List Char :=
  "HUB1_PORT_A = LSNS curve=".toList ++ List.replicate 120 'x'

/-- A line whose cap is cut: 88 blanks leave room for the first two digits of three. -/
def longCap : List Char :=
  "HUB1_PORT_A=A".toList ++ List.replicate 88 ' ' ++ "max=100".toList

theorem cut_line_meaning_curve : KeepsMeaning blankConfig longCurve := by
  refine (cut_line_meaning_iff blankConfig longCurve (by decide +kernel)).mpr fun d p b _ hmeant => ?_
  have hcontent : lineContentIn 127 95 longCurve = .binding d p b :=
    (lineContentIn_binding (by decide +kernel)).mpr hmeant
  have hlost : lostWords longCurve = ["curve".toList ++ '=' :: List.replicate 120 'x'] := by
    decide +kernel
  refine ⟨[fun b => b], ?_, rfl⟩
  rw [hlost]
  exact .cons (.curve (by decide)) .nil

/-- A cap that is cut is taken for another. -/
theorem cut_line_misread : ¬ ∀ cfg line, '\x00' ∉ line →
    127 < line.length ∨ 95 < (valuePart line).length → KeepsMeaning cfg line := by
  intro hall
  have hcut : lineContent longCap =
      .binding 0 mkhPortA { defaultBinding .btnA with maxPercent := 10 } := by rfl
  have hwhole : lineContentIn longCap.length longCap.length longCap =
      .binding 0 mkhPortA { defaultBinding .btnA with maxPercent := 100 } := by rfl
  have hparsed : mkhConfigParseLine blankConfig longCap =
      takeBinding blankConfig 0 mkhPortA { defaultBinding .btnA with maxPercent := 10 } := by
    rw [mkhConfigParseLine_eq, hcut]
    rfl
  have hlong : 95 < (valuePart longCap).length := by decide +kernel
  rcases hall blankConfig longCap (by decide +kernel) (.inr hlong) with
    hskipped | ⟨d, p, b, hcontent, htaken⟩
  · rw [hparsed, takeBinding_room _ (blankConfig_room _ _)] at hskipped
    exact appendBinding_ne_skipLine (blankConfig_room _ _) hskipped
  · obtain ⟨rfl, rfl, rfl⟩ := takeBinding_inj (blankConfig_room _ _) (hparsed.symm.trans htaken)
    rw [hwhole] at hcontent
    exact absurd (LineContent.binding.inj hcontent).2.2 (by decide)

end MK1Tank
