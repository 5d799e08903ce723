/-
The line parser's language.

The documented line and the line that the scanners take are one grammar with two
readings of a key and of a cap: the documented key is `HUB`, a digit, `_PORT_` and a
letter, and nothing more, while `sscanf` takes any number for the digit and any text
after the letter; the documented cap is digits, while `strtol` takes white space and a
sign in front of them.  The parser, with any size of its two buffers, takes exactly the
lines of the second reading in the part of the text that the buffers hold.  From that it
follows where it keeps to the document, and where a line that the buffers cut is read
as another one.
-/
import MK1Tank.Lib.ScanGrammar
import MK1Tank.Proofs.ConfigCodec

namespace MK1Tank

open CString

/-! ### The grammar -/

/-- What a reading takes for a key, and for the value of `max=`. -/
structure Grammar where
  key : List Char → Device → Port → Prop
  max : List Char → Nat → Prop

/-- A port's letter, in either case. -/
def Letter (letter : Char) (p : Port) : Prop :=
  letter = mkhPortLetter p ∨ letter = (mkhPortLetter p).toLower

/-- The document's spelling. -/
def documented : Grammar where
  key text d p := ∃ letter, Letter letter p ∧
    text = "HUB".toList ++ (Nat.toDigits 10 (mkhDeviceAppNumber d) ++ ("_PORT_".toList ++ [letter]))
  max text n := text ≠ [] ∧ (∀ c ∈ text, c.isDigit = true) ∧ digitsValue text = n ∧ n ≤ 100

/-- The scanners' spelling. -/
def scanned : Grammar where
  key text d p := ∃ number letter rest, Numeral number (mkhDeviceAppNumber d : Nat) ∧ Letter letter p ∧
    text = "HUB".toList ++ (number ++ ("_PORT_".toList ++ letter :: rest))
  max text n := Numeral text (n : Nat) ∧ n ≤ 100

/-- One attribute, and what it does to a binding. -/
inductive Attribute (g : Grammar) : List Char → (Binding → Binding) → Prop
  | invert {key value : List Char} {invert : Bool} (hkey : strcasecmp key "invert".toList = true)
      (hvalue : strcasecmp value (yesNo invert) = true) :
      Attribute g (key ++ '=' :: value) fun b => { b with invert := invert }
  | max {key value : List Char} {n : Nat} (hkey : strcasecmp key "max".toList = true)
      (hvalue : g.max value n) :
      Attribute g (key ++ '=' :: value) fun b => { b with maxPercent := n }
  | curve {key value : List Char} (hkey : strcasecmp key "curve".toList = true) :
      Attribute g (key ++ '=' :: value) fun b => b
  | mode {key value : List Char} {mode : InputMode} (hkey : strcasecmp key "mode".toList = true)
      (hvalue : strcasecmp value (modeTokenName mode) = true) :
      Attribute g (key ++ '=' :: value) fun b => { b with mode := mode }

/-- The binding of a line that gives no attribute. -/
def defaultBinding (input : InputSource) : Binding :=
  { input := input, invert := false, maxPercent := 100, mode := defaultModeForInput input }

/-- The words of a right-hand side, and their binding. -/
def WordsSay (g : Grammar) (words : List (List Char)) (b : Binding) : Prop :=
  ∃ name input attributes changes, words = name :: attributes ∧ input ≠ .none ∧
    strcasecmp name (inputTokenName input) = true ∧ List.Forall₂ (Attribute g) attributes changes ∧
    b = changes.foldl (fun b change => change b) (defaultBinding input)

/-- A line's key and value, with the blanks around them. -/
structure Spelled (line lead key gap value trail : List Char) : Prop where
  text : line = lead ++ (key ++ (gap ++ '=' :: (value ++ trail)))
  lead : ∀ c ∈ lead, isBlank c = true
  gap : ∀ c ∈ gap, isLineEnd c = true
  trail : ∀ c ∈ trail, isLineEnd c = true
  key : '=' ∉ key ∧ Trimmed isLineEnd key
  value : Trimmed isLineEnd value

/-- What a line says, of whose value a reader keeps a part. -/
def LineSays (g : Grammar) (kept : List Char → List Char) (line : List Char) (d : Device) (p : Port)
    (b : Binding) : Prop :=
  ∃ lead key gap value trail, Spelled line lead key gap value trail ∧ g.key key d p ∧
    WordsSay g (strtok isBlank (kept value)) b

/-! ### The parser with any buffers -/

def parseWords : List (List Char) → Option Binding
  | [] => none
  | token :: attributes => do
    let input ← findToken kInputTokens token
    attributes.foldlM parseAttribute (defaultBinding input)

/-- `parseValue` with room for this many characters. -/
def parseValueIn (room : Nat) (value : List Char) : Option Binding :=
  parseWords (strtok isBlank (strncpy value room))

def assignmentContentIn (room : Nat) (key value : List Char) : LineContent :=
  let content : Option LineContent := do
    let (hubNum, portLetter) ← scanKey key
    let d ← mkhDeviceProtocolIndex hubNum
    let p ← mkhPortFromLetter portLetter
    let b ← parseValueIn room value
    return .binding d p b
  content.getD .malformed

/-- `lineContent` with buffers of these sizes. -/
def lineContentIn (lineRoom valueRoom : Nat) (rawLine : List Char) : LineContent :=
  let line := rstrip isLineEnd (strncpy rawLine lineRoom)
  let trimmed := skipSpaces line
  if trimmed = [] ∨ trimmed.head? = some '#' then .ignored
  else match strchr line '=' with
  | none => .malformed
  | some (front, back) =>
    assignmentContentIn valueRoom (rstrip isLineEnd (skipSpaces front)) (skipSpaces back)

theorem lineContent_eq_in (rawLine : List Char) : lineContent rawLine = lineContentIn 127 95 rawLine :=
  rfl

/-! ### Tokens -/

section Tokens

variable {α : Type} {tokens : List (List Char × α)} {a b name : List Char}

theorem strcasecmp_trans_right (h : strcasecmp a b = true) (c : List Char) :
    strcasecmp a c = strcasecmp b c := by
  unfold strcasecmp
  rw [beq_iff_eq.mp h]

/-- Case does not matter to a token. -/
theorem findToken_case (h : strcasecmp a b = true) : findToken tokens a = findToken tokens b := by
  unfold findToken
  simp only [strcasecmp_trans_right h]

theorem findToken_input {input : InputSource} : findToken kInputTokens name = some input ↔
    input ≠ .none ∧ strcasecmp name (inputTokenName input) = true := by
  have htable : ∀ token ∈ kInputTokens, token.2 ≠ .none ∧ inputTokenName token.2 = token.1 := by
    decide
  constructor
  · intro h
    obtain ⟨token, hmem, hname, rfl⟩ := findToken_mem h
    obtain ⟨hreal, htoken⟩ := htable token hmem
    rw [htoken]
    exact ⟨hreal, hname⟩
  · rintro ⟨hreal, hname⟩
    rw [findToken_case hname]
    exact findToken_inputTokenName hreal

theorem findToken_mode {mode : InputMode} : findToken kModeTokens name = some mode ↔
    strcasecmp name (modeTokenName mode) = true := by
  have htable : ∀ token ∈ kModeTokens, modeTokenName token.2 = token.1 := by decide
  constructor
  · intro h
    obtain ⟨token, hmem, hname, rfl⟩ := findToken_mem h
    rw [htable token hmem]
    exact hname
  · intro hname
    rw [findToken_case hname]
    cases mode <;> rfl

end Tokens

/-! ### The right-hand side -/

theorem parseMax_eq_some {value : List Char} {n : Nat} :
    parseMax value = some n ↔ scanned.max value n := by
  have hscan : ∀ v, scanInt value = some (v, []) ↔ Numeral value v := by
    intro v
    rw [scanInt_eq_some]
    constructor
    · rintro ⟨text, rfl, hnumeral, -⟩
      rwa [List.append_nil]
    · exact fun hnumeral => ⟨value, (List.append_nil _).symm, hnumeral, noDigitFirst_nil⟩
  constructor
  · intro h
    unfold parseMax at h
    split at h
    · rename_i v hvalue
      split at h
      · cases h
      · rename_i hrange
        obtain rfl := Option.some.inj h
        have hnat : ((v.toNat : Nat) : Int) = v := by omega
        refine ⟨?_, by omega⟩
        rw [hnat]
        exact (hscan v).mp hvalue
    · cases h
  · rintro ⟨hnumeral, hle⟩
    unfold parseMax
    rw [(hscan n).mpr hnumeral]
    show (if (n : Int) < 0 ∨ (n : Int) > 100 then none else some (n : Int).toNat) = some n
    rw [if_neg (by omega), Int.toNat_natCast]

/-- A key of an attribute has no `=` in it. -/
theorem attributeKey_cut {key name : List Char} (value : List Char)
    (hkey : strcasecmp key name = true) (hname : '=' ∉ name.map Char.toLower) :
    strchr (key ++ '=' :: value) '=' = some (key, value) :=
  strchr_append key value (strcasecmp_not_mem hkey hname (by decide))

/-- The last attribute's key is none of the three before it. -/
theorem modeKey_other {key : List Char} (hkey : strcasecmp key "mode".toList = true) :
    strcasecmp key "invert".toList = false ∧ strcasecmp key "max".toList = false ∧
      strcasecmp key "curve".toList = false := by
  have hother : ∀ name : List Char, strcasecmp "mode".toList name = false →
      strcasecmp key name = false := fun name hname =>
    (strcasecmp_trans_right hkey name).trans hname
  exact ⟨hother _ (by decide), hother _ (by decide), hother _ (by decide)⟩

/-- What is taken as an attribute is spelled as one. -/
theorem attribute_of_parse {b b' : Binding} {token : List Char} (h : parseAttribute b token = some b') :
    ∃ change, Attribute scanned token change ∧ b' = change b := by
  unfold parseAttribute at h
  split at h
  · cases h
  rename_i key value hcut
  obtain ⟨rfl, -⟩ := strchr_eq_some.mp hcut
  split at h
  · rename_i hkey
    split at h
    · rename_i hyes
      obtain rfl := Option.some.inj h
      exact ⟨_, .invert hkey (show strcasecmp _ (yesNo true) = true from hyes), rfl⟩
    · split at h
      · rename_i hno
        obtain rfl := Option.some.inj h
        exact ⟨_, .invert hkey (show strcasecmp _ (yesNo false) = true from hno), rfl⟩
      · cases h
  split at h
  · rename_i hkey
    obtain ⟨n, hmax, rfl⟩ := Option.map_eq_some_iff.mp h
    exact ⟨_, .max hkey (parseMax_eq_some.mp hmax), rfl⟩
  split at h
  · rename_i hkey
    obtain rfl := Option.some.inj h
    exact ⟨_, .curve hkey, rfl⟩
  split at h
  · rename_i hkey
    obtain ⟨mode, hmode, rfl⟩ := Option.map_eq_some_iff.mp h
    exact ⟨_, .mode hkey (findToken_mode.mp hmode), rfl⟩
  · cases h

/-- What is spelled as an attribute is taken. -/
theorem parse_of_attribute {token : List Char} {change : Binding → Binding}
    (hattribute : Attribute scanned token change) (b : Binding) :
    parseAttribute b token = some (change b) := by
  unfold parseAttribute
  cases hattribute with
  | @invert key value invert hkey hvalue =>
    rw [attributeKey_cut value hkey (by decide)]
    simp only [hkey, if_true]
    cases invert with
    | true =>
      have hyes : strcasecmp value "yes".toList = true := hvalue
      simp only [hyes, if_true]
    | false =>
      have hno : strcasecmp value "no".toList = true := hvalue
      have hyes : strcasecmp value "yes".toList = false :=
        (strcasecmp_trans_right hno _).trans (by decide)
      simp only [hyes, hno, Bool.false_eq_true, if_false, if_true]
  | @max key value n hkey hvalue =>
    have hinvert : strcasecmp key "invert".toList = false :=
      (strcasecmp_trans_right hkey _).trans (by decide)
    rw [attributeKey_cut value hkey (by decide)]
    simp only [hinvert, hkey, Bool.false_eq_true, if_false, if_true, parseMax_eq_some.mpr hvalue,
      Option.map_some]
  | @curve key value hkey =>
    have hinvert : strcasecmp key "invert".toList = false :=
      (strcasecmp_trans_right hkey _).trans (by decide)
    have hmax : strcasecmp key "max".toList = false :=
      (strcasecmp_trans_right hkey _).trans (by decide)
    rw [attributeKey_cut value hkey (by decide)]
    simp only [hinvert, hmax, hkey, Bool.false_eq_true, if_false, if_true]
  | @mode key value mode hkey hvalue =>
    obtain ⟨hinvert, hmax, hcurve⟩ := modeKey_other hkey
    rw [attributeKey_cut value hkey (by decide)]
    simp only [hinvert, hmax, hcurve, hkey, Bool.false_eq_true, if_false, if_true,
      findToken_mode.mpr hvalue, Option.map_some]

/-- **An attribute is taken exactly as the scanners spell it.** -/
theorem parseAttribute_eq_some {b b' : Binding} {token : List Char} :
    parseAttribute b token = some b' ↔ ∃ change, Attribute scanned token change ∧ b' = change b := by
  constructor
  · exact attribute_of_parse
  · rintro ⟨change, hattribute, rfl⟩
    exact parse_of_attribute hattribute b

theorem parseAttributes_eq_some {attributes : List (List Char)} {b b' : Binding} :
    attributes.foldlM parseAttribute b = some b' ↔
      ∃ changes, List.Forall₂ (Attribute scanned) attributes changes ∧
        b' = changes.foldl (fun b change => change b) b := by
  induction attributes generalizing b with
  | nil =>
    constructor
    · intro h
      exact ⟨[], .nil, (Option.some.inj h).symm⟩
    · rintro ⟨changes, hnone, rfl⟩
      cases hnone
      rfl
  | cons word rest ih =>
    rw [List.foldlM_cons]
    constructor
    · intro h
      obtain ⟨mid, hword, hrest⟩ := Option.bind_eq_some_iff.mp h
      obtain ⟨change, hattribute, rfl⟩ := parseAttribute_eq_some.mp hword
      obtain ⟨changes, hchanges, rfl⟩ := ih.mp hrest
      exact ⟨change :: changes, .cons hattribute hchanges, rfl⟩
    · rintro ⟨changes, hall, rfl⟩
      cases hall with
      | @cons _ change _ changes hattribute hchanges =>
        have hword : parseAttribute b word = some (change b) :=
          parseAttribute_eq_some.mpr ⟨change, hattribute, rfl⟩
        exact Option.bind_eq_some_iff.mpr ⟨change b, hword, ih.mpr ⟨changes, hchanges, rfl⟩⟩

/-- **The words of a right-hand side are taken exactly as the scanners spell them.** -/
theorem parseWords_eq_some {words : List (List Char)} {b : Binding} :
    parseWords words = some b ↔ WordsSay scanned words b := by
  constructor
  · intro h
    cases words with
    | nil => cases h
    | cons name attributes =>
      obtain ⟨input, hinput, hattributes⟩ := Option.bind_eq_some_iff.mp h
      obtain ⟨hreal, hname⟩ := findToken_input.mp hinput
      obtain ⟨changes, hchanges, rfl⟩ := parseAttributes_eq_some.mp hattributes
      exact ⟨name, input, attributes, changes, rfl, hreal, hname, hchanges, rfl⟩
  · rintro ⟨name, input, attributes, changes, rfl, hreal, hname, hchanges, rfl⟩
    exact Option.bind_eq_some_iff.mpr ⟨input, findToken_input.mpr ⟨hreal, hname⟩,
      parseAttributes_eq_some.mpr ⟨changes, hchanges, rfl⟩⟩

/-! ### The key -/

theorem scanKey_eq_some {key : List Char} {hubNum : Int} {letter : Char} :
    scanKey key = some (hubNum, letter) ↔ ∃ number rest, Numeral number hubNum ∧
      key = "HUB".toList ++ (number ++ ("_PORT_".toList ++ letter :: rest)) := by
  have hunderscore : ∀ rest, NoDigitFirst ("_PORT_".toList ++ rest) := by
    intro rest c hc
    obtain rfl : '_' = c := by simpa using hc
    decide
  unfold scanKey
  constructor
  · intro h
    obtain ⟨afterHub, hhub, h⟩ := Option.bind_eq_some_iff.mp h
    obtain ⟨⟨v, afterNumber⟩, hnumber, h⟩ := Option.bind_eq_some_iff.mp h
    obtain ⟨afterPort, hport, h⟩ := Option.bind_eq_some_iff.mp h
    obtain ⟨first, hfirst, h⟩ := Option.bind_eq_some_iff.mp h
    obtain ⟨rfl, rfl⟩ := Prod.mk.inj (Option.some.inj h)
    obtain ⟨rest, rfl⟩ := List.head?_eq_some_iff.mp hfirst
    obtain ⟨number, hsplit, hnumeral, -⟩ := scanInt_eq_some.mp hnumber
    refine ⟨number, rest, hnumeral, ?_⟩
    rw [scanLiteral_eq_some.mp hhub, hsplit, scanLiteral_eq_some.mp hport]
  · rintro ⟨number, rest, hnumeral, rfl⟩
    refine Option.bind_eq_some_iff.mpr ⟨_, scanLiteral_eq_some.mpr rfl, ?_⟩
    refine Option.bind_eq_some_iff.mpr ⟨(hubNum, _), scanInt_numeral hnumeral (hunderscore _), ?_⟩
    refine Option.bind_eq_some_iff.mpr ⟨_, scanLiteral_eq_some.mpr rfl, ?_⟩
    exact Option.bind_eq_some_iff.mpr ⟨letter, rfl, rfl⟩

theorem mkhDeviceProtocolIndex_eq_some {n : Int} {d : Device} :
    mkhDeviceProtocolIndex n = some d ↔ n = (mkhDeviceAppNumber d : Nat) := by
  constructor
  · intro h
    unfold mkhDeviceProtocolIndex at h
    split at h
    · cases h
    · rename_i hrange
      unfold Device.ofId? at h
      split at h
      · obtain rfl := Option.some.inj h
        unfold mkhDeviceAppNumber
        simp only
        omega
      · cases h
  · rintro rfl
    exact mkhDeviceProtocolIndex_appNumber d

theorem mkhPortFromLetter_eq_some {letter : Char} {p : Port} :
    mkhPortFromLetter letter = some p ↔ Letter letter p := by
  have hletter : (mkhPortLetter p).toNat = 65 + p.val ∧
      (mkhPortLetter p).toLower.toNat = 97 + p.val := by
    revert p
    decide
  constructor
  · intro h
    have hport : ∀ {v : Int}, Port.ofIndex? v = some p → v = p.val := by
      intro v hv
      unfold Port.ofIndex? at hv
      split at hv
      · obtain rfl := Option.some.inj hv
        simp only
        omega
      · cases hv
    unfold mkhPortFromLetter at h
    by_cases hlower : 'a' ≤ letter ∧ letter ≤ 'z'
    · simp only [if_pos hlower] at h
      obtain ⟨-, h⟩ := Option.ite_none_left_eq_some.mp h
      have hvalue := hport h
      refine Or.inr (Char.toNat_inj.mp ?_)
      rw [hletter.2]
      simp only [Char.reduceToNat] at hvalue
      omega
    · simp only [if_neg hlower] at h
      obtain ⟨-, h⟩ := Option.ite_none_left_eq_some.mp h
      have hvalue := hport h
      refine Or.inl (Char.toNat_inj.mp ?_)
      rw [hletter.1]
      simp only [Char.reduceToNat] at hvalue
      omega
  · rintro (rfl | rfl)
    · exact mkhPortFromLetter_letter p
    · revert p
      decide

/-- **A key and a value are taken exactly as the scanners spell them.** -/
theorem assignmentContentIn_binding {room : Nat} {key value : List Char} {d : Device} {p : Port}
    {b : Binding} : assignmentContentIn room key value = .binding d p b ↔
      scanned.key key d p ∧ parseValueIn room value = some b := by
  unfold assignmentContentIn
  constructor
  · intro h
    rcases hkey : scanKey key with _ | ⟨hubNum, letter⟩
    · simp [hkey] at h
    rcases hdevice : mkhDeviceProtocolIndex hubNum with _ | d'
    · simp [hkey, hdevice] at h
    rcases hport : mkhPortFromLetter letter with _ | p'
    · simp [hkey, hdevice, hport] at h
    rcases hvalue : parseValueIn room value with _ | b'
    · simp [hkey, hvalue] at h
    · simp only [hkey, hdevice, hport, hvalue, Option.bind_eq_bind, Option.bind_some, Option.pure_def,
        Option.getD_some, LineContent.binding.injEq] at h
      obtain ⟨rfl, rfl, rfl⟩ := h
      obtain ⟨number, rest, hnumeral, hspelled⟩ := scanKey_eq_some.mp hkey
      rw [mkhDeviceProtocolIndex_eq_some.mp hdevice] at hnumeral
      exact ⟨⟨number, letter, rest, hnumeral, mkhPortFromLetter_eq_some.mp hport, hspelled⟩, rfl⟩
  · rintro ⟨⟨number, letter, rest, hnumeral, hletter, hspelled⟩, hvalue⟩
    have hkey := scanKey_eq_some.mpr ⟨number, rest, hnumeral, hspelled⟩
    simp [hkey, mkhPortFromLetter_eq_some.mpr hletter, hvalue]

/-! ### The line -/

/-- The text before the first `=`, trimmed. -/
def keyPart (line : List Char) : List Char :=
  match strchr (rstrip isLineEnd line) '=' with
  | some (front, _) => rstrip isLineEnd (skipSpaces front)
  | none => []

/-- The text after it. -/
def valuePart (line : List Char) : List Char :=
  match strchr (rstrip isLineEnd line) '=' with
  | some (_, back) => skipSpaces back
  | none => []

theorem trimmed_append {p : Char → Bool} {front back : List Char} (hback : Trimmed p back)
    (hfront : back = [] → Trimmed p front) : Trimmed p (front ++ back) := by
  intro c hc
  cases hlast : back.getLast? with
  | none =>
    have hnil := List.getLast?_eq_none_iff.mp hlast
    subst hnil
    rw [List.append_nil] at hc
    exact hfront rfl c hc
  | some last =>
    rw [List.getLast?_append, hlast] at hc
    obtain rfl : last = c := by simpa using hc
    exact hback last hlast

section Spelled

variable {line lead key gap value trail : List Char}

theorem isLineEnd_of_isBlank {c : Char} (h : isBlank c = true) : isLineEnd c = true := by
  unfold isBlank at h
  unfold isLineEnd
  rcases (Bool.or_eq_true _ _).mp h with hspace | htab
  · simp [hspace]
  · simp [htab]

theorem Spelled.rstripped (h : Spelled line lead key gap value trail) :
    rstrip isLineEnd line = lead ++ (key ++ (gap ++ '=' :: value)) := by
  have hline : line = (lead ++ (key ++ (gap ++ '=' :: value))) ++ trail := by
    rw [h.text]
    simp only [List.append_assoc, List.cons_append]
  rw [hline]
  refine rstrip_append ?_ h.trail
  refine trimmed_append ?_ (by simp)
  refine trimmed_append ?_ (by simp)
  refine trimmed_append ?_ (by simp)
  intro c hc
  cases value with
  | nil =>
    obtain rfl : '=' = c := by simpa using hc
    decide
  | cons first rest =>
    rw [List.getLast?_cons_cons] at hc
    exact h.value c hc

theorem Spelled.cut (h : Spelled line lead key gap value trail) :
    strchr (rstrip isLineEnd line) '=' = some (lead ++ (key ++ gap), value) := by
  have hblank : ∀ {p : Char → Bool} {s : List Char}, p '=' = false → (∀ c ∈ s, p c = true) →
      '=' ∉ s :=
    fun hp hs hmem => absurd (hp.symm.trans (hs '=' hmem)) Bool.false_ne_true
  have hnot : '=' ∉ lead ++ (key ++ gap) := by
    intro hmem
    rcases List.mem_append.mp hmem with hlead | hmem
    · exact hblank (by decide) h.lead hlead
    rcases List.mem_append.mp hmem with hkey | hgap
    · exact h.key.1 hkey
    · exact hblank (by decide) h.gap hgap
  rw [h.rstripped, strchr_eq_some]
  exact ⟨by simp only [List.append_assoc], hnot⟩

theorem skipSpaces_append {s : List Char} (hlead : ∀ c ∈ lead, isBlank c = true)
    (hs : ∀ c, s.head? = some c → isBlank c = false) : skipSpaces (lead ++ s) = s :=
  (dropWhile_append_stop hlead hs).1

/-- A line that starts with no blank of its own. -/
theorem Spelled.parts (h : Spelled line lead key gap value trail)
    (hfirst : ∃ c rest, key = c :: rest ∧ isBlank c = false) :
    keyPart line = key ∧ valuePart line = skipSpaces value := by
  obtain ⟨c, rest, hkey, hc⟩ := hfirst
  unfold keyPart valuePart
  rw [h.cut]
  refine ⟨?_, rfl⟩
  have hskip : skipSpaces (lead ++ (key ++ gap)) = key ++ gap := by
    refine skipSpaces_append h.lead fun c' hc' => ?_
    rw [hkey] at hc'
    obtain rfl : c = c' := by simpa using hc'
    exact hc
  show rstrip isLineEnd (skipSpaces (lead ++ (key ++ gap))) = key
  rw [hskip]
  exact rstrip_append h.key.2 h.gap

theorem scanned_key_first {d : Device} {p : Port} (h : scanned.key key d p) :
    ∃ c rest, key = c :: rest ∧ isBlank c = false := by
  obtain ⟨number, letter, rest, -, -, rfl⟩ := h
  exact ⟨'H', _, rfl, by decide⟩

/-- A line with an `=` has its parts. -/
theorem spelled_of_cut {front back : List Char}
    (h : strchr (rstrip isLineEnd line) '=' = some (front, back)) :
    ∃ lead gap trail,
      Spelled line lead (rstrip isLineEnd (skipSpaces front)) gap back trail := by
  obtain ⟨hcut, hnot⟩ := strchr_eq_some.mp h
  obtain ⟨trail, hline, htrail⟩ := rstrip_split isLineEnd line
  obtain ⟨gap, hkey, hgap⟩ := rstrip_split isLineEnd (skipSpaces front)
  have hfront : front = front.takeWhile isBlank ++ skipSpaces front := by simp [skipSpaces]
  refine ⟨front.takeWhile isBlank, gap, trail, ?_, fun c hc => List.mem_takeWhile_imp hc, hgap,
    htrail, ⟨?_, rstrip_trimmed isLineEnd _⟩, ?_⟩
  · calc
      line = (front ++ '=' :: back) ++ trail := by rw [← hcut, ← hline]
      _ = (front.takeWhile isBlank ++ (rstrip isLineEnd (skipSpaces front) ++ gap) ++ '=' :: back) ++
          trail := by rw [← hkey, ← hfront]
      _ = _ := by simp only [List.append_assoc, List.cons_append]
  · intro hmem
    refine hnot ?_
    rw [hfront, hkey]
    simp [hmem]
  · intro c hc
    refine rstrip_trimmed isLineEnd line c ?_
    rw [hcut]
    cases back with
    | nil => cases hc
    | cons first rest =>
      rw [List.getLast?_append, List.getLast?_cons_cons, hc]
      rfl

end Spelled

theorem mem_skipSpaces {c : Char} {s : List Char} (h : c ∈ skipSpaces s) : c ∈ s :=
  List.dropWhile_sublist isBlank |>.mem h

/-- **The parser, with buffers of any size, takes exactly the lines that the scanners spell in what
the buffers hold.** -/
theorem lineContentIn_binding {lineRoom valueRoom : Nat} {line : List Char} (hnul : '\x00' ∉ line)
    {d : Device} {p : Port} {b : Binding} :
    lineContentIn lineRoom valueRoom line = .binding d p b ↔
      LineSays scanned (fun value => (skipSpaces value).take valueRoom) (line.take lineRoom) d p b := by
  have hkept : '\x00' ∉ line.take lineRoom := fun hmem => hnul (List.mem_of_mem_take hmem)
  unfold lineContentIn
  rw [strncpy_eq_take hnul]
  generalize line.take lineRoom = kept at hkept
  have hcopy : ∀ {lead key gap value trail}, Spelled kept lead key gap value trail →
      strncpy (skipSpaces value) valueRoom = (skipSpaces value).take valueRoom := by
    intro lead key gap value trail hspelled
    refine strncpy_eq_take (fun hmem => hkept ?_) valueRoom
    have hvalue := mem_skipSpaces hmem
    rw [hspelled.text]
    simp [hvalue]
  constructor
  · intro h
    simp only at h
    split at h
    · cases h
    split at h
    · cases h
    rename_i front back hcut
    obtain ⟨hkey, hvalue⟩ := assignmentContentIn_binding.mp h
    obtain ⟨lead, gap, trail, hspelled⟩ := spelled_of_cut hcut
    have hwords := parseWords_eq_some.mp hvalue
    rw [hcopy hspelled] at hwords
    exact ⟨lead, _, gap, back, trail, hspelled, hkey, hwords⟩
  · rintro ⟨lead, key, gap, value, trail, hspelled, hkey, hwords⟩
    have hfirst := scanned_key_first hkey
    obtain ⟨hkeyPart, -⟩ := hspelled.parts hfirst
    obtain ⟨first, rest, hhead, hblank⟩ := hfirst
    have hbegins : skipSpaces (rstrip isLineEnd kept) = key ++ (gap ++ '=' :: value) := by
      rw [hspelled.rstripped]
      refine skipSpaces_append hspelled.lead fun c hc => ?_
      rw [hhead] at hc
      obtain rfl : first = c := by simpa using hc
      exact hblank
    have hcontent : ¬ (skipSpaces (rstrip isLineEnd kept) = [] ∨
        (skipSpaces (rstrip isLineEnd kept)).head? = some '#') := by
      obtain ⟨number, letter, more, -, -, htext⟩ := hkey
      rw [hbegins, htext]
      simp
    simp only
    rw [if_neg hcontent, hspelled.cut]
    unfold keyPart at hkeyPart
    rw [hspelled.cut] at hkeyPart
    refine assignmentContentIn_binding.mpr ⟨?_, ?_⟩
    · simp only at hkeyPart
      rw [hkeyPart]
      exact hkey
    · refine parseWords_eq_some.mpr ?_
      rw [hcopy hspelled]
      exact hwords

end MK1Tank
