/-
The config text round trip.

Two facts carry it.  The line the serializer prints for a binding is, for the parser,
a key that names the port and a list of tokens with one blank between them, so it
gives the binding back; only the mode of a stick axis, which is not printed, comes
back as its default.  And the serializer visits the table port by port while the
parser appends, so a port's list is rebuilt in its order, whatever stands between
its lines.
-/
import MK1Tank.Firmware.ConfigParse

namespace MK1Tank

open CString

/-! ### What a line says

The parser's answer to a line depends on the line alone; the table comes in only where
a binding is appended, or found to have no room.
-/

/-- What a line says, before any table is looked at. -/
inductive LineContent where
  /-- Blank, or a comment. -/
  | ignored
  | malformed
  | binding (d : Device) (p : Port) (b : Binding)

def assignmentContent (key value : List Char) : LineContent :=
  let content : Option LineContent := do
    let (hubNum, portLetter) ← scanKey key
    let d ← mkhDeviceProtocolIndex hubNum
    let p ← mkhPortFromLetter portLetter
    let b ← parseValue value
    return .binding d p b
  content.getD .malformed

def lineContent (rawLine : List Char) : LineContent :=
  let line := rstrip isLineEnd (strncpy rawLine 127)
  let trimmed := skipSpaces line
  if trimmed = [] ∨ trimmed.head? = some '#' then .ignored
  else match strchr line '=' with
  | none => .malformed
  | some (front, back) =>
    assignmentContent (rstrip isLineEnd (skipSpaces front)) (skipSpaces back)

/-- Take a binding into the table, when its port has room. -/
def takeBinding (cfg : MkhConfig) (d : Device) (p : Port) (b : Binding) : MkhConfig :=
  if hroom : (cfg.table d p).bindings.length < mkhMaxBindingsPerPort then
    appendBinding cfg d p b hroom
  else skipLine cfg

theorem takeBinding_room {cfg : MkhConfig} {d : Device} {p : Port} (b : Binding)
    (hroom : (cfg.table d p).bindings.length < mkhMaxBindingsPerPort) :
    takeBinding cfg d p b = appendBinding cfg d p b hroom := dif_pos hroom

theorem takeBinding_full {cfg : MkhConfig} {d : Device} {p : Port} (b : Binding)
    (hfull : ¬ (cfg.table d p).bindings.length < mkhMaxBindingsPerPort) :
    takeBinding cfg d p b = skipLine cfg := dif_neg hfull

/-- Take what a line says into the table. -/
def takeContent (cfg : MkhConfig) : LineContent → MkhConfig
  | .ignored => cfg
  | .malformed => skipLine cfg
  | .binding d p b => takeBinding cfg d p b

theorem parseAssignment_eq (cfg : MkhConfig) (key value : List Char) :
    parseAssignment cfg key value = takeContent cfg (assignmentContent key value) := by
  unfold parseAssignment assignmentContent
  rcases scanKey key with _ | ⟨hubNum, portLetter⟩
  · rfl
  rcases hdev : mkhDeviceProtocolIndex hubNum with _ | d
  · simp [hdev, takeContent]
  rcases hport : mkhPortFromLetter portLetter with _ | p
  · simp [hdev, hport, takeContent]
  rcases hvalue : parseValue value with _ | b
  · simp [hdev, hport, takeContent]
  · simp [hdev, hport, takeContent, takeBinding]

/-- **A line acts through what it says.** -/
theorem mkhConfigParseLine_eq (cfg : MkhConfig) (rawLine : List Char) :
    mkhConfigParseLine cfg rawLine = takeContent cfg (lineContent rawLine) := by
  unfold mkhConfigParseLine lineContent
  generalize rstrip isLineEnd (strncpy rawLine 127) = line
  dsimp only
  split
  · rfl
  · rcases strchr line '=' with _ | ⟨front, back⟩
    · rfl
    · exact parseAssignment_eq cfg _ _

/-! ### One line -/

/-- The binding that comes back from the file: the mode of a stick axis is not kept. -/
def Binding.onFile (b : Binding) : Binding :=
  if mkhConfigInputClass b.input = .axis then { b with mode := defaultModeForInput b.input } else b

/-- A line without its newline, as it is read back. -/
def lineBody (d : Device) (p : Port) (b : Binding) : List Char :=
  lineKey d p ++ " = ".toList ++ lineValue b

theorem bindingLine_eq (d : Device) (p : Port) (b : Binding) :
    bindingLine d p b = lineBody d p b ++ ['\n'] := rfl

def invertToken (invert : Bool) : List Char := "invert=".toList ++ yesNo invert

def maxToken (n : Nat) : List Char := "max=".toList ++ Nat.toDigits 10 n

def curveToken : List Char := "curve=linear".toList

def modeToken (mode : InputMode) : List Char := "mode=".toList ++ modeTokenName mode

/-- The words of a line's right-hand side. -/
def lineTokens (b : Binding) : List (List Char) :=
  [inputTokenName b.input, invertToken b.invert, maxToken b.maxPercent, curveToken]
    ++ if mkhConfigInputClass b.input = .axis then [] else [modeToken b.mode]

theorem lineValue_eq (b : Binding) : lineValue b = [' '].intercalate (lineTokens b) := by
  unfold lineValue lineTokens invertToken maxToken curveToken modeToken
  by_cases hc : mkhConfigInputClass b.input = .axis
  · simp [hc, List.intercalate_cons_cons]
  · simp [hc, List.intercalate_cons_cons]

/-- A character that no step of the parser takes for a blank, a line end or the end of the text. -/
def isPlain (c : Char) : Bool := !isLineEnd c && c ≠ '\x00'

theorem isPlain_of_isDigit {c : Char} (h : c.isDigit = true) : isPlain c = true := by
  simp only [Char.isDigit, Bool.and_eq_true, decide_eq_true_eq] at h
  simp only [isPlain, isLineEnd, Bool.and_eq_true, Bool.not_eq_true', Bool.or_eq_false_iff,
    decide_eq_false_iff_not, decide_eq_true_eq]
  refine ⟨⟨⟨⟨?_, ?_⟩, ?_⟩, ?_⟩, ?_⟩ <;> rintro rfl <;> exact absurd h.1 (by decide)

/-- A word of a line: not empty, and all plain. -/
def isPlainToken (t : List Char) : Bool := !t.isEmpty && t.all isPlain

theorem isPlainToken_iff {t : List Char} :
    isPlainToken t = true ↔ t ≠ [] ∧ ∀ c ∈ t, isPlain c = true := by
  simp [isPlainToken]

theorem inputTokenName_plain (input : InputSource) :
    isPlainToken (inputTokenName input) = true := by
  cases input <;> rfl

theorem modeToken_plain (mode : InputMode) : isPlainToken (modeToken mode) = true := by
  cases mode <;> rfl

theorem lineTokens_plain (b : Binding) : ∀ t ∈ lineTokens b, isPlainToken t = true := by
  have hinvert : ∀ invert, isPlainToken (invertToken invert) = true := by decide
  have hmax : isPlainToken (maxToken b.maxPercent) = true := by
    refine isPlainToken_iff.mpr ⟨by simp [maxToken], fun c hc => ?_⟩
    rcases List.mem_append.mp hc with hlit | hdigit
    · exact (isPlainToken_iff.mp (show isPlainToken "max=".toList = true by rfl)).2 c hlit
    · exact isPlain_of_isDigit (Nat.isDigit_of_mem_toDigits (by decide) (by decide) hdigit)
  intro t ht
  rcases List.mem_append.mp ht with hfront | hmode
  · simp only [List.mem_cons, List.not_mem_nil, or_false] at hfront
    rcases hfront with rfl | rfl | rfl | rfl
    · exact inputTokenName_plain b.input
    · exact hinvert b.invert
    · exact hmax
    · rfl
  · by_cases hc : mkhConfigInputClass b.input = .axis
    · simp [hc] at hmode
    · rw [if_neg hc, List.mem_singleton] at hmode
      rw [hmode]
      exact modeToken_plain b.mode

theorem isBlank_of_isPlain {c : Char} (h : isPlain c = true) : isBlank c = false := by
  simp only [isPlain, isLineEnd, Bool.and_eq_true, Bool.not_eq_true', Bool.or_eq_false_iff] at h
  simp only [isBlank, Bool.or_eq_false_iff]
  exact h.1.1.1

/-! ### How long a line is -/

theorem inputTokenName_length {input : InputSource} (h : input ≠ .none) :
    (inputTokenName input).length ≤ if mkhConfigInputClass input = .axis then 4 else 3 := by
  cases input
  · exact absurd rfl h
  all_goals decide

theorem modeTokenName_length (mode : InputMode) : (modeTokenName mode).length ≤ 12 := by
  cases mode <;> decide

theorem toDigits_length_le {n : Nat} (h : n < 256) : (Nat.toDigits 10 n).length ≤ 3 :=
  (show ∀ n < 256, (Nat.toDigits 10 n).length ≤ 3 by decide +kernel) n h

theorem lineKey_length (d : Device) (p : Port) : (lineKey d p).length = 11 := by
  revert d p; decide

/-- A value is its input's name and so much more, where the percentage is one byte. -/
theorem lineValue_length_le {b : Binding} (hmax : b.maxPercent < 256) :
    (lineValue b).length
      ≤ (inputTokenName b.input).length + if mkhConfigInputClass b.input = .axis then 32 else 50 := by
  have hmode := modeTokenName_length b.mode
  have hdigits := toDigits_length_le hmax
  have hinvert : (yesNo b.invert).length ≤ 3 := by cases b.invert <;> decide
  unfold lineValue
  split
  · simp
    omega
  · simp
    omega

theorem lineValue_length {b : Binding} (hb : b.WellFormed) : (lineValue b).length ≤ 53 := by
  have hname := inputTokenName_length hb.input
  have hvalue := lineValue_length_le (Nat.lt_of_le_of_lt hb.maxPercent (by decide))
  split at hname
  · rename_i haxis
    rw [if_pos haxis] at hvalue
    omega
  · rename_i haxis
    rw [if_neg haxis] at hvalue
    omega

/-- The key, the equals sign between two blanks, the value and the newline. -/
theorem bindingLine_length_eq (d : Device) (p : Port) (b : Binding) :
    (bindingLine d p b).length = (lineValue b).length + 15 := by
  have heq : " = ".toList.length = 3 := by decide
  rw [bindingLine, List.length_append, List.length_append, List.length_append, lineKey_length, heq,
    List.length_singleton]
  omega

/-- No line is longer than this, newline included. -/
theorem bindingLine_length (d : Device) (p : Port) {b : Binding} (hb : b.WellFormed) :
    (bindingLine d p b).length ≤ 68 := by
  have hvalue := lineValue_length hb
  rw [bindingLine_length_eq]
  omega

/-- Lists that are not long, one after another. -/
theorem length_flatMap_le {α β : Type} {f : α → List β} (bound : Nat) {as : List α}
    (h : ∀ a ∈ as, (f a).length ≤ bound) : (as.flatMap f).length ≤ as.length * bound := by
  induction as with
  | nil => exact Nat.zero_le _
  | cons a rest ih =>
    have hfirst := h a List.mem_cons_self
    have hrest := ih fun a ha => h a (List.mem_cons_of_mem _ ha)
    rw [List.flatMap_cons, List.length_append, List.length_cons, Nat.succ_mul]
    omega

/-! ### Reading a value back -/

/-- A token that was found is in the table, and is the name up to case. -/
theorem findToken_mem {α : Type} {tokens : List (List Char × α)} {name : List Char} {x : α}
    (h : findToken tokens name = some x) :
    ∃ token ∈ tokens, strcasecmp name token.1 = true ∧ token.2 = x := by
  obtain ⟨token, hfind, hvalue⟩ := Option.map_eq_some_iff.mp h
  have hname : strcasecmp name token.1 = true := by simpa using List.find?_some hfind
  exact ⟨token, List.mem_of_find?_eq_some hfind, hname, hvalue⟩

/-- Every input has a token, and the token is read as that input. -/
theorem findToken_inputTokenName {input : InputSource} (h : input ≠ .none) :
    findToken kInputTokens (inputTokenName input) = some input := by
  cases input
  · exact absurd rfl h
  all_goals decide

theorem parseAttribute_invert (b : Binding) (invert : Bool) :
    parseAttribute b (invertToken invert) = some { b with invert := invert } := by
  cases invert <;> rfl

theorem parseAttribute_mode (b : Binding) (mode : InputMode) :
    parseAttribute b (modeToken mode) = some { b with mode := mode } := by
  cases mode <;> rfl

theorem parseMax_toDigits {n : Nat} (h : n ≤ 100) : parseMax (Nat.toDigits 10 n) = some n := by
  have hscan := scanInt_toDigits n [] (by simp)
  rw [List.append_nil] at hscan
  unfold parseMax
  rw [hscan]
  show (if (n : Int) < 0 ∨ (n : Int) > 100 then none else some (n : Int).toNat) = some n
  rw [if_neg (by omega), Int.toNat_natCast]

theorem parseAttribute_max (b : Binding) {n : Nat} (h : n ≤ 100) :
    parseAttribute b (maxToken n) = some { b with maxPercent := n } := by
  have hsplit : strchr (maxToken n) '=' =
      some ("max".toList, Nat.toDigits 10 n) :=
    strchr_append "max".toList _ (by decide)
  unfold parseAttribute
  rw [hsplit]
  show (parseMax (Nat.toDigits 10 n)).map _ = _
  rw [parseMax_toDigits h]
  rfl

theorem parseAttribute_curve (b : Binding) : parseAttribute b curveToken = some b := rfl

/-- A character that stands in a line's right-hand side. -/
theorem mem_lineValue {b : Binding} {c : Char} (h : c ∈ lineValue b) : isPlain c = true ∨ c = ' ' := by
  rw [lineValue_eq] at h
  have hplain := lineTokens_plain b
  generalize lineTokens b = tokens at h hplain
  induction tokens with
  | nil => exact absurd h List.not_mem_nil
  | cons t rest ih =>
    cases rest with
    | nil => exact Or.inl ((isPlainToken_iff.mp (hplain t (by simp))).2 c (by simpa using h))
    | cons u rest =>
      rw [List.intercalate_cons_cons] at h
      rcases List.mem_append.mp h with hfront | hrest
      · rcases List.mem_append.mp hfront with ht | hsep
        · exact Or.inl ((isPlainToken_iff.mp (hplain t (by simp))).2 c ht)
        · exact Or.inr (by simpa using hsep)
      · exact ih hrest fun v hv => hplain v (by simp [hv])

/-- **A printed value is read as the binding it was printed for.** -/
theorem parseValue_lineValue {b : Binding} (hb : b.WellFormed) :
    parseValue (lineValue b) = some b.onFile := by
  have hnul : '\x00' ∉ lineValue b := fun hc => by
    rcases mem_lineValue hc with h | h <;> exact absurd h (by decide)
  have hcopy : strncpy (lineValue b) 95 = lineValue b :=
    strncpy_eq_self hnul (Nat.le_trans (lineValue_length hb) (by decide))
  have htokens : strtok isBlank (lineValue b) = lineTokens b := by
    rw [lineValue_eq]
    refine strtok_intercalate (by decide) _ fun t ht => ?_
    obtain ⟨hne, hplain⟩ := isPlainToken_iff.mp (lineTokens_plain b t ht)
    exact ⟨hne, fun c hc => isBlank_of_isPlain (hplain c hc)⟩
  unfold parseValue
  rw [hcopy, htokens]
  simp only [lineTokens, List.cons_append, List.nil_append, findToken_inputTokenName hb.input,
    Option.bind_eq_bind, Option.bind_some, List.foldlM_cons, parseAttribute_invert,
    parseAttribute_max _ hb.maxPercent, parseAttribute_curve]
  unfold Binding.onFile
  split
  · rfl
  · rw [List.foldlM_cons, parseAttribute_mode]
    rfl

/-! ### Reading a line back -/

theorem scanKey_lineKey (d : Device) (p : Port) :
    scanKey (lineKey d p) = some ((mkhDeviceAppNumber d : Int), mkhPortLetter p) := by
  revert d p; decide

theorem lineKey_facts (d : Device) (p : Port) :
    '=' ∉ lineKey d p ++ [' '] ∧ '\x00' ∉ lineKey d p ∧ (lineKey d p).head? = some 'H' ∧
      skipSpaces (lineKey d p ++ [' ']) = lineKey d p ++ [' '] ∧
      rstrip isLineEnd (lineKey d p ++ [' ']) = lineKey d p := by
  revert d p; decide

/-- The last character of a value is one the parser keeps. -/
theorem lineValue_getLast {b : Binding} {c : Char} (h : (lineValue b).getLast? = some c) :
    isLineEnd c = false := by
  have hmode : ∀ mode, ∀ c, (modeTokenName mode).getLast? = some c → isLineEnd c = false := by
    intro mode c hc
    have hmem := List.mem_of_getLast? hc
    have hplain := (isPlainToken_iff.mp (modeToken_plain mode)).2 c
      (List.mem_append_right _ hmem)
    simp only [isPlain, Bool.and_eq_true, Bool.not_eq_true'] at hplain
    exact hplain.1
  unfold lineValue at h
  split at h
  · have hlast : " curve=linear".toList.getLast? = some 'r' := by decide
    rw [List.append_nil, List.getLast?_append_of_ne_nil _ (by decide), hlast] at h
    rw [← Option.some.inj h]
    decide
  · refine hmode b.mode c ?_
    have hne : modeTokenName b.mode ≠ [] := by cases b.mode <;> decide
    rwa [List.getLast?_append_of_ne_nil _ (List.append_ne_nil_of_right_ne_nil _ hne),
      List.getLast?_append_of_ne_nil _ hne] at h

/-- The parser's copy of a printed line is the line. -/
theorem lineBody_copied (d : Device) (p : Port) {b : Binding} (hb : b.WellFormed) :
    rstrip isLineEnd (strncpy (lineBody d p b) 127) = lineBody d p b := by
  have hnul : '\x00' ∉ lineBody d p b := by
    intro hc
    rcases List.mem_append.mp hc with hfront | hvalue
    · rcases List.mem_append.mp hfront with hkey | heq
      · exact (lineKey_facts d p).2.1 hkey
      · exact absurd heq (by decide)
    · rcases mem_lineValue hvalue with h | h <;> exact absurd h (by decide)
  have hlen : (lineBody d p b).length ≤ 127 := by
    have hvalue := lineValue_length hb
    have heq : " = ".toList.length = 3 := by decide
    rw [lineBody, List.length_append, List.length_append, lineKey_length, heq]
    omega
  have hne : lineValue b ≠ [] := by
    intro hempty
    simp only [lineValue, List.append_eq_nil_iff] at hempty
    exact (isPlainToken_iff.mp (inputTokenName_plain b.input)).1 hempty.1.1.1.1.1.1
  rw [strncpy_eq_self hnul hlen]
  refine rstrip_eq_self fun c hc => lineValue_getLast (b := b) ?_
  rwa [lineBody, List.getLast?_append_of_ne_nil _ hne] at hc

theorem lineBody_no_newline (d : Device) (p : Port) {b : Binding} : '\n' ∉ lineBody d p b := by
  have hkey : '\n' ∉ lineKey d p := by revert d p; decide
  intro hc
  rcases List.mem_append.mp hc with hfront | hvalue
  · rcases List.mem_append.mp hfront with h | heq
    · exact hkey h
    · exact absurd heq (by decide)
  · rcases mem_lineValue hvalue with h | h <;> exact absurd h (by decide)

/-- What the parser cuts a printed line into. -/
theorem lineBody_split (d : Device) (p : Port) (b : Binding) :
    strchr (lineBody d p b) '=' = some (lineKey d p ++ [' '], ' ' :: lineValue b) := by
  have hbody : lineBody d p b = (lineKey d p ++ [' ']) ++ '=' :: ' ' :: lineValue b := by
    simp [lineBody]
  rw [hbody]
  exact strchr_append _ _ (lineKey_facts d p).1

/-- A value does not start with a blank. -/
theorem lineValue_skipSpaces (b : Binding) : skipSpaces (' ' :: lineValue b) = lineValue b := by
  rw [skipSpaces_blank _ (by decide)]
  obtain ⟨hne, hplain⟩ := isPlainToken_iff.mp (inputTokenName_plain b.input)
  unfold lineValue
  cases hname : inputTokenName b.input with
  | nil => exact absurd hname hne
  | cons c rest =>
    simp only [List.cons_append]
    exact skipSpaces_cons _ (isBlank_of_isPlain (hplain c (by simp [hname])))

theorem assignmentContent_lineKey (d : Device) (p : Port) {b : Binding} (hb : b.WellFormed) :
    assignmentContent (lineKey d p) (lineValue b) = .binding d p b.onFile := by
  unfold assignmentContent
  simp [scanKey_lineKey, parseValue_lineValue hb]

/-- **A printed line says the binding it was printed for.** -/
theorem lineContent_lineBody (d : Device) (p : Port) {b : Binding} (hb : b.WellFormed) :
    lineContent (lineBody d p b) = .binding d p b.onFile := by
  obtain ⟨-, -, hhead, hkeySkip, hkeyTrim⟩ := lineKey_facts d p
  have hne : lineKey d p ≠ [] := by
    intro hc
    rw [hc] at hhead
    cases hhead
  have hbodyHead : (lineBody d p b).head? = some 'H' := by
    rw [lineBody, List.append_assoc, List.head?_append_of_ne_nil _ hne, hhead]
  have htrim : skipSpaces (lineBody d p b) = lineBody d p b := by
    cases hbody : lineBody d p b with
    | nil => rfl
    | cons c rest =>
      rw [hbody] at hbodyHead
      have hc : c = 'H' := by simpa using hbodyHead
      exact skipSpaces_cons rest (by rw [hc]; decide)
  have hline : ¬ (lineBody d p b = [] ∨ (lineBody d p b).head? = some '#') := by
    rw [hbodyHead]
    rintro (hempty | hcomment)
    · rw [hempty] at hbodyHead
      cases hbodyHead
    · exact absurd hcomment (by decide)
  unfold lineContent
  rw [lineBody_copied d p hb]
  dsimp only
  rw [htrim, if_neg hline, lineBody_split]
  show assignmentContent (rstrip isLineEnd (skipSpaces (lineKey d p ++ [' '])))
    (skipSpaces (' ' :: lineValue b)) = _
  rw [hkeySkip, hkeyTrim, lineValue_skipSpaces]
  exact assignmentContent_lineKey d p hb

/-- A printed line appends its binding, when the port has room for it. -/
theorem mkhConfigParseLine_lineBody (cfg : MkhConfig) (d : Device) (p : Port) {b : Binding}
    (hb : b.WellFormed) (hroom : (cfg.table d p).bindings.length < mkhMaxBindingsPerPort) :
    mkhConfigParseLine cfg (lineBody d p b) = appendBinding cfg d p b.onFile hroom := by
  rw [mkhConfigParseLine_eq, lineContent_lineBody d p hb]
  exact takeBinding_room b.onFile hroom

/-! ### The whole table -/

/-- The bindings a list of entries gives a port, in order. -/
def bindingsAt (entries : List (Device × Port × Binding)) (d : Device) (p : Port) : List Binding :=
  entries.filterMap fun entry => if entry.1 = d ∧ entry.2.1 = p then some entry.2.2 else none

theorem parseLines_cons (cfg : MkhConfig) (line : List Char) (rest : List (List Char)) :
    parseLines cfg (line :: rest) = parseLines (mkhConfigParseLine cfg line) rest := rfl

theorem parseLines_append (cfg : MkhConfig) (front back : List (List Char)) :
    parseLines cfg (front ++ back) = parseLines (parseLines cfg front) back :=
  List.foldl_append ..

/-- Reading printed lines appends their bindings port by port, and skips nothing. -/
theorem parseLines_entries :
    ∀ (entries : List (Device × Port × Binding)) (cfg : MkhConfig),
      (∀ entry ∈ entries, entry.2.2.WellFormed) →
      (∀ d p, (cfg.table d p).bindings.length + (bindingsAt entries d p).length
        ≤ mkhMaxBindingsPerPort) →
      let after := parseLines cfg (entries.map fun entry => lineBody entry.1 entry.2.1 entry.2.2)
      (∀ d p, (after.table d p).bindings =
        (cfg.table d p).bindings ++ (bindingsAt entries d p).map Binding.onFile) ∧
      after.skippedLines = cfg.skippedLines := by
  intro entries
  induction entries with
  | nil => exact fun cfg _ _ => ⟨fun d p => (List.append_nil _).symm, rfl⟩
  | cons entry rest ih =>
    obtain ⟨d₀, p₀, b⟩ := entry
    intro cfg hwf hroom
    have hadd : ∀ d p, bindingsAt ((d₀, p₀, b) :: rest) d p =
        (if d₀ = d ∧ p₀ = p then [b] else []) ++ bindingsAt rest d p := by
      intro d p
      unfold bindingsAt
      rw [List.filterMap_cons]
      split <;> rename_i h <;> split at h <;> rename_i hc <;> simp_all
    have hfirst : (cfg.table d₀ p₀).bindings.length < mkhMaxBindingsPerPort := by
      have := hroom d₀ p₀
      rw [hadd, if_pos ⟨rfl, rfl⟩, List.length_append, List.length_singleton] at this
      omega
    have hport : ∀ d p, ((appendBinding cfg d₀ p₀ b.onFile hfirst).table d p).bindings =
        (cfg.table d p).bindings ++ (if d₀ = d ∧ p₀ = p then [b] else []).map Binding.onFile := by
      intro d p
      rw [appendBinding, MkhConfig.setPort_apply]
      by_cases hc : d = d₀ ∧ p = p₀
      · obtain ⟨rfl, rfl⟩ := hc
        simp
      · have hc' : ¬ (d₀ = d ∧ p₀ = p) := fun h => hc ⟨h.1.symm, h.2.symm⟩
        simp [hc, hc']
    obtain ⟨hbindings, hskipped⟩ := ih (appendBinding cfg d₀ p₀ b.onFile hfirst)
      (fun entry he => hwf entry (by simp [he])) (by
        intro d p
        have := hroom d p
        rw [hadd, List.length_append] at this
        rw [hport, List.length_append, List.length_map]
        omega)
    have hparse := mkhConfigParseLine_lineBody cfg d₀ p₀ (hwf (d₀, p₀, b) (by simp)) hfirst
    rw [List.map_cons, parseLines_cons, hparse]
    refine ⟨fun d p => ?_, hskipped⟩
    rw [hbindings, hport, hadd, List.map_append, List.append_assoc]

/-- Of pieces laid end to end, all but one of them empty, that one is left. -/
private theorem flatMap_single {α β : Type} [DecidableEq α] {l : List α} {a : α} (f : α → List β)
    (hnodup : l.Nodup) (ha : a ∈ l) : (l.flatMap fun x => if x = a then f x else []) = f a := by
  induction l with
  | nil => exact absurd ha List.not_mem_nil
  | cons x rest ih =>
    obtain ⟨hx, hrest⟩ := List.nodup_cons.mp hnodup
    rw [List.flatMap_cons]
    rcases List.mem_cons.mp ha with heq | hmem
    · rw [if_pos heq.symm, List.flatMap_eq_nil_iff.mpr, List.append_nil, heq]
      exact fun y hy => if_neg fun hc : y = a => hx (heq ▸ hc ▸ hy)
    · rw [if_neg (fun hc : x = a => hx (hc ▸ hmem)), List.nil_append, ih hrest hmem]

/-- The serializer's entries give every port its own list. -/
theorem bindingsAt_tableEntries (table : Table) (d : Device) (p : Port) :
    bindingsAt (tableEntries table) d p = (table d p).bindings := by
  have hport : ∀ d' p', bindingsAt ((table d' p').bindings.map fun b => (d', p', b)) d p =
      if d' = d then (if p' = p then (table d' p').bindings else []) else [] := by
    intro d' p'
    by_cases hd : d' = d <;> by_cases hp : p' = p <;> simp [bindingsAt, hd, hp]
  have hdevice : ∀ d', (Port.all.flatMap fun p' =>
      bindingsAt ((table d' p').bindings.map fun b => (d', p', b)) d p) =
      if d' = d then (table d' p).bindings else [] := by
    intro d'
    simp only [hport]
    by_cases hd : d' = d
    · simp only [if_pos hd]
      exact flatMap_single (fun p' => (table d' p').bindings) (List.nodup_finRange _) (by simp)
    · simp [hd]
  have hflat : bindingsAt (tableEntries table) d p = Device.all.flatMap fun d' =>
      Port.all.flatMap fun p' =>
        bindingsAt ((table d' p').bindings.map fun b => (d', p', b)) d p := by
    simp only [bindingsAt, tableEntries, List.filterMap_flatMap]
  rw [hflat]
  simp only [hdevice]
  exact flatMap_single (fun d' => (table d' p).bindings) (List.nodup_finRange _) (by simp)

theorem mem_tableEntries {table : Table} {d : Device} {p : Port} {b : Binding} :
    (d, p, b) ∈ tableEntries table ↔ b ∈ (table d p).bindings := by
  simp [tableEntries]

/-- Every binding of the table is one a line can stand for. -/
def TableWellFormed (table : Table) : Prop :=
  ∀ d p, ∀ b ∈ (table d p).bindings, b.WellFormed

instance (table : Table) : Decidable (TableWellFormed table) :=
  inferInstanceAs (Decidable (∀ d p, ∀ b ∈ (table d p).bindings, b.WellFormed))

/-- The lines of a table, in the order they are written. -/
def tableLines (table : Table) : List (List Char) :=
  (tableEntries table).map fun entry => lineBody entry.1 entry.2.1 entry.2.2

/-- **Reading back what was written** rebuilds every port's list on a blank table, and skips
nothing. -/
theorem parseLines_tableLines {table : Table} (hwf : TableWellFormed table) (cfg : MkhConfig) :
    let after := parseLines (mkhConfigSetDefaults cfg) (tableLines table)
    (∀ d p, (after.table d p).bindings = (table d p).bindings.map Binding.onFile) ∧
      after.skippedLines = 0 := by
  have hread := parseLines_entries (tableEntries table) (mkhConfigSetDefaults cfg)
    (fun entry he => hwf _ _ _ (mem_tableEntries.mp he)) (by
      intro d p
      rw [bindingsAt_tableEntries]
      show 0 + _ ≤ _
      rw [Nat.zero_add]
      exact (table d p).count_le)
  refine ⟨fun d p => ?_, hread.2⟩
  rw [tableLines, hread.1, bindingsAt_tableEntries]
  rfl

/-! ### The serializer's buffer -/

/-- The text of a table, all lines of it. -/
def tableText (table : Table) : List Char :=
  (tableEntries table).flatMap fun entry => bindingLine entry.1 entry.2.1 entry.2.2

theorem tableText_eq (table : Table) :
    tableText table = (tableLines table).flatMap (· ++ ['\n']) := by
  simp [tableText, tableLines, bindingLine_eq, List.flatMap_map]

/-- A text of so many lines is at most so long. -/
theorem tableText_length_le {table : Table} (hwf : TableWellFormed table) :
    (tableText table).length ≤ 68 * (tableEntries table).length := by
  rw [Nat.mul_comm]
  exact length_flatMap_le 68 fun entry he =>
    bindingLine_length _ _ (hwf _ _ _ (mem_tableEntries.mp he))

/-- From a buffer that is not full, the rest of the lines is written whole or not at all. -/
private theorem foldlM_serializeEntry (bufSize : Nat) :
    ∀ (entries : List (Device × Port × Binding)) (used : List Char), used.length < bufSize →
      entries.foldlM (serializeEntry bufSize) used =
        let text := used ++ entries.flatMap fun entry => bindingLine entry.1 entry.2.1 entry.2.2
        if text.length < bufSize then some text else none := by
  intro entries
  induction entries with
  | nil =>
    intro used hused
    simp [hused]
  | cons entry rest ih =>
    intro used hused
    rw [List.foldlM_cons, List.flatMap_cons, ← List.append_assoc]
    unfold serializeEntry
    by_cases hfit : (bindingLine entry.1 entry.2.1 entry.2.2).length ≥ bufSize - used.length
    · have hlong : ¬ (used ++ bindingLine entry.1 entry.2.1 entry.2.2 ++ rest.flatMap fun entry =>
          bindingLine entry.1 entry.2.1 entry.2.2).length < bufSize := by
        simp only [List.length_append]
        omega
      simp only [if_pos hfit, if_neg hlong]
      rfl
    · simp only [if_neg hfit]
      show (rest.foldlM (serializeEntry bufSize) _) = _
      rw [ih]
      rw [List.length_append]
      omega

/-- **The serializer writes the whole text, or fails exactly when the text does not fit.** -/
theorem mkhConfigSerialize_eq (table : Table) {bufSize : Nat} (hbuf : 0 < bufSize) :
    mkhConfigSerialize table bufSize =
      if (tableText table).length < bufSize then some (tableText table) else none :=
  foldlM_serializeEntry bufSize (tableEntries table) [] hbuf

/-- What the serializer returns is the whole text, whatever the buffer. -/
theorem tableText_of_serialize {table : Table} {bufSize : Nat} {text : List Char}
    (h : mkhConfigSerialize table bufSize = some text) : text = tableText table := by
  rcases Nat.eq_zero_or_pos bufSize with rfl | hbuf
  · -- With no room at all only a table without a line is written.
    unfold mkhConfigSerialize at h
    unfold tableText
    cases hentries : tableEntries table with
    | nil =>
      rw [hentries] at h
      exact (Option.some.inj h).symm
    | cons entry rest =>
      rw [hentries, List.foldlM_cons] at h
      simp [serializeEntry] at h
  · rw [mkhConfigSerialize_eq table hbuf] at h
    split at h
    · exact (Option.some.inj h).symm
    · cases h

theorem fileLines_tableText (table : Table) : fileLines (tableText table) = tableLines table := by
  have hlines : ∀ line ∈ tableLines table, '\n' ∉ line := by
    intro line hline
    obtain ⟨⟨d, p, b⟩, -, rfl⟩ := List.mem_map.mp hline
    exact lineBody_no_newline d p
  rw [tableText_eq, fileLines_flatMap _ hlines]

theorem onFile_eq (b : Binding) :
    b.onFile = if mkhConfigInputClass b.input = .axis then { b with mode := .proportional }
      else b := by
  unfold Binding.onFile
  split
  · rename_i haxis
    rw [defaultModeForInput, haxis, if_neg (by decide)]
  · rfl

/-- **The round trip.**  What the serializer writes, read line by line on a blank table, gives every
port its own list back, in order and with nothing skipped; only the mode of a stick axis is not kept. -/
theorem parseLines_serialize {table : Table} (hwf : TableWellFormed table) {bufSize : Nat}
    {text : List Char} (h : mkhConfigSerialize table bufSize = some text) (cfg : MkhConfig) :
    let after := parseLines (mkhConfigSetDefaults cfg) (fileLines text)
    (∀ d p, (after.table d p).bindings = (table d p).bindings.map fun b =>
      if mkhConfigInputClass b.input = .axis then { b with mode := .proportional } else b) ∧
    after.skippedLines = 0 := by
  obtain rfl := tableText_of_serialize h
  obtain ⟨hbindings, hskipped⟩ := parseLines_tableLines hwf cfg
  rw [fileLines_tableText]
  refine ⟨fun d p => ?_, hskipped⟩
  rw [hbindings d p]
  exact List.map_congr_left fun b _ => onFile_eq b

/-- Two bindings of one port: a stick whose mode the file drops, and a latched button. -/
def stickAndLatch : PortConfig where
  bindings := [⟨.rsew, true, 40, .thl⟩, ⟨.btnB, false, 0, .latched⟩]
  fromFile := false
  count_le := by decide

theorem parseLines_serialize_stick :
    let after := parseLines (mkhConfigSetDefaults ⟨fun _ _ => stickAndLatch, false, 0⟩)
      (fileLines (tableText fun _ _ => stickAndLatch))
    (after.table 2 5).bindings = [⟨.rsew, true, 40, .proportional⟩, ⟨.btnB, false, 0, .latched⟩] ∧
      after.skippedLines = 0 := by
  have hwf : TableWellFormed fun _ _ => stickAndLatch := by decide
  have hfits : mkhConfigSerialize (fun _ _ => stickAndLatch) 4096 =
      some (tableText fun _ _ => stickAndLatch) := by
    have hlines : (tableEntries fun _ _ => stickAndLatch).length = 36 := by decide
    have hlength := tableText_length_le hwf
    rw [mkhConfigSerialize_eq _ (by decide), if_pos (by omega)]
  obtain ⟨hbindings, hskipped⟩ :=
    parseLines_serialize hwf hfits ⟨fun _ _ => stickAndLatch, false, 0⟩
  exact ⟨(hbindings 2 5).trans (by decide), hskipped⟩

end MK1Tank
