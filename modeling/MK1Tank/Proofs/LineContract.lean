/-
What the document says of a line, and what the parser makes of it.

On a line that fits the buffers the parser keeps to the document exactly when the line,
if the scanners take it at all, is plainly put: its key has the eleven characters of the
documented one, and its caps start with a digit.
-/
import MK1Tank.Proofs.LineGrammar
import MK1Tank.Proofs.Storage

namespace MK1Tank

open CString

/-! ### Lines that fit -/

/-- Nothing of a value that fits is cut. -/
theorem lineSays_uncut {g : Grammar} {lineRoom valueRoom : Nat} {line : List Char}
    (hkey : ∀ {key d p}, g.key key d p → ∃ c rest, key = c :: rest ∧ isBlank c = false)
    (hline : line.length ≤ lineRoom) (hvalue : (valuePart line).length ≤ valueRoom) {d : Device}
    {p : Port} {b : Binding} :
    LineSays g (fun value => (skipSpaces value).take valueRoom) (line.take lineRoom) d p b ↔
      LineSays g id line d p b := by
  rw [List.take_of_length_le hline]
  have hwords : ∀ {lead key gap value trail}, Spelled line lead key gap value trail → g.key key d p →
      strtok isBlank ((skipSpaces value).take valueRoom) = strtok isBlank (id value) := by
    intro lead key gap value trail hspelled hmeant
    obtain ⟨-, hpart⟩ := hspelled.parts (hkey hmeant)
    rw [List.take_of_length_le (by rw [← hpart]; exact hvalue), strtok_skipSpaces]
    rfl
  constructor
  · rintro ⟨lead, key, gap, value, trail, hspelled, hmeant, hvalue⟩
    rw [hwords hspelled hmeant] at hvalue
    exact ⟨lead, key, gap, value, trail, hspelled, hmeant, hvalue⟩
  · rintro ⟨lead, key, gap, value, trail, hspelled, hmeant, hvalue⟩
    rw [← hwords hspelled hmeant] at hvalue
    exact ⟨lead, key, gap, value, trail, hspelled, hmeant, hvalue⟩

/-- A line of text that the parser's buffers hold. -/
structure ShortLine (line : List Char) : Prop where
  text : '\x00' ∉ line
  line_le : line.length ≤ 127
  value_le : (valuePart line).length ≤ 95

theorem ShortLine.content {line : List Char} (h : ShortLine line) {d : Device} {p : Port}
    {b : Binding} : lineContent line = .binding d p b ↔ LineSays scanned id line d p b := by
  rw [lineContent_eq_in, lineContentIn_binding h.text]
  exact lineSays_uncut scanned_key_first h.line_le h.value_le

/-! ### The document's lines are the scanners' -/

section Readings

variable {g g' : Grammar} {line text : List Char} {d : Device} {p : Port} {b : Binding}

theorem documented_key_scanned (h : documented.key text d p) : scanned.key text d p := by
  obtain ⟨letter, hletter, rfl⟩ := h
  have hnumeral : Numeral (Nat.toDigits 10 (mkhDeviceAppNumber d)) (mkhDeviceAppNumber d : Nat) := by
    have hplain : Numeral ([] ++ Nat.toDigits 10 (mkhDeviceAppNumber d))
        (digitsValue (Nat.toDigits 10 (mkhDeviceAppNumber d))) :=
      .plain (by simp) Nat.toDigits_ne_nil fun c hc =>
        Nat.isDigit_of_mem_toDigits (by decide) (by decide) hc
    rwa [digitsValue_toDigits] at hplain
  exact ⟨_, letter, [], hnumeral, hletter, rfl⟩

theorem documented_max_scanned {n : Nat} (h : documented.max text n) : scanned.max text n := by
  obtain ⟨hne, hdigits, rfl, hle⟩ := h
  have hspaces : ∀ c ∈ ([] : List Char), isSpace c = true := by simp
  exact ⟨.plain hspaces hne hdigits, hle⟩

theorem Attribute.mono {word : List Char} {change : Binding → Binding} (h : Attribute g word change)
    (hmax : ∀ {key value n}, word = key ++ '=' :: value → strcasecmp key "max".toList = true →
      g.max value n → g'.max value n) : Attribute g' word change := by
  cases h with
  | invert hkey hvalue => exact .invert hkey hvalue
  | max hkey hvalue => exact .max hkey (hmax rfl hkey hvalue)
  | curve hkey => exact .curve hkey
  | mode hkey hvalue => exact .mode hkey hvalue

/-- Another reading of the caps that the words have. -/
theorem WordsSay.mono {words : List (List Char)} (h : WordsSay g words b)
    (hmax : ∀ {key value n}, key ++ '=' :: value ∈ words → strcasecmp key "max".toList = true →
      g.max value n → g'.max value n) : WordsSay g' words b := by
  obtain ⟨name, input, attributes, changes, rfl, hreal, hname, hchanges, rfl⟩ := h
  refine ⟨name, input, attributes, changes, rfl, hreal, hname, ?_, rfl⟩
  have hattributes : ∀ word ∈ attributes, ∀ change, Attribute g word change →
      Attribute g' word change := by
    intro word hmem change hattribute
    refine hattribute.mono fun hword => hmax ?_
    rw [← hword]
    exact List.mem_cons_of_mem name hmem
  clear hmax
  induction hchanges with
  | nil => exact .nil
  | cons hword _ ih =>
    exact .cons (hattributes _ List.mem_cons_self _ hword)
      (ih fun word hmem => hattributes word (List.mem_cons_of_mem _ hmem))

theorem documented_scanned {kept : List Char → List Char} (h : LineSays documented kept line d p b) :
    LineSays scanned kept line d p b := by
  obtain ⟨lead, key, gap, value, trail, hspelled, hkey, hwords⟩ := h
  exact ⟨lead, key, gap, value, trail, hspelled, documented_key_scanned hkey,
    hwords.mono fun _ _ hmax => documented_max_scanned hmax⟩

/-! ### Plainly put -/

/-- A key as long as the documented one, and caps that start with a digit. -/
structure PlainlyPut (line : List Char) : Prop where
  key : (keyPart line).length = 11
  max : ∀ key value, key ++ '=' :: value ∈ strtok isBlank (valuePart line) →
    strcasecmp key "max".toList = true → ∀ c, value.head? = some c → c.isDigit = true

/-- The numerals of one character are digits. -/
theorem numeral_single {number : List Char} {v : Int} (h : Numeral number v) :
    1 ≤ number.length ∧ (number.length = 1 → ∃ c, number = [c] ∧ c.isDigit = true ∧
      v = ((c.toNat - 48 : Nat) : Int)) := by
  have hpos : ∀ {digits : List Char}, digits ≠ [] → 1 ≤ digits.length := fun hne =>
    List.length_pos_iff.mpr hne
  cases h with
  | @plain spaces digits hspaces hne hdigits =>
    have hlength := hpos hne
    refine ⟨by rw [List.length_append]; omega, fun hone => ?_⟩
    rw [List.length_append] at hone
    obtain rfl : spaces = [] := List.length_eq_zero_iff.mp (by omega)
    obtain ⟨c, rfl⟩ := List.length_eq_one_iff.mp (show digits.length = 1 by omega)
    refine ⟨c, rfl, hdigits c (by simp), ?_⟩
    simp [digitsValue]
  | @plus spaces digits hspaces hne hdigits | @minus spaces digits hspaces hne hdigits =>
    have hlength := hpos hne
    rw [List.length_append, List.length_cons]
    refine ⟨by omega, fun hone => ?_⟩
    omega

/-- A numeral that starts with a digit is digits. -/
theorem numeral_digits {value : List Char} {v : Int} (h : Numeral value v)
    (hfirst : ∀ c, value.head? = some c → c.isDigit = true) :
    value ≠ [] ∧ (∀ c ∈ value, c.isDigit = true) ∧ v = digitsValue value := by
  have hnoSpaces : ∀ {spaces rest : List Char}, (∀ c ∈ spaces, isSpace c = true) →
      (∀ c, (spaces ++ rest).head? = some c → c.isDigit = true) → spaces = [] := by
    intro spaces rest hspaces hfirst
    cases spaces with
    | nil => rfl
    | cons c spaces =>
      have hdigit := isDigit_not_isSpace (hfirst c rfl)
      exact absurd (hdigit.symm.trans (hspaces c List.mem_cons_self)) Bool.false_ne_true
  cases h with
  | @plain spaces digits hspaces hne hdigits =>
    obtain rfl := hnoSpaces hspaces hfirst
    exact ⟨hne, hdigits, rfl⟩
  | @plus spaces digits hspaces hne hdigits =>
    obtain rfl := hnoSpaces hspaces hfirst
    exact absurd (hfirst '+' rfl) (by decide)
  | @minus spaces digits hspaces hne hdigits =>
    obtain rfl := hnoSpaces hspaces hfirst
    exact absurd (hfirst '-' rfl) (by decide)

/-- **A line of the scanners that is plainly put is the document's.** -/
theorem scanned_documented (h : LineSays scanned id line d p b) (hplain : PlainlyPut line) :
    LineSays documented id line d p b := by
  obtain ⟨lead, key, gap, value, trail, hspelled, hkey, hwords⟩ := h
  obtain ⟨hkeyPart, hvaluePart⟩ := hspelled.parts (scanned_key_first hkey)
  refine ⟨lead, key, gap, value, trail, hspelled, ?_, ?_⟩
  · have hlength := hplain.key
    rw [hkeyPart] at hlength
    obtain ⟨number, letter, rest, hnumeral, hletter, rfl⟩ := hkey
    obtain ⟨hpos, hsingle⟩ := numeral_single hnumeral
    have hfour : "HUB".toList.length = 3 ∧ "_PORT_".toList.length = 6 := by decide
    rw [List.length_append, List.length_append, List.length_append, List.length_cons, hfour.1,
      hfour.2] at hlength
    obtain rfl : rest = [] := List.length_eq_zero_iff.mp (by omega)
    obtain ⟨c, rfl, hdigit, hvalue⟩ := hsingle (by omega)
    refine ⟨letter, hletter, ?_⟩
    have hdigits : [c] = Nat.toDigits 10 (mkhDeviceAppNumber d) := by
      have hsmall : mkhDeviceAppNumber d < 10 := by
        have hd : d.val < 3 := d.isLt
        unfold mkhDeviceAppNumber
        omega
      have hlow : 48 ≤ c.toNat := (Char.isDigit_iff_toNat.mp hdigit).1
      rw [Nat.toDigits_of_lt_base hsmall, List.singleton_inj]
      refine Char.toNat_inj.mp ?_
      rw [Nat.toNat_digitChar_of_lt_ten hsmall]
      omega
    rw [hdigits]
  · refine hwords.mono fun {key value n} hmem hmax hnumeral => ?_
    rw [id_eq, ← strtok_skipSpaces, ← hvaluePart] at hmem
    obtain ⟨hnumeral, hle⟩ := hnumeral
    obtain ⟨hne, hdigits, hvalue⟩ := numeral_digits hnumeral (hplain.max key value hmem hmax)
    exact ⟨hne, hdigits, by omega, hle⟩

/-- **The document's lines are plainly put.** -/
theorem documented_plainlyPut (h : LineSays documented id line d p b) : PlainlyPut line := by
  obtain ⟨lead, key, gap, value, trail, hspelled, hkey, hwords⟩ := h
  obtain ⟨hkeyPart, hvaluePart⟩ := hspelled.parts (scanned_key_first (documented_key_scanned hkey))
  constructor
  · obtain ⟨letter, -, rfl⟩ := hkey
    have hdigits : ∀ d : Device, (Nat.toDigits 10 (mkhDeviceAppNumber d)).length = 1 := by decide
    have hfour : "HUB".toList.length = 3 ∧ "_PORT_".toList.length = 6 := by decide
    rw [hkeyPart, List.length_append, List.length_append, List.length_append, List.length_singleton,
      hfour.1, hfour.2, hdigits d]
  · intro maxKey maxValue hmem hmax c hc
    rw [hvaluePart, strtok_skipSpaces] at hmem
    obtain ⟨name, input, attributes, changes, hsplit, -, hname, hchanges, -⟩ := hwords
    rw [id_eq] at hsplit
    rw [hsplit] at hmem
    rcases List.mem_cons.mp hmem with rfl | hmem
    · -- A token of an input has no `=` in it.
      have htokens : ∀ input, '=' ∉ (inputTokenName input).map Char.toLower := fun input => by
        cases input <;> decide
      have hnot : '=' ∉ maxKey ++ '=' :: maxValue :=
        strcasecmp_not_mem hname (htokens input) (by decide)
      exact absurd (by simp) hnot
    · obtain ⟨i, hi, hword⟩ := List.mem_iff_getElem.mp hmem
      have hi' : i < changes.length := hchanges.length_eq ▸ hi
      have hattribute : Attribute documented attributes[i] changes[i] := hchanges.get hi hi'
      rw [hword] at hattribute
      generalize changes[i] = change at hattribute
      generalize hspell : maxKey ++ '=' :: maxValue = word at hattribute
      have hsame : ∀ {key value name : List Char}, strcasecmp key name = true →
          '=' ∉ name.map Char.toLower → maxKey ++ '=' :: maxValue = key ++ '=' :: value →
          key = maxKey ∧ value = maxValue := by
        intro key value name hkey hname heq
        have hcut := attributeKey_cut value hkey hname
        rw [← heq, attributeKey_cut maxValue hmax (by decide)] at hcut
        obtain ⟨rfl, rfl⟩ := Prod.mk.inj (Option.some.inj hcut)
        exact ⟨rfl, rfl⟩
      have hother : ∀ {key name : List Char}, strcasecmp key name = true → key = maxKey →
          strcasecmp "max".toList name = true := by
        rintro key name hkey rfl
        exact (strcasecmp_trans_right hmax name).symm.trans hkey
      cases hattribute with
      | invert hkey =>
        exact absurd (hother hkey (hsame hkey (by decide) hspell).1) (by decide)
      | curve hkey =>
        exact absurd (hother hkey (hsame hkey (by decide) hspell).1) (by decide)
      | mode hkey =>
        exact absurd (hother hkey (hsame hkey (by decide) hspell).1) (by decide)
      | max hkey hvalue =>
        obtain ⟨-, rfl⟩ := hsame hkey (by decide) hspell
        exact hvalue.2.1 c (List.mem_of_mem_head? hc)

end Readings

/-! ### Following the document -/

/-- Blank, or a comment. -/
def Ignorable (line : List Char) : Prop :=
  (∀ c ∈ line, isLineEnd c = true) ∨
    ∃ lead rest, line = lead ++ '#' :: rest ∧ ∀ c ∈ lead, isBlank c = true

theorem skipSpaces_rstrip_nil {line : List Char} :
    skipSpaces (rstrip isLineEnd line) = [] ↔ ∀ c ∈ line, isLineEnd c = true := by
  constructor
  · intro h c hc
    have hblank : ∀ c ∈ rstrip isLineEnd line, isBlank c = true := List.dropWhile_eq_nil_iff.mp h
    obtain ⟨trail, hsplit, htrail⟩ := rstrip_split isLineEnd line
    rw [hsplit] at hc
    rcases List.mem_append.mp hc with hfront | hback
    · exact isLineEnd_of_isBlank (hblank c hfront)
    · exact htrail c hback
  · intro h
    rw [rstrip, List.rdropWhile_eq_nil_iff.mpr h]
    rfl

theorem skipSpaces_rstrip_comment {line : List Char} :
    (skipSpaces (rstrip isLineEnd line)).head? = some '#' ↔
      ∃ lead rest, line = lead ++ '#' :: rest ∧ ∀ c ∈ lead, isBlank c = true := by
  obtain ⟨trail, hsplit, htrail⟩ := rstrip_split isLineEnd line
  constructor
  · intro h
    obtain ⟨rest, hrest⟩ := List.head?_eq_some_iff.mp h
    have hline : rstrip isLineEnd line =
        (rstrip isLineEnd line).takeWhile isBlank ++ skipSpaces (rstrip isLineEnd line) := by
      simp [skipSpaces]
    refine ⟨(rstrip isLineEnd line).takeWhile isBlank, rest ++ trail, ?_,
      fun c hc => List.mem_takeWhile_imp hc⟩
    calc
      line = rstrip isLineEnd line ++ trail := hsplit
      _ = ((rstrip isLineEnd line).takeWhile isBlank ++ '#' :: rest) ++ trail := by
        rw [← hrest, ← hline]
      _ = _ := by simp only [List.append_assoc, List.cons_append]
  · rintro ⟨lead, rest, rfl, hlead⟩
    have hstrip : rstrip isLineEnd (lead ++ '#' :: rest) = lead ++ '#' :: rstrip isLineEnd rest := by
      obtain ⟨tail, hrest, htail⟩ := rstrip_split isLineEnd rest
      have hline : lead ++ '#' :: rest = (lead ++ '#' :: rstrip isLineEnd rest) ++ tail := by
        simp only [List.append_assoc, List.cons_append, ← hrest]
      rw [hline]
      refine rstrip_append (trimmed_append ?_ (by simp)) htail
      intro c hc
      cases hstripped : rstrip isLineEnd rest with
      | nil =>
        rw [hstripped] at hc
        obtain rfl : '#' = c := by simpa using hc
        decide
      | cons first more =>
        rw [hstripped, List.getLast?_cons_cons, ← hstripped] at hc
        exact rstrip_trimmed isLineEnd rest c hc
    have hhash : ∀ c, ('#' :: rstrip isLineEnd rest).head? = some c → isBlank c = false := by
      intro c hc
      obtain rfl : '#' = c := by simpa using hc
      decide
    rw [hstrip, skipSpaces_append hlead hhash]
    rfl

/-- A line with an `=` is not ignored. -/
theorem assignmentContent_ne_ignored (key value : List Char) :
    assignmentContent key value ≠ .ignored := by
  intro h
  unfold assignmentContent at h
  rcases hkey : scanKey key with _ | ⟨hubNum, letter⟩
  · simp [hkey] at h
  rcases hdevice : mkhDeviceProtocolIndex hubNum with _ | d
  · simp [hkey, hdevice] at h
  rcases hport : mkhPortFromLetter letter with _ | p
  · simp [hkey, hdevice, hport] at h
  rcases hvalue : parseValue value with _ | b
  · simp [hkey, hvalue] at h
  · simp [hkey, hdevice, hport, hvalue] at h

theorem ShortLine.ignored {line : List Char} (h : ShortLine line) :
    lineContent line = .ignored ↔ Ignorable line := by
  have hcopy : strncpy line 127 = line := by
    rw [strncpy_eq_take h.text, List.take_of_length_le h.line_le]
  unfold Ignorable
  rw [← skipSpaces_rstrip_nil, ← skipSpaces_rstrip_comment]
  unfold lineContent
  rw [hcopy]
  simp only
  constructor
  · intro hcontent
    by_contra hnot
    rw [if_neg hnot] at hcontent
    split at hcontent
    · cases hcontent
    · exact assignmentContent_ne_ignored _ _ hcontent
  · exact fun hignorable => if_pos hignorable

/-- The parser does with a line what the document says. -/
structure FollowsDocument (cfg : MkhConfig) (line : List Char) : Prop where
  appends : ∀ d p b, LineSays documented id line d p b → ∃ hroom,
    mkhConfigParseLine cfg line = appendBinding cfg d p b hroom
  ignores : Ignorable line → mkhConfigParseLine cfg line = cfg
  skips : ¬ Ignorable line → (¬ ∃ d p b, LineSays documented id line d p b) →
    mkhConfigParseLine cfg line = skipLine cfg

theorem appendBinding_ne_skipLine {cfg : MkhConfig} {d : Device} {p : Port} {b : Binding}
    (hroom : (cfg.table d p).bindings.length < mkhMaxBindingsPerPort) :
    (appendBinding cfg d p b hroom).table ≠ cfg.table := by
  intro heq
  have hlist := congrArg (fun table : Table => (table d p).bindings.length) heq
  unfold appendBinding at hlist
  simp [MkhConfig.setPort_apply] at hlist

/-- **On a line that fits, the parser follows the document exactly when the line is plainly put, if the
scanners take it at all.** -/
theorem parse_line_documented_iff (cfg : MkhConfig) (line : List Char) (hshort : ShortLine line)
    (hroom : ∀ d p b, LineSays scanned id line d p b →
      (cfg.table d p).bindings.length < mkhMaxBindingsPerPort) :
    FollowsDocument cfg line ↔ ((∃ d p b, LineSays scanned id line d p b) → PlainlyPut line) := by
  constructor
  · rintro hfollows ⟨d, p, b, hmeant⟩
    by_contra hnot
    have hnone : ¬ ∃ d p b, LineSays documented id line d p b := fun ⟨d, p, b, hdocumented⟩ =>
      hnot (documented_plainlyPut hdocumented)
    have hcontent := hshort.content.mpr hmeant
    have hignorable : ¬ Ignorable line := fun hignorable => by
      rw [hshort.ignored.mpr hignorable] at hcontent
      cases hcontent
    have hskipped := hfollows.skips hignorable hnone
    rw [mkhConfigParseLine_eq, hcontent] at hskipped
    have htaken : takeBinding cfg d p b = skipLine cfg := hskipped
    rw [takeBinding_room b (hroom d p b hmeant)] at htaken
    have htable := congrArg MkhConfig.table htaken
    exact appendBinding_ne_skipLine (hroom d p b hmeant) htable
  · intro hplain
    refine ⟨?_, ?_, ?_⟩
    · intro d p b hdocumented
      have hmeant := documented_scanned hdocumented
      refine ⟨hroom d p b hmeant, ?_⟩
      rw [mkhConfigParseLine_eq, hshort.content.mpr hmeant]
      exact takeBinding_room b (hroom d p b hmeant)
    · intro hignorable
      rw [mkhConfigParseLine_eq, hshort.ignored.mpr hignorable]
      rfl
    · intro hignorable hnone
      rw [mkhConfigParseLine_eq]
      cases hcontent : lineContent line with
      | ignored => exact absurd (hshort.ignored.mp hcontent) hignorable
      | malformed => rfl
      | binding d p b =>
        have hmeant := hshort.content.mp hcontent
        exact absurd ⟨d, p, b, scanned_documented hmeant (hplain ⟨d, p, b, hmeant⟩)⟩ hnone

/-- Every port has room. -/
theorem blankConfig_room (d : Device) (p : Port) :
    (blankConfig.table d p).bindings.length < mkhMaxBindingsPerPort := by
  revert d p
  decide

theorem parse_line_documented_plain :
    FollowsDocument blankConfig " HUB2_PORT_c = LSNS\r".toList :=
  (parse_line_documented_iff blankConfig " HUB2_PORT_c = LSNS\r".toList
    ⟨by decide, by decide, by decide⟩ fun d p _ _ => blankConfig_room d p).mpr fun _ =>
      ⟨by decide, fun key value hmem => absurd (show '=' ∈ key ++ '=' :: value by simp)
        ((show ∀ word ∈ strtok isBlank (valuePart " HUB2_PORT_c = LSNS\r".toList), '=' ∉ word by decide)
          _ hmem)⟩

/-- A key that goes on after its letter is taken for the key without what follows. -/
theorem parse_line_trailing_key :
    ¬ ∀ cfg line, ShortLine line → (∀ d p b, LineSays scanned id line d p b →
      (cfg.table d p).bindings.length < mkhMaxBindingsPerPort) → FollowsDocument cfg line := by
  intro hall
  have hfollows := hall blankConfig "HUB1_PORT_AB = A".toList ⟨by decide, by decide, by decide⟩
    fun d p _ _ => blankConfig_room d p
  have hnone : ¬ ∃ d p b, LineSays documented id "HUB1_PORT_AB = A".toList d p b :=
    fun ⟨_, _, _, hmeant⟩ => absurd (documented_plainlyPut hmeant).key (by decide)
  have hshort : ShortLine "HUB1_PORT_AB = A".toList := ⟨by decide, by decide, by decide⟩
  have hignorable : ¬ Ignorable "HUB1_PORT_AB = A".toList := fun h =>
    LineContent.noConfusion ((hshort.ignored.mpr h).symm.trans
      (show lineContent "HUB1_PORT_AB = A".toList = .binding 0 mkhPortA
        (defaultBinding .btnA) by rfl))
  have hskipped := congrArg MkhConfig.skippedLines (hfollows.skips hignorable hnone)
  exact absurd hskipped (by decide)

end MK1Tank
