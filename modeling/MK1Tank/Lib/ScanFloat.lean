/-
`strtof`, and the numerals that it reads whole.

White space, a sign, and then the longest beginning that is an infinity, a NaN, a
hexadecimal or a decimal number; what follows is handed back, and a text that does not
begin with any of them is not a number.  A decimal numeral is one kind of text among
those: the function reads it whole and gives the `float` nearest to what it writes.
-/
import MK1Tank.Lib.Binary32
import MK1Tank.Lib.ScanGrammar

namespace CString

/-! ### The function -/

def isHexDigit (c : Char) : Bool :=
  c.isDigit || (decide ('a' ≤ c.toLower) && decide (c.toLower ≤ 'f'))

/-- The value of a run of hexadecimal digits. -/
def hexDigitsValue (digits : List Char) : Nat :=
  digits.foldl (fun value c =>
    16 * value + if c.isDigit then c.toNat - '0'.toNat else c.toLower.toNat - 'a'.toNat + 10) 0

/-- The digits after a point, when there is one. -/
def scanFraction (digit : Char → Bool) : List Char → List Char × List Char
  | '.' :: rest => (rest.takeWhile digit, rest.dropWhile digit)
  | rest => ([], rest)

/-- Digits with at most one point among them: those before it, those after it, and what follows. -/
def scanMantissa (digit : Char → Bool) (s : List Char) :
    Option (List Char × List Char × List Char) :=
  let whole := s.takeWhile digit
  let (fraction, rest) := scanFraction digit (s.dropWhile digit)
  if whole = [] ∧ fraction = [] then none else some (whole, fraction, rest)

/-- An exponent.  Without a digit it is none, and its letter is left. -/
def scanExponent (letter : Char) : List Char → Int × List Char
  | [] => (0, [])
  | c :: rest =>
    let (negative, s) := scanSign rest
    if c.toLower = letter ∧ s.takeWhile Char.isDigit ≠ [] then
      let value : Int := digitsValue (s.takeWhile Char.isDigit)
      (if negative then -value else value, s.dropWhile Char.isDigit)
    else (0, c :: rest)

def scanDecimal (s : List Char) : Option (ℚ × List Char) :=
  (scanMantissa Char.isDigit s).map fun (whole, fraction, rest) =>
    let (exponent, rest) := scanExponent 'e' rest
    (digitsValue (whole ++ fraction) * 10 ^ (exponent - fraction.length), rest)

def scanHex : List Char → Option (ℚ × List Char)
  | '0' :: x :: s =>
    if x.toLower = 'x' then
      (scanMantissa isHexDigit s).map fun (whole, fraction, rest) =>
        let (exponent, rest) := scanExponent 'p' rest
        (hexDigitsValue (whole ++ fraction) * 2 ^ (exponent - 4 * fraction.length), rest)
    else none
  | _ => none

/-- A word in any case. -/
def scanWord (word s : List Char) : Option (List Char) :=
  if strcasecmp (s.take word.length) word then some (s.drop word.length) else none

def isNanChar (c : Char) : Bool := c.isDigit || c.isAlpha || c = '_'

/-- What may stand in brackets after a NaN. -/
def skipNanChars (s : List Char) : List Char :=
  match s with
  | '(' :: rest =>
    match rest.dropWhile isNanChar with
    | ')' :: rest => rest
    | _ => s
  | _ => s

/-- The value and what follows it; nothing when the text does not begin with a number. -/
def strtof (s : List Char) : Option (Binary32 × List Char) :=
  let (negative, s) := scanSign (s.dropWhile isSpace)
  match scanWord "infinity".toList s <|> scanWord "inf".toList s with
  | some rest => some (.infinity negative, rest)
  | none =>
    match scanWord "nan".toList s with
    | some rest => some (.nan, skipNanChars rest)
    | none => (scanHex s <|> scanDecimal s).map fun (q, rest) =>
        (Binary32.ofRat (if negative then -q else q), rest)

/-! ### Decimal numerals -/

/-- An optional sign, and whether it is a minus. -/
inductive SignText : List Char → Bool → Prop
  | absent : SignText [] false
  | plus : SignText ['+'] false
  | minus : SignText ['-'] true

/-- Digits with at most one point among them. -/
inductive MantissaText : (text whole fraction : List Char) → Prop
  | digits {whole : List Char} (hne : whole ≠ []) (hwhole : ∀ c ∈ whole, c.isDigit = true) :
      MantissaText whole whole []
  | point {whole fraction : List Char} (hne : ¬ (whole = [] ∧ fraction = []))
      (hwhole : ∀ c ∈ whole, c.isDigit = true) (hfraction : ∀ c ∈ fraction, c.isDigit = true) :
      MantissaText (whole ++ '.' :: fraction) whole fraction

/-- An optional exponent, and its value. -/
inductive ExponentText : List Char → Int → Prop
  | absent : ExponentText [] 0
  | present {letter : Char} {sign digits : List Char} {negative : Bool}
      (hletter : letter.toLower = 'e') (hsign : SignText sign negative) (hne : digits ≠ [])
      (hdigits : ∀ c ∈ digits, c.isDigit = true) :
      ExponentText (letter :: (sign ++ digits))
        (if negative then -(digitsValue digits : Int) else digitsValue digits)

/-- A decimal numeral, and the number it writes. -/
inductive Decimal : List Char → ℚ → Prop
  | mk {sign mantissa whole fraction exponent : List Char} {negative : Bool} {e : Int}
      (hsign : SignText sign negative) (hmantissa : MantissaText mantissa whole fraction)
      (hexponent : ExponentText exponent e) :
      Decimal (sign ++ (mantissa ++ exponent))
        (if negative then -(digitsValue (whole ++ fraction) * 10 ^ (e - fraction.length))
          else digitsValue (whole ++ fraction) * 10 ^ (e - fraction.length))

theorem Decimal.digits {digits : List Char} (hne : digits ≠ [])
    (hdigits : ∀ c ∈ digits, c.isDigit = true) : Decimal digits (digitsValue digits) := by
  have h := Decimal.mk .absent (.digits hne hdigits) .absent
  simpa using h

/-! ### Reading them -/

section Reading

variable {sign mantissa whole fraction exponent text rest word : List Char} {negative : Bool}
  {e : Int} {q : ℚ} {c : Char}

theorem toLower_of_isDigit (h : c.isDigit = true) : c.toLower = c := by
  have hdigit : 48 ≤ c.toNat ∧ c.toNat ≤ 57 := Char.isDigit_iff_toNat.mp h
  refine Char.toLower_eq_of_not_isUpper fun hupper => ?_
  simp only [Char.isUpper, ge_iff_le, decide_eq_true_eq] at hupper
  have hlow : 65 ≤ c.toNat := hupper.1
  omega

/-- What stands at the front of digits with a point among them. -/
theorem MantissaText.first (h : MantissaText mantissa whole fraction) :
    ∃ c rest, mantissa = c :: rest ∧ (c.isDigit = true ∨ c = '.') := by
  cases h with
  | digits hne hwhole =>
    obtain ⟨c, rest, rfl⟩ := List.exists_cons_of_ne_nil hne
    exact ⟨c, rest, rfl, .inl (hwhole c List.mem_cons_self)⟩
  | point hne hwhole hfraction =>
    cases whole with
    | nil => exact ⟨'.', fraction, rfl, .inr rfl⟩
    | cons c whole => exact ⟨c, _, rfl, .inl (hwhole c List.mem_cons_self)⟩

theorem MantissaText.mem (h : MantissaText mantissa whole fraction) (hc : c ∈ mantissa) :
    c.isDigit = true ∨ c = '.' := by
  cases h with
  | digits hne hwhole => exact .inl (hwhole c hc)
  | point hne hwhole hfraction =>
    rcases List.mem_append.mp hc with hc | hc
    · exact .inl (hwhole c hc)
    · rcases List.mem_cons.mp hc with rfl | hc
      · exact .inr rfl
      · exact .inl (hfraction c hc)

theorem ExponentText.mem (h : ExponentText exponent e) (hc : c ∈ exponent) :
    c.isDigit = true ∨ c.toLower = 'e' ∨ c = '+' ∨ c = '-' := by
  cases h with
  | absent => cases hc
  | present hletter hsign hne hdigits =>
    rcases List.mem_cons.mp hc with rfl | hc
    · exact .inr (.inl hletter)
    rcases List.mem_append.mp hc with hc | hc
    · cases hsign with
      | absent => cases hc
      | plus => exact .inr (.inr (.inl (List.mem_singleton.mp hc)))
      | minus => exact .inr (.inr (.inr (List.mem_singleton.mp hc)))
    · exact .inl (hdigits c hc)

/-- A numeral is text. -/
theorem Decimal.nul_not_mem (h : Decimal text q) : '\x00' ∉ text := by
  obtain ⟨hsign, hmantissa, hexponent⟩ := h
  intro hmem
  rcases List.mem_append.mp hmem with hmem | hmem
  · cases hsign <;> exact absurd hmem (by decide)
  rcases List.mem_append.mp hmem with hmem | hmem
  · exact absurd (hmantissa.mem hmem) (by decide)
  · exact absurd (hexponent.mem hmem) (by decide)

theorem scanMantissa_text (h : MantissaText mantissa whole fraction)
    (hrest : ∀ c, rest.head? = some c → c.isDigit = false ∧ c ≠ '.') :
    scanMantissa Char.isDigit (mantissa ++ rest) = some (whole, fraction, rest) := by
  have hstop : ∀ c, rest.head? = some c → c.isDigit = false := fun c hc => (hrest c hc).1
  unfold scanMantissa
  cases h with
  | digits hne hwhole =>
    obtain ⟨hdrop, htake⟩ := dropWhile_append_stop hwhole hstop
    have hnone : scanFraction Char.isDigit rest = ([], rest) := by
      unfold scanFraction
      split
      · exact absurd rfl (hrest '.' rfl).2
      · rfl
    rw [hdrop, htake, hnone]
    simp [hne]
  | point hne hwhole hfraction =>
    have hpoint : ∀ c, ('.' :: (fraction ++ rest)).head? = some c → c.isDigit = false := by
      intro c hc
      obtain rfl : '.' = c := by simpa using hc
      decide
    obtain ⟨hdrop, htake⟩ := dropWhile_append_stop hwhole hpoint
    obtain ⟨hdrop', htake'⟩ := dropWhile_append_stop hfraction hstop
    have hsome : scanFraction Char.isDigit ('.' :: (fraction ++ rest)) = (fraction, rest) := by
      rw [scanFraction, hdrop', htake']
    rw [List.append_assoc, List.cons_append, hdrop, htake, hsome]
    simp only [if_neg hne]

theorem ExponentText.first (h : ExponentText exponent e) (hc : exponent.head? = some c) :
    c.toLower = 'e' := by
  cases h with
  | absent => cases hc
  | present hletter =>
    obtain rfl := Option.some.inj hc
    exact hletter

theorem scanSign_text (h : SignText sign negative)
    (hrest : ∀ c, rest.head? = some c → c ≠ '-' ∧ c ≠ '+') :
    scanSign (sign ++ rest) = (negative, rest) := by
  cases h with
  | absent =>
    rw [List.nil_append]
    rcases scanSign_cases rest with ⟨tail, rfl, -⟩ | ⟨tail, rfl, -⟩ | hplain
    · exact absurd rfl (hrest '-' rfl).1
    · exact absurd rfl (hrest '+' rfl).2
    · exact hplain
  | plus => rfl
  | minus => rfl

theorem scanExponent_text (h : ExponentText exponent e) : scanExponent 'e' exponent = (e, []) := by
  cases h with
  | absent => rfl
  | @present letter sign digits negative hletter hsign hne hdigits =>
    have hfirst : ∀ c, digits.head? = some c → c ≠ '-' ∧ c ≠ '+' := by
      intro c hc
      have hdigit := hdigits c (List.mem_of_mem_head? hc)
      constructor <;> rintro rfl <;> exact absurd hdigit (by decide)
    have htake : digits.takeWhile Char.isDigit = digits := List.takeWhile_eq_self_iff.mpr hdigits
    have hdrop : digits.dropWhile Char.isDigit = [] := List.dropWhile_eq_nil_iff.mpr hdigits
    rw [scanExponent, scanSign_text hsign hfirst]
    simp only [hletter, htake, hdrop, ne_eq, hne, not_false_eq_true, and_self, if_true]

/-- A word is not read where another letter stands. -/
theorem scanWord_none {first : Char} (hc : c.toLower ≠ first.toLower) :
    scanWord (first :: word) (c :: rest) = none := by
  unfold scanWord
  rw [if_neg]
  intro hsame
  have hheads := congrArg List.head? (beq_iff_eq.mp hsame)
  exact hc (by simpa using hheads)

/-- A mantissa begins with no letter and no sign. -/
theorem not_first {letter : Char} (hc : c.isDigit = true ∨ c = '.') (hletter : letter.isDigit = false)
    (hpoint : letter ≠ '.') : c ≠ letter := by
  rintro rfl
  rcases hc with hdigit | rfl
  · exact absurd (hletter.symm.trans hdigit) Bool.false_ne_true
  · exact hpoint rfl

/-- A mantissa is no word. -/
theorem MantissaText.scanWord_none (h : MantissaText mantissa whole fraction) {first : Char}
    (hdigit : first.toLower.isDigit = false) (hpoint : first.toLower ≠ '.') :
    scanWord (first :: word) (mantissa ++ rest) = none := by
  obtain ⟨c, more, rfl, hc⟩ := h.first
  have hlower : c.toLower = c := by
    rcases hc with hdigit | rfl
    · exact toLower_of_isDigit hdigit
    · decide
  refine CString.scanWord_none ?_
  rw [hlower]
  exact not_first hc hdigit hpoint

theorem dropWhile_isSpace_numeral (hsign : SignText sign negative)
    (hmantissa : MantissaText mantissa whole fraction) :
    (sign ++ (mantissa ++ rest)).dropWhile isSpace = sign ++ (mantissa ++ rest) := by
  obtain ⟨c, more, rfl, hc⟩ := hmantissa.first
  have hplain : isSpace c = false := by
    rcases hc with hdigit | rfl
    · exact isDigit_not_isSpace hdigit
    · decide
  cases hsign with
  | absent => exact List.dropWhile_cons_of_neg (by simp [hplain])
  | plus => rfl
  | minus => rfl

theorem scanSign_numeral (hsign : SignText sign negative)
    (hmantissa : MantissaText mantissa whole fraction) :
    scanSign (sign ++ (mantissa ++ rest)) = (negative, mantissa ++ rest) := by
  obtain ⟨c, more, rfl, hc⟩ := hmantissa.first
  refine scanSign_text hsign fun first hfirst => ?_
  obtain rfl : c = first := by simpa using hfirst
  exact ⟨not_first hc (by decide) (by decide), not_first hc (by decide) (by decide)⟩

/-- Behind the first character of a decimal numeral stands no `x`. -/
theorem scanHex_numeral (hmantissa : MantissaText mantissa whole fraction)
    (hexponent : ExponentText exponent e) : scanHex (mantissa ++ exponent) = none := by
  obtain ⟨c, more, hcons, -⟩ := hmantissa.first
  unfold scanHex
  split
  · rename_i x s heq
    rw [if_neg]
    intro hx
    rw [hcons, List.cons_append] at heq
    obtain ⟨-, hsecond⟩ := List.cons.inj heq
    cases more with
    | nil =>
      have hletter := hexponent.first (congrArg List.head? hsecond)
      exact absurd (hletter.symm.trans hx) (by decide)
    | cons second more =>
      obtain ⟨rfl, -⟩ := List.cons.inj hsecond
      rcases hmantissa.mem (show second ∈ mantissa by simp [hcons]) with hdigit | rfl
      · rw [toLower_of_isDigit hdigit] at hx
        rw [hx] at hdigit
        exact absurd hdigit (by decide)
      · exact absurd hx (by decide)
  · rfl

theorem scanDecimal_numeral (hmantissa : MantissaText mantissa whole fraction)
    (hexponent : ExponentText exponent e) :
    scanDecimal (mantissa ++ exponent) =
      some ((digitsValue (whole ++ fraction) : ℚ) * 10 ^ (e - fraction.length), []) := by
  have hstop : ∀ c, exponent.head? = some c → c.isDigit = false ∧ c ≠ '.' := by
    intro c hc
    have hletter := hexponent.first hc
    constructor
    · by_contra hdigit
      rw [toLower_of_isDigit (by simpa using hdigit)] at hletter
      rw [hletter] at hdigit
      exact hdigit (by decide)
    · rintro rfl
      exact absurd hletter (by decide)
  rw [scanDecimal, scanMantissa_text hmantissa hstop, Option.map_some]
  simp only [scanExponent_text hexponent]

/-- **A decimal numeral is read whole, as the `float` nearest to what it writes.** -/
theorem strtof_decimal (h : Decimal text q) : strtof text = some (Binary32.ofRat q, []) := by
  obtain @⟨sign, mantissa, whole, fraction, exponent, negative, e, hsign, hmantissa, hexponent⟩ := h
  have hword : ∀ first : Char, ∀ word, first.toLower.isDigit = false → first.toLower ≠ '.' →
      scanWord (first :: word) (mantissa ++ exponent) = none := fun first word hdigit hpoint =>
    hmantissa.scanWord_none hdigit hpoint
  have hinfinity := hword 'i' "nfinity".toList (by decide) (by decide)
  have hinf := hword 'i' "nf".toList (by decide) (by decide)
  have hnan := hword 'n' "an".toList (by decide) (by decide)
  have hwords : "infinity".toList = 'i' :: "nfinity".toList ∧ "inf".toList = 'i' :: "nf".toList ∧
      "nan".toList = 'n' :: "an".toList := by decide
  unfold strtof
  rw [dropWhile_isSpace_numeral hsign hmantissa, scanSign_numeral hsign hmantissa, hwords.1,
    hwords.2.1, hwords.2.2]
  simp only [hinfinity, hinf, hnan, scanHex_numeral hmantissa hexponent,
    scanDecimal_numeral hmantissa hexponent]
  cases negative <;> rfl

end Reading

end CString
