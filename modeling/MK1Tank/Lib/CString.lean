/-
The C string functions, on lists of characters.

A C string is what stands before the first NUL of a buffer, so a buffer is read
through `cStr` and never past it.  Each function is the documented behaviour of its
namesake on that list; the lemmas beside it say what it does to a text that has a
known piece in front, which is how a reader of printed text is proved to undo the
printer.
-/
import Mathlib

namespace CString

/-! ### Buffers -/

/-- The string a buffer holds: everything before its first NUL. -/
def cStr (buf : List Char) : List Char := buf.takeWhile (· ≠ '\x00')

/-- `strncpy` into a buffer with room for `room` characters before its NUL. -/
def strncpy (s : List Char) (room : Nat) : List Char := (cStr s).take room

theorem strncpy_eq_self {s : List Char} {room : Nat} (hnul : '\x00' ∉ s) (hlen : s.length ≤ room) :
    strncpy s room = s := by
  have hstr : cStr s = s :=
    List.takeWhile_eq_self_iff.mpr fun c hc => by
      simpa using fun heq : c = '\x00' => hnul (heq ▸ hc)
  rw [strncpy, hstr, List.take_of_length_le hlen]

/-! ### Blanks -/

/-- A space or a tab. -/
def isBlank (c : Char) : Bool := c = ' ' || c = '\t'

/-- What `isspace` accepts. -/
def isSpace (c : Char) : Bool :=
  c = ' ' || c = '\t' || c = '\n' || c = '\x0b' || c = '\x0c' || c = '\r'

def skipSpaces (s : List Char) : List Char := s.dropWhile isBlank

/-- Drop the trailing characters that satisfy `p`. -/
def rstrip (p : Char → Bool) (s : List Char) : List Char := s.rdropWhile p

theorem skipSpaces_cons {c : Char} (s : List Char) (h : isBlank c = false) :
    skipSpaces (c :: s) = c :: s := by
  rw [skipSpaces, List.dropWhile_cons_of_neg (by simp [h])]

theorem skipSpaces_blank {c : Char} (s : List Char) (h : isBlank c = true) :
    skipSpaces (c :: s) = skipSpaces s := by
  rw [skipSpaces, List.dropWhile_cons_of_pos h]
  rfl

/-- A text whose last character is to stay is left as it is. -/
theorem rstrip_eq_self {p : Char → Bool} {s : List Char}
    (h : ∀ c, s.getLast? = some c → p c = false) : rstrip p s = s := by
  refine List.rdropWhile_eq_self_iff.mpr fun hne => ?_
  simpa using h (s.getLast hne) (List.getLast?_eq_some_getLast hne)

/-! ### Searching and splitting -/

/-- `strchr`, with the text before and after the character it found. -/
def strchr : List Char → Char → Option (List Char × List Char)
  | [], _ => none
  | c :: rest, x =>
    if c = x then some ([], rest) else (strchr rest x).map fun (front, back) => (c :: front, back)

theorem strchr_append (front : List Char) {x : Char} (back : List Char) (h : x ∉ front) :
    strchr (front ++ x :: back) x = some (front, back) := by
  induction front with
  | nil => simp [strchr]
  | cons c rest ih =>
    have hc : ¬ c = x := fun hc => h (by simp [hc])
    have hrest : x ∉ rest := fun hx => h (by simp [hx])
    rw [List.cons_append, strchr, if_neg hc, ih hrest]
    rfl

/-- The tokens `strtok` hands out one after another: the maximal runs of other characters. -/
def strtok (isDelim : Char → Bool) (s : List Char) : List (List Char) :=
  (s.splitOnP isDelim).filter (!·.isEmpty)

theorem strtok_cons {isDelim : Char → Bool} {token : List Char} {sep : Char} (rest : List Char)
    (hne : token ≠ []) (htoken : ∀ c ∈ token, isDelim c = false) (hsep : isDelim sep = true) :
    strtok isDelim (token ++ sep :: rest) = token :: strtok isDelim rest := by
  rw [strtok, List.splitOnP_append_cons_of_forall_mem htoken sep hsep, List.filter_cons_of_pos]
  · rfl
  · simpa using hne

theorem strtok_single {isDelim : Char → Bool} {token : List Char} (hne : token ≠ [])
    (htoken : ∀ c ∈ token, isDelim c = false) : strtok isDelim token = [token] := by
  rw [strtok, List.splitOnP_eq_singleton htoken, List.filter_cons_of_pos (by simpa using hne)]
  rfl

/-- Tokens printed with one delimiter between them are handed out again. -/
theorem strtok_intercalate {isDelim : Char → Bool} {sep : Char} (hsep : isDelim sep = true) :
    ∀ tokens : List (List Char), (∀ t ∈ tokens, t ≠ [] ∧ ∀ c ∈ t, isDelim c = false) →
      strtok isDelim ([sep].intercalate tokens) = tokens := by
  intro tokens
  induction tokens with
  | nil => exact fun _ => rfl
  | cons t rest ih =>
    intro h
    obtain ⟨hne, hplain⟩ := h t (by simp)
    cases rest with
    | nil => rw [List.intercalate_singleton, strtok_single hne hplain]
    | cons u rest =>
      rw [List.intercalate_cons_cons, List.append_assoc, List.singleton_append,
        strtok_cons _ hne hplain hsep, ih fun v hv => h v (by simp [hv])]

/-- `strcasecmp(a, b) == 0`. -/
def strcasecmp (a b : List Char) : Bool := a.map Char.toLower == b.map Char.toLower

@[simp] theorem strcasecmp_self (s : List Char) : strcasecmp s s = true := by simp [strcasecmp]

/-! ### Numbers -/

/-- The value of a run of decimal digits. -/
def digitsValue (digits : List Char) : Nat :=
  digits.foldl (fun value c => 10 * value + (c.toNat - '0'.toNat)) 0

/-- An optional sign: whether it was a minus, and what follows it. -/
def scanSign : List Char → Bool × List Char
  | '-' :: rest => (true, rest)
  | '+' :: rest => (false, rest)
  | s => (false, s)

/-- What `strtol` and `%d` read: blanks, a sign, digits.  Nothing when there is no digit. -/
def scanInt (s : List Char) : Option (Int × List Char) :=
  let (negative, s) := scanSign (s.dropWhile isSpace)
  match s.takeWhile Char.isDigit with
  | [] => none
  | digits =>
    let value : Int := digitsValue digits
    some (if negative then -value else value, s.dropWhile Char.isDigit)

theorem scanSign_of_isDigit {c : Char} (rest : List Char) (h : c.isDigit = true) :
    scanSign (c :: rest) = (false, c :: rest) := by
  unfold scanSign
  split
  · rename_i heq
    rw [(List.cons.inj heq).1] at h
    exact absurd h (by decide)
  · rename_i heq
    rw [(List.cons.inj heq).1] at h
    exact absurd h (by decide)
  · rfl

/-- The literal part of an `sscanf` format. -/
def scanLiteral (literal s : List Char) : Option (List Char) :=
  if literal.isPrefixOf s then some (s.drop literal.length) else none

/-- Decimal digits read back as the number they print. -/
theorem digitsValue_toDigits (n : Nat) : digitsValue (Nat.toDigits 10 n) = n := by
  have hdigit : ∀ k < 10, (Nat.digitChar k).toNat - '0'.toNat = k := fun k hk => by
    rw [Nat.toNat_digitChar_of_lt_ten hk]
    exact Nat.add_sub_cancel_left 48 k
  induction n using Nat.strong_induction_on with
  | _ n ih =>
    by_cases hn : n < 10
    · rw [Nat.toDigits_of_lt_base hn]
      show 10 * 0 + ((Nat.digitChar n).toNat - '0'.toNat) = n
      rw [hdigit n hn, Nat.mul_zero, Nat.zero_add]
    · have hsplit := Nat.toDigits_append_toDigits (b := 10) (n := n / 10) (d := n % 10)
        (by decide) (by omega) (by omega)
      have hback : 10 * (n / 10) + n % 10 = n := by omega
      rw [hback, Nat.toDigits_of_lt_base (show n % 10 < 10 by omega)] at hsplit
      rw [← hsplit, digitsValue, List.foldl_append]
      show 10 * digitsValue (Nat.toDigits 10 (n / 10)) + _ = n
      rw [ih (n / 10) (by omega), hdigit (n % 10) (by omega), hback]

theorem isDigit_not_isSpace {c : Char} (h : c.isDigit = true) : isSpace c = false := by
  simp only [Char.isDigit, Bool.and_eq_true, decide_eq_true_eq] at h
  simp only [isSpace, Bool.or_eq_false_iff, decide_eq_false_iff_not]
  refine ⟨⟨⟨⟨⟨?_, ?_⟩, ?_⟩, ?_⟩, ?_⟩, ?_⟩ <;> rintro rfl <;> exact absurd h.1 (by decide)

/-- A printed number is read as itself, up to the first character that is not a digit. -/
theorem scanInt_toDigits (n : Nat) (rest : List Char)
    (hrest : ∀ c, rest.head? = some c → c.isDigit = false) :
    scanInt (Nat.toDigits 10 n ++ rest) = some ((n : Int), rest) := by
  have hdigits : ∀ c ∈ Nat.toDigits 10 n, c.isDigit = true := fun c hc =>
    Nat.isDigit_of_mem_toDigits (by decide) (by decide) hc
  have hvalue := digitsValue_toDigits n
  cases hlist : Nat.toDigits 10 n with
  | nil => exact absurd hlist (Nat.toDigits_ne_nil)
  | cons first more =>
    rw [hlist] at hdigits hvalue
    have hfirst : first.isDigit = true := hdigits first (by simp)
    have hspace : (first :: more ++ rest).dropWhile isSpace = first :: more ++ rest :=
      List.dropWhile_cons_of_neg (by simp [isDigit_not_isSpace hfirst])
    have hsign := scanSign_of_isDigit (more ++ rest) hfirst
    have htake : (first :: more ++ rest).takeWhile Char.isDigit = first :: more := by
      rw [List.takeWhile_append_of_pos hdigits]
      cases rest with
      | nil => simp
      | cons c rest => rw [List.takeWhile_cons_of_neg (by simp [hrest c rfl]), List.append_nil]
    have hdrop : (first :: more ++ rest).dropWhile Char.isDigit = rest := by
      rw [List.dropWhile_append_of_pos hdigits]
      cases rest with
      | nil => rfl
      | cons c rest => exact List.dropWhile_cons_of_neg (by simp [hrest c rfl])
    unfold scanInt
    rw [hspace, List.cons_append, hsign]
    show (match (first :: more ++ rest).takeWhile Char.isDigit with
      | [] => none
      | digits => some ((digitsValue digits : Int), (first :: more ++ rest).dropWhile Char.isDigit))
        = some ((n : Int), rest)
    rw [htake, hdrop, ← hvalue]

/-! ### Lines -/

/-- What reading to the next newline, as long as there is something left, hands out: the pieces
between newlines, without an empty one after the last. -/
def fileLines : List Char → List (List Char)
  | [] => []
  | c :: rest =>
    if c = '\n' then [] :: fileLines rest
    else match fileLines rest with
      | [] => [[c]]
      | line :: lines => (c :: line) :: lines

theorem fileLines_cons {line : List Char} (rest : List Char) (h : '\n' ∉ line) :
    fileLines (line ++ '\n' :: rest) = line :: fileLines rest := by
  induction line with
  | nil => simp [fileLines]
  | cons c line ih =>
    have hc : ¬ c = '\n' := fun hc => h (by simp [hc])
    have hline : '\n' ∉ line := fun hx => h (by simp [hx])
    rw [List.cons_append, fileLines, if_neg hc, ih hline]

/-- Lines written one after another are read back one after another. -/
theorem fileLines_flatMap (lines : List (List Char)) (h : ∀ line ∈ lines, '\n' ∉ line) :
    fileLines (lines.flatMap (· ++ ['\n'])) = lines := by
  induction lines with
  | nil => rfl
  | cons line rest ih =>
    have hrest := ih fun l hl => h l (by simp [hl])
    rw [List.flatMap_cons, List.append_assoc, List.singleton_append,
      fileLines_cons _ (h line (by simp)), hrest]

end CString
