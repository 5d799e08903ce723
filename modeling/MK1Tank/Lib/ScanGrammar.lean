/-
What the C scanners take, said without running them.

Each scanner comes with the texts that it takes: a number is white space, a sign and
digits, a search cuts a text at the first place its character stands, a trim leaves a
text that does not end in what is trimmed.  The scanner takes a text exactly when the
text is so made, which is what a grammar of the whole line can be held against.
-/
import MK1Tank.Lib.CString

namespace CString

/-- A number as `strtol` and `%d` take it, with its value. -/
inductive Numeral : List Char → Int → Prop
  | plain {spaces digits : List Char} (hspaces : ∀ c ∈ spaces, isSpace c = true) (hne : digits ≠ [])
      (hdigits : ∀ c ∈ digits, c.isDigit = true) :
      Numeral (spaces ++ digits) (digitsValue digits)
  | plus {spaces digits : List Char} (hspaces : ∀ c ∈ spaces, isSpace c = true) (hne : digits ≠ [])
      (hdigits : ∀ c ∈ digits, c.isDigit = true) :
      Numeral (spaces ++ '+' :: digits) (digitsValue digits)
  | minus {spaces digits : List Char} (hspaces : ∀ c ∈ spaces, isSpace c = true) (hne : digits ≠ [])
      (hdigits : ∀ c ∈ digits, c.isDigit = true) :
      Numeral (spaces ++ '-' :: digits) (-digitsValue digits)

/-- No digit stands at the front. -/
def NoDigitFirst (s : List Char) : Prop := ∀ c, s.head? = some c → c.isDigit = false

theorem noDigitFirst_nil : NoDigitFirst [] := fun c hc => absurd hc (by simp)

/-- What stands at the front of a text after its first characters of a kind. -/
theorem head_dropWhile {p : Char → Bool} {s : List Char} {c : Char}
    (h : (s.dropWhile p).head? = some c) : p c = false := by
  cases hs : s.dropWhile p with
  | nil => rw [hs] at h; cases h
  | cons first rest =>
    have hne : s.dropWhile p ≠ [] := by rw [hs]; simp
    have hfirst := List.head_dropWhile_not p hne
    rw [hs] at h
    simp only [hs, List.head_cons] at hfirst
    rw [← Option.some.inj h]
    exact hfirst

theorem noDigitFirst_dropWhile (s : List Char) : NoDigitFirst (s.dropWhile Char.isDigit) :=
  fun _ hc => head_dropWhile hc

section Split

variable {α : Type*} {p : α → Bool} {front : List α}

/-- What a front that satisfies `p` leaves to `dropWhile`. -/
theorem dropWhile_append_stop (hfront : ∀ c ∈ front, p c = true) {rest : List α}
    (hrest : ∀ c, rest.head? = some c → p c = false) :
    (front ++ rest).dropWhile p = rest ∧ (front ++ rest).takeWhile p = front := by
  rw [List.dropWhile_append_of_pos hfront, List.takeWhile_append_of_pos hfront]
  cases rest with
  | nil => simp
  | cons c rest =>
    have hc := hrest c rfl
    rw [List.dropWhile_cons_of_neg (by simp [hc]), List.takeWhile_cons_of_neg (by simp [hc])]
    simp

end Split

theorem isSpace_sign : isSpace '+' = false ∧ isSpace '-' = false := by decide

/-- The digits of a number, its blanks and its sign being read. -/
theorem scanDigits {digits rest : List Char} (hne : digits ≠ [])
    (hdigits : ∀ c ∈ digits, c.isDigit = true) (hrest : NoDigitFirst rest) (negative : Bool) :
    (match (digits ++ rest).takeWhile Char.isDigit with
      | [] => none
      | digits' => some ((if negative then -(digitsValue digits' : Int) else digitsValue digits'),
          (digits ++ rest).dropWhile Char.isDigit)) =
      some ((if negative then -(digitsValue digits : Int) else digitsValue digits), rest) := by
  obtain ⟨hdrop, htake⟩ := dropWhile_append_stop hdigits hrest
  rw [hdrop, htake]
  cases digits with
  | nil => exact absurd rfl hne
  | cons c digits => rfl

/-- The first character of a digit run. -/
theorem head_digits {digits rest : List Char} (hne : digits ≠ [])
    (hdigits : ∀ c ∈ digits, c.isDigit = true) {c : Char} (hc : (digits ++ rest).head? = some c) :
    c.isDigit = true := by
  cases digits with
  | nil => exact absurd rfl hne
  | cons first digits =>
    obtain rfl : first = c := by simpa using hc
    exact hdigits first List.mem_cons_self

/-- What the digits leave, when a number was read. -/
theorem scanDigits_some {body rest : List Char} {negative : Bool} {v : Int}
    (h : (match body.takeWhile Char.isDigit with
      | [] => none
      | digits => some ((if negative then -(digitsValue digits : Int) else digitsValue digits),
          body.dropWhile Char.isDigit)) = some (v, rest)) :
    ∃ digits, body = digits ++ rest ∧ digits ≠ [] ∧ (∀ c ∈ digits, c.isDigit = true) ∧
      v = (if negative then -(digitsValue digits : Int) else digitsValue digits) ∧
      NoDigitFirst rest := by
  have hstop := noDigitFirst_dropWhile body
  have hcut : body = body.takeWhile Char.isDigit ++ body.dropWhile Char.isDigit := by simp
  split at h
  · cases h
  · rename_i hne
    obtain ⟨rfl, rfl⟩ := Prod.mk.inj (Option.some.inj h)
    exact ⟨_, hcut, hne, fun c hc => List.mem_takeWhile_imp hc, rfl, hstop⟩

theorem scanSign_cases (s : List Char) :
    (∃ tail, s = '-' :: tail ∧ scanSign s = (true, tail)) ∨
      (∃ tail, s = '+' :: tail ∧ scanSign s = (false, tail)) ∨ scanSign s = (false, s) := by
  unfold scanSign
  split
  · exact Or.inl ⟨_, rfl, rfl⟩
  · exact Or.inr (Or.inl ⟨_, rfl, rfl⟩)
  · exact Or.inr (Or.inr rfl)

theorem numeral_of_scanInt {s rest : List Char} {v : Int} (h : scanInt s = some (v, rest)) :
    ∃ text, s = text ++ rest ∧ Numeral text v ∧ NoDigitFirst rest := by
  have hspaces : ∀ c ∈ s.takeWhile isSpace, isSpace c = true := fun c hc => List.mem_takeWhile_imp hc
  have hsplit : s = s.takeWhile isSpace ++ s.dropWhile isSpace := by simp
  unfold scanInt at h
  generalize s.takeWhile isSpace = spaces at hspaces hsplit
  generalize s.dropWhile isSpace = signed at h hsplit
  subst hsplit
  rcases scanSign_cases signed with ⟨tail, rfl, hsign⟩ | ⟨tail, rfl, hsign⟩ | hsign
  · rw [hsign] at h
    obtain ⟨digits, rfl, hne, hdigits, rfl, hrest⟩ := scanDigits_some h
    exact ⟨spaces ++ '-' :: digits, by simp, .minus hspaces hne hdigits, hrest⟩
  · rw [hsign] at h
    obtain ⟨digits, rfl, hne, hdigits, rfl, hrest⟩ := scanDigits_some h
    exact ⟨spaces ++ '+' :: digits, by simp, .plus hspaces hne hdigits, hrest⟩
  · rw [hsign] at h
    obtain ⟨digits, rfl, hne, hdigits, rfl, hrest⟩ := scanDigits_some h
    exact ⟨spaces ++ digits, by simp, .plain hspaces hne hdigits, hrest⟩

theorem scanInt_numeral {text rest : List Char} {v : Int} (hnumeral : Numeral text v)
    (hrest : NoDigitFirst rest) : scanInt (text ++ rest) = some (v, rest) := by
  unfold scanInt
  cases hnumeral with
  | @plain spaces digits hspaces hne hdigits =>
    have hhead : ∀ c, (digits ++ rest).head? = some c → isSpace c = false := fun c hc =>
      isDigit_not_isSpace (head_digits hne hdigits hc)
    have hsign : scanSign (digits ++ rest) = (false, digits ++ rest) := by
      cases digits with
      | nil => exact absurd rfl hne
      | cons c digits => exact scanSign_of_isDigit _ (hdigits c List.mem_cons_self)
    rw [List.append_assoc, (dropWhile_append_stop hspaces hhead).1, hsign]
    exact scanDigits hne hdigits hrest false
  | @plus spaces digits hspaces hne hdigits =>
    have hhead : ∀ c, ('+' :: digits ++ rest).head? = some c → isSpace c = false := fun c hc => by
      rw [← Option.some.inj hc]
      exact isSpace_sign.1
    rw [List.append_assoc, (dropWhile_append_stop hspaces hhead).1, List.cons_append]
    exact scanDigits hne hdigits hrest false
  | @minus spaces digits hspaces hne hdigits =>
    have hhead : ∀ c, ('-' :: digits ++ rest).head? = some c → isSpace c = false := fun c hc => by
      rw [← Option.some.inj hc]
      exact isSpace_sign.2
    rw [List.append_assoc, (dropWhile_append_stop hspaces hhead).1, List.cons_append]
    exact scanDigits hne hdigits hrest true

/-- **A scanner's number is a numeral, up to the first character that is no digit.** -/
theorem scanInt_eq_some {s rest : List Char} {v : Int} : scanInt s = some (v, rest) ↔
    ∃ text, s = text ++ rest ∧ Numeral text v ∧ NoDigitFirst rest := by
  constructor
  · exact numeral_of_scanInt
  · rintro ⟨text, rfl, hnumeral, hrest⟩
    exact scanInt_numeral hnumeral hrest

/-! ### Searching, trimming and splitting -/

theorem scanLiteral_eq_some {literal s rest : List Char} :
    scanLiteral literal s = some rest ↔ s = literal ++ rest := by
  unfold scanLiteral
  constructor
  · intro h
    split at h
    · rename_i hprefix
      obtain ⟨tail, rfl⟩ := List.isPrefixOf_iff_prefix.mp hprefix
      rw [List.drop_left] at h
      rw [Option.some.inj h]
    · cases h
  · rintro rfl
    rw [if_pos (List.isPrefixOf_iff_prefix.mpr (List.prefix_append literal rest)), List.drop_left]

theorem strchr_eq_some {s front back : List Char} {x : Char} :
    strchr s x = some (front, back) ↔ s = front ++ x :: back ∧ x ∉ front := by
  constructor
  · intro h
    induction s generalizing front with
    | nil => cases h
    | cons c rest ih =>
      unfold strchr at h
      split at h
      · rename_i heq
        obtain ⟨rfl, rfl⟩ := Prod.mk.inj (Option.some.inj h)
        exact ⟨by rw [heq, List.nil_append], List.not_mem_nil⟩
      · rename_i hne
        obtain ⟨⟨front', back'⟩, hrest, heq⟩ := Option.map_eq_some_iff.mp h
        obtain ⟨rfl, rfl⟩ := Prod.mk.inj heq
        obtain ⟨rfl, hnot⟩ := ih hrest
        refine ⟨rfl, fun hmem => ?_⟩
        rcases List.mem_cons.mp hmem with heq | hmem
        · exact hne heq.symm
        · exact hnot hmem
  · rintro ⟨rfl, hnot⟩
    exact strchr_append front back hnot

/-- A text that a trim leaves as it is. -/
def Trimmed (p : Char → Bool) (s : List Char) : Prop := ∀ c, s.getLast? = some c → p c = false

theorem rstrip_trimmed (p : Char → Bool) (s : List Char) : Trimmed p (rstrip p s) := by
  intro c hc
  have hne : s.rdropWhile p ≠ [] := by
    intro hnil
    rw [rstrip, hnil] at hc
    cases hc
  have hlast := List.rdropWhile_last_not p s hne
  rw [rstrip, List.getLast?_eq_some_getLast hne] at hc
  rw [← Option.some.inj hc]
  exact Bool.eq_false_of_not_eq_true hlast

/-- What a trim takes off satisfies `p`. -/
theorem rstrip_split (p : Char → Bool) (s : List Char) :
    ∃ trail, s = rstrip p s ++ trail ∧ ∀ c ∈ trail, p c = true :=
  ⟨s.rtakeWhile p, List.rdropWhile_append_rtakeWhile.symm,
    fun _ hc => List.mem_rtakeWhile_imp hc⟩

theorem rstrip_append {p : Char → Bool} {s trail : List Char} (hs : Trimmed p s)
    (htrail : ∀ c ∈ trail, p c = true) : rstrip p (s ++ trail) = s := by
  induction trail using List.reverseRecOn with
  | nil =>
    rw [List.append_nil]
    exact rstrip_eq_self hs
  | append_singleton trail c ih =>
    have hlast : p c = true := htrail c (by simp)
    rw [rstrip, ← List.append_assoc, List.rdropWhile_concat_pos _ _ _ hlast]
    exact ih fun c hc => htrail c (by simp [hc])

/-- Blanks in front hold no token. -/
theorem strtok_append_delims {isDelim : Char → Bool} {front : List Char} (s : List Char)
    (hfront : ∀ c ∈ front, isDelim c = true) : strtok isDelim (front ++ s) = strtok isDelim s := by
  induction front with
  | nil => rfl
  | cons c front ih =>
    have hc := hfront c List.mem_cons_self
    rw [List.cons_append, ← ih fun c hc => hfront c (List.mem_cons_of_mem _ hc)]
    have hsplit := List.splitOnP_append_cons (p := isDelim) [] (front ++ s) hc
    rw [List.nil_append, List.splitOnP_nil] at hsplit
    rw [strtok, hsplit, List.singleton_append, List.filter_cons_of_neg (by simp)]
    rfl

theorem strtok_skipSpaces (s : List Char) : strtok isBlank (skipSpaces s) = strtok isBlank s := by
  have hsplit : s = s.takeWhile isBlank ++ skipSpaces s := by simp [skipSpaces]
  conv_rhs => rw [hsplit]
  exact (strtok_append_delims _ fun c hc => List.mem_takeWhile_imp hc).symm

/-- A token, up to the delimiter or the end that follows it. -/
theorem strtok_token {isDelim : Char → Bool} {token rest : List Char} (hne : token ≠ [])
    (htoken : ∀ c ∈ token, isDelim c = false) (hrest : ∀ c, rest.head? = some c → isDelim c = true) :
    strtok isDelim (token ++ rest) = token :: strtok isDelim rest := by
  cases rest with
  | nil =>
    rw [List.append_nil, strtok_single hne htoken]
    rfl
  | cons sep rest =>
    have hsep := hrest sep rfl
    have hdrop : strtok isDelim (sep :: rest) = strtok isDelim rest :=
      strtok_append_delims rest
        (show ∀ c ∈ [sep], isDelim c = true from fun c hc => by rwa [List.mem_singleton.mp hc])
    rw [strtok_cons rest hne htoken hsep, hdrop]

/-- A text is a run of what `p` holds of, and a rest that begins otherwise. -/
theorem exists_run (p : Char → Bool) (s : List Char) :
    ∃ run rest, s = run ++ rest ∧ (∀ c ∈ run, p c = true) ∧
      ∀ c, rest.head? = some c → p c = false :=
  ⟨s.takeWhile p, s.dropWhile p, by simp, fun _ hc => List.mem_takeWhile_imp hc,
    fun _ hc => head_dropWhile hc⟩

/-- A text is the beginning of a token, and a rest that begins with a delimiter or is at its end. -/
theorem exists_token (isDelim : Char → Bool) (s : List Char) :
    ∃ token rest, s = token ++ rest ∧ (∀ c ∈ token, isDelim c = false) ∧
      ∀ c, rest.head? = some c → isDelim c = true := by
  obtain ⟨token, rest, hsplit, htoken, hrest⟩ := exists_run (!isDelim ·) s
  refine ⟨token, rest, hsplit, fun c hc => ?_, fun c hc => ?_⟩
  · simpa using htoken c hc
  · simpa using hrest c hc

/-- A token at the end of a text stays, or grows with what comes behind it. -/
theorem strtok_token_append {isDelim : Char → Bool} {token : List Char} (hne : token ≠ [])
    (htoken : ∀ c ∈ token, isDelim c = false) (back : List Char) :
    (∃ more, strtok isDelim (token ++ back) = token :: more) ∨
      ∃ tail more, tail ≠ [] ∧ strtok isDelim (token ++ back) = (token ++ tail) :: more := by
  obtain ⟨tail, after, rfl, htail, hafter⟩ := exists_token isDelim back
  have hlong : ∀ c ∈ token ++ tail, isDelim c = false := fun c hc =>
    (List.mem_append.mp hc).elim (htoken c) (htail c)
  have hwhole : strtok isDelim (token ++ (tail ++ after)) =
      (token ++ tail) :: strtok isDelim after := by
    rw [← List.append_assoc]
    exact strtok_token (by simp [hne]) hlong hafter
  rw [hwhole]
  cases tail with
  | nil => exact Or.inl ⟨strtok isDelim after, by rw [List.append_nil]⟩
  | cons c tail => exact Or.inr ⟨c :: tail, strtok isDelim after, by simp, rfl⟩

/-- **The tokens of a text that goes on**: those of its front, and more; or the last of them is longer
in the whole text. -/
theorem strtok_append (isDelim : Char → Bool) (front back : List Char) :
    (∃ more, strtok isDelim (front ++ back) = strtok isDelim front ++ more) ∨
      ∃ tokens last tail more, strtok isDelim front = tokens ++ [last] ∧ tail ≠ [] ∧
        strtok isDelim (front ++ back) = tokens ++ (last ++ tail) :: more := by
  induction hlength : front.length using Nat.strong_induction_on generalizing front with
  | _ n ih =>
    obtain ⟨lead, body, rfl, hlead, hword⟩ := exists_run isDelim front
    rw [List.append_assoc, strtok_append_delims _ hlead, strtok_append_delims _ hlead]
    obtain ⟨token, rest, rfl, htoken, hnext⟩ := exists_token isDelim body
    by_cases hne : token = []
    · -- The body begins with no delimiter, so it is at its end.
      subst hne
      cases rest with
      | nil => exact Or.inl ⟨strtok isDelim back, rfl⟩
      | cons sep rest => exact absurd ((hword sep rfl).symm.trans (hnext sep rfl)) (by simp)
    rw [strtok_token hne htoken hnext]
    cases rest with
    | nil =>
      -- The front ends within a token, or right after it.
      rw [List.append_nil]
      rcases strtok_token_append hne htoken back with ⟨more, hmore⟩ | ⟨tail, more, htail, hmore⟩
      · exact Or.inl ⟨more, hmore⟩
      · exact Or.inr ⟨[], token, tail, more, rfl, htail, hmore⟩
    | cons sep rest =>
      have hwhole : strtok isDelim (token ++ sep :: rest ++ back) =
          token :: strtok isDelim (sep :: rest ++ back) := by
        rw [List.append_assoc]
        exact strtok_token hne htoken fun c hc => hnext c (by simpa using hc)
      have hshorter : (sep :: rest).length < n := by
        have hpos := List.length_pos_iff.mpr hne
        rw [← hlength, List.length_append, List.length_append]
        omega
      rw [hwhole]
      rcases ih (sep :: rest).length hshorter (sep :: rest) rfl with
        ⟨more, hmore⟩ | ⟨tokens, last, tail, more, hfront, htail, hmore⟩
      · exact Or.inl ⟨more, by rw [hmore]; rfl⟩
      · exact Or.inr ⟨token :: tokens, last, tail, more, by rw [hfront]; rfl, htail,
          by rw [hmore]; rfl⟩

/-- A character that is no delimiter is in one of the tokens. -/
theorem mem_strtok {isDelim : Char → Bool} {s : List Char} {c : Char} (hc : c ∈ s)
    (hdelim : isDelim c = false) : ∃ token ∈ strtok isDelim s, c ∈ token := by
  have hpieces : ∃ piece ∈ s.splitOnP isDelim, c ∈ piece := by
    induction s with
    | nil => cases hc
    | cons x s ih =>
      rw [List.splitOnP_cons_eq_if_modifyHead]
      by_cases hx : isDelim x = true
      · have hrest : c ∈ s := by
          rcases List.mem_cons.mp hc with rfl | hc
          · exact absurd (hx.symm.trans hdelim) (by decide)
          · exact hc
        obtain ⟨piece, hpiece, hmem⟩ := ih hrest
        rw [if_pos hx]
        exact ⟨piece, List.mem_cons_of_mem _ hpiece, hmem⟩
      · rw [if_neg hx]
        obtain ⟨first, more, hsplit⟩ := List.exists_cons_of_ne_nil (List.splitOnP_ne_nil isDelim s)
        rw [hsplit] at ih ⊢
        rcases List.mem_cons.mp hc with rfl | hc
        · exact ⟨c :: first, List.mem_cons_self, List.mem_cons_self⟩
        · obtain ⟨piece, hpiece, hmem⟩ := ih hc
          rcases List.mem_cons.mp hpiece with rfl | hpiece
          · exact ⟨x :: piece, List.mem_cons_self, List.mem_cons_of_mem x hmem⟩
          · exact ⟨piece, List.mem_cons_of_mem _ hpiece, hmem⟩
  obtain ⟨piece, hpiece, hmem⟩ := hpieces
  refine ⟨piece, List.mem_filter.mpr ⟨hpiece, ?_⟩, hmem⟩
  cases piece with
  | nil => cases hmem
  | cons x piece => rfl

theorem cStr_eq_self {s : List Char} (hnul : '\x00' ∉ s) : cStr s = s :=
  List.takeWhile_eq_self_iff.mpr fun c hc => by
    simpa using fun heq : c = '\x00' => hnul (heq ▸ hc)

/-- Without a NUL a copy is the text, cut at the room there is. -/
theorem strncpy_eq_take {s : List Char} (hnul : '\x00' ∉ s) (room : Nat) :
    strncpy s room = s.take room := by
  rw [strncpy, cStr_eq_self hnul]

/-- A name that is the same up to case has none of the characters that the other has none of, where
these are no letters. -/
theorem strcasecmp_not_mem {a b : List Char} (h : strcasecmp a b = true) {x : Char}
    (hx : x ∉ b.map Char.toLower) (hlower : x.toLower = x) : x ∉ a := by
  intro hmem
  refine hx ?_
  rw [← beq_iff_eq.mp h, ← hlower]
  exact List.mem_map_of_mem hmem

end CString
