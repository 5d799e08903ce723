/-
Lines out of a stream that arrives a character at a time.

A stream is split at its line ends; what follows the last one is a line that has not
ended.  A collector keeps the characters of that line, those it keeps at all and as many
as it has room for, and hands them over when the line ends.  Its buffer and what it has
handed over depend on the stream alone, so it does not matter in what pieces the stream
came in.
-/
import MK1Tank.Lib.Run

namespace LineFeed

open Runs

section Stream

variable {α : Type*} [DecidableEq α] {nl c : α} {stream : List α}

/-- The lines that have ended. -/
def ended (nl : α) (stream : List α) : List (List α) := (stream.splitOn nl).dropLast

/-- What has come of the line that has not. -/
def unfinished (nl : α) (stream : List α) : List α := (stream.splitOn nl).getLastD []

@[simp] theorem ended_nil : ended nl ([] : List α) = [] := rfl

@[simp] theorem unfinished_nil : unfinished nl ([] : List α) = [] := rfl

theorem splitOn_eq (nl : α) (stream : List α) :
    stream.splitOn nl = ended nl stream ++ [unfinished nl stream] := by
  have hne := List.splitOn_ne_nil nl stream
  rw [ended, unfinished, List.getLastD_eq_getLast?, List.getLast?_eq_some_getLast hne]
  exact (List.dropLast_append_getLast hne).symm

/-- The two are known from any way of writing the split. -/
theorem ended_of_splitOn (lines : List (List α)) (tail : List α)
    (h : stream.splitOn nl = lines ++ [tail]) :
    ended nl stream = lines ∧ unfinished nl stream = tail := by
  rw [ended, unfinished, h, List.dropLast_concat, List.getLastD_eq_getLast?, List.getLast?_concat]
  exact ⟨rfl, rfl⟩

/-- A line end ends the line. -/
theorem ended_end (nl : α) (stream : List α) :
    ended nl (stream ++ [nl]) = ended nl stream ++ [unfinished nl stream] ∧
      unfinished nl (stream ++ [nl]) = [] := by
  refine ended_of_splitOn _ _ ?_
  rw [List.splitOn_append_cons_self stream [], splitOn_eq nl stream, List.splitOn_nil]

/-- Any other character goes on with it. -/
theorem ended_more (hc : c ≠ nl) (stream : List α) :
    ended nl (stream ++ [c]) = ended nl stream ∧
      unfinished nl (stream ++ [c]) = unfinished nl stream ++ [c] := by
  have hlast : ∀ tail : List α, nl ∉ tail → nl ∉ tail ++ [c] := by
    intro tail htail hmem
    rcases List.mem_append.mp hmem with hmem | hmem
    · exact htail hmem
    · exact hc (List.mem_singleton.mp hmem).symm
  by_cases hmem : nl ∈ stream
  · -- The last line end of the stream splits both.
    obtain ⟨back, front, hreverse, hback⟩ := List.eq_append_cons_of_mem (List.mem_reverse.mpr hmem)
    obtain rfl : stream = front.reverse ++ nl :: back.reverse := by
      simpa using congrArg List.reverse hreverse
    have htail : nl ∉ back.reverse := fun hmem => hback (List.mem_reverse.mp hmem)
    obtain ⟨hended, hunfinished⟩ := ended_of_splitOn (front.reverse.splitOn nl) back.reverse
      (show (front.reverse ++ nl :: back.reverse).splitOn nl = _ by
        rw [List.splitOn_append_cons_self, List.splitOn_eq_singleton htail])
    rw [hended, hunfinished]
    refine ended_of_splitOn _ _ ?_
    rw [List.append_assoc, List.cons_append, List.splitOn_append_cons_self,
      List.splitOn_eq_singleton (hlast _ htail)]
  · obtain ⟨hended, hunfinished⟩ := ended_of_splitOn [] stream (List.splitOn_eq_singleton hmem)
    rw [hended, hunfinished]
    exact ended_of_splitOn [] _ (List.splitOn_eq_singleton (hlast stream hmem))

/-- What has ended stays. -/
theorem ended_append (nl : α) (front back : List α) :
    ∃ rest, ended nl (front ++ back) = ended nl front ++ rest := by
  induction back using List.reverseRecOn with
  | nil => exact ⟨[], by simp⟩
  | append_singleton back c ih =>
    obtain ⟨rest, hrest⟩ := ih
    rw [← List.append_assoc]
    by_cases hc : c = nl
    · subst hc
      exact ⟨rest ++ [unfinished c (front ++ back)], by
        rw [(ended_end c (front ++ back)).1, hrest, List.append_assoc]⟩
    · exact ⟨rest, (ended_more hc (front ++ back)).1.trans hrest⟩

/-- Lines that have ended had ended by some point of the stream. -/
theorem ended_prefix {before rest : List (List α)} (h : ended nl stream = before ++ rest) :
    ∃ front back, stream = front ++ back ∧ ended nl front = before := by
  induction stream using List.reverseRecOn generalizing rest with
  | nil => exact ⟨[], [], rfl, (List.append_eq_nil_iff.mp h.symm).1.symm⟩
  | append_singleton stream c ih =>
    have hearlier : ∀ {rest}, ended nl stream = before ++ rest →
        ∃ front back, stream ++ [c] = front ++ back ∧ ended nl front = before := by
      intro rest h
      obtain ⟨front, back, rfl, hfront⟩ := ih h
      exact ⟨front, back ++ [c], by rw [List.append_assoc], hfront⟩
    by_cases hc : c = nl
    · subst hc
      rw [(ended_end c stream).1] at h
      rcases List.eq_nil_or_concat rest with rfl | ⟨rest, last, rfl⟩
      · exact ⟨stream ++ [c], [], (List.append_nil _).symm,
          (ended_end c stream).1.trans (h.trans (List.append_nil before))⟩
      · rw [List.concat_eq_append, ← List.append_assoc] at h
        exact hearlier (List.append_inj_left' h rfl)
    · exact hearlier ((ended_more hc stream).1.symm.trans h)

end Stream

/-! ### Collecting -/

section Collecting

variable {α σ τ : Type*} {nl : α} {keep : α → Bool} {room : ℕ} {step : σ → α → σ}
  {buf : σ → List α} {out : σ → τ} {flush : τ → List α → τ} {s : σ}

/-- The steps of a system are a collector's: it has a buffer, and what it makes of the lines. -/
structure Collects (nl : α) (keep : α → Bool) (room : ℕ) (step : σ → α → σ) (buf : σ → List α)
    (out : σ → τ) (flush : τ → List α → τ) : Prop where
  buf_end : ∀ s, buf (step s nl) = []
  out_end : ∀ s, out (step s nl) = flush (out s) (buf s)
  buf_more : ∀ s c, c ≠ nl →
    buf (step s c) = if keep c = true ∧ (buf s).length < room then buf s ++ [c] else buf s
  out_more : ∀ s c, c ≠ nl → out (step s c) = out s

/-- What a collector keeps of a line. -/
def kept (keep : α → Bool) (room : ℕ) (line : List α) : List α := (line.filter keep).take room

theorem kept_more (line : List α) (c : α) : kept keep room (line ++ [c]) =
    if keep c = true ∧ (kept keep room line).length < room then kept keep room line ++ [c]
      else kept keep room line := by
  unfold kept
  by_cases hc : keep c = true
  · rw [List.filter_append, List.filter_cons_of_pos hc, List.filter_nil]
    by_cases hlength : (line.filter keep).length < room
    · have hmore : (line.filter keep ++ [c]).length ≤ room := by
        rw [List.length_append, List.length_singleton]
        omega
      rw [if_pos ⟨hc, by rw [List.length_take]; omega⟩, List.take_of_length_le hmore,
        List.take_of_length_le hlength.le]
    · rw [if_neg fun h => absurd h.2 (by rw [List.length_take]; omega),
        List.take_append_of_le_length (by omega)]
  · rw [List.filter_append, List.filter_cons_of_neg hc, List.filter_nil, List.append_nil,
      if_neg fun h => hc h.1]

/-- **After any stream a collector holds what it keeps of the unfinished line, and has been handed
what it keeps of the others, in order.** -/
theorem Collects.after [DecidableEq α] (h : Collects nl keep room step buf out flush)
    (hs : buf s = []) (stream : List α) :
    buf (after step s stream) = kept keep room (unfinished nl stream) ∧
      out (after step s stream) =
        ((ended nl stream).map (kept keep room)).foldl flush (out s) := by
  induction stream using List.reverseRecOn with
  | nil => exact ⟨hs.trans (by simp [kept]), rfl⟩
  | append_singleton stream c ih =>
    obtain ⟨hbuf, hout⟩ := ih
    rw [after_append, after_cons, after_nil]
    by_cases hc : c = nl
    · subst hc
      rw [(ended_end c stream).1, (ended_end c stream).2, h.buf_end, h.out_end, hbuf, hout]
      refine ⟨by simp [kept], ?_⟩
      rw [List.map_append, List.foldl_append]
      rfl
    · rw [(ended_more hc stream).1, (ended_more hc stream).2, h.buf_more _ _ hc, h.out_more _ _ hc,
        hbuf, hout, kept_more]
      exact ⟨rfl, rfl⟩

end Collecting

end LineFeed
