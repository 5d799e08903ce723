/-
Telling two lists apart that differ in one window only.

A register reads a list symbol by symbol.  Outside the window both lists hold the same
symbols, so what decides is the window alone: the register enters it in one state, and
if reading it loses nothing and no later symbol merges two states, the states at the end
differ wherever the window lies and however long the lists are.

The states a register can be in are given as an invariant, since a register often lives
in a wider word than it uses.
-/
import Mathlib

namespace Window

variable {σ α : Type*}

/-- The same length, and the same symbols but for the `width` places from `start` on. -/
structure SameOutside (start width : Nat) (xs ys : List α) : Prop where
  length : xs.length = ys.length
  outside : ∀ j, j < start ∨ start + width ≤ j → xs[j]? = ys[j]?

namespace SameOutside

variable {start width : Nat} {xs ys : List α}

theorem map {β : Type*} (f : α → β) (h : SameOutside start width xs ys) :
    SameOutside start width (xs.map f) (ys.map f) where
  length := by rw [List.length_map, List.length_map, h.length]
  outside := fun j hj => by rw [List.getElem?_map, List.getElem?_map, h.outside j hj]

theorem take_eq (h : SameOutside start width xs ys) : xs.take start = ys.take start := by
  refine List.ext_getElem? fun j => ?_
  rw [List.getElem?_take, List.getElem?_take]
  by_cases hj : j < start
  · rw [if_pos hj, if_pos hj, h.outside j (.inl hj)]
  · rw [if_neg hj, if_neg hj]

theorem drop_eq (h : SameOutside start width xs ys) :
    xs.drop (start + width) = ys.drop (start + width) := by
  refine List.ext_getElem? fun j => ?_
  rw [List.getElem?_drop, List.getElem?_drop]
  exact h.outside _ (.inr (Nat.le_add_right ..))

/-- What the window holds. -/
theorem split (xs : List α) (start width : Nat) :
    xs = xs.take start ++ (xs.drop start).take width ++ xs.drop (start + width) := by
  rw [List.append_assoc, ← List.drop_drop, List.take_append_drop, List.take_append_drop]

end SameOutside

/-! ### The register -/

variable (step : σ → α → σ) {Inv : σ → Prop}

theorem foldl_inv (hinv : ∀ s a, Inv s → Inv (step s a)) {s : σ} (hs : Inv s) (xs : List α) :
    Inv (xs.foldl step s) := by
  induction xs generalizing s with
  | nil => exact hs
  | cons a rest ih => exact ih (hinv s a hs)

/-- No symbol merges two states, so no list does. -/
theorem foldl_injective (hinv : ∀ s a, Inv s → Inv (step s a))
    (hstate : ∀ s s' a, Inv s → Inv s' → step s a = step s' a → s = s') {s s' : σ} (hs : Inv s)
    (hs' : Inv s') {xs : List α} (h : xs.foldl step s = xs.foldl step s') : s = s' := by
  induction xs generalizing s s' with
  | nil => exact h
  | cons a rest ih => exact hstate s s' a hs hs' (ih (hinv s a hs) (hinv s' a hs') h)

/-- A full window is read without loss, and so is a shorter one: fill both up alike. -/
theorem window_injective [Inhabited α] {width : Nat}
    (hwindow : ∀ s, Inv s → ∀ ms ms' : List α, ms.length = width → ms'.length = width →
      ms.foldl step s = ms'.foldl step s → ms = ms')
    {s : σ} (hs : Inv s) {ms ms' : List α} (hlen : ms.length = ms'.length)
    (hle : ms.length ≤ width) (h : ms.foldl step s = ms'.foldl step s) : ms = ms' := by
  have hfill : ms ++ List.replicate (width - ms.length) default
      = ms' ++ List.replicate (width - ms.length) default := by
    refine hwindow s hs _ _ ?_ ?_ ?_
    · rw [List.length_append, List.length_replicate]
      omega
    · rw [List.length_append, List.length_replicate]
      omega
    · rw [List.foldl_append, List.foldl_append, h]
  exact List.append_cancel_right hfill

/-- Lists that differ inside one window only leave different states. -/
theorem separates [Inhabited α] {width : Nat} (hinv : ∀ s a, Inv s → Inv (step s a))
    (hstate : ∀ s s' a, Inv s → Inv s' → step s a = step s' a → s = s')
    (hwindow : ∀ s, Inv s → ∀ ms ms' : List α, ms.length = width → ms'.length = width →
      ms.foldl step s = ms'.foldl step s → ms = ms')
    {s : σ} (hs : Inv s) {start : Nat} {xs ys : List α} (hsame : SameOutside start width xs ys)
    (hne : xs ≠ ys) : xs.foldl step s ≠ ys.foldl step s := by
  intro h
  apply hne
  rw [SameOutside.split xs start width, SameOutside.split ys start width, ← hsame.take_eq,
    ← hsame.drop_eq]
  congr 2
  -- the two windows are entered in the state the common front leaves
  have hfront : Inv ((xs.take start).foldl step s) := foldl_inv step hinv hs _
  refine window_injective step hwindow hfront ?_ (List.length_take_le ..) ?_
  · rw [List.length_take, List.length_take, List.length_drop, List.length_drop, hsame.length]
  · rw [SameOutside.split xs start width, SameOutside.split ys start width, ← hsame.take_eq,
      ← hsame.drop_eq, List.foldl_append, List.foldl_append, List.foldl_append,
      List.foldl_append] at h
    exact foldl_injective step hinv hstate (foldl_inv step hinv hfront _)
      (foldl_inv step hinv hfront _) h

end Window
