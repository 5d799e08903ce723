/-
A mailbox that holds one message.

A post replaces the message that is there, a take empties the box, and so does a clear,
which nobody reads.  Who takes while the message is being destroyed takes it garbled.
What is taken over a run is then part of what was posted and what was garbled, in its
order and once each, and what is in the box was posted by the last step that touched it.
-/
import MK1Tank.Lib.Run

namespace Mailbox

open Runs

variable {α σ ι : Type*}

/-- What can be done to the box. -/
inductive Op (α : Type*) where
  | post (a : α)
  | take
  /-- The message is taken, as `a`. -/
  | garble (a : α)
  | clear

def step : Option α → Op α → Option α
  | _, .post a => some a
  | _, .take => none
  | _, .garble _ => none
  | _, .clear => none

/-- What an operation takes out of the box. -/
def taken (box : Option α) : Op α → List α
  | .take => box.toList
  | .garble a => [a]
  | _ => []

/-- What an operation puts into it, or makes of what is there. -/
def posted : Op α → List α
  | .post a => [a]
  | .garble a => [a]
  | _ => []

/-- The messages taken and the one left come, in order, from the one that was there and those
posted. -/
theorem taken_append_step (box : Option α) (op : Op α) :
    (taken box op ++ (step box op).toList).Sublist (box.toList ++ posted op) := by
  cases op with
  | post a => exact List.sublist_append_right box.toList [a]
  | take => exact List.Sublist.refl _
  | garble a => exact List.sublist_append_right box.toList [a]
  | clear => exact List.nil_sublist _

/-! ### A system with a mailbox in it -/

section System

variable {next : σ → ι → σ} {op : σ → ι → Option (Op α)} {box : σ → Option α} {Inv : σ → Prop}

/-- The steps of the system do to its box what `op` says, in the states of an invariant. -/
structure Within (next : σ → ι → σ) (op : σ → ι → Option (Op α)) (box : σ → Option α)
    (Inv : σ → Prop) : Prop where
  keep : ∀ s i, Inv s → Inv (next s i)
  box : ∀ s i, Inv s → box (next s i) = (op s i).elim (box s) (step (box s))

/-- The messages that a step of the system takes. -/
def takes (op : σ → ι → Option (Op α)) (box : σ → Option α) (s : σ) (i : ι) : List α :=
  (op s i).elim [] (taken (box s))

/-- The messages that a step of the system posts. -/
def posts (op : σ → ι → Option (Op α)) (s : σ) (i : ι) : List α := (op s i).elim [] posted

/-- No step of the run touches the box. -/
def Untouched (next : σ → ι → σ) (op : σ → ι → Option (Op α)) : σ → List ι → Prop :=
  Meets next fun s i => op s i = none

/-- **What is taken was posted, in the same order and once each.** -/
theorem Within.takes_sublist_posts (h : Within next op box Inv) (inputs : List ι) {s : σ}
    (hs : Inv s) :
    ((trace next (takes op box) s inputs).flatten).Sublist
      ((box s).toList ++ (trace next (posts op) s inputs).flatten) := by
  induction inputs generalizing s with
  | nil => exact List.nil_sublist _
  | cons i rest ih =>
    have hone : (takes op box s i ++ (box (next s i)).toList).Sublist
        ((box s).toList ++ posts op s i) := by
      rw [h.box s i hs]
      unfold takes posts
      cases op s i with
      | none => simp
      | some o => exact taken_append_step (box s) o
    have hrest := (ih (h.keep s i hs)).append_left (takes op box s i)
    have hfirst := hone.append_right (trace next (posts op) (next s i) rest).flatten
    rw [← List.append_assoc] at hrest
    rw [trace_cons, trace_cons, List.flatten_cons, List.flatten_cons, ← List.append_assoc]
    exact hrest.trans hfirst

/-- **A message in the box was there all along, or was posted by the last step that touched it.** -/
theorem Within.full_iff (h : Within next op box Inv) (inputs : List ι) {s : σ} (hs : Inv s) (a : α) :
    box (after next s inputs) = some a ↔
      (box s = some a ∧ Untouched next op s inputs) ∨
        ∃ front i back, inputs = front ++ i :: back ∧
          op (after next s front) i = some (.post a) ∧
          Untouched next op (after next s (front ++ [i])) back := by
  induction inputs generalizing s with
  | nil =>
    rw [after_nil]
    refine ⟨fun hbox => Or.inl ⟨hbox, meets_nil s⟩, ?_⟩
    rintro (⟨hbox, -⟩ | ⟨front, i, back, hsplit, -⟩)
    · exact hbox
    · exact absurd hsplit (by simp)
  | cons i rest ih =>
    rw [after_cons, ih (h.keep s i hs)]
    constructor
    · rintro (⟨hbox, huntouched⟩ | ⟨front, j, back, rfl, hpost, huntouched⟩)
      · rw [h.box s i hs] at hbox
        cases hop : op s i with
        | none =>
          rw [hop] at hbox
          exact Or.inl ⟨hbox, hop, huntouched⟩
        | some o =>
          rw [hop] at hbox
          cases o with
          | post b =>
            obtain rfl : b = a := Option.some.inj hbox
            exact Or.inr ⟨[], i, rest, rfl, hop, huntouched⟩
          | take => exact absurd hbox (by simp [step])
          | garble b => exact absurd hbox (by simp [step])
          | clear => exact absurd hbox (by simp [step])
      · exact Or.inr ⟨i :: front, j, back, rfl, hpost, huntouched⟩
    · rintro (⟨hbox, hop, huntouched⟩ | ⟨front, j, back, hsplit, hpost, huntouched⟩)
      · refine Or.inl ⟨?_, huntouched⟩
        rw [h.box s i hs, hop]
        exact hbox
      · cases front with
        | nil =>
          obtain ⟨rfl, rfl⟩ := List.cons_eq_cons.mp hsplit
          refine Or.inl ⟨?_, huntouched⟩
          rw [h.box s i hs, show op s i = _ from hpost]
          rfl
        | cons k front =>
          obtain ⟨rfl, rfl⟩ := List.cons_eq_cons.mp hsplit
          exact Or.inr ⟨front, j, back, rfl, hpost, huntouched⟩

end System

end Mailbox
