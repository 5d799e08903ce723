/-
A bounded queue, first in first out.

A push onto a full queue is dropped, and a pop of an empty one gives nothing.  What has
been popped over a run, with what is still queued, is what was accepted, in its order.
-/
import MK1Tank.Lib.Run

namespace Fifo

open Runs

variable {α σ ι : Type*} {capacity : ℕ}

/-- What can be done to the queue. -/
inductive Op (α : Type*) where
  | push (a : α)
  | pop

def step (capacity : ℕ) (queue : List α) : Op α → List α
  | .push a => if queue.length < capacity then queue ++ [a] else queue
  | .pop => queue.tail

/-- What an operation adds to the queue. -/
def accepted (capacity : ℕ) (queue : List α) : Op α → List α
  | .push a => if queue.length < capacity then [a] else []
  | .pop => []

/-- What an operation takes off it. -/
def popped (queue : List α) : Op α → List α
  | .push _ => []
  | .pop => queue.head?.toList

theorem popped_append_step (queue : List α) (op : Op α) :
    popped queue op ++ step capacity queue op = queue ++ accepted capacity queue op := by
  cases op with
  | push a =>
    unfold popped step accepted
    split_ifs <;> simp
  | pop => cases queue <;> simp [popped, step, accepted]

theorem length_step_le (queue : List α) (op : Op α) (h : queue.length ≤ capacity) :
    (step capacity queue op).length ≤ capacity := by
  cases op with
  | push a =>
    unfold step
    split_ifs with hroom
    · rw [List.length_append, List.length_singleton]
      omega
    · exact h
  | pop =>
    unfold step
    rw [List.length_tail]
    omega

/-! ### A system with a queue in it -/

section System

variable {next : σ → ι → σ} {op : σ → ι → Option (Op α)} {queue : σ → List α} {Inv : σ → Prop}

/-- The steps of the system do to its queue what `op` says, in the states of an invariant. -/
structure Within (capacity : ℕ) (next : σ → ι → σ) (op : σ → ι → Option (Op α)) (queue : σ → List α)
    (Inv : σ → Prop) : Prop where
  keep : ∀ s i, Inv s → Inv (next s i)
  queue : ∀ s i, Inv s → queue (next s i) = (op s i).elim (queue s) (step capacity (queue s))

/-- What a step of the system adds to its queue. -/
def accepts (capacity : ℕ) (op : σ → ι → Option (Op α)) (queue : σ → List α) (s : σ) (i : ι) : List α :=
  (op s i).elim [] (accepted capacity (queue s))

/-- What a step of the system takes off it. -/
def pops (op : σ → ι → Option (Op α)) (queue : σ → List α) (s : σ) (i : ι) : List α :=
  (op s i).elim [] (popped (queue s))

/-- **Nothing accepted is lost, repeated or overtaken.** -/
theorem Within.pops_append_queue (h : Within capacity next op queue Inv) (inputs : List ι) {s : σ}
    (hs : Inv s) :
    (trace next (pops op queue) s inputs).flatten ++ queue (after next s inputs) =
      queue s ++ (trace next (accepts capacity op queue) s inputs).flatten := by
  induction inputs generalizing s with
  | nil => simp
  | cons i rest ih =>
    have hone : pops op queue s i ++ queue (next s i) =
        queue s ++ accepts capacity op queue s i := by
      rw [h.queue s i hs]
      unfold pops accepts
      cases op s i with
      | none => simp
      | some o => exact popped_append_step (queue s) o
    rw [trace_cons, trace_cons, List.flatten_cons, List.flatten_cons, after_cons, List.append_assoc,
      ih (h.keep s i hs), ← List.append_assoc, hone, List.append_assoc]

theorem Within.length_queue_le (h : Within capacity next op queue Inv) (inputs : List ι) {s : σ}
    (hs : Inv s) (hlength : (queue s).length ≤ capacity) :
    (queue (after next s inputs)).length ≤ capacity := by
  have hkeep : ∀ s i, Inv s ∧ (queue s).length ≤ capacity →
      Inv (next s i) ∧ (queue (next s i)).length ≤ capacity := by
    rintro s i ⟨hs, hle⟩
    refine ⟨h.keep s i hs, ?_⟩
    rw [h.queue s i hs]
    cases op s i with
    | none => exact hle
    | some o => exact length_step_le (queue s) o hle
  exact (invariant_always hkeep inputs ⟨hs, hlength⟩).2

end System

end Fifo
