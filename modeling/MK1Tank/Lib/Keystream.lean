/-
Covering a list with a keystream.

A register goes through its states whatever it covers; in each state it covers one
element, by a map that undoes itself.  Two facts are needed of it.

  * Covering twice from the same state gives the list back, so the receiver runs
    the sender's program.
  * What comes after a prefix is covered from the state the prefix leaves, which
    depends on the prefix's length alone.
-/
import Mathlib

namespace Keystream

variable {σ α : Type*} (next : σ → σ) (mask : σ → α → α)

/-- Each element is covered in the state the ones before it left. -/
def cover : σ → List α → List α
  | _, [] => []
  | s, a :: rest => mask s a :: cover (next s) rest

@[simp] theorem cover_nil (s : σ) : cover next mask s [] = [] := rfl

@[simp] theorem cover_cons (s : σ) (a : α) (rest : List α) :
    cover next mask s (a :: rest) = mask s a :: cover next mask (next s) rest := rfl

@[simp] theorem cover_length (s : σ) (as : List α) :
    (cover next mask s as).length = as.length := by
  induction as generalizing s with
  | nil => rfl
  | cons a rest ih => simp [ih]

/-- The state a prefix leaves depends on its length alone. -/
theorem cover_append (s : σ) (front back : List α) :
    cover next mask s (front ++ back) =
      cover next mask s front ++ cover next mask (next^[front.length] s) back := by
  induction front generalizing s with
  | nil => rfl
  | cons a rest ih =>
    rw [List.cons_append, cover_cons, ih, cover_cons, List.cons_append, List.length_cons,
      Function.iterate_succ_apply]

/-- **Covering twice** gives the list back. -/
theorem cover_cover {mask : σ → α → α} (hmask : ∀ s, Function.Involutive (mask s)) (s : σ)
    (as : List α) : cover next mask s (cover next mask s as) = as := by
  induction as generalizing s with
  | nil => rfl
  | cons a rest ih => rw [cover_cons, cover_cons, hmask s a, ih]

end Keystream
