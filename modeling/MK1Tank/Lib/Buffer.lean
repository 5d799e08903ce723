/-
Writing into a buffer of a fixed size.

The memory goes on behind the buffer, so a write behind the end has somewhere to land;
here it is no step at all, and a program that makes one has no result.  A run of writes
that ends within the buffer lays its elements over what was there and leaves the rest.
-/
import Mathlib

namespace Buffer

variable {α : Type*}

/-- One element at one place. -/
def poke (size : Nat) (mem : Nat → α) (i : Nat) (a : α) : Option (Nat → α) :=
  if i < size then some (Function.update mem i a) else none

/-- Elements one after another. -/
def write (size : Nat) : (Nat → α) → Nat → List α → Option (Nat → α)
  | mem, _, [] => some mem
  | mem, i, a :: rest => (poke size mem i a).bind fun mem => write size mem (i + 1) rest

/-- The memory with a list laid over it. -/
def overlay (mem : Nat → α) (i : Nat) (as : List α) (j : Nat) : α :=
  if i ≤ j then as.getD (j - i) (mem j) else mem j

theorem overlay_nil (mem : Nat → α) (i : Nat) : overlay mem i [] = mem := by
  funext j
  simp [overlay]

theorem overlay_cons (mem : Nat → α) (i : Nat) (a : α) (rest : List α) :
    overlay mem i (a :: rest) = overlay (Function.update mem i a) (i + 1) rest := by
  funext j
  unfold overlay
  rcases Nat.lt_trichotomy j i with hlt | rfl | hgt
  · rw [if_neg (by omega), if_neg (by omega), Function.update_of_ne (by omega)]
  · rw [if_pos (Nat.le_refl j), if_neg (by omega), Function.update_self, Nat.sub_self,
      List.getD_cons_zero]
  · have hstep : j - i = (j - (i + 1)) + 1 := by omega
    rw [if_pos (by omega), if_pos (by omega), Function.update_of_ne (by omega), hstep,
      List.getD_cons_succ]

theorem overlay_of_lt {mem : Nat → α} {i j : Nat} (as : List α) (h : j < i) :
    overlay mem i as j = mem j := if_neg (by omega)

theorem overlay_of_ge {mem : Nat → α} {i j : Nat} {as : List α} (h : i + as.length ≤ j) :
    overlay mem i as j = mem j := by
  unfold overlay
  rw [if_pos (by omega), List.getD_eq_default _ _ (by omega)]

/-- **Writes that end within the buffer succeed**, and lay their elements over it. -/
theorem write_eq {size i : Nat} {as : List α} (h : i + as.length ≤ size) (mem : Nat → α) :
    write size mem i as = some (overlay mem i as) := by
  induction as generalizing mem i with
  | nil => rw [overlay_nil]; rfl
  | cons a rest ih =>
    rw [List.length_cons] at h
    rw [write, poke, if_pos (by omega), Option.bind_some, ih (by omega), overlay_cons]

/-! ### What a buffer holds -/

/-- The first `n` elements. -/
def contents (mem : Nat → α) (n : Nat) : List α := (List.range n).map mem

theorem contents_congr {mem mem' : Nat → α} {n : Nat} (h : ∀ j < n, mem j = mem' j) :
    contents mem n = contents mem' n :=
  List.map_congr_left fun j hj => h j (List.mem_range.mp hj)

/-- Elements laid over the place behind a prefix are appended to it. -/
theorem contents_overlay (mem : Nat → α) (i : Nat) (as bs : List α) :
    contents (overlay mem i (as ++ bs)) (i + as.length) = contents mem i ++ as := by
  unfold contents
  rw [List.range_add, List.map_append]
  congr 1
  · exact contents_congr fun j hj => overlay_of_lt _ hj
  · refine List.ext_getElem (by simp) fun j hj hj' => ?_
    have hplace : i + j - i = j := by omega
    simp [overlay, hplace, List.getElem?_append_left hj', List.getElem?_eq_getElem hj']

/-! ### `snprintf` -/

/-- As much of the text as leaves place for the NUL, and the NUL; with no room, nothing. -/
def snprintf (size : Nat) (mem : Nat → Char) (i room : Nat) (text : List Char) :
    Option (Nat → Char) :=
  if room = 0 then some mem else write size mem i (text.take (room - 1) ++ ['\x00'])

/-- With the room it is told, `snprintf` stays in the buffer. -/
theorem snprintf_eq {size i room : Nat} (hroom : 0 < room) (h : i + room ≤ size)
    (mem : Nat → Char) (text : List Char) :
    snprintf size mem i room text = some (overlay mem i (text.take (room - 1) ++ ['\x00'])) := by
  unfold snprintf
  rw [if_neg (by omega)]
  refine write_eq ?_ mem
  rw [List.length_append, List.length_take, List.length_singleton]
  omega

end Buffer
