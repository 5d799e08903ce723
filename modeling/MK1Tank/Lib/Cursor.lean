/-
A list with one of its items under a cursor.

The cursor's place is one of the list by construction, so a cursor has an item to show.
Removing the last item would leave it none, and is refused.
-/
import Mathlib

namespace Cursors

structure Cursor (α : Type*) where
  items : List α
  pos : Nat
  pos_lt : pos < items.length

variable {α β : Type*}

/-- What can be done at a cursor. -/
inductive Op (α : Type*) where
  | edit (f : α → α)
  | prev
  | next
  | remove

namespace Cursor

attribute [simp] pos_lt

/-- The item shown. -/
def current (c : Cursor α) : α := c.items[c.pos]

def edit (c : Cursor α) (f : α → α) : Cursor α where
  items := c.items.set c.pos (f c.current)
  pos := c.pos
  pos_lt := by
    rw [List.length_set]
    exact c.pos_lt

def prev (c : Cursor α) : Cursor α where
  items := c.items
  pos := c.pos - 1
  pos_lt := Nat.lt_of_le_of_lt (Nat.sub_le c.pos 1) c.pos_lt

/-- The last item has no next one. -/
def next (c : Cursor α) : Cursor α :=
  if h : c.pos + 1 < c.items.length then { items := c.items, pos := c.pos + 1, pos_lt := h } else c

/-- The item that took the removed one's place is shown, or the last one. -/
def remove (c : Cursor α) (h : 1 < c.items.length) : Cursor α where
  items := c.items.eraseIdx c.pos
  pos := min c.pos (c.items.length - 2)
  pos_lt := by
    have hpos := c.pos_lt
    rw [List.length_eraseIdx, if_pos hpos]
    omega

def apply (c : Cursor α) : Op α → Option (Cursor α)
  | .edit f => some (c.edit f)
  | .prev => some c.prev
  | .next => some c.next
  | .remove => if h : 1 < c.items.length then some (c.remove h) else none

/-- A run of operations; none when one of them would empty the list. -/
def run (c : Cursor α) : List (Op α) → Option (Cursor α)
  | [] => some c
  | op :: ops => (c.apply op).bind fun c => c.run ops

variable (c : Cursor α)

@[simp] theorem edit_items (f : α → α) : (c.edit f).items = c.items.set c.pos (f c.current) := rfl

@[simp] theorem edit_pos (f : α → α) : (c.edit f).pos = c.pos := rfl

@[simp] theorem edit_current (f : α → α) : (c.edit f).current = f c.current := by
  unfold current edit
  exact List.getElem_set_self _

@[simp] theorem prev_items : c.prev.items = c.items := rfl

@[simp] theorem next_items : c.next.items = c.items := by
  unfold next
  split <;> rfl

end Cursor

/-- An operation leaves a property of the items as it is. -/
def Op.Keeps (key : α → β) : Op α → Prop
  | .edit f => ∀ a, key (f a) = key a
  | .prev | .next | .remove => True

section Keeps

variable {key : α → β} {c c' : Cursor α}

/-- What one operation leaves: the items that remain keep the property, in their order. -/
theorem Cursor.apply_sublist {op : Op α} (hop : op.Keeps key) (h : c.apply op = some c') :
    (c'.items.map key).Sublist (c.items.map key) := by
  cases op with
  | edit f =>
    obtain rfl : c.edit f = c' := Option.some.inj h
    have hsame : ((c.edit f).items.map key) = c.items.map key := by
      have hcurrent : key (f c.current) = (c.items.map key)[c.pos] := by
        rw [List.getElem_map]
        exact hop c.current
      rw [Cursor.edit_items, List.map_set, hcurrent, List.set_getElem_self]
    rw [hsame]
  | prev =>
    obtain rfl : c.prev = c' := Option.some.inj h
    exact List.Sublist.refl _
  | next =>
    obtain rfl : c.next = c' := Option.some.inj h
    rw [Cursor.next_items]
  | remove =>
    unfold Cursor.apply at h
    simp only at h
    split at h
    · obtain rfl := Option.some.inj h
      exact (List.eraseIdx_sublist c.items c.pos).map key
    · cases h

/-- **A run keeps the property of the items that remain, and their order.** -/
theorem Cursor.run_sublist {ops : List (Op α)} (hops : ∀ op ∈ ops, op.Keeps key)
    (h : c.run ops = some c') : (c'.items.map key).Sublist (c.items.map key) := by
  induction ops generalizing c with
  | nil =>
    obtain rfl := Option.some.inj h
    exact List.Sublist.refl _
  | cons op ops ih =>
    obtain ⟨mid, hmid, hrest⟩ := Option.bind_eq_some_iff.mp h
    have hfirst := Cursor.apply_sublist (hops op List.mem_cons_self) hmid
    exact (ih (fun op hop => hops op (List.mem_cons_of_mem _ hop)) hrest).trans hfirst

end Keeps

end Cursors
