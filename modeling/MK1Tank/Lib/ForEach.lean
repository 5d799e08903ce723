/-
Loops over the cells of a grid.

Such a loop runs one body for each key of a list without repetitions, and each run of
the body reads and writes its own cell.  What the loop leaves in a cell is then what
one run of the body leaves there: a predicate that every run keeps says what the rest
of the state does meanwhile.  What such a loop writes to a log is the list of what each
run of the body writes there.
-/
import Mathlib

namespace ForEach

variable {κ σ α : Type*} {body : σ → κ → σ} {Keep : σ → Prop} {Rel : σ → σ → Prop}

/-- What every run of the body keeps, the loop keeps. -/
theorem foldl_keeps (hkeep : ∀ s k, Keep s → Keep (body s k)) (keys : List κ) :
    ∀ s, Keep s → Keep (keys.foldl body s) := by
  induction keys with
  | nil => intro s hs; exact hs
  | cons k rest ih => intro s hs; exact ih (body s k) (hkeep s k hs)

/-- A preorder that holds across every run of the body holds across the loop. -/
theorem foldl_rel (hrefl : ∀ s, Rel s s) (htrans : ∀ s₁ s₂ s₃, Rel s₁ s₂ → Rel s₂ s₃ → Rel s₁ s₃)
    (hbody : ∀ s k, Rel s (body s k)) (keys : List κ) :
    ∀ s, Rel s (keys.foldl body s) := by
  induction keys with
  | nil => intro s; exact hrefl s
  | cons k rest ih => intro s; exact htrans _ _ _ (hbody s k) (ih (body s k))

/-- **The cell rule.**  The body rewrites its own cell and no other, so the loop rewrites exactly the
cells of its keys. -/
theorem foldl_cell_of_keep [DecidableEq κ] (get : σ → κ → α) (cell : κ → α → α)
    (hkeep : ∀ s k, Keep s → Keep (body s k))
    (hown : ∀ s k, Keep s → get (body s k) k = cell k (get s k))
    (hother : ∀ s k k', Keep s → k' ≠ k → get (body s k) k' = get s k')
    (keys : List κ) (hnodup : keys.Nodup) :
    ∀ s, Keep s → ∀ k, get (keys.foldl body s) k = if k ∈ keys then cell k (get s k) else get s k := by
  induction keys with
  | nil => intro s _ k; simp
  | cons head rest ih =>
    intro s hs k
    obtain ⟨hfresh, hrest⟩ := List.nodup_cons.mp hnodup
    rw [List.foldl_cons, ih hrest (body s head) (hkeep s head hs) k]
    by_cases hk : k = head
    · subst hk
      rw [if_neg hfresh, if_pos List.mem_cons_self, hown s k hs]
    · have hmem : k ∈ head :: rest ↔ k ∈ rest := by simp [hk]
      rw [hother s head k hs hk]
      simp only [hmem]

/-- The cell rule for a body that needs nothing kept. -/
theorem foldl_cell [DecidableEq κ] (get : σ → κ → α) (cell : κ → α → α)
    (hown : ∀ s k, get (body s k) k = cell k (get s k))
    (hother : ∀ s k k', k' ≠ k → get (body s k) k' = get s k')
    {keys : List κ} (hnodup : keys.Nodup) (s : σ) {k : κ} (hk : k ∈ keys) :
    get (keys.foldl body s) k = cell k (get s k) := by
  have hkeep : ∀ (s : σ) (k : κ), (fun _ => True) s → (fun _ => True) (body s k) :=
    fun _ _ _ => trivial
  have hloop := foldl_cell_of_keep get cell hkeep (fun s k _ => hown s k)
    (fun s k k' _ => hother s k k') keys hnodup s trivial k
  rwa [if_pos hk] at hloop

/-- **The log rule.**  Each run of the body puts in front of the log what its own cell makes it
write, so the loop leaves, newest first, what each cell made it write. -/
theorem foldl_log {β : Type*} (get : σ → κ → α) (log : σ → List β) (out : κ → α → List β)
    (hkeep : ∀ s k, Keep s → Keep (body s k))
    (hother : ∀ s k k', Keep s → k' ≠ k → get (body s k) k' = get s k')
    (hlog : ∀ s k, Keep s → log (body s k) = out k (get s k) ++ log s)
    (keys : List κ) (hnodup : keys.Nodup) :
    ∀ s, Keep s → log (keys.foldl body s) = (keys.reverse.flatMap fun k => out k (get s k)) ++ log s := by
  induction keys with
  | nil => intro s _; simp
  | cons head rest ih =>
    intro s hs
    obtain ⟨hfresh, hrest⟩ := List.nodup_cons.mp hnodup
    have hsame : (rest.reverse.flatMap fun k => out k (get (body s head) k)) =
        rest.reverse.flatMap fun k => out k (get s k) := by
      refine List.flatMap_congr fun k hk => ?_
      have hne : k ≠ head := fun hc => hfresh (hc ▸ List.mem_reverse.mp hk)
      rw [hother s head k hs hne]
    rw [List.foldl_cons, ih hrest (body s head) (hkeep s head hs), hsame, hlog s head hs]
    simp

/-- **The register rule.**  Each run of the body updates one register by what its own cell says, so
the loop updates it by what each cell says in turn. -/
theorem foldl_register {ρ : Type*} (get : σ → κ → α) (register : σ → ρ) (update : κ → α → ρ → ρ)
    (hkeep : ∀ s k, Keep s → Keep (body s k))
    (hother : ∀ s k k', Keep s → k' ≠ k → get (body s k) k' = get s k')
    (hown : ∀ s k, Keep s → register (body s k) = update k (get s k) (register s))
    (keys : List κ) (hnodup : keys.Nodup) :
    ∀ s, Keep s → register (keys.foldl body s) =
      keys.foldl (fun r k => update k (get s k) r) (register s) := by
  induction keys with
  | nil => intro s _; rfl
  | cons head rest ih =>
    intro s hs
    obtain ⟨hfresh, hrest⟩ := List.nodup_cons.mp hnodup
    rw [List.foldl_cons, ih hrest (body s head) (hkeep s head hs), List.foldl_cons, hown s head hs]
    refine List.foldl_ext _ _ _ fun r k hk => ?_
    have hne : k ≠ head := fun hc => hfresh (hc ▸ hk)
    rw [hother s head k hs hne]

/-- **Tracing back.**  What holds at the end held at the start and through runs of one kind only, or
some run of the other kind was found. -/
theorem foldl_traced (Holds : σ → Prop) {Quiet : κ → Prop} {Found : Prop} (keys : List κ)
    (hback : ∀ s, ∀ k ∈ keys, Holds (body s k) → Holds s ∧ Quiet k ∨ Found) :
    ∀ s, Holds (keys.foldl body s) → (Holds s ∧ ∀ k ∈ keys, Quiet k) ∨ Found := by
  induction keys with
  | nil => intro s hend; exact Or.inl ⟨hend, by simp⟩
  | cons head rest ih =>
    intro s hend
    have hrest := ih (fun s k hk => hback s k (List.mem_cons_of_mem head hk)) (body s head) hend
    rcases hrest with ⟨hmid, hquiet⟩ | hfound
    · rcases hback s head List.mem_cons_self hmid with ⟨hbegin, hhead⟩ | hfound
      · exact Or.inl ⟨hbegin, List.forall_mem_cons.mpr ⟨hhead, hquiet⟩⟩
      · exact Or.inr hfound
    · exact Or.inr hfound

/-! ### Loops that may end early -/

/-- A loop in a loop is one loop over what the inner ones go through. -/
theorem foldlM_flatMap {ι ρ : Type*} {m : Type _ → Type*} [Monad m] [LawfulMonad m]
    (inner : κ → List ι) (f : ρ → ι → m ρ) (keys : List κ) (r : ρ) :
    (keys.flatMap inner).foldlM f r = keys.foldlM (fun r k => (inner k).foldlM f r) r := by
  induction keys generalizing r with
  | nil => rfl
  | cons k rest ih =>
    rw [List.flatMap_cons, List.foldlM_append, List.foldlM_cons]
    exact bind_congr fun r => ih r

end ForEach
