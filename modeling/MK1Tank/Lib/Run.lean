/-
Runs of a deterministic system.

A system takes one input after another, and what is said of it is said of every
state some list of inputs reaches.  Two things are kept apart here.  An invariant
is a predicate that every step preserves.  A condition is a predicate on a state
and the input about to be taken there: a run meets it when each of its inputs does,
in the state it is taken from.  An invariant that only the steps meeting a
condition preserve holds along every run that meets it.

A run can also be watched.  Each input is seen as an event, in the state it is taken
from, and a second system that takes those events simulates the first when one step
of the one is one step of the other.
-/
import Mathlib

namespace Runs

variable {σ ι : Type*} {step : σ → ι → σ} {ok : σ → ι → Prop} {Inv : σ → Prop}

/-- The state after the inputs have been taken, in order. -/
def after (step : σ → ι → σ) (s : σ) (inputs : List ι) : σ :=
  inputs.foldl step s

/-- Every input of the run meets the condition in the state it is taken from. -/
def Meets (step : σ → ι → σ) (ok : σ → ι → Prop) : σ → List ι → Prop
  | _, [] => True
  | s, i :: rest => ok s i ∧ Meets step ok (step s i) rest

@[simp] theorem after_nil (s : σ) : after step s [] = s := rfl

@[simp] theorem after_cons (s : σ) (i : ι) (rest : List ι) :
    after step s (i :: rest) = after step (step s i) rest := rfl

@[simp] theorem after_append (s : σ) (front back : List ι) :
    after step s (front ++ back) = after step (after step s front) back :=
  List.foldl_append ..

@[simp] theorem meets_nil (s : σ) : Meets step ok s [] := trivial

@[simp] theorem meets_cons (s : σ) (i : ι) (rest : List ι) :
    Meets step ok s (i :: rest) ↔ ok s i ∧ Meets step ok (step s i) rest := Iff.rfl

theorem meets_append (s : σ) (front back : List ι) :
    Meets step ok s (front ++ back) ↔
      Meets step ok s front ∧ Meets step ok (after step s front) back := by
  induction front generalizing s with
  | nil => simp
  | cons i rest ih => simp [ih, and_assoc]

/-- Whether a given run meets a decidable condition can be computed. -/
instance instDecidableMeets [∀ s i, Decidable (ok s i)] :
    (s : σ) → (inputs : List ι) → Decidable (Meets step ok s inputs)
  | _, [] => .isTrue trivial
  | s, i :: rest =>
    have : Decidable (Meets step ok (step s i) rest) := instDecidableMeets (step s i) rest
    inferInstanceAs (Decidable (ok s i ∧ Meets step ok (step s i) rest))

/-- What every step that meets the condition preserves holds after every run that does. -/
theorem invariant_after (hstep : ∀ s i, Inv s → ok s i → Inv (step s i)) :
    ∀ (inputs : List ι) (s : σ), Inv s → Meets step ok s inputs → Inv (after step s inputs) := by
  intro inputs
  induction inputs with
  | nil => exact fun s hs _ => hs
  | cons i rest ih => exact fun s hs hok => ih (step s i) (hstep s i hs hok.1) hok.2

/-- What every step preserves holds after every run. -/
theorem invariant_always (hstep : ∀ s i, Inv s → Inv (step s i)) (inputs : List ι) {s : σ}
    (hs : Inv s) : Inv (after step s inputs) := by
  induction inputs generalizing s with
  | nil => exact hs
  | cons i rest ih => exact ih (hstep s i hs)

/-- A condition that follows from another along an invariant is met by the same runs. -/
theorem meets_of_invariant {ok' : σ → ι → Prop}
    (hstep : ∀ s i, Inv s → ok s i → Inv (step s i)) (himp : ∀ s i, Inv s → ok s i → ok' s i) :
    ∀ (inputs : List ι) (s : σ), Inv s → Meets step ok s inputs → Meets step ok' s inputs := by
  intro inputs
  induction inputs with
  | nil => exact fun _ _ _ => trivial
  | cons i rest ih =>
    exact fun s hs hok => ⟨himp s i hs hok.1, ih (step s i) (hstep s i hs hok.1) hok.2⟩

/-- A run meets a condition when every input does, in the state it is taken from. -/
theorem meets_iff_forall {inputs : List ι} {s : σ} :
    Meets step ok s inputs ↔
      ∀ front i back, inputs = front ++ i :: back → ok (after step s front) i := by
  constructor
  · intro hmeets front i back hsplit
    rw [hsplit, meets_append] at hmeets
    exact hmeets.2.1
  · induction inputs generalizing s with
    | nil => exact fun _ => trivial
    | cons i rest ih =>
      intro h
      refine ⟨h [] i rest rfl, ih fun front j back hsplit => ?_⟩
      exact h (i :: front) j back (by rw [hsplit, List.cons_append])

/-- **A condition that is exact.**  When the steps that meet it keep an invariant that implies the
property, and a step that does not meet it breaks the property at once, the runs in which the
property always holds are the runs that meet the condition. -/
theorem always_iff_meets {P : σ → Prop} (hstep : ∀ s i, Inv s → ok s i → Inv (step s i))
    (hsafe : ∀ s, Inv s → P s) (hbreak : ∀ s i, Inv s → ¬ ok s i → ¬ P (step s i)) :
    ∀ (inputs : List ι) (s : σ), Inv s →
      ((∀ front back, inputs = front ++ back → P (after step s front)) ↔
        Meets step ok s inputs) := by
  intro inputs
  induction inputs with
  | nil =>
    intro s hs
    refine ⟨fun _ => trivial, fun _ front back hsplit => ?_⟩
    obtain ⟨rfl, -⟩ := List.append_eq_nil_iff.mp hsplit.symm
    exact hsafe s hs
  | cons i rest ih =>
    intro s hs
    constructor
    · intro h
      have hok : ok s i := by
        by_contra hnot
        exact hbreak s i hs hnot (h [i] rest rfl)
      refine ⟨hok, (ih (step s i) (hstep s i hs hok)).mp fun front back hsplit => ?_⟩
      exact h (i :: front) back (by rw [hsplit, List.cons_append])
    · intro hmeets front back hsplit
      cases front with
      | nil => exact hsafe s hs
      | cons j front =>
        obtain ⟨rfl, hrest⟩ := List.cons_eq_cons.mp hsplit
        exact (ih (step s i) (hstep s i hs hmeets.1)).mpr hmeets.2 front back hrest

/-! ### Reaching a state -/

section Reaching

/-- Some run of allowed inputs leads from the one state to the other. -/
def ReachedBy (step : σ → ι → σ) (allowed : ι → Prop) (s s' : σ) : Prop :=
  ∃ inputs, (∀ i ∈ inputs, allowed i) ∧ after step s inputs = s'

variable {allowed allowed' : ι → Prop}

theorem ReachedBy.refl (s : σ) : ReachedBy step allowed s s := ⟨[], by simp, rfl⟩

theorem ReachedBy.single (s : σ) {i : ι} (h : allowed i) : ReachedBy step allowed s (step s i) :=
  ⟨[i], by simpa using h, rfl⟩

theorem ReachedBy.trans {s s' s'' : σ} (h : ReachedBy step allowed s s')
    (h' : ReachedBy step allowed s' s'') : ReachedBy step allowed s s'' := by
  obtain ⟨front, hfront, rfl⟩ := h
  obtain ⟨back, hback, rfl⟩ := h'
  refine ⟨front ++ back, fun i hi => ?_, after_append s front back⟩
  exact (List.mem_append.mp hi).elim (hfront i) (hback i)

theorem ReachedBy.mono (himp : ∀ i, allowed i → allowed' i) {s s' : σ}
    (h : ReachedBy step allowed s s') : ReachedBy step allowed' s s' := by
  obtain ⟨inputs, hallowed, hafter⟩ := h
  exact ⟨inputs, fun i hi => himp i (hallowed i hi), hafter⟩

/-- What the allowed inputs preserve holds of what they reach. -/
theorem ReachedBy.invariant {I : σ → Prop} {s s' : σ} (h : ReachedBy step allowed s s')
    (hstep : ∀ s i, allowed i → I s → I (step s i)) (hs : I s) : I s' := by
  obtain ⟨inputs, hallowed, rfl⟩ := h
  induction inputs generalizing s with
  | nil => exact hs
  | cons i rest ih =>
    exact ih (hstep s i (hallowed i (List.mem_cons_self ..)) hs)
      fun j hj => hallowed j (List.mem_cons_of_mem i hj)

end Reaching

/-! ### Following a relation -/

section Following

variable {R : σ → ι → σ → Prop}

/-- A run of a relation: each input is taken from one state to a state that it allows. -/
inductive Follows (R : σ → ι → σ → Prop) : σ → List ι → σ → Prop
  | nil {s : σ} : Follows R s [] s
  | cons {s s' s'' : σ} {i : ι} {rest : List ι} (hstep : R s i s') (hrest : Follows R s' rest s'') :
      Follows R s (i :: rest) s''

theorem follows_append {s s'' : σ} {front back : List ι} :
    Follows R s (front ++ back) s'' ↔ ∃ s', Follows R s front s' ∧ Follows R s' back s'' := by
  induction front generalizing s with
  | nil =>
    refine ⟨fun h => ⟨s, .nil, h⟩, ?_⟩
    rintro ⟨_, ⟨⟩, hback⟩
    exact hback
  | cons i front ih =>
    constructor
    · rintro ⟨⟩
      rename_i s' hstep hrest
      obtain ⟨mid, hfront, hback⟩ := ih.mp hrest
      exact ⟨mid, .cons hstep hfront, hback⟩
    · rintro ⟨mid, ⟨⟩, hback⟩
      rename_i s' hstep hfront
      exact .cons hstep (ih.mpr ⟨mid, hfront, hback⟩)

/-- What every step of the relation preserves holds after every run of it. -/
theorem Follows.invariant {s s' : σ} {inputs : List ι} (h : Follows R s inputs s')
    (hstep : ∀ s i s', Inv s → R s i s' → Inv s') (hs : Inv s) : Inv s' := by
  induction h with
  | nil => exact hs
  | cons h _ ih => exact ih (hstep _ _ _ hs h)

/-- A relation that allows one state at most has one run. -/
theorem Follows.unique (hunique : ∀ s i s' s'', R s i s' → R s i s'' → s' = s'') {s s' s'' : σ}
    {inputs : List ι} (h : Follows R s inputs s') (h' : Follows R s inputs s'') : s' = s'' := by
  induction h with
  | nil =>
    obtain ⟨⟩ := h'
    rfl
  | cons hstep _ ih =>
    obtain ⟨⟩ := h'
    rename_i hstep' hrest'
    obtain rfl := hunique _ _ _ _ hstep hstep'
    exact ih hrest'

/-- **A run follows a relation throughout exactly when each of its steps does**, in the state that the
relation has led to. -/
theorem follows_always_iff (hunique : ∀ s i s' s'', R s i s' → R s i s'' → s' = s'') {s : σ}
    {inputs : List ι} :
    (∀ front back, inputs = front ++ back → Follows R s front (after step s front)) ↔
      ∀ front i back s', inputs = front ++ i :: back → Follows R s front s' → R s' i (step s' i) := by
  constructor
  · intro h front i back s' hsplit hfront
    obtain rfl := hfront.unique hunique (h front (i :: back) hsplit)
    have hmore := h (front ++ [i]) back (by rw [hsplit, List.append_assoc, List.singleton_append])
    obtain ⟨mid, hmid, hlast⟩ := follows_append.mp hmore
    obtain rfl := hmid.unique hunique (h front (i :: back) hsplit)
    obtain ⟨⟩ := hlast
    rename_i hstep hnil
    obtain ⟨⟩ := hnil
    simpa using hstep
  · induction inputs generalizing s with
    | nil =>
      intro _ front back hsplit
      obtain ⟨rfl, -⟩ := List.append_eq_nil_iff.mp hsplit.symm
      exact .nil
    | cons i rest ih =>
      intro h front back hsplit
      cases front with
      | nil => exact .nil
      | cons j front =>
        obtain ⟨rfl, hrest⟩ := List.cons_eq_cons.mp hsplit
        have hfirst := h [] i rest s rfl .nil
        refine .cons hfirst (ih (fun front j back s' hsplit hfront => ?_) front back hrest)
        exact h (i :: front) j back s' (by rw [hsplit, List.cons_append]) (.cons hfirst hfront)

end Following

/-! ### Watching a run -/

section Watching

variable {α ε : Type*} {astep : α → ε → α} {ev : σ → ι → ε} {Rel : σ → α → Prop}

/-- The events of a run, in order. -/
def trace (step : σ → ι → σ) (ev : σ → ι → ε) : σ → List ι → List ε
  | _, [] => []
  | s, i :: rest => ev s i :: trace step ev (step s i) rest

@[simp] theorem trace_nil (s : σ) : trace step ev s [] = [] := rfl

@[simp] theorem trace_cons (s : σ) (i : ι) (rest : List ι) :
    trace step ev s (i :: rest) = ev s i :: trace step ev (step s i) rest := rfl

/-- What is part of the other at each step is part of it over a run. -/
theorem trace_flatten_sublist {f g : σ → ι → List ε} (h : ∀ s i, (f s i).Sublist (g s i))
    (inputs : List ι) (s : σ) :
    (trace step f s inputs).flatten.Sublist (trace step g s inputs).flatten := by
  induction inputs generalizing s with
  | nil => exact List.nil_sublist _
  | cons i rest ih => exact (h s i).append (ih (step s i))

/-- **Refinement.**  When one step of the system is a run of the other, a run is one too. -/
theorem refines_run {a : σ → α} {f : σ → ι → List ε}
    (h : ∀ s i, a (step s i) = after astep (a s) (f s i)) (inputs : List ι) (s : σ) :
    a (after step s inputs) = after astep (a s) (trace step f s inputs).flatten := by
  induction inputs generalizing s with
  | nil => rfl
  | cons i rest ih => rw [after_cons, ih, h, trace_cons, List.flatten_cons, after_append]

/-- A place in what a run was is a place in what one of its steps was. -/
theorem trace_flatten_split {f : σ → ι → List ε} {inputs : List ι} {s : σ} {front back : List ε}
    {x : ε} (h : (trace step f s inputs).flatten = front ++ x :: back) :
    ∃ before i later pre post, inputs = before ++ i :: later ∧
      f (after step s before) i = pre ++ x :: post ∧
      front = (trace step f s before).flatten ++ pre := by
  induction inputs generalizing s front with
  | nil => simp at h
  | cons i rest ih =>
    rw [trace_cons, List.flatten_cons] at h
    rcases List.append_eq_append_iff.mp h with ⟨mid, hfront, hrest⟩ | ⟨mid, hfirst, hback⟩
    · obtain ⟨before, j, later, pre, post, rfl, hj, rfl⟩ := ih hrest
      exact ⟨i :: before, j, later, pre, post, rfl, hj, by simp [hfront]⟩
    · cases mid with
      | nil =>
        obtain ⟨before, j, later, pre, post, rfl, hj, hpre⟩ :=
          ih (show _ = [] ++ x :: back from hback.symm)
        refine ⟨i :: before, j, later, pre, post, rfl, hj, ?_⟩
        rw [trace_cons, List.flatten_cons, List.append_assoc, ← hpre, hfirst]
        simp
      | cons y mid =>
        obtain ⟨rfl, -⟩ := List.cons_eq_cons.mp hback
        exact ⟨[], i, rest, front, mid, rfl, hfirst, by simp⟩

/-- **Simulation.**  What relates one step of the two systems relates their runs. -/
theorem simulates (hsim : ∀ s i a, Rel s a → Rel (step s i) (astep a (ev s i)))
    (inputs : List ι) {s : σ} {a : α} (h : Rel s a) :
    Rel (after step s inputs) (after astep a (trace step ev s inputs)) := by
  induction inputs generalizing s a with
  | nil => exact h
  | cons i rest ih => exact ih (hsim s i a h)

end Watching

end Runs
