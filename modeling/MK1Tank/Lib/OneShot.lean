/-
A one-shot that is looked at now and then.

An edge arms it, the first look at a later time starts it, and the first look at which
its width has passed ends it.  Times are numbers, looks may be any distance apart, and
an edge while it is armed or running is not taken.

When time never goes back, every edge that is taken gets one block of looks of its own:
it begins at the first look later than the edge, however late that is, and lasts until
the first look a width after its beginning.  When time may go back, a running shot ends
exactly when some look sees the width passed.
-/
import Mathlib

/-- What a one-shot is doing: at rest, armed at a time, or running since one. -/
inductive OneShot where
  | off
  | armed (since : Nat)
  | active (since : Nat)
deriving DecidableEq, Repr

namespace OneShot

/-- One look, at time `t`. -/
def step (width : Nat) (state : OneShot) (edge : Bool) (t : Nat) : OneShot :=
  match state with
  | off => if edge then armed t else off
  | armed a => if t = a then armed a else active t
  | active s => if s + width ≤ t then off else active s

def isActive : OneShot → Bool
  | active _ => true
  | _ => false

def isArmed : OneShot → Bool
  | armed _ => true
  | _ => false

@[simp] theorem isActive_off : off.isActive = false := rfl

@[simp] theorem isActive_armed (a : Nat) : (armed a).isActive = false := rfl

@[simp] theorem isActive_active (s : Nat) : (active s).isActive = true := rfl

theorem isActive_iff {state : OneShot} : state.isActive = true ↔ ∃ s, state = active s := by
  cases state <;> simp

theorem step_armed_later {width a t : Nat} (edge : Bool) (h : t ≠ a) :
    step width (armed a) edge t = active t := if_neg h

theorem step_armed_same {width a : Nat} (edge : Bool) : step width (armed a) edge a = armed a :=
  if_pos rfl

theorem step_active_ends {width s t : Nat} (edge : Bool) (h : s + width ≤ t) :
    step width (active s) edge t = off := if_pos h

theorem step_active_lasts {width s t : Nat} (edge : Bool) (h : t < s + width) :
    step width (active s) edge t = active s := if_neg (Nat.not_le.mpr h)

/-- Where the state after a look comes from. -/
theorem step_eq_active {width s t : Nat} {state : OneShot} {edge : Bool}
    (h : step width state edge t = active s) :
    (∃ a, state = armed a ∧ t ≠ a ∧ s = t) ∨ (state = active s ∧ t < s + width) := by
  cases state with
  | off =>
    simp only [step] at h
    split at h <;> cases h
  | armed a =>
    simp only [step] at h
    split at h
    · cases h
    · rename_i hne
      exact Or.inl ⟨a, rfl, hne, (active.inj h).symm⟩
  | active s' =>
    simp only [step] at h
    split at h
    · cases h
    · rename_i hlast
      obtain rfl : s' = s := active.inj h
      exact Or.inr ⟨rfl, Nat.lt_of_not_le hlast⟩

theorem step_eq_armed {width a t : Nat} {state : OneShot} {edge : Bool}
    (h : step width state edge t = armed a) :
    (state = off ∧ edge = true ∧ a = t) ∨ (state = armed a ∧ t = a) := by
  cases state with
  | off =>
    simp only [step] at h
    split at h
    · rename_i hedge
      exact Or.inl ⟨rfl, hedge, (armed.inj h).symm⟩
    · cases h
  | armed a' =>
    simp only [step] at h
    split at h
    · rename_i heq
      obtain rfl : a' = a := armed.inj h
      exact Or.inr ⟨rfl, heq⟩
    · cases h
  | active s =>
    simp only [step] at h
    split at h <;> cases h

/-! ### A run of looks -/

section Run

variable {width : Nat} {edge : Nat → Bool} {time : Nat → Nat} {state : Nat → OneShot}

/-- The look takes an edge. -/
def Takes (state : Nat → OneShot) (edge : Nat → Bool) (k : Nat) : Prop :=
  state k = off ∧ edge k = true

/-- The look starts the shot. -/
def Starts (state : Nat → OneShot) (m : Nat) : Prop :=
  (state m).isActive = false ∧ (state (m + 1)).isActive = true

/-- The first look later than look `k`. -/
def FirstLater (time : Nat → Nat) (k m : Nat) : Prop :=
  k < m ∧ time k < time m ∧ ∀ j, k < j → j < m → time j ≤ time k

/-- Look `n` lies in the block that the edge of look `k` is given. -/
def InBlock (width : Nat) (time : Nat → Nat) (k n : Nat) : Prop :=
  ∃ m, FirstLater time k m ∧ m ≤ n ∧ time n < time m + width

instance (k : Nat) : Decidable (Takes state edge k) := inferInstanceAs (Decidable (_ ∧ _))

instance (m : Nat) : Decidable (Starts state m) := inferInstanceAs (Decidable (_ ∧ _))

variable (hstep : ∀ n, state (n + 1) = step width (state n) (edge n) (time n))
include hstep

theorem Takes.armed {k : Nat} (h : Takes state edge k) : state (k + 1) = .armed (time k) := by
  rw [hstep, h.1, h.2]
  rfl

/-- A start follows an armed state, at the look's own time. -/
theorem Starts.active {m : Nat} (h : Starts state m) : state (m + 1) = .active (time m) := by
  obtain ⟨s, hs⟩ := isActive_iff.mp h.2
  rw [hstep] at hs
  rcases step_eq_active hs with ⟨a, -, -, rfl⟩ | ⟨hwas, -⟩
  · rw [hstep, hs]
  · have hrest := h.1
    rw [hwas] at hrest
    cases hrest

omit hstep in
/-- From rest to running there is a start. -/
theorem exists_start {a b : Nat} (hab : a ≤ b) (hoff : (state a).isActive = false)
    (hon : (state b).isActive = true) : ∃ m, a ≤ m ∧ m < b ∧ Starts state m := by
  induction b, hab using Nat.le_induction with
  | base => exact absurd (hoff.symm.trans hon) Bool.false_ne_true
  | succ b hab ih =>
    cases hb : (state b).isActive with
    | false => exact ⟨b, hab, Nat.lt_succ_self b, hb, hon⟩
    | true =>
      obtain ⟨m, ham, hmb, hm⟩ := ih hb
      exact ⟨m, ham, Nat.lt_succ_of_lt hmb, hm⟩

/-- A running shot goes on while no look sees the width passed. -/
theorem active_lasts {s m : Nat} (hm : state m = .active s) {n : Nat} (hmn : m ≤ n)
    (hnot : ∀ l, m ≤ l → l < n → time l < s + width) : state n = .active s := by
  induction n, hmn using Nat.le_induction with
  | base => exact hm
  | succ n hmn ih =>
    rw [hstep, ih fun l hml hln => hnot l hml (Nat.lt_succ_of_lt hln),
      step_active_lasts _ (hnot n hmn (Nat.lt_succ_self n))]

/-- **When a shot has ended.**  At a look after its start it rests, or another has started, exactly
when some look since has seen the width passed. -/
theorem ended_iff {m n : Nat} (hm : Starts state m) (hmn : m ≤ n) :
    ((state (n + 1)).isActive = false ∨ ∃ l, m < l ∧ l ≤ n ∧ Starts state l) ↔
      ∃ l, m < l ∧ l ≤ n ∧ time m + width ≤ time l := by
  have hstart := Starts.active hstep hm
  constructor
  · intro h
    by_contra hnone
    have hlasts : ∀ j, m + 1 ≤ j → j ≤ n + 1 → state j = .active (time m) := by
      intro j hmj hjn
      refine active_lasts hstep hstart hmj fun l hml hlj => ?_
      by_contra hpassed
      exact hnone ⟨l, hml, by omega, Nat.le_of_not_lt hpassed⟩
    rcases h with hoff | ⟨l, hml, hln, hl⟩
    · rw [hlasts (n + 1) (by omega) le_rfl] at hoff
      cases hoff
    · have hwas := hl.1
      rw [hlasts l hml (by omega)] at hwas
      cases hwas
  · rintro ⟨l, hml, hln, hpassed⟩
    classical
    -- The first look that sees the width passed ends the shot.
    have hex : ∃ l, m < l ∧ time m + width ≤ time l := ⟨l, hml, hpassed⟩
    obtain ⟨hfirst, hends⟩ := Nat.find_spec hex
    have hle : Nat.find hex ≤ l := Nat.find_min' hex ⟨hml, hpassed⟩
    have hrunning : state (Nat.find hex) = .active (time m) := by
      refine active_lasts hstep hstart hfirst fun j hmj hjl => ?_
      by_contra hnot
      exact Nat.find_min hex hjl ⟨hmj, Nat.le_of_not_lt hnot⟩
    have hoff : (state (Nat.find hex + 1)).isActive = false := by
      rw [hstep, hrunning, step_active_ends _ hends]
      rfl
    cases hn : (state (n + 1)).isActive with
    | false => exact Or.inl rfl
    | true =>
      obtain ⟨j, hlj, hjn, hj⟩ := exists_start (by omega) hoff hn
      exact Or.inr ⟨j, by omega, by omega, hj⟩

/-! ### When time never goes back -/

section Monotone

variable (htime : Monotone time) (hwidth : 0 < width)
include htime

/-- An edge that was taken leaves the shot armed up to the first later look. -/
theorem armed_until {k : Nat} (hk : Takes state edge k) {n : Nat} (hkn : k < n)
    (hsame : ∀ j, k < j → j < n → time j ≤ time k) : state n = .armed (time k) := by
  induction n, hkn using Nat.le_induction with
  | base => exact Takes.armed hstep hk
  | succ n hkn ih =>
    have heq : time n = time k :=
      le_antisymm (hsame n hkn (Nat.lt_succ_self n)) (htime (Nat.le_of_lt hkn))
    rw [hstep, ih fun j hkj hjn => hsame j hkj (Nat.lt_succ_of_lt hjn), heq, step_armed_same]

/-- From the first later look on it runs. -/
theorem active_from {k m : Nat} (hk : Takes state edge k) (hm : FirstLater time k m) :
    state (m + 1) = .active (time m) := by
  rw [hstep, armed_until hstep htime hk hm.1 hm.2.2, step_armed_later _ (Nat.ne_of_gt hm.2.1)]

/-- Within its block an edge's shot runs. -/
theorem active_of_inBlock {k n : Nat} (hk : Takes state edge k) (hn : InBlock width time k n) :
    (state (n + 1)).isActive = true := by
  obtain ⟨m, hm, hmn, hlast⟩ := hn
  have hrun : state (n + 1) = .active (time m) := by
    refine active_lasts hstep (active_from hstep htime hk hm) (by omega) fun l _ hln => ?_
    exact lt_of_le_of_lt (htime (Nat.le_of_lt_succ hln)) hlast
  rw [hrun]
  rfl

/-- From the edge to the end of its block the shot is never at rest. -/
theorem not_off_of_inBlock {k n j : Nat} (hk : Takes state edge k) (hn : InBlock width time k n)
    (hkj : k < j) (hjn : j ≤ n + 1) : state j ≠ off := by
  obtain ⟨m, hm, hmn, hlast⟩ := hn
  rcases Nat.lt_or_ge m j with hmj | hjm
  · have hrun : state j = .active (time m) := by
      refine active_lasts hstep (active_from hstep htime hk hm) hmj fun l _ hlj => ?_
      exact lt_of_le_of_lt (htime (by omega)) hlast
    rw [hrun]
    exact OneShot.noConfusion
  · rw [armed_until hstep htime hk hkj fun i hki hij => hm.2.2 i hki (by omega)]
    exact OneShot.noConfusion

/-- What a state says of the looks before it, from rest on. -/
def Explained (width : Nat) (edge : Nat → Bool) (time : Nat → Nat) (state : Nat → OneShot)
    (n : Nat) : OneShot → Prop
  | off => True
  | armed a => ∃ k, k < n ∧ Takes state edge k ∧ time k = a ∧ ∀ j, k < j → j < n → time j ≤ a
  | active s => ∃ k m, m < n ∧ Takes state edge k ∧ FirstLater time k m ∧ time m = s ∧
      ∀ j, m ≤ j → j < n → time j < s + width

include hwidth in
theorem explained (h0 : state 0 = off) (n : Nat) : Explained width edge time state n (state n) := by
  induction n with
  | zero =>
    rw [h0]
    trivial
  | succ n ih =>
    cases hnext : state (n + 1) with
    | off => trivial
    | armed a =>
      rw [hstep] at hnext
      rcases step_eq_armed hnext with ⟨hoff, hedge, rfl⟩ | ⟨hwas, rfl⟩
      · exact ⟨n, Nat.lt_succ_self n, ⟨hoff, hedge⟩, rfl, fun j hnj hjn => by omega⟩
      · rw [hwas] at ih
        obtain ⟨k, hkn, hk, hka, hsame⟩ := ih
        refine ⟨k, Nat.lt_succ_of_lt hkn, hk, hka, fun j hkj hjn => ?_⟩
        rcases Nat.lt_succ_iff_lt_or_eq.mp hjn with hlt | rfl
        · exact hsame j hkj hlt
        · exact le_rfl
    | active s =>
      rw [hstep] at hnext
      rcases step_eq_active hnext with ⟨a, hwas, hlater, rfl⟩ | ⟨hwas, hlast⟩
      · rw [hwas] at ih
        obtain ⟨k, hkn, hk, hka, hsame⟩ := ih
        have hlt : time k < time n := lt_of_le_of_ne (htime (Nat.le_of_lt hkn)) (by omega)
        refine ⟨k, n, Nat.lt_succ_self n, hk, ⟨hkn, hlt, fun j hkj hjn => ?_⟩, rfl, ?_⟩
        · exact hka ▸ hsame j hkj hjn
        · intro j hnj hjn
          obtain rfl : j = n := by omega
          omega
      · rw [hwas] at ih
        obtain ⟨k, m, hmn, hk, hm, hms, hbefore⟩ := ih
        refine ⟨k, m, Nat.lt_succ_of_lt hmn, hk, hm, hms, fun j hmj hjn => ?_⟩
        rcases Nat.lt_succ_iff_lt_or_eq.mp hjn with hlt | rfl
        · exact hbefore j hmj hlt
        · exact hlast

include hwidth in
/-- **A shot runs at a look exactly when the look is in the block of an edge that was taken.** -/
theorem active_iff (h0 : state 0 = off) (n : Nat) :
    (state (n + 1)).isActive = true ↔ ∃ k, Takes state edge k ∧ InBlock width time k n := by
  constructor
  · intro hon
    obtain ⟨s, hs⟩ := isActive_iff.mp hon
    have h := explained hstep htime hwidth h0 (n + 1)
    rw [hs] at h
    obtain ⟨k, m, hmn, hk, hm, rfl, hbefore⟩ := h
    exact ⟨k, hk, m, hm, Nat.le_of_lt_succ hmn, hbefore n (Nat.le_of_lt_succ hmn)
      (Nat.lt_succ_self n)⟩
  · rintro ⟨k, hk, hn⟩
    exact active_of_inBlock hstep htime hk hn

/-- **Blocks are apart.**  The block of a later edge comes after a look at which the shot does not
run. -/
theorem blocks_apart {k k' n n' : Nat} (hk : Takes state edge k) (hk' : Takes state edge k')
    (hlt : k < k') (hn : InBlock width time k n) (hn' : InBlock width time k' n') :
    n < k' ∧ k' < n' ∧ (state (k' + 1)).isActive = false := by
  have hafter : n < k' := by
    by_contra hle
    exact not_off_of_inBlock hstep htime hk hn hlt (by omega) hk'.1
  obtain ⟨m', hm', hmn', -⟩ := hn'
  exact ⟨hafter, lt_of_lt_of_le hm'.1 hmn', by rw [Takes.armed hstep hk']; rfl⟩

end Monotone

/-- **Nothing is lost and nothing is added**: the edges taken are the shots started, and the one that
is still armed. -/
theorem count_takes (h0 : state 0 = off) (n : Nat) :
    Nat.count (Takes state edge) n =
      Nat.count (Starts state) n + if (state n).isArmed then 1 else 0 := by
  induction n with
  | zero =>
    rw [h0]
    rfl
  | succ n ih =>
    rw [Nat.count_succ, Nat.count_succ, ih]
    cases hn : state n with
    | off => cases he : edge n <;> simp [Takes, Starts, hstep n, hn, he, step, isArmed]
    | armed a => by_cases ht : time n = a <;> simp [Takes, Starts, hstep n, hn, ht, step, isArmed]
    | active s =>
      by_cases ht : s + width ≤ time n <;>
        simp [Takes, Starts, hstep n, hn, ht, step, isArmed]

end Run

end OneShot
