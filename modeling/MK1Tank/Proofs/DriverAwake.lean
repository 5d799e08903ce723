/-
The idle screen and the driver.

The callbacks know a controller by the slot it has in the sketch, the note that it
streams knows it by its own seat.  The two numberings agree as long as slot 0 is only
ever taken from seat 0.  What the sketch notes is followed from both sides here: the
slots are a seating of the connected seats, and the state of the dashboard is decided
by what seat 0 has delivered since slot 0 last changed hands.
-/
import MK1Tank.Proofs.Reconnect

namespace MK1Tank

open FileProgram Runs

/-! ### The seating -/

/-- Every connected seat has one slot, and no other seat has one. -/
structure Seating (connected : Seat → Bool) (slots : Seat → Option Seat) : Prop where
  held : ∀ i, connected i = true ↔ ∃ k, slots k = some i
  inj : ∀ k k' i, slots k = some i → slots k' = some i → k = k'

/-- There is a slot for a seat that has none. -/
theorem Seating.exists_empty {connected : Seat → Bool} {slots : Seat → Option Seat}
    (h : Seating connected slots) {i : Seat} (hi : connected i = false) : ∃ k, slots k = none := by
  by_contra hfull
  have hsome : ∀ k, ∃ j, slots k = some j := fun k =>
    Option.ne_none_iff_exists'.mp fun hk => hfull ⟨k, hk⟩
  choose seat hseat using hsome
  have hinj : Function.Injective seat := fun k k' heq =>
    h.inj k k' (seat k) (hseat k) (heq ▸ hseat k')
  obtain ⟨k, hk⟩ := Finite.surjective_of_injective hinj i
  have hheld := (h.held i).mpr ⟨k, hk ▸ hseat k⟩
  rw [hi] at hheld
  exact absurd hheld (by decide)

theorem Seating.take {connected : Seat → Bool} {slots : Seat → Option Seat}
    (h : Seating connected slots) {i k : Seat} (hi : connected i = false) (hk : slots k = none) :
    Seating (Function.update connected i true) (Function.update slots k (some i)) := by
  have hfresh : ∀ k', slots k' ≠ some i := by
    intro k' hk'
    have hheld := (h.held i).mpr ⟨k', hk'⟩
    rw [hi] at hheld
    exact absurd hheld (by decide)
  refine ⟨fun j => ?_, fun k₁ k₂ j h₁ h₂ => ?_⟩
  · by_cases hj : j = i
    · subst hj
      simp only [Function.update_self, true_iff]
      exact ⟨k, Function.update_self ..⟩
    · rw [Function.update_of_ne hj, h.held]
      refine ⟨fun ⟨k', hk'⟩ => ⟨k', ?_⟩, fun ⟨k', hk'⟩ => ⟨k', ?_⟩⟩
      · rw [Function.update_of_ne, hk']
        rintro rfl
        rw [hk] at hk'
        exact absurd hk' (by simp)
      · rwa [Function.update_of_ne] at hk'
        rintro rfl
        rw [Function.update_self] at hk'
        exact hj (Option.some.inj hk').symm
  · by_cases hk₁ : k₁ = k <;> by_cases hk₂ : k₂ = k
    · rw [hk₁, hk₂]
    · rw [hk₁, Function.update_self] at h₁
      rw [Function.update_of_ne hk₂, ← h₁] at h₂
      exact absurd h₂ (hfresh k₂)
    · rw [hk₂, Function.update_self] at h₂
      rw [Function.update_of_ne hk₁, ← h₂] at h₁
      exact absurd h₁ (hfresh k₁)
    · rw [Function.update_of_ne hk₁] at h₁
      rw [Function.update_of_ne hk₂] at h₂
      exact h.inj k₁ k₂ j h₁ h₂

theorem Seating.leave {connected : Seat → Bool} {slots : Seat → Option Seat}
    (h : Seating connected slots) {i k : Seat} (hk : slots k = some i) :
    Seating (Function.update connected i false) (Function.update slots k none) := by
  have hkeeps : ∀ k' j, Function.update slots k none k' = some j → slots k' = some j := by
    intro k' j hj
    by_cases hk' : k' = k
    · rw [hk', Function.update_self] at hj
      exact absurd hj (by simp)
    · rwa [Function.update_of_ne hk'] at hj
  refine ⟨fun j => ?_, fun k₁ k₂ j h₁ h₂ => h.inj k₁ k₂ j (hkeeps k₁ j h₁) (hkeeps k₂ j h₂)⟩
  by_cases hj : j = i
  · subst hj
    simp only [Function.update_self, Bool.false_eq_true, false_iff]
    rintro ⟨k', hk'⟩
    obtain rfl := h.inj k k' j hk (hkeeps k' j hk')
    rw [Function.update_self] at hk'
    exact absurd hk' (by simp)
  · rw [Function.update_of_ne hj, h.held]
    refine ⟨fun ⟨k', hk'⟩ => ⟨k', ?_⟩, fun ⟨k', hk'⟩ => ⟨k', hkeeps k' j hk'⟩⟩
    rw [Function.update_of_ne, hk']
    rintro rfl
    rw [hk] at hk'
    exact hj (Option.some.inj hk').symm

/-! ### The callbacks -/

theorem findSlot_some {s : Sketch} {test : Option Seat → Bool} {k : Seat}
    (h : findSlot s test = some k) : test (s.myControllers k) = true := by
  have htest := List.find?_some h
  exact htest

theorem findSlot_none {s : Sketch} {test : Option Seat → Bool} (h : findSlot s test = none)
    (k : Seat) : test (s.myControllers k) = false := by
  have htest := List.find?_eq_none.mp h k (Seat.mem_all k)
  exact Bool.not_eq_true _ ▸ htest

theorem onConnectedController_seating {connected : Seat → Bool} {s : Sketch} {ctl : Seat}
    (h : Seating connected s.myControllers) (hctl : connected ctl = false) :
    Seating (Function.update connected ctl true) (onConnectedController ctl s).myControllers := by
  unfold onConnectedController
  cases hfind : findSlot s fun held => held == none with
  | none =>
    obtain ⟨k, hk⟩ := h.exists_empty hctl
    have htest := findSlot_none hfind k
    rw [hk] at htest
    exact absurd htest (by decide)
  | some k => exact h.take hctl (beq_iff_eq.mp (findSlot_some hfind))

theorem onDisconnectedController_seating (now : SetterClock) {connected : Seat → Bool} {s : Sketch}
    {ctl : Seat} (h : Seating connected s.myControllers) (hctl : connected ctl = true) :
    Seating (Function.update connected ctl false)
      (onDisconnectedController now ctl s).myControllers := by
  unfold onDisconnectedController
  cases hfind : findSlot s fun held => held == some ctl with
  | none =>
    obtain ⟨k, hk⟩ := (h.held ctl).mp hctl
    have htest := findSlot_none hfind k
    rw [hk] at htest
    exact absurd htest (by simp)
  | some k =>
    have hleave := h.leave (beq_iff_eq.mp (findSlot_some hfind))
    simp only
    split <;> exact hleave

/-- Slot 0 is the first that is looked at. -/
theorem findSlot_zero {s : Sketch} {test : Option Seat → Bool} (h : test (s.myControllers 0) = true) :
    findSlot s test = some 0 :=
  List.find?_cons_of_pos h

/-- A connection takes slot 0 when it is empty, and then notes that nothing came yet. -/
theorem onConnectedController_zero (ctl : Seat) (s : Sketch) :
    (s.myControllers 0 ≠ none ∧
      (onConnectedController ctl s).myControllers 0 = s.myControllers 0 ∧
      (onConnectedController ctl s).xwcState = s.xwcState) ∨
    (s.myControllers 0 = none ∧ (onConnectedController ctl s).myControllers 0 = some ctl ∧
      (onConnectedController ctl s).xwcState = .connecting) := by
  by_cases hempty : s.myControllers 0 = none
  · refine Or.inr ⟨hempty, ?_⟩
    unfold onConnectedController
    rw [findSlot_zero (by rw [hempty]; rfl)]
    exact ⟨by simp, rfl⟩
  · refine Or.inl ⟨hempty, ?_⟩
    unfold onConnectedController
    cases hfind : findSlot s fun held => held == none with
    | none => exact ⟨rfl, rfl⟩
    | some k =>
      have hk : k ≠ 0 := fun heq => hempty (heq ▸ beq_iff_eq.mp (findSlot_some hfind))
      exact ⟨Function.update_of_ne (Ne.symm hk) .., if_neg hk⟩

/-- The loss of slot 0's seat empties the slot, and notes it. -/
theorem onDisconnectedController_zero (now : SetterClock) (ctl : Seat) (s : Sketch) :
    (s.myControllers 0 ≠ some ctl ∧
      (onDisconnectedController now ctl s).myControllers 0 = s.myControllers 0 ∧
      (onDisconnectedController now ctl s).xwcState = s.xwcState) ∨
    (s.myControllers 0 = some ctl ∧ (onDisconnectedController now ctl s).myControllers 0 = none ∧
      (onDisconnectedController now ctl s).xwcState = .disconnected) := by
  by_cases hheld : s.myControllers 0 = some ctl
  · refine Or.inr ⟨hheld, ?_⟩
    unfold onDisconnectedController
    rw [findSlot_zero (by rw [hheld]; exact beq_self_eq_true _)]
    simp
  · refine Or.inl ⟨hheld, ?_⟩
    unfold onDisconnectedController
    cases hfind : findSlot s fun held => held == some ctl with
    | none => exact ⟨rfl, rfl⟩
    | some k =>
      have hk : k ≠ 0 := fun heq => hheld (heq ▸ beq_iff_eq.mp (findSlot_some hfind))
      simp only
      rw [if_neg hk]
      exact ⟨Function.update_of_ne (Ne.symm hk) .., rfl⟩

/-! ### Who holds slot 0

What the callbacks of an update make of slot 0, from who was connected before it, who is present at
it, and who held the slot.
-/

section Holder

variable (prev present : Seat → Bool)

/-- The seat connects in the update. -/
def connects (i : Seat) : Bool := present i && !prev i

/-- One seat's turn. -/
def holderTurn (holder : Option Seat) (i : Seat) : Option Seat :=
  if present i = prev i then holder
  else if present i then holder.or (some i)
  else if holder = some i then none else holder

/-- The seat that holds slot 0 after the update.  The slot stays with a seat that is present.  A slot
that is empty goes to the lowest seat that connects, one that empties to the lowest that connects and
comes after the seat that left. -/
def nextHolder : Option Seat → Option Seat
  | none => Seat.all.find? (connects prev present)
  | some c =>
    if present c then some c else Seat.all.find? fun i => decide (c < i) && connects prev present i

theorem holderTurn_none (i : Seat) :
    holderTurn prev present none i = if connects prev present i then some i else none := by
  unfold holderTurn connects
  cases present i <;> cases prev i <;> rfl

theorem holderTurn_other {c i : Seat} (h : c ≠ i) :
    holderTurn prev present (some c) i = some c := by
  unfold holderTurn
  split_ifs with _ _ heq
  · rfl
  · rfl
  · exact absurd (Option.some.inj heq) h
  · rfl

theorem holderTurns_other {c : Seat} (seats : List Seat) (h : c ∉ seats) :
    seats.foldl (holderTurn prev present) (some c) = some c := by
  induction seats with
  | nil => rfl
  | cons i rest ih =>
    obtain ⟨hne, hrest⟩ := List.ne_and_not_mem_of_not_mem_cons h
    rw [List.foldl_cons, holderTurn_other prev present hne, ih hrest]

/-- An empty slot goes to the first that connects. -/
theorem holderTurns_none (seats : List Seat) (hnodup : seats.Nodup) :
    seats.foldl (holderTurn prev present) none = seats.find? (connects prev present) := by
  induction seats with
  | nil => rfl
  | cons i rest ih =>
    obtain ⟨hfresh, hrest⟩ := List.nodup_cons.mp hnodup
    rw [List.foldl_cons, holderTurn_none, List.find?_cons]
    cases connects prev present i with
    | true => exact holderTurns_other prev present rest hfresh
    | false => exact ih hrest

/-- A slot whose seat leaves is empty from that seat's turn on. -/
theorem holderTurns_left {c : Seat} (hprev : prev c = true) (hpresent : present c = false)
    (seats : List Seat) (hc : c ∈ seats) (hsorted : seats.Pairwise (· < ·)) :
    seats.foldl (holderTurn prev present) (some c) =
      seats.find? fun i => decide (c < i) && connects prev present i := by
  induction seats with
  | nil => exact absurd hc List.not_mem_nil
  | cons i rest ih =>
    obtain ⟨hbelow, hrest⟩ := List.pairwise_cons.mp hsorted
    rw [List.foldl_cons]
    by_cases hci : c = i
    · subst hci
      have hempties : holderTurn prev present (some c) c = none := by
        simp [holderTurn, hprev, hpresent]
      rw [hempties, holderTurns_none prev present rest hrest.nodup,
        List.find?_cons_of_neg (by simp)]
      refine List.find?_congr fun j hj => ?_
      rw [decide_eq_true (hbelow j hj), Bool.true_and]
    · have hmem : c ∈ rest := (List.mem_cons.mp hc).resolve_left hci
      have hnot : ¬ c < i := (hbelow c hmem).asymm
      rw [holderTurn_other prev present hci, ih hmem hrest, List.find?_cons_of_neg (by simp [hnot])]

theorem nextHolder_eq {holder : Option Seat} (h : ∀ c, holder = some c → prev c = true) :
    Seat.all.foldl (holderTurn prev present) holder = nextHolder prev present holder := by
  cases holder with
  | none => exact holderTurns_none prev present Seat.all (List.nodup_finRange _)
  | some c =>
    have hprev := h c rfl
    simp only [nextHolder]
    cases hpresent : present c with
    | false =>
      exact holderTurns_left prev present hprev hpresent Seat.all (Seat.mem_all c)
        (List.pairwise_lt_finRange _)
    | true =>
      -- The turn of a seat that stays does nothing either.
      have hkeeps : ∀ i, holderTurn prev present (some c) i = some c := by
        intro i
        by_cases hci : c = i
        · subst hci
          exact if_pos (hpresent.trans hprev.symm)
        · exact holderTurn_other prev present hci
      have hall : ∀ seats : List Seat,
          seats.foldl (holderTurn prev present) (some c) = some c := by
        intro seats
        induction seats with
        | nil => rfl
        | cons i rest ih => rw [List.foldl_cons, hkeeps, ih]
      exact hall Seat.all

/-- An update that changes no connection leaves slot 0 alone. -/
theorem nextHolder_same {holder : Option Seat} (hsame : ∀ i, present i = prev i)
    (h : ∀ c, holder = some c → prev c = true) : nextHolder prev present holder = holder := by
  cases holder with
  | none => exact List.find?_eq_none.mpr fun i _ => by simp [connects, hsame i]
  | some c => exact if_pos ((hsame c).trans (h c rfl))

/-- A seat that comes into slot 0 connects in the update. -/
theorem nextHolder_new {holder : Option Seat} {c : Seat}
    (h : nextHolder prev present holder = some c) (hnew : holder ≠ some c) : prev c = false := by
  have hconnects : connects prev present c = true := by
    cases holder with
    | none => exact List.find?_some h
    | some c' =>
      simp only [nextHolder] at h
      split at h
      · exact absurd h hnew
      · have htest := List.find?_some h
        exact (Bool.and_eq_true_iff.mp htest).2
  simpa using (Bool.and_eq_true_iff.mp hconnects).2

end Holder

/-! ### One update -/

section Update

variable (tick : Tick)

/-- One turn of the second loop. -/
abbrev notifySeat : Bluepad32 × Sketch → Seat → Bluepad32 × Sketch :=
  Bluepad32.notify onConnectedController (onDisconnectedController tick.failsafeClock) tick.status

/-- What holds within the second loop: the callbacks have brought slots and flags to these
connections, and touch nothing else of the object. -/
structure Notified (connected : Seat → Bool) (bp : Bluepad32) (st : Bluepad32 × Sketch) : Prop where
  seating : Seating connected st.2.myControllers
  flags : ∀ i, (st.1.controllers i).connected = connected i
  prev : st.1.prevConnected = bp.prevConnected
  idx : ∀ i, (st.1.controllers i).idx = (bp.controllers i).idx
  hasData : ∀ i, (st.1.controllers i).hasData = (bp.controllers i).hasData

theorem setConnected_controller (bp : Bluepad32) (i : Seat) (c : Bool) (j : Seat) :
    (bp.setConnected i c).controllers j =
      { bp.controllers j with connected := if j = i then c else (bp.controllers j).connected } := by
  unfold Bluepad32.setConnected
  by_cases hj : j = i
  · subst hj
    simp
  · simp [hj]

theorem Notified.notify {connected : Seat → Bool} {bp : Bluepad32} {st : Bluepad32 × Sketch}
    (h : Notified connected bp st) {i : Seat} (hi : connected i = bp.prevConnected i) :
    Notified (Function.update connected i (tick.status i).present) bp (notifySeat tick st i) := by
  have hflags : ∀ c j, ((st.1.setConnected i c).controllers j).connected =
      Function.update connected i c j := by
    intro c j
    rw [setConnected_controller, Function.update_apply, h.flags]
  have hidx : ∀ c j, ((st.1.setConnected i c).controllers j).idx = (bp.controllers j).idx := by
    intro c j
    rw [setConnected_controller]
    exact h.idx j
  have hdata : ∀ c j,
      ((st.1.setConnected i c).controllers j).hasData = (bp.controllers j).hasData := by
    intro c j
    rw [setConnected_controller]
    exact h.hasData j
  unfold notifySeat Bluepad32.notify
  simp only
  by_cases hsame : (tick.status i).present = st.1.prevConnected i
  · rw [if_pos hsame, hsame, h.prev, ← hi, Function.update_eq_self]
    exact h
  · rw [if_neg hsame]
    rw [h.prev, ← hi] at hsame
    cases hpresent : (tick.status i).present with
    | true =>
      have hctl : connected i = false := by
        rw [hpresent] at hsame
        simpa using Ne.symm hsame
      exact ⟨onConnectedController_seating h.seating hctl, hflags true, h.prev, hidx true, hdata true⟩
    | false =>
      have hctl : connected i = true := by
        rw [hpresent] at hsame
        simpa using Ne.symm hsame
      exact ⟨onDisconnectedController_seating tick.failsafeClock h.seating hctl, hflags false, h.prev,
        hidx false, hdata false⟩

theorem Notified.foldl {bp : Bluepad32} (seats : List Seat) (hnodup : seats.Nodup) :
    ∀ {connected : Seat → Bool} {st : Bluepad32 × Sketch}, Notified connected bp st →
      (∀ i ∈ seats, connected i = bp.prevConnected i) →
      Notified (fun i => if i ∈ seats then (tick.status i).present else connected i) bp
        (seats.foldl (notifySeat tick) st) := by
  induction seats with
  | nil => intro connected st h _; simpa using h
  | cons i rest ih =>
    intro connected st h hprev
    obtain ⟨hfresh, hrest⟩ := List.nodup_cons.mp hnodup
    have hnext := ih hrest (h.notify tick (hprev i List.mem_cons_self)) fun j hj => by
      have hne : j ≠ i := fun heq => hfresh (heq ▸ hj)
      rw [Function.update_of_ne hne]
      exact hprev j (List.mem_cons_of_mem i hj)
    have hbits : (fun j => if j ∈ rest then (tick.status j).present
        else Function.update connected i (tick.status i).present j) =
        fun j => if j ∈ i :: rest then (tick.status j).present else connected j := by
      funext j
      by_cases hj : j = i
      · subst hj
        simp
      · simp [hj]
    rw [hbits] at hnext
    exact hnext

/-- What the callbacks of some seats can do to slot 0, and what is noted of it. -/
inductive SlotChange (seats : List Seat) (s s' : Sketch) : Prop
  | same (hslot : s'.myControllers 0 = s.myControllers 0) (hnote : s'.xwcState = s.xwcState)
  | taken (i : Seat) (hi : i ∈ seats) (hslot : s'.myControllers 0 = some i)
      (hbefore : ∀ c, s.myControllers 0 = some c → c ∈ seats ∧ c ≠ i)
      (hnote : s'.xwcState = .connecting)
  | emptied (c : Seat) (hc : c ∈ seats) (hbefore : s.myControllers 0 = some c)
      (hslot : s'.myControllers 0 = none) (hnote : s'.xwcState = .disconnected)

theorem notify_slotChange (st : Bluepad32 × Sketch) (i : Seat) :
    SlotChange [i] st.2 (notifySeat tick st i).2 := by
  unfold notifySeat Bluepad32.notify
  simp only
  split
  · exact .same rfl rfl
  · split
    · rcases onConnectedController_zero i st.2 with ⟨-, hslot, hnote⟩ | ⟨hempty, hslot, hnote⟩
      · exact .same hslot hnote
      · refine .taken i List.mem_cons_self hslot (fun c hc => ?_) hnote
        rw [hempty] at hc
        exact absurd hc (by simp)
    · rcases onDisconnectedController_zero tick.failsafeClock i st.2 with
        ⟨-, hslot, hnote⟩ | ⟨hheld, hslot, hnote⟩
      · exact .same hslot hnote
      · exact .emptied i List.mem_cons_self hheld hslot hnote

/-- One seat's turn, then those of others: slot 0 does not come back to a seat that lost it. -/
theorem SlotChange.comp {i : Seat} {rest : List Seat} {s s₁ s' : Sketch} (hfresh : i ∉ rest)
    (hfirst : SlotChange [i] s s₁) (hnext : SlotChange rest s₁ s') : SlotChange (i :: rest) s s' := by
  cases hfirst with
  | same hslot₁ hnote₁ =>
    cases hnext with
    | same hslot hnote => exact .same (hslot.trans hslot₁) (hnote.trans hnote₁)
    | taken j hj hslot hbefore hnote =>
      refine .taken j (List.mem_cons_of_mem i hj) hslot (fun c hc => ?_) hnote
      obtain ⟨hmem, hne⟩ := hbefore c (hslot₁.trans hc)
      exact ⟨List.mem_cons_of_mem i hmem, hne⟩
    | emptied c hc hbefore hslot hnote =>
      exact .emptied c (List.mem_cons_of_mem i hc) (hslot₁.symm.trans hbefore) hslot hnote
  | taken j hj hslot₁ hbefore₁ hnote₁ =>
    obtain rfl := List.mem_singleton.mp hj
    have hnone : s.myControllers 0 = none := by
      rcases hheld : s.myControllers 0 with _ | c
      · rfl
      · obtain ⟨hmem, hne⟩ := hbefore₁ c hheld
        exact absurd (List.mem_singleton.mp hmem) hne
    cases hnext with
    | same hslot hnote =>
      refine .taken j List.mem_cons_self (hslot.trans hslot₁) (fun c hc => ?_) (hnote.trans hnote₁)
      rw [hnone] at hc
      exact absurd hc (by simp)
    | taken k hk hslot hbefore hnote => exact absurd (hbefore j hslot₁).1 hfresh
    | emptied c hc hbefore hslot hnote =>
      obtain rfl := Option.some.inj (hslot₁.symm.trans hbefore)
      exact absurd hc hfresh
  | emptied c hc hbefore₁ hslot₁ hnote₁ =>
    obtain rfl := List.mem_singleton.mp hc
    cases hnext with
    | same hslot hnote =>
      exact .emptied c List.mem_cons_self hbefore₁ (hslot.trans hslot₁) (hnote.trans hnote₁)
    | taken k hk hslot hbefore hnote =>
      refine .taken k (List.mem_cons_of_mem c hk) hslot (fun c' hc' => ?_) hnote
      obtain rfl := Option.some.inj (hbefore₁.symm.trans hc')
      exact ⟨List.mem_cons_self, fun heq => hfresh (heq ▸ hk)⟩
    | emptied c' hc' hbefore hslot hnote =>
      rw [hslot₁] at hbefore
      exact absurd hbefore (by simp)

theorem foldl_slotChange (seats : List Seat) (hnodup : seats.Nodup) :
    ∀ st : Bluepad32 × Sketch, SlotChange seats st.2 (seats.foldl (notifySeat tick) st).2 := by
  induction seats with
  | nil => exact fun st => .same rfl rfl
  | cons i rest ih =>
    intro st
    obtain ⟨hfresh, hrest⟩ := List.nodup_cons.mp hnodup
    exact (notify_slotChange tick st i).comp hfresh (ih hrest (notifySeat tick st i))

/-- Slot 0 over one turn. -/
theorem notify_holder (st : Bluepad32 × Sketch) (i : Seat) :
    (notifySeat tick st i).1.prevConnected = st.1.prevConnected ∧
    (notifySeat tick st i).2.myControllers 0 =
      holderTurn st.1.prevConnected (fun i => (tick.status i).present) (st.2.myControllers 0) i := by
  unfold notifySeat Bluepad32.notify holderTurn
  simp only
  split
  · exact ⟨rfl, rfl⟩
  · split
    · refine ⟨rfl, ?_⟩
      rcases onConnectedController_zero i st.2 with ⟨hheld, hslot, -⟩ | ⟨hempty, hslot, -⟩
      · obtain ⟨c, hc⟩ := Option.ne_none_iff_exists'.mp hheld
        rw [hslot, hc]
        rfl
      · rw [hslot, hempty]
        rfl
    · refine ⟨rfl, ?_⟩
      rcases onDisconnectedController_zero tick.failsafeClock i st.2 with
        ⟨hother, hslot, -⟩ | ⟨hheld, hslot, -⟩
      · rw [hslot, if_neg hother]
      · rw [hslot, if_pos hheld]

theorem foldl_holder (seats : List Seat) : ∀ st : Bluepad32 × Sketch,
    (seats.foldl (notifySeat tick) st).2.myControllers 0 =
      seats.foldl (holderTurn st.1.prevConnected fun i => (tick.status i).present)
        (st.2.myControllers 0) := by
  induction seats with
  | nil => exact fun _ => rfl
  | cons i rest ih =>
    intro st
    obtain ⟨hprev, hslot⟩ := notify_holder tick st i
    rw [List.foldl_cons, List.foldl_cons, ih, hprev, hslot]

/-- The note follows what became of slot 0. -/
theorem SlotChange.note {seats : List Seat} {s s' : Sketch} (h : SlotChange seats s s') :
    s'.xwcState =
      if s'.myControllers 0 = s.myControllers 0 then s.xwcState
      else if s'.myControllers 0 = none then .disconnected
      else .connecting := by
  cases h with
  | same hslot hnote => rw [if_pos hslot, hnote]
  | taken i hi hslot hbefore hnote =>
    have hne : ¬ s'.myControllers 0 = s.myControllers 0 := fun heq =>
      (hbefore i (heq.symm.trans hslot)).2 rfl
    rw [if_neg hne, if_neg (by simp [hslot]), hnote]
  | emptied c hc hbefore hslot hnote =>
    have hne : ¬ s'.myControllers 0 = s.myControllers 0 := by simp [hslot, hbefore]
    rw [if_neg hne, if_pos hslot, hnote]

end Update

/-! ### The note -/

/-- The sketch takes this seat's report for the driver's. -/
def streams (bp : Bluepad32) (ctl : Seat) : Bool :=
  (bp.controllers ctl).connected && (bp.controllers ctl).hasData && (bp.controllers ctl).idx == 0

/-- One slot's turn in `processControllers`. -/
def noteSlot (bp : Bluepad32) (s : Sketch) (slot : Seat) : Sketch :=
  match s.myControllers slot with
  | none => s
  | some ctl => if streams bp ctl then { s with xwcState := .active } else s

theorem processControllers_eq (bp : Bluepad32) (s : Sketch) :
    processControllers bp s = Seat.all.foldl (noteSlot bp) s := rfl

theorem noteSlot_cases (bp : Bluepad32) (s : Sketch) (slot : Seat) :
    (noteSlot bp s slot).myControllers = s.myControllers ∧
      (((∃ ctl, s.myControllers slot = some ctl ∧ streams bp ctl = true) ∧
          (noteSlot bp s slot).xwcState = .active) ∨
        ((∀ ctl, s.myControllers slot = some ctl → streams bp ctl = false) ∧
          (noteSlot bp s slot).xwcState = s.xwcState)) := by
  cases hslot : s.myControllers slot with
  | none => simp [noteSlot, hslot]
  | some ctl => cases hstreams : streams bp ctl <;> simp [noteSlot, hslot, hstreams]

theorem noteSlots_cases (bp : Bluepad32) (slots : List Seat) :
    ∀ s : Sketch,
      ((∃ k ∈ slots, ∃ ctl, s.myControllers k = some ctl ∧ streams bp ctl = true) ∧
          (slots.foldl (noteSlot bp) s).xwcState = .active) ∨
        ((∀ k ∈ slots, ∀ ctl, s.myControllers k = some ctl → streams bp ctl = false) ∧
          (slots.foldl (noteSlot bp) s).xwcState = s.xwcState) := by
  induction slots with
  | nil => exact fun s => Or.inr ⟨by simp, rfl⟩
  | cons slot rest ih =>
    intro s
    obtain ⟨hkeep, hfirst⟩ := noteSlot_cases bp s slot
    have hrest := ih (noteSlot bp s slot)
    rw [hkeep] at hrest
    rcases hrest with ⟨⟨k, hk, hctl⟩, hxwc⟩ | ⟨hnone, hxwc⟩
    · exact Or.inl ⟨⟨k, List.mem_cons_of_mem slot hk, hctl⟩, hxwc⟩
    · rcases hfirst with ⟨hctl, hactive⟩ | ⟨hquiet, hsame⟩
      · exact Or.inl ⟨⟨slot, List.mem_cons_self, hctl⟩, hxwc.trans hactive⟩
      · refine Or.inr ⟨fun k hk => ?_, hxwc.trans hsame⟩
        rcases List.mem_cons.mp hk with rfl | hk
        · exact hquiet
        · exact hnone k hk

/-! ### The fetch -/

/-- What holds between the iterations: the slots seat the connected seats, and the flags say which
these are. -/
structure Settled (t : Tank) : Prop where
  seating : Seating t.bp32.prevConnected t.sketch.myControllers
  flags : ∀ i, (t.bp32.controllers i).connected = t.bp32.prevConnected i

/-- What the callbacks of an update leave, the bits not yet remembered. -/
theorem update_notified (tick : Tick) {t : Tank} (h : Settled t) :
    ∃ st : Bluepad32 × Sketch,
      Notified (fun i => (tick.status i).present) (t.bp32.receive tick.status) st ∧
      SlotChange Seat.all t.sketch st.2 ∧
      st.2.myControllers 0 = nextHolder t.bp32.prevConnected (fun i => (tick.status i).present)
        (t.sketch.myControllers 0) ∧
      (t.bp32.update onConnectedController (onDisconnectedController tick.failsafeClock) tick.status
        t.sketch).1 = ({ st.1 with prevConnected := fun i => (tick.status i).present }, st.2) := by
  have hreceive : ∀ i, ((t.bp32.receive tick.status).controllers i).connected =
      t.bp32.prevConnected i := by
    intro i
    rw [← h.flags i]
    show ((t.bp32.controllers i).receive i (tick.status i)).connected = _
    cases tick.status i <;> rfl
  have hstart : Notified t.bp32.prevConnected (t.bp32.receive tick.status)
      (t.bp32.receive tick.status, t.sketch) :=
    ⟨h.seating, hreceive, rfl, fun _ => rfl, fun _ => rfl⟩
  have hheld : ∀ c, t.sketch.myControllers 0 = some c → t.bp32.prevConnected c = true :=
    fun c hc => (h.seating.held c).mpr ⟨0, hc⟩
  have hholder := nextHolder_eq t.bp32.prevConnected (fun i => (tick.status i).present) hheld
  unfold Bluepad32.update
  by_cases hsame : ∀ i, (tick.status i).present = t.bp32.prevConnected i
  · have hbits : t.bp32.prevConnected = fun i => (tick.status i).present :=
      funext fun i => (hsame i).symm
    have hstays : nextHolder t.bp32.prevConnected (fun i => (tick.status i).present)
        (t.sketch.myControllers 0) = t.sketch.myControllers 0 :=
      nextHolder_same _ _ hsame hheld
    refine ⟨(t.bp32.receive tick.status, t.sketch), hbits ▸ hstart, .same rfl rfl, hstays.symm, ?_⟩
    have hprev : (t.bp32.receive tick.status).prevConnected = t.bp32.prevConnected := rfl
    simp only [hprev]
    rw [if_pos hsame, ← hbits]
    rfl
  · have hloop := hstart.foldl tick Seat.all (List.nodup_finRange _) fun _ _ => rfl
    simp only [Seat.mem_all, if_true] at hloop
    have hprev : (t.bp32.receive tick.status).prevConnected = t.bp32.prevConnected := rfl
    have hslot := foldl_holder tick Seat.all (t.bp32.receive tick.status, t.sketch)
    refine ⟨_, hloop, foldl_slotChange tick Seat.all (List.nodup_finRange _)
      (t.bp32.receive tick.status, t.sketch), hslot.trans hholder, ?_⟩
    simp only [hprev]
    rw [if_neg hsame]

/-- A seat that is present is known by its own index, and has what it delivers. -/
theorem receive_present {ctl : Seat} {status : DataStatus} (h : status.present = true)
    (c : Controller) :
    (c.receive ctl status).idx = ctl.val ∧ (c.receive ctl status).hasData = status.delivers := by
  cases status with
  | invalidDevice => cases h
  | noData => exact ⟨rfl, rfl⟩
  | success data => exact ⟨rfl, rfl⟩

/-- Among the seats in slots, seat 0 alone is taken for the driver, when it delivers. -/
theorem streams_iff {tick : Tick} {bp : Bluepad32} {st : Bluepad32 × Sketch}
    (h : Notified (fun i => (tick.status i).present) (bp.receive tick.status) st) {k ctl : Seat}
    (hctl : st.2.myControllers k = some ctl) :
    streams st.1 ctl = true ↔ ctl = 0 ∧ (tick.status 0).delivers = true := by
  have hpresent : (tick.status ctl).present = true := (h.seating.held ctl).mpr ⟨k, hctl⟩
  have hidx : (st.1.controllers ctl).idx = ctl.val := by
    rw [h.idx]
    exact (receive_present hpresent (bp.controllers ctl)).1
  have hdata : (st.1.controllers ctl).hasData = (tick.status ctl).delivers := by
    rw [h.hasData]
    exact (receive_present hpresent (bp.controllers ctl)).2
  unfold streams
  rw [h.flags, hpresent, hidx, hdata, Bool.true_and, Bool.and_eq_true, beq_iff_eq]
  constructor
  · rintro ⟨hdelivers, hzero⟩
    have hctl0 : ctl = 0 := Fin.ext (Int.natCast_eq_zero.mp hzero)
    exact ⟨hctl0, hctl0 ▸ hdelivers⟩
  · rintro ⟨rfl, hdelivers⟩
    exact ⟨hdelivers, rfl⟩

theorem update_dataUpdated {σ : Type} (onConnect onDisconnect : Seat → σ → σ)
    (status : Seat → DataStatus) (bp : Bluepad32) (s : σ) :
    (bp.update onConnect onDisconnect status s).2 = Seat.all.any fun i => (status i).delivers := by
  unfold Bluepad32.update
  simp only
  split <;> rfl

/-- The note that ends a fetch is taken when any seat delivers, and says something only when seat 0
does. -/
theorem note_after_update {tick : Tick} {bp : Bluepad32} {st : Bluepad32 × Sketch}
    (h : Notified (fun i => (tick.status i).present) (bp.receive tick.status) st) :
    (if (Seat.all.any fun i => (tick.status i).delivers) = true then processControllers st.1 st.2
        else st.2).xwcState =
      if (tick.status 0).delivers then .active else st.2.xwcState := by
  split
  · rw [processControllers_eq]
    rcases noteSlots_cases st.1 Seat.all st.2 with ⟨⟨k, -, ctl, hctl, hstreams⟩, hxwc⟩ | ⟨hnone, hxwc⟩
    · rw [hxwc, if_pos ((streams_iff h hctl).mp hstreams).2]
    · rw [hxwc, if_neg]
      intro hdelivers
      have hpresent : (tick.status 0).present = true := by
        cases hstatus : tick.status 0 <;> simp_all [DataStatus.delivers, DataStatus.present]
      obtain ⟨k, hk⟩ := (h.seating.held 0).mp hpresent
      have hquiet := hnone k (Seat.mem_all k) 0 hk
      rw [(streams_iff h hk).mpr ⟨rfl, hdelivers⟩] at hquiet
      exact absurd hquiet (by decide)
  · rename_i hany
    rw [if_neg]
    exact fun hdelivers => hany (List.any_eq_true.mpr ⟨0, Seat.mem_all 0, hdelivers⟩)

/-- The fetch is the update and, when a seat delivers, the note. -/
theorem fetchControllers_noted {tick : Tick} {t : Tank} {st : Bluepad32 × Sketch}
    (h : Notified (fun i => (tick.status i).present) (t.bp32.receive tick.status) st)
    (hupdate : (t.bp32.update onConnectedController (onDisconnectedController tick.failsafeClock)
      tick.status t.sketch).1 =
        ({ st.1 with prevConnected := fun i => (tick.status i).present }, st.2)) :
    (fetchControllers tick t).bp32 =
      { st.1 with prevConnected := fun i => (tick.status i).present } ∧
    (fetchControllers tick t).sketch.myControllers = st.2.myControllers ∧
    (fetchControllers tick t).sketch.xwcState =
      if (tick.status 0).delivers then .active else st.2.xwcState := by
  have hparts : fetchControllers tick t =
      { t with
        bp32 := { st.1 with prevConnected := fun i => (tick.status i).present }
        sketch := if (Seat.all.any fun i => (tick.status i).delivers) = true then
          processControllers st.1 st.2 else st.2 } := by
    unfold fetchControllers
    rw [← update_dataUpdated onConnectedController (onDisconnectedController tick.failsafeClock)
      tick.status t.bp32 t.sketch]
    simp only [hupdate]
    rfl
  rw [hparts]
  refine ⟨rfl, ?_, note_after_update h⟩
  simp only
  split
  · exact (processControllers_effect st.1 st.2).controllers
  · rfl

/-- The seat that the next update gives slot 0 to. -/
def Tank.nextHolder (t : Tank) (tick : Tick) : Option Seat :=
  MK1Tank.nextHolder t.bp32.prevConnected (fun i => (tick.status i).present)
    (t.sketch.myControllers 0)

/-- **What a fetch notes.**  A report of seat 0 is the driver's; without one the note follows what
became of slot 0. -/
theorem fetchControllers_spec (tick : Tick) {t : Tank} (h : Settled t) :
    Settled (fetchControllers tick t) ∧
    (∀ i, (fetchControllers tick t).bp32.prevConnected i = (tick.status i).present) ∧
    (fetchControllers tick t).sketch.myControllers 0 = t.nextHolder tick ∧
    (fetchControllers tick t).sketch.xwcState =
      if (tick.status 0).delivers then .active
      else if (fetchControllers tick t).sketch.myControllers 0 = t.sketch.myControllers 0 then
        t.sketch.xwcState
      else if (fetchControllers tick t).sketch.myControllers 0 = none then .disconnected
      else .connecting := by
  obtain ⟨st, hnotified, hchange, hholder, hupdate⟩ := update_notified tick h
  obtain ⟨hbp, hslots, hxwc⟩ := fetchControllers_noted hnotified hupdate
  refine ⟨⟨?_, ?_⟩, ?_, (congrFun hslots 0).trans hholder, ?_⟩
  · rw [hbp, hslots]
    exact hnotified.seating
  · rw [hbp]
    exact hnotified.flags
  · rw [hbp]
    exact fun _ => rfl
  · rw [hxwc, hslots, hchange.note]

/-! ### The pages

No page writes what is noted of the controller.
-/

section Pages

variable (env : TapEnv) (s : Sketch) (t : Tap)

@[simp] theorem handleTestToggleTap_xwcState : (handleTestToggleTap s).xwcState = s.xwcState := by
  unfold handleTestToggleTap
  split <;> rfl

@[simp] theorem performSaveAndExit_xwcState (oracle : FileOracle) (millis : UInt32) :
    (performSaveAndExit oracle millis s).xwcState = s.xwcState := by simp [performSaveAndExit]

@[simp] theorem confirmResetAll_xwcState : (confirmResetAll env s).xwcState = s.xwcState := by
  simp [confirmResetAll]

@[simp] theorem settingsReset_xwcState (d : Device) (p : Port) :
    (settingsReset env d p s).xwcState = s.xwcState := by simp [settingsReset]

@[simp] theorem enterDeepSleep_xwcState (now : SetterClock) :
    (enterDeepSleep now s).xwcState = s.xwcState := rfl

theorem toggleRow_xwcState (d : Device) : (toggleRow env s d).xwcState = s.xwcState := by
  unfold toggleRow
  split <;> rfl

theorem dispatchHubSelectTouch_xwcState :
    (dispatchHubSelectTouch env s t).xwcState = s.xwcState := by
  unfold dispatchHubSelectTouch
  split_ifs
  · simp
  · simp
  · rfl
  · simp
  · simp
  · rfl
  · simp
  · simp
  · simp
  · simp
  · split
    · split <;> rfl
    · rfl

theorem dispatchPortSelectTouch_xwcState :
    (dispatchPortSelectTouch env s t).xwcState = s.xwcState := by
  unfold dispatchPortSelectTouch
  cases s.ui.editCtx.selectedDevice <;> cases Port.all.find? fun p => t.within (portCell p) <;>
    split_ifs <;> simp

theorem dispatchCaptureTouch_xwcState :
    (dispatchCaptureTouch env s t).xwcState = s.xwcState := by
  unfold dispatchCaptureTouch
  split
  · split_ifs <;> simp
  · rfl

theorem dispatchSettingsTouch_xwcState :
    (dispatchSettingsTouch env s t).xwcState = s.xwcState := by
  unfold dispatchSettingsTouch
  split
  · unfold settingsTouch
    split_ifs <;> simp
  · rfl

theorem pageTouch_xwcState : (pageTouch env s t).xwcState = s.xwcState := by
  unfold pageTouch
  split
  · unfold dashboardTouch rowTap
    split_ifs <;> simp [toggleRow_xwcState]
  · rfl
  · rfl
  · exact dispatchHubSelectTouch_xwcState env s t
  · exact dispatchPortSelectTouch_xwcState env s t
  · exact dispatchCaptureTouch_xwcState env s t
  · exact dispatchSettingsTouch_xwcState env s t
  · unfold idleTouch
    split_ifs <;> rfl

end Pages

theorem afterTap_xwcState (tick : Tick) (t : Tank) :
    (afterTap tick t).xwcState = t.sketch.xwcState := by
  unfold afterTap
  split
  · exact pageTouch_xwcState _ _ _
  · rfl

theorem idleEntry_xwcState (millis : UInt32) (s : Sketch) :
    (idleEntry millis s).xwcState = s.xwcState := by
  unfold idleEntry
  split <;> rfl

theorem checkCapture_xwcState (bp : Bluepad32) (s : Sketch) :
    (checkCapture bp s).xwcState = s.xwcState := by
  unfold checkCapture
  split
  · rfl
  · simp only
    split
    · split <;> rfl
    · rfl

theorem pageTick_xwcState (tick : Tick) (bp : Bluepad32) (s : Sketch) :
    (pageTick tick bp s).1.xwcState = s.xwcState := by
  unfold pageTick
  split
  · unfold idleTick
    simp only
    split_ifs <;> simp
  · simp only
    split
    · rfl
    · exact checkCapture_xwcState bp s
  · rfl

theorem runPages_xwcState (tick : Tick) (t : Tank) :
    (runPages tick t).sketch.xwcState = t.sketch.xwcState := by
  rw [runPages_eq]
  exact (pageTick_xwcState _ _ _).trans ((idleEntry_xwcState _ _).trans (afterTap_xwcState _ _))

theorem sweepHeld_xwcState (tick : Tick) (t : Tank) :
    (sweepHeld tick t).sketch.xwcState = t.sketch.xwcState := by
  unfold sweepHeld
  split <;> rfl

/-- The iteration brings the idle screen up, or sends the tank to sleep. -/
def Interrupts (tick : Tick) (t : Tank) : Prop :=
  ((afterTap tick t).ui.currentPage ≠ .idle ∧
      (idleEntry tick.idleMillis (afterTap tick t)).ui.currentPage = .idle) ∨
    (runPages tick t).asleep = true

instance (tick : Tick) (t : Tank) : Decidable (Interrupts tick t) :=
  inferInstanceAs (Decidable (_ ∨ _))

/-- **Neither timer fires while the note says that the controller streams.** -/
theorem not_interrupts (tick : Tick) {t : Tank} (h : t.sketch.xwcState = .active) :
    ¬ Interrupts tick t := by
  have hactive : (afterTap tick t).xwcState = .active := (afterTap_xwcState tick t).trans h
  rintro (⟨hbefore, hafter⟩ | hasleep)
  · unfold idleEntry at hafter
    rw [if_neg fun hc => hc.2.1 hactive] at hafter
    exact hbefore hafter
  · rw [runPages_eq] at hasleep
    have hentry : (idleEntry tick.idleMillis (afterTap tick t)).xwcState = .active :=
      (idleEntry_xwcState _ _).trans hactive
    generalize idleEntry tick.idleMillis (afterTap tick t) = s at hasleep hentry
    simp only at hasleep
    unfold pageTick at hasleep
    split at hasleep
    · unfold idleTick at hasleep
      rw [if_pos hentry] at hasleep
      exact absurd hasleep Bool.false_ne_true
    · exact absurd hasleep Bool.false_ne_true
    · exact absurd hasleep Bool.false_ne_true

/-! ### What the seats have delivered -/

/-- The firmware, and beside it which seats have delivered a report since they connected, and whether
seat 0 has delivered one since slot 0 last changed hands. -/
structure SeatWatch where
  tank : Tank
  heard : Seat → Bool
  zeroHeard : Bool

def SeatWatch.boot (config : MkhConfig) (files : Files Path) : SeatWatch where
  tank := .boot config files
  heard _ := false
  zeroHeard := false

/-- Both notes go by the outcomes of the update and by who gets slot 0 in it. -/
def SeatWatch.step (w : SeatWatch) (step : TankStep) : SeatWatch where
  tank := w.tank.step step
  heard := match step with
    | .loop tick =>
      if w.tank.asleep then w.heard
      else fun i => (tick.status i).present && (w.heard i || (tick.status i).delivers)
    | .btstack _ => w.heard
  zeroHeard := match step with
    | .loop tick =>
      if w.tank.asleep then w.zeroHeard
      else (tick.status 0).delivers ||
        (w.zeroHeard && w.tank.nextHolder tick == w.tank.sketch.myControllers 0)
    | .btstack _ => w.zeroHeard

/-- The controller in slot 0 has delivered a report since it connected. -/
def SeatWatch.driving (w : SeatWatch) : Prop :=
  ∃ ctl, w.tank.sketch.myControllers 0 = some ctl ∧ w.heard ctl = true

/-- The note agrees with slot 0. -/
structure SeatWatch.NoteAgrees (w : SeatWatch) : Prop where
  active : w.driving → w.tank.sketch.xwcState = .active
  disconnected : w.tank.sketch.myControllers 0 = none → w.tank.sketch.xwcState = .disconnected

/-- The condition on an update: seat 0 delivers nothing when slot 0 is nobody's, and a controller on
another seat that has slot 0 delivers its first report with or after one of seat 0, of the time that it
has had the slot. -/
def ZeroGoesFirst (w : SeatWatch) : TankStep → Prop
  | .btstack _ => True
  | .loop tick => w.tank.asleep = false →
    match w.tank.nextHolder tick with
    | none => (tick.status 0).delivers = false
    | some c => c ≠ 0 → w.heard c = false → (tick.status c).delivers = true →
      (tick.status 0).delivers = true ∨
        (w.tank.sketch.myControllers 0 = some c ∧ w.zeroHeard = true)

/-- What holds between the steps of every run. -/
structure SeatWatch.Inv (w : SeatWatch) : Prop where
  settled : Settled w.tank
  heard : ∀ i, w.heard i = true → w.tank.bp32.prevConnected i = true
  note : w.tank.sketch.xwcState =
    if w.zeroHeard then .active
    else if w.tank.sketch.myControllers 0 = none then .disconnected else .connecting

/-- The note goes by seat 0. -/
theorem SeatWatch.Inv.active_iff {w : SeatWatch} (h : w.Inv) :
    w.tank.sketch.xwcState = .active ↔ w.zeroHeard = true := by
  rw [h.note]
  split_ifs with hzero <;> simp [hzero]

theorem SeatWatch.Inv.disconnected_iff {w : SeatWatch} (h : w.Inv)
    (hempty : w.tank.sketch.myControllers 0 = none) :
    w.tank.sketch.xwcState = .disconnected ↔ w.zeroHeard = false := by
  rw [h.note, if_pos hempty]
  split_ifs with hzero <;> simp [hzero]

theorem seatWatch_inv_boot (config : MkhConfig) (files : Files Path) :
    (SeatWatch.boot config files).Inv := by
  refine ⟨⟨⟨fun i => ?_, fun k k' i hk _ => ?_⟩, fun i => rfl⟩, fun i hi => ?_, rfl⟩
  · exact ⟨fun h => absurd h Bool.false_ne_true, fun ⟨k, hk⟩ => absurd hk (by
      show ¬ (none : Option Seat) = some i
      simp)⟩
  · exact absurd hk (by
      show ¬ (none : Option Seat) = some i
      simp)
  · exact absurd hi Bool.false_ne_true

/-- After the fetch no part of an iteration touches the seats' bookkeeping. -/
theorem loop_fetched {t : Tank} (hawake : t.asleep = false) (tick : Tick) :
    (t.step (.loop tick)).bp32 = (fetchControllers tick t).bp32 ∧
      (t.step (.loop tick)).sketch.myControllers =
        (fetchControllers tick t).sketch.myControllers ∧
      (t.step (.loop tick)).sketch.xwcState = (fetchControllers tick t).sketch.xwcState := by
  have hloop : t.step (.loop tick) = runPages tick (sweepHeld tick (fetchControllers tick t)) := by
    show loop t tick = _
    unfold loop
    rw [if_neg (by simp [hawake])]
  rw [hloop]
  refine ⟨?_, ?_, ?_⟩
  · rw [runPages_bp32]
    unfold sweepHeld
    split <;> rfl
  · rw [(runPages_effect tick _).controllers, sweepHeld_controllers]
  · rw [runPages_xwcState, sweepHeld_xwcState]

theorem loop_asleep {t : Tank} (hasleep : t.asleep = true) (tick : Tick) :
    t.step (.loop tick) = t := by
  show loop t tick = t
  unfold loop
  rw [if_pos hasleep]

/-- An iteration of a tank that is awake, as the watch sees it. -/
theorem SeatWatch.loop_awake {w : SeatWatch} (hawake : w.tank.asleep = false) (tick : Tick) :
    (w.step (.loop tick)).heard =
      (fun i => (tick.status i).present && (w.heard i || (tick.status i).delivers)) ∧
    (w.step (.loop tick)).zeroHeard = ((tick.status 0).delivers ||
      (w.zeroHeard && w.tank.nextHolder tick == w.tank.sketch.myControllers 0)) := by
  unfold SeatWatch.step
  simp only [hawake, Bool.false_eq_true, if_false]
  exact ⟨trivial, trivial⟩

theorem SeatWatch.loop_asleep {w : SeatWatch} (hasleep : w.tank.asleep = true) (tick : Tick) :
    w.step (.loop tick) = w := by
  unfold SeatWatch.step
  rw [MK1Tank.loop_asleep hasleep]
  simp only [hasleep, if_true]

theorem SeatWatch.Inv.holder {w : SeatWatch} (h : w.Inv) (hawake : w.tank.asleep = false)
    (tick : Tick) :
    (w.step (.loop tick)).tank.sketch.myControllers 0 = w.tank.nextHolder tick := by
  obtain ⟨-, -, hholder, -⟩ := fetchControllers_spec tick h.settled
  exact (congrFun (loop_fetched hawake tick).2.1 0).trans hholder

theorem SeatWatch.Inv.step {w : SeatWatch} (h : w.Inv) (step : TankStep) : (w.step step).Inv := by
  cases step with
  | btstack step => exact ⟨⟨h.settled.seating, h.settled.flags⟩, h.heard, h.note⟩
  | loop tick =>
    cases hasleep : w.tank.asleep with
    | true =>
      rw [SeatWatch.loop_asleep hasleep]
      exact h
    | false =>
      obtain ⟨hsettled, hprev, hholder, hnote⟩ := fetchControllers_spec tick h.settled
      obtain ⟨hbp, hslots, hxwc⟩ := loop_fetched hasleep tick
      obtain ⟨hheard, hzero⟩ := SeatWatch.loop_awake hasleep tick
      have htank : (w.step (.loop tick)).tank = w.tank.step (.loop tick) := rfl
      refine ⟨⟨?_, ?_⟩, fun i hi => ?_, ?_⟩
      · rw [htank, hbp, hslots]
        exact hsettled.seating
      · rw [htank, hbp]
        exact hsettled.flags
      · rw [hheard] at hi
        rw [htank, hbp, hprev]
        exact (Bool.and_eq_true_iff.mp hi).1
      · rw [htank, hxwc, hslots, hnote, hzero, h.note, hholder]
        by_cases hdelivers : (tick.status 0).delivers = true
        · simp [hdelivers]
        · by_cases hsame : w.tank.nextHolder tick = w.tank.sketch.myControllers 0
          · simp [hdelivers, hsame]
          · simp [hdelivers, hsame]

/-! ### One step -/

/-- A seat that delivers is present. -/
theorem present_of_delivers {status : DataStatus} (h : status.delivers = true) :
    status.present = true := by
  cases status with
  | invalidDevice => cases h
  | noData => rfl
  | success data => rfl

/-- A step that meets the condition keeps the agreement. -/
theorem noteAgrees_step {w : SeatWatch} (h : w.Inv) (hagrees : w.NoteAgrees) {step : TankStep}
    (hok : ZeroGoesFirst w step) : (w.step step).NoteAgrees := by
  cases step with
  | btstack step => exact ⟨hagrees.active, hagrees.disconnected⟩
  | loop tick =>
    cases hasleep : w.tank.asleep with
    | true =>
      rw [SeatWatch.loop_asleep hasleep]
      exact hagrees
    | false =>
      have hnext := h.step (.loop tick)
      have hholder := h.holder hasleep tick
      obtain ⟨hheard, hzero⟩ := SeatWatch.loop_awake hasleep tick
      have hcond := hok hasleep
      constructor
      · rintro ⟨c, hc, hheardc⟩
        rw [hholder] at hc
        rw [hnext.active_iff, hzero]
        rw [hc] at hcond
        simp only [hheard, Bool.and_eq_true, Bool.or_eq_true] at hheardc
        obtain ⟨-, hheardc⟩ := hheardc
        by_cases hwas : w.heard c = true
        · -- The driver goes on driving.
          have hheld : w.tank.sketch.myControllers 0 = some c := by
            by_contra hnew
            have hprev := nextHolder_new _ _ hc hnew
            rw [h.heard c hwas] at hprev
            exact absurd hprev (by decide)
          have hactive := h.active_iff.mp (hagrees.active ⟨c, hheld, hwas⟩)
          simp [hactive, hc, hheld]
        · have hdelivers := hheardc.resolve_left hwas
          by_cases hc0 : c = 0
          · rw [← hc0, hdelivers, Bool.true_or]
          · rcases hcond hc0 (Bool.not_eq_true _ ▸ hwas) hdelivers with hzero0 | ⟨hheld, hzero0⟩
            · rw [hzero0, Bool.true_or]
            · simp [hzero0, hc, hheld]
      · intro hempty
        rw [hnext.disconnected_iff hempty, hzero]
        rw [hholder] at hempty
        rw [hempty] at hcond
        by_cases hwas : w.tank.sketch.myControllers 0 = none
        · simp [hcond, (h.disconnected_iff hwas).mp (hagrees.disconnected hwas)]
        · have hleft : (none == w.tank.sketch.myControllers 0) = false := by
            simpa using Ne.symm hwas
          rw [hcond, hempty, hleft, Bool.and_false, Bool.false_or]

/-- A step that does not meet it breaks the agreement. -/
theorem not_noteAgrees_step {w : SeatWatch} (h : w.Inv) {step : TankStep}
    (hnot : ¬ ZeroGoesFirst w step) : ¬ (w.step step).NoteAgrees := by
  cases step with
  | btstack step => exact absurd trivial hnot
  | loop tick =>
    obtain ⟨hawake, hcond⟩ := Classical.not_imp.mp hnot
    have hnext := h.step (.loop tick)
    have hholder := h.holder hawake tick
    obtain ⟨hheard, hzero⟩ := SeatWatch.loop_awake hawake tick
    intro hagrees
    cases hc : w.tank.nextHolder tick with
    | none =>
      rw [hc] at hcond hholder
      have hquiet := (hnext.disconnected_iff hholder).mp (hagrees.disconnected hholder)
      rw [hzero] at hquiet
      exact hcond (Bool.or_eq_false_iff.mp hquiet).1
    | some c =>
      rw [hc] at hcond hholder
      simp only [Classical.not_imp, not_or, not_and] at hcond
      obtain ⟨-, -, hdelivers, hquiet, hlate⟩ := hcond
      have hdriving : (w.step (.loop tick)).driving := by
        refine ⟨c, hholder, ?_⟩
        simp [hheard, hdelivers, present_of_delivers hdelivers]
      have hactive := hnext.active_iff.mp (hagrees.active hdriving)
      rw [hzero, hc] at hactive
      simp only [Bool.or_eq_true, Bool.and_eq_true, beq_iff_eq] at hactive
      obtain ⟨hwas, hheld⟩ := hactive.resolve_left hquiet
      exact hlate hheld.symm hwas

/-! ### Runs -/

/-- In every state of the run the note agrees with slot 0, and no iteration interrupts a driver. -/
structure DriverAwake (w : SeatWatch) (steps : List TankStep) : Prop where
  note : ∀ front back, steps = front ++ back → (after SeatWatch.step w front).NoteAgrees
  uninterrupted : ∀ front tick back, steps = front ++ .loop tick :: back →
    (after SeatWatch.step w front).tank.asleep = false →
    Interrupts tick (sweepHeld tick (fetchControllers tick (after SeatWatch.step w front).tank)) →
    ¬ ((after SeatWatch.step w front).step (.loop tick)).driving

/-- **The driver is not interrupted** in exactly the runs in which seat 0 delivers nothing while slot 0
is nobody's, and goes first whenever slot 0 is another seat's. -/
theorem driver_awake_iff (config : MkhConfig) (files : Files Path) (steps : List TankStep) :
    DriverAwake (.boot config files) steps ↔
      Meets SeatWatch.step ZeroGoesFirst (.boot config files) steps := by
  have hboot : (SeatWatch.boot config files).Inv ∧ (SeatWatch.boot config files).NoteAgrees := by
    refine ⟨seatWatch_inv_boot config files, fun ⟨ctl, hctl, _⟩ => ?_, fun _ => rfl⟩
    exact absurd (show (none : Option Seat) = some ctl from hctl) (by simp)
  have hstep : ∀ (w : SeatWatch) (step : TankStep), w.Inv ∧ w.NoteAgrees → ZeroGoesFirst w step →
      (w.step step).Inv ∧ (w.step step).NoteAgrees :=
    fun w step hw hok => ⟨hw.1.step step, noteAgrees_step hw.1 hw.2 hok⟩
  have hnote := always_iff_meets (P := SeatWatch.NoteAgrees) hstep (fun w hw => hw.2)
    (fun w step hw hnot => not_noteAgrees_step hw.1 hnot) steps _ hboot
  refine ⟨fun h => hnote.mp h.note, fun h => ⟨hnote.mpr h, ?_⟩⟩
  intro front tick back hsplit hawake hinterrupts hdriving
  have hagrees := hnote.mpr h (front ++ [.loop tick]) back (by rw [hsplit]; simp)
  rw [after_append, after_cons, after_nil] at hagrees
  have hactive := hagrees.active hdriving
  refine not_interrupts tick ?_ hinterrupts
  rw [sweepHeld_xwcState]
  exact (loop_fetched hawake tick).2.2.symm.trans hactive

/-! ### At a stick's length -/

/-- An iteration in which a controller on seat 1 holds its stick forward. -/
def seatOneForward (tap : Option Tap) (idleMillis : UInt32) : Tick :=
  { tickOf .invalidDevice tap with
    status := fun i => if i = 1 then .success (stickReport (-512)) else .invalidDevice
    idleMillis := idleMillis }

/-- Of two controllers the first leaves before the update that shows them.  The other takes slot 0 and
drives; the dashboard comes up, half a minute later the idle screen, and ten minutes later deep sleep. -/
def seatOneDrives : List TankStep :=
  [.loop (seatOneForward (some ⟨0, 0⟩) 0), .loop (seatOneForward none 30000)]

theorem driver_sent_to_sleep :
    ¬ ∀ config files steps, DriverAwake (.boot config files) steps := by
  intro hall
  have hsleeps := (hall stickConfig (fun _ => none)
    (seatOneDrives ++ [.loop (seatOneForward none 630000)])).uninterrupted seatOneDrives
      (seatOneForward none 630000) [] rfl (by decide +kernel) (by decide +kernel)
  exact hsleeps ⟨1, by decide +kernel, by decide +kernel⟩

end MK1Tank
