/-
A hub's way out of rotation, and back.

Four of the broadcaster's tables hold something of each hub: whether it is in
rotation, how many services its OFF still waits for, whether a tap on its row is
locked out.  Together they only ever say one of three things.  The hub is off; or it
is on; or it is leaving, with one, two or three services to go.  `HubPhase` is that
machine, and every step of the broadcaster is one step of it for every hub.  What
the toggles promise is read off the machine.
-/
import MK1Tank.Proofs.Rotation

namespace MK1Tank

/-! ### The machine -/

inductive HubPhase where
  | off
  | on
  /-- Out after `more` services and one. -/
  | leaving (more : Fin mkhOffGraceServices)
deriving DecidableEq

/-- What a step is to one hub. -/
inductive HubEvent where
  | turnOff
  | turnOn
  /-- A tick served the hub. -/
  | service
  | other
deriving DecidableEq

namespace HubPhase

def step : HubPhase → HubEvent → HubPhase
  | .on, .turnOff => .leaving (Fin.last 2)
  | _, .turnOn => .on
  | .leaving more, .service => if h : (more : Nat) = 0 then .off else .leaving ⟨more - 1, by omega⟩
  | ph, _ => ph

/-- `mkh_device_active`. -/
def active : HubPhase → Bool
  | .off => false
  | _ => true

/-- `mkh_pending_off_services`. -/
def pending : HubPhase → Nat
  | .leaving more => more + 1
  | _ => 0

/-- `mkh_device_transitioning`. -/
def transitioning : HubPhase → Bool
  | .leaving _ => true
  | _ => false

@[simp] theorem step_other (ph : HubPhase) : ph.step .other = ph := by cases ph <;> rfl

theorem transitioning_iff (ph : HubPhase) : ph.transitioning = true ↔ 0 < ph.pending := by
  cases ph <;> simp [transitioning, pending]

theorem pending_le (ph : HubPhase) : ph.pending ≤ mkhOffGraceServices := by
  cases ph with
  | leaving more => exact more.isLt
  | off => exact Nat.zero_le _
  | on => exact Nat.zero_le _

/-- A hub that is not on only counts down, unless it is turned on. -/
theorem step_not_on {ph : HubPhase} {e : HubEvent} (h : ph ≠ .on) (he : e ≠ .turnOn) :
    ph.step e ≠ .on ∧
      (ph.step e).pending = ph.pending - if e = .service then 1 else 0 := by
  cases ph with
  | on => exact absurd rfl h
  | off => cases e <;> simp_all [step, pending]
  | leaving more =>
    cases e with
    | turnOn => exact absurd rfl he
    | turnOff => simp [step, pending]
    | other => simp [step, pending]
    | service =>
      by_cases hlast : (more : Nat) = 0
      · simp [step, pending, hlast]
      · simp [step, pending, hlast]
        omega

/-- A hub that is on stays on, unless it is turned off. -/
theorem step_on {e : HubEvent} (he : e ≠ .turnOff) : HubPhase.on.step e = .on := by
  cases e with
  | turnOff => exact absurd rfl he
  | turnOn => rfl
  | service => rfl
  | other => rfl

theorem active_iff_pending {ph : HubPhase} (h : ph ≠ .on) :
    ph.active = true ↔ 0 < ph.pending := by
  cases ph with
  | on => exact absurd rfl h
  | off => simp [active, pending]
  | leaving more => simp [active, pending]

theorem active_of_pending {ph : HubPhase} (h : 0 < ph.pending) : ph.active = true := by
  cases ph with
  | leaving more => rfl
  | off => exact absurd h (Nat.lt_irrefl 0)
  | on => rfl

end HubPhase

/-! ### The broadcaster is the machine, for every hub -/

/-- The tables say that the hub is in that phase. -/
structure InPhase (s : Broadcast) (d : Device) (ph : HubPhase) : Prop where
  active : s.deviceActive d = ph.active
  pending : s.pendingOffServices d = ph.pending
  transitioning : s.deviceTransitioning d = ph.transitioning

/-- What the step is to the hub.  The third hub cannot be turned on. -/
def hubEvent (d : Device) (s : Broadcast) : BroadcastStep → HubEvent
  | .toggleOff deviceId _ => if Device.ofId? deviceId = some d then .turnOff else .other
  | .toggleOn deviceId _ =>
    if Device.ofId? deviceId = some d ∧ (d : Nat) < mkhTimeSliceNumDevices then .turnOn else .other
  | .controlTick => if servedBy s = some d then .service else .other
  | _ => .other

/-- The phase `mkh_broadcast_init` starts the hub in. -/
def HubPhase.start (d : Device) : HubPhase := if (d : Nat) < mkhTimeSliceNumDevices then .on else .off

theorem inPhase_init (d : Device) : InPhase mkhBroadcastInit d (HubPhase.start d) := by
  unfold HubPhase.start
  split
  · rename_i hd
    exact ⟨decide_eq_true hd, rfl, rfl⟩
  · rename_i hd
    exact ⟨decide_eq_false hd, rfl, rfl⟩

section Simulation

variable {s : Broadcast} {d : Device} {ph : HubPhase}

theorem InPhase.of_eq {s' : Broadcast} (h : InPhase s d ph)
    (hactive : s'.deviceActive d = s.deviceActive d)
    (hpending : s'.pendingOffServices d = s.pendingOffServices d)
    (htransitioning : s'.deviceTransitioning d = s.deviceTransitioning d) : InPhase s' d ph where
  active := hactive.trans h.active
  pending := hpending.trans h.pending
  transitioning := htransitioning.trans h.transitioning

theorem InPhase.of_frame {s' : Broadcast} (h : InPhase s d ph) (hframe : SetterFrame s s') :
    InPhase s' d ph :=
  h.of_eq (congrFun hframe.deviceActive d) (congrFun hframe.pendingOffServices d)
    (congrFun hframe.deviceTransitioning d)

/-- A hub that is off or leaving does not answer to a toggle-off. -/
theorem mkhBroadcastToggleOff_refused {deviceId : Int} (now : Port → Int)
    (hid : Device.ofId? deviceId = some d)
    (h : ¬ (s.deviceActive d = true ∧ s.pendingOffServices d = 0)) :
    mkhBroadcastToggleOff s deviceId now = s := by
  rcases mkhBroadcastToggleOff_cases s deviceId now with heq | ⟨d', hid', hactive, hpending, -⟩
  · exact heq
  · obtain rfl : d' = d := Option.some.inj (hid'.symm.trans hid)
    exact absurd ⟨hactive, hpending⟩ h

/-- A hub that is on and not leaving does not answer to a toggle-on. -/
theorem mkhBroadcastToggleOn_refused {deviceId : Int} (now : Port → Int)
    (hid : Device.ofId? deviceId = some d)
    (h : s.deviceActive d = true ∧ s.pendingOffServices d = 0) :
    mkhBroadcastToggleOn s deviceId now = s := by
  rcases mkhBroadcastToggleOn_cases s deviceId now with heq | ⟨d', hid', -, hoff, -⟩
  · exact heq
  · obtain rfl : d' = d := Option.some.inj (hid'.symm.trans hid)
    exact absurd h hoff

/-- What a toggle-off of one hub is to every hub. -/
theorem inPhase_toggleOff (h : InPhase s d ph) (deviceId : Int) (now : Port → Int) :
    InPhase (mkhBroadcastToggleOff s deviceId now) d
      (ph.step (hubEvent d s (.toggleOff deviceId now))) := by
  rcases mkhBroadcastToggleOff_cases s deviceId now with heq | ⟨d', hid, hactive, hpending, t, ht, -, heq⟩
  · -- Nothing was done: the id is another's, or the hub is off or leaving.
    rw [heq]
    by_cases hid : Device.ofId? deviceId = some d
    · have hrefused : ¬ (s.deviceActive d = true ∧ s.pendingOffServices d = 0) := by
        rintro ⟨hactive, hpending⟩
        have haccepts := mkhBroadcastToggleOff_accepts now hactive hpending
        have hself : mkhBroadcastToggleOff s d.val now = mkhBroadcastToggleOff s deviceId now := by
          simp [mkhBroadcastToggleOff, hid]
        rw [hself, heq, hpending] at haccepts
        exact absurd haccepts (by decide)
      rw [hubEvent, if_pos hid]
      cases ph with
      | on => exact absurd ⟨h.active, h.pending⟩ hrefused
      | off => exact h
      | leaving more => exact h
    · rw [hubEvent, if_neg hid, HubPhase.step_other]
      exact h
  · rw [heq]
    by_cases hd : d' = d
    · subst hd
      have hon : ph = .on := by
        cases ph with
        | on => rfl
        | off => exact absurd (hactive.symm.trans h.active) (by decide)
        | leaving more => exact absurd (hpending.symm.trans h.pending) (by simp [HubPhase.pending])
      rw [hubEvent, if_pos hid, hon]
      refine ⟨?_, Function.update_self .., ?_⟩
      · exact (congrFun ht.deviceActive d').trans hactive
      · exact (congrFun ht.deviceTransitioning d').trans (Function.update_self ..)
    · have hid' : ¬ Device.ofId? deviceId = some d := by
        intro hc
        exact hd (Option.some.inj (hid.symm.trans hc))
      have hne : d ≠ d' := fun hc => hd hc.symm
      rw [hubEvent, if_neg hid', HubPhase.step_other]
      refine h.of_eq (congrFun ht.deviceActive d) ?_ ?_
      · exact (Function.update_of_ne hne ..).trans (congrFun ht.pendingOffServices d)
      · exact (congrFun ht.deviceTransitioning d).trans (Function.update_of_ne hne ..)

/-- What a toggle-on of one hub is to every hub. -/
theorem inPhase_toggleOn (h : InPhase s d ph) (deviceId : Int) (now : Port → Int) :
    InPhase (mkhBroadcastToggleOn s deviceId now) d
      (ph.step (hubEvent d s (.toggleOn deviceId now))) := by
  rcases mkhBroadcastToggleOn_cases s deviceId now with heq | ⟨d', hid, hlt, -, t, ht, -, heq⟩
  · -- Nothing was done: the id is another's, or the hub is parked, or on already.
    rw [heq]
    by_cases hc : Device.ofId? deviceId = some d ∧ (d : Nat) < mkhTimeSliceNumDevices
    · have hself : mkhBroadcastToggleOn s d.val now = mkhBroadcastToggleOn s deviceId now := by
        unfold mkhBroadcastToggleOn
        rw [hc.1, Device.ofId?_coe]
      have hon := mkhBroadcastToggleOn_on s now hc.2
      rw [hself, heq, h.active, h.pending] at hon
      rw [hubEvent, if_pos hc]
      cases ph with
      | on => exact h
      | off => exact absurd hon.1 (by decide)
      | leaving more => exact absurd hon.2 (by simp [HubPhase.pending])
    · rw [hubEvent, if_neg hc, HubPhase.step_other]
      exact h
  · by_cases hd : d' = d
    · subst hd
      have hturnOn : ph.step .turnOn = .on := by cases ph <;> rfl
      rw [heq, hubEvent, if_pos ⟨hid, hlt⟩, hturnOn]
      refine ⟨Function.update_self .., ?_, Function.update_self ..⟩
      exact (congrFun ht.pendingOffServices d').trans (Function.update_self ..)
    · have hid' : ¬ (Device.ofId? deviceId = some d ∧ (d : Nat) < mkhTimeSliceNumDevices) := by
        rintro ⟨hc, -⟩
        exact hd (Option.some.inj (hid.symm.trans hc))
      have hne : d ≠ d' := fun hc => hd hc.symm
      rw [heq, hubEvent, if_neg hid', HubPhase.step_other]
      refine h.of_eq ?_ ?_ ?_
      · exact (Function.update_of_ne hne ..).trans (congrFun ht.deviceActive d)
      · exact (congrFun ht.pendingOffServices d).trans (Function.update_of_ne hne ..)
      · exact (Function.update_of_ne hne ..).trans
          ((congrFun ht.deviceTransitioning d).trans (Function.update_of_ne hne ..))

/-- What a tick is to every hub. -/
theorem inPhase_controlTick (h : InPhase s d ph) :
    InPhase (controlTimer s) d (ph.step (hubEvent d s .controlTick)) := by
  rcases controlTimer_cases s with ⟨hnone, heq⟩ | ⟨d', hserved, hactive, hcase⟩
  · rw [heq, hubEvent, hnone, if_neg (by simp), HubPhase.step_other]
    exact h
  · by_cases hd : d' = d
    · subst hd
      rw [hubEvent, if_pos hserved]
      rcases hcase with ⟨hmore, heq⟩ | ⟨hlast, heq⟩
      · rw [heq]
        cases ph with
        | off => exact absurd (hactive.symm.trans h.active) (by decide)
        | on => exact ⟨h.active, by simp [setPendingOffServices, h.pending, HubPhase.pending,
            HubPhase.step], h.transitioning⟩
        | leaving more =>
          have hpending : s.pendingOffServices d' = more + 1 := h.pending
          have hne : (more : Nat) ≠ 0 := by omega
          rw [HubPhase.step, dif_neg hne]
          refine ⟨h.active, ?_, h.transitioning⟩
          show Function.update s.pendingOffServices d' (s.pendingOffServices d' - 1) d' = more - 1 + 1
          rw [Function.update_self]
          omega
      · rw [heq]
        cases ph with
        | off => exact absurd (hactive.symm.trans h.active) (by decide)
        | on => exact absurd (hlast.symm.trans h.pending) (by decide)
        | leaving more =>
          have hpending : s.pendingOffServices d' = more + 1 := h.pending
          have hzero : (more : Nat) = 0 := by omega
          rw [HubPhase.step, dif_pos hzero]
          exact ⟨Function.update_self .., Function.update_self .., Function.update_self ..⟩
    · have hne : d ≠ d' := fun hc => hd hc.symm
      rw [hubEvent, if_neg (by rw [hserved]; simpa using hd), HubPhase.step_other]
      rcases hcase with ⟨-, heq⟩ | ⟨-, heq⟩
      · rw [heq]
        exact h.of_eq rfl (Function.update_of_ne hne ..) rfl
      · rw [heq]
        exact h.of_eq (Function.update_of_ne hne ..) (Function.update_of_ne hne ..)
          (Function.update_of_ne hne ..)

/-- **Every step of the broadcaster is a step of the machine**, for every hub. -/
theorem inPhase_step (i : BroadcastStep) (h : InPhase s d ph) :
    InPhase (s.step i) d (ph.step (hubEvent d s i)) := by
  cases i with
  | stateWorking =>
    show InPhase (btstackEventState s) d (ph.step .other)
    rw [HubPhase.step_other]
    rcases btstackEventState_cases s with ⟨-, heq⟩ | ⟨-, heq⟩ <;> rw [heq]
    · exact h
    · exact h.of_eq rfl rfl rfl
  | setChannel deviceId port value now =>
    show InPhase (mkhSetChannel s deviceId port value now) d (ph.step .other)
    rw [HubPhase.step_other]
    exact h.of_frame (mkhSetChannel_frame s deviceId port value now)
  | toggleOff deviceId now => exact inPhase_toggleOff h deviceId now
  | toggleOn deviceId now => exact inPhase_toggleOn h deviceId now
  | controlTick => exact inPhase_controlTick h
  | runCallback =>
    show InPhase (runLoopCallback s) d (ph.step .other)
    rw [HubPhase.step_other]
    rcases runLoopCallback_cases s with ⟨-, heq⟩ | ⟨_, _, -, heq⟩ <;> rw [heq]
    · exact h
    · exact h.of_eq rfl rfl rfl

end Simulation

/-- The phase a run leaves the hub in. -/
theorem inPhase_run {s : Broadcast} {d : Device} {ph : HubPhase} (h : InPhase s d ph)
    (steps : List BroadcastStep) :
    InPhase (Runs.after Broadcast.step s steps) d
      (Runs.after HubPhase.step ph (Runs.trace Broadcast.step (hubEvent d) s steps)) := by
  have hsim : ∀ s i ph, (fun s ph => InPhase s d ph) s ph →
      (fun s ph => InPhase s d ph) (s.step i) (ph.step (hubEvent d s i)) :=
    fun _ i _ h => inPhase_step i h
  exact Runs.simulates hsim steps h

/-- Every reachable state has every hub in some phase. -/
theorem exists_inPhase (steps : List BroadcastStep) (d : Device) :
    ∃ ph, InPhase (broadcastAfter steps) d ph :=
  ⟨_, inPhase_run (inPhase_init d) steps⟩

/-! ### Runs between two toggles -/

/-- How many ticks of the run serve the hub. -/
def servicesOf (d : Device) (s : Broadcast) (steps : List BroadcastStep) : Nat :=
  (Runs.trace Broadcast.step (hubEvent d) s steps).count .service

/-- The step asks for the hub's toggle-off. -/
def turnsOff (d : Device) : BroadcastStep → Bool
  | .toggleOff deviceId _ => Device.ofId? deviceId = some d
  | _ => false

/-- The step asks for the hub's toggle-on. -/
def turnsOn (d : Device) : BroadcastStep → Bool
  | .toggleOn deviceId _ => Device.ofId? deviceId = some d
  | _ => false

/-- Where each event comes from. -/
theorem hubEvent_cases (d : Device) (s : Broadcast) (i : BroadcastStep) :
    (hubEvent d s i = .turnOff ∧ turnsOff d i = true) ∨
    (hubEvent d s i = .turnOn ∧ turnsOn d i = true ∧ (d : Nat) < mkhTimeSliceNumDevices) ∨
    (hubEvent d s i = .service ∧ i = .controlTick ∧ servedBy s = some d) ∨
    hubEvent d s i = .other := by
  cases i with
  | toggleOff deviceId now =>
    simp only [hubEvent, turnsOff]
    split
    · rename_i hid
      exact Or.inl ⟨rfl, decide_eq_true hid⟩
    · exact Or.inr (Or.inr (Or.inr rfl))
  | toggleOn deviceId now =>
    simp only [hubEvent, turnsOn]
    split
    · rename_i hid
      exact Or.inr (Or.inl ⟨rfl, decide_eq_true hid.1, hid.2⟩)
    · exact Or.inr (Or.inr (Or.inr rfl))
  | controlTick =>
    simp only [hubEvent]
    split
    · rename_i hserved
      exact Or.inr (Or.inr (Or.inl ⟨rfl, trivial, hserved⟩))
    · exact Or.inr (Or.inr (Or.inr rfl))
  | stateWorking => exact Or.inr (Or.inr (Or.inr rfl))
  | setChannel => exact Or.inr (Or.inr (Or.inr rfl))
  | runCallback => exact Or.inr (Or.inr (Or.inr rfl))

theorem hubEvent_ne_turnOff {d : Device} {s : Broadcast} {i : BroadcastStep}
    (h : turnsOff d i = false) : hubEvent d s i ≠ .turnOff := by
  rcases hubEvent_cases d s i with ⟨-, hoff⟩ | ⟨heq, -⟩ | ⟨heq, -⟩ | heq
  · exact absurd (h.symm.trans hoff) Bool.false_ne_true
  all_goals simp [heq]

theorem hubEvent_ne_turnOn {d : Device} {s : Broadcast} {i : BroadcastStep}
    (h : turnsOn d i = false) : hubEvent d s i ≠ .turnOn := by
  rcases hubEvent_cases d s i with ⟨heq, -⟩ | ⟨-, hon, -⟩ | ⟨heq, -⟩ | heq
  · simp [heq]
  · exact absurd (h.symm.trans hon) Bool.false_ne_true
  all_goals simp [heq]

/-- The third hub cannot be turned on. -/
theorem hubEvent_ne_turnOn_of_parked {d : Device} (h : ¬ (d : Nat) < mkhTimeSliceNumDevices)
    (s : Broadcast) (i : BroadcastStep) : hubEvent d s i ≠ .turnOn := by
  rcases hubEvent_cases d s i with ⟨heq, -⟩ | ⟨-, -, hlt⟩ | ⟨heq, -⟩ | heq
  · simp [heq]
  · exact absurd hlt h
  all_goals simp [heq]

theorem servedBy_of_service {d : Device} {s : Broadcast} {i : BroadcastStep}
    (h : hubEvent d s i = .service) : i = .controlTick ∧ servedBy s = some d := by
  rcases hubEvent_cases d s i with ⟨heq, -⟩ | ⟨heq, -⟩ | ⟨-, hserved⟩ | heq
  · simp [heq] at h
  · simp [heq] at h
  · exact hserved
  · simp [heq] at h

/-- **The countdown.**  While nothing turns it on, a hub that is off or leaving counts its own
services and nothing else, and is served no more than that. -/
theorem countdown_run {d : Device} (steps : List BroadcastStep) {s : Broadcast} {ph : HubPhase}
    (h : InPhase s d ph) (hon : ph ≠ .on) (hquiet : ∀ i ∈ steps, ∀ s, hubEvent d s i ≠ .turnOn) :
    ∃ ph', InPhase (Runs.after Broadcast.step s steps) d ph' ∧ ph' ≠ .on ∧
      ph'.pending + servicesOf d s steps = ph.pending := by
  induction steps generalizing s ph with
  | nil => exact ⟨ph, h, hon, rfl⟩
  | cons i rest ih =>
    have hevent := hquiet i List.mem_cons_self s
    obtain ⟨hon', hcount⟩ := HubPhase.step_not_on hon hevent
    obtain ⟨ph', hph', hne, hsum⟩ := ih (inPhase_step i h) hon'
      fun j hj => hquiet j (List.mem_cons_of_mem i hj)
    refine ⟨ph', hph', hne, ?_⟩
    have hservices : servicesOf d s (i :: rest) =
        servicesOf d (s.step i) rest + if hubEvent d s i = .service then 1 else 0 := by
      simp only [servicesOf, Runs.trace_cons, List.count_cons, beq_iff_eq]
    rw [hservices, ← Nat.add_assoc, hsum, hcount]
    by_cases hserved : hubEvent d s i = .service
    · have hactive := servedBy_active (servedBy_of_service hserved).2
      rw [h.active, HubPhase.active_iff_pending hon] at hactive
      simp only [if_pos hserved]
      omega
    · simp only [if_neg hserved]
      omega

/-- While nothing turns it off, a hub that is on stays on. -/
theorem on_run {d : Device} (steps : List BroadcastStep) {s : Broadcast} (h : InPhase s d .on)
    (hquiet : ∀ i ∈ steps, turnsOff d i = false) :
    InPhase (Runs.after Broadcast.step s steps) d .on := by
  induction steps generalizing s with
  | nil => exact h
  | cons i rest ih =>
    have hevent := hubEvent_ne_turnOff (s := s) (hquiet i List.mem_cons_self)
    have hstep := inPhase_step i h
    rw [HubPhase.step_on hevent] at hstep
    exact ih hstep fun j hj => hquiet j (List.mem_cons_of_mem i hj)

/-! ### What the toggles promise -/

/-- The hub is in rotation for good, with every output commanded to rest. -/
structure FullyOn (s : Broadcast) (d : Device) : Prop where
  active : s.deviceActive d = true
  pending : s.pendingOffServices d = 0
  unlocked : s.deviceTransitioning d = false
  row : ∀ p, s.channelValue d p = neutral

/-- What holds after an OFF of the hub and the steps since, none of which turns it on. -/
structure LeavesAfterOff (d : Device) (off : Broadcast) (since : List BroadcastStep) : Prop where
  services : servicesOf d off since ≤ mkhOffGraceServices
  pending : (Runs.after Broadcast.step off since).pendingOffServices d =
    mkhOffGraceServices - servicesOf d off since
  /-- The hub is out exactly from its last service on. -/
  active : (Runs.after Broadcast.step off since).deviceActive d = true ↔
    servicesOf d off since < mkhOffGraceServices
  /-- A toggle-on that comes first cancels the drop, for as long as nothing turns the hub off. -/
  cancelled : servicesOf d off since < mkhOffGraceServices → ∀ now,
    FullyOn ((Runs.after Broadcast.step off since).step (.toggleOn d.val now)) d ∧
    ∀ later, (∀ i ∈ later, turnsOff d i = false) →
      (Runs.after Broadcast.step ((Runs.after Broadcast.step off since).step (.toggleOn d.val now))
        later).deviceActive d = true

section Toggles

variable {s : Broadcast} {d : Device}

theorem inPhase_on_of_ready {ph : HubPhase} (h : InPhase s d ph) (hactive : s.deviceActive d = true)
    (hpending : s.pendingOffServices d = 0) : InPhase s d .on := by
  cases ph with
  | on => exact h
  | off => exact absurd (hactive.symm.trans h.active) (by decide)
  | leaving more => exact absurd (hpending.symm.trans h.pending) (by simp [HubPhase.pending])

theorem lt_of_active (steps : List BroadcastStep) {d : Device}
    (h : (broadcastAfter steps).deviceActive d = true) : (d : Nat) < mkhTimeSliceNumDevices := by
  by_contra hparked
  have hstart : HubPhase.start d = .off := if_neg hparked
  have hinit := inPhase_init d
  rw [hstart] at hinit
  obtain ⟨ph, hph, hne, hsum⟩ := countdown_run steps hinit (by simp)
    fun i _ s => hubEvent_ne_turnOn_of_parked hparked s i
  have hpending : ph.pending = 0 := by
    have hzero : ph.pending + servicesOf d mkhBroadcastInit steps = 0 := hsum
    omega
  have hactive : (broadcastAfter steps).deviceActive d = ph.active := hph.active
  rw [hactive, HubPhase.active_iff_pending hne, hpending] at h
  exact absurd h (Nat.lt_irrefl 0)

theorem inPhase_toggleOff_self {ph : HubPhase} (h : InPhase s d ph) (now : Port → Int) :
    InPhase (s.step (.toggleOff d.val now)) d (ph.step .turnOff) := by
  have hstep := inPhase_step (.toggleOff d.val now) h
  rwa [hubEvent, if_pos (Device.ofId?_coe d)] at hstep

theorem inPhase_toggleOn_self {ph : HubPhase} (h : InPhase s d ph)
    (hlt : (d : Nat) < mkhTimeSliceNumDevices) (now : Port → Int) :
    InPhase (s.step (.toggleOn d.val now)) d .on := by
  have hstep := inPhase_step (.toggleOn d.val now) h
  have hturnOn : ph.step .turnOn = .on := by cases ph <;> rfl
  rwa [hubEvent, if_pos ⟨Device.ofId?_coe d, hlt⟩, hturnOn] at hstep

theorem InPhase.not_ready {ph : HubPhase} (h : InPhase s d ph) (hne : ph ≠ .on) :
    ¬ (s.deviceActive d = true ∧ s.pendingOffServices d = 0) := by
  rintro ⟨hactive, hpending⟩
  rw [h.active, HubPhase.active_iff_pending hne] at hactive
  rw [h.pending] at hpending
  omega

/-- A toggle-off that is repeated changes nothing, however many steps lie in between. -/
theorem toggleOff_again {ph : HubPhase} (h : InPhase s d ph) (now now' : Port → Int)
    (since : List BroadcastStep) (hquiet : ∀ i ∈ since, turnsOn d i = false) :
    (Runs.after Broadcast.step (s.step (.toggleOff d.val now)) since).step (.toggleOff d.val now') =
      Runs.after Broadcast.step (s.step (.toggleOff d.val now)) since := by
  have hne : ph.step .turnOff ≠ .on := by cases ph <;> simp [HubPhase.step]
  obtain ⟨ph', hph', hne', -⟩ := countdown_run since (inPhase_toggleOff_self h now) hne
    fun i hi s => hubEvent_ne_turnOn (hquiet i hi)
  exact mkhBroadcastToggleOff_refused now' (Device.ofId?_coe d) (hph'.not_ready hne')

/-- A toggle-on that is repeated changes nothing, however many steps lie in between. -/
theorem toggleOn_again {ph : HubPhase} (h : InPhase s d ph) (now now' : Port → Int)
    (since : List BroadcastStep) (hquiet : ∀ i ∈ since, turnsOff d i = false) :
    (Runs.after Broadcast.step (s.step (.toggleOn d.val now)) since).step (.toggleOn d.val now') =
      Runs.after Broadcast.step (s.step (.toggleOn d.val now)) since := by
  by_cases hlt : (d : Nat) < mkhTimeSliceNumDevices
  · have hon := on_run since (inPhase_toggleOn_self h hlt now) hquiet
    exact mkhBroadcastToggleOn_refused now' (Device.ofId?_coe d) ⟨hon.active, hon.pending⟩
  · show mkhBroadcastToggleOn _ d.val now' = _
    unfold mkhBroadcastToggleOn
    simp only [Device.ofId?_coe, if_pos (Nat.le_of_not_lt hlt)]

/-- A toggle-on that does something commands every output to rest. -/
theorem fullyOn_toggleOn {ph : HubPhase} (h : InPhase s d ph)
    (hlt : (d : Nat) < mkhTimeSliceNumDevices)
    (hoff : ¬ (s.deviceActive d = true ∧ s.pendingOffServices d = 0)) (now : Port → Int) :
    FullyOn (s.step (.toggleOn d.val now)) d := by
  have hon := inPhase_toggleOn_self h hlt now
  refine ⟨hon.active, hon.pending, hon.transitioning, fun p => ?_⟩
  show (mkhBroadcastToggleOn s d.val now).channelValue d p = neutral
  rcases mkhBroadcastToggleOn_cases s d.val now with heq | ⟨d', hid, -, -, t, -, hrow, heq⟩
  · have hready : s.deviceActive d = true ∧ s.pendingOffServices d = 0 := by
      have hsame : s.step (.toggleOn d.val now) = s := heq
      rw [hsame] at hon
      exact ⟨hon.active, hon.pending⟩
    exact absurd hready hoff
  · obtain rfl : d = d' := Option.some.inj ((Device.ofId?_coe d).symm.trans hid)
    rw [heq]
    exact (hrow d p).trans (if_pos rfl)

/-- An OFF that is accepted starts the countdown. -/
theorem leavesAfterOff {now : Port → Int} (h : InPhase s d .on)
    (hlt : (d : Nat) < mkhTimeSliceNumDevices) (since : List BroadcastStep)
    (hquiet : ∀ i ∈ since, turnsOn d i = false) :
    LeavesAfterOff d (s.step (.toggleOff d.val now)) since := by
  obtain ⟨ph, hph, hne, hsum⟩ := countdown_run since (inPhase_toggleOff_self h now) (by
    simp [HubPhase.step]) fun i hi s => hubEvent_ne_turnOn (hquiet i hi)
  have htotal : ph.pending + servicesOf d (s.step (.toggleOff d.val now)) since =
      mkhOffGraceServices := hsum
  have hactive := hph.active ▸ HubPhase.active_iff_pending hne
  refine ⟨by omega, by rw [hph.pending]; omega, by rw [hactive]; omega, fun _ now' => ?_⟩
  refine ⟨fullyOn_toggleOn hph hlt (hph.not_ready hne) now', fun later hlater => ?_⟩
  exact (on_run later (inPhase_toggleOn_self hph hlt now') hlater).active

end Toggles

/-- **Toggle sequencing.** -/
theorem toggle_sequencing (steps : List BroadcastStep) (d : Device) :
    ((broadcastAfter steps).deviceTransitioning d = true ↔
      0 < (broadcastAfter steps).pendingOffServices d) ∧
    (broadcastAfter steps).pendingOffServices d ≤ mkhOffGraceServices ∧
    (0 < (broadcastAfter steps).pendingOffServices d →
      (broadcastAfter steps).deviceActive d = true) ∧
    (∀ now since, (broadcastAfter steps).deviceActive d = true →
      (broadcastAfter steps).pendingOffServices d = 0 →
      (∀ i ∈ since, turnsOn d i = false) →
      LeavesAfterOff d ((broadcastAfter steps).step (.toggleOff d.val now)) since) ∧
    (∀ now now' since, (∀ i ∈ since, turnsOn d i = false) →
      broadcastAfter (steps ++ .toggleOff d.val now :: since ++ [.toggleOff d.val now']) =
        broadcastAfter (steps ++ .toggleOff d.val now :: since)) ∧
    (∀ now now' since, (∀ i ∈ since, turnsOff d i = false) →
      broadcastAfter (steps ++ .toggleOn d.val now :: since ++ [.toggleOn d.val now']) =
        broadcastAfter (steps ++ .toggleOn d.val now :: since)) := by
  obtain ⟨ph, hph⟩ := exists_inPhase steps d
  refine ⟨?_, ?_, ?_, ?_, ?_, ?_⟩
  · rw [hph.transitioning, hph.pending]
    exact ph.transitioning_iff
  · rw [hph.pending]
    exact ph.pending_le
  · rw [hph.pending, hph.active]
    exact HubPhase.active_of_pending
  · intro now since hactive hpending hquiet
    exact leavesAfterOff (inPhase_on_of_ready hph hactive hpending) (lt_of_active steps hactive)
      since hquiet
  · intro now now' since hquiet
    simp only [broadcastAfter, Runs.after_append, Runs.after_cons, Runs.after_nil]
    exact toggleOff_again hph now now' since hquiet
  · intro now now' since hquiet
    simp only [broadcastAfter, Runs.after_append, Runs.after_cons, Runs.after_nil]
    exact toggleOn_again hph now now' since hquiet

/-- Hub 1 is turned off, and a tick goes to the other hub between two of its own: one service is
still to come. -/
theorem toggle_sequencing_off :
    LeavesAfterOff 0 ((broadcastAfter [.stateWorking]).step (.toggleOff (0 : Device).val fun _ => 0))
        [.controlTick, .controlTick, .controlTick] ∧
      servicesOf 0 ((broadcastAfter [.stateWorking]).step (.toggleOff (0 : Device).val fun _ => 0))
        [.controlTick, .controlTick, .controlTick] = 2 :=
  ⟨(toggle_sequencing [.stateWorking] 0).2.2.2.1 (fun _ => 0) [.controlTick, .controlTick, .controlTick]
    (by decide +kernel) (by decide +kernel) (by decide), by decide +kernel⟩

end MK1Tank
