/-
Nobody is served twice while another waits.

The timer remembers only the device it served last.  What a waiting device is owed is
counted from there: the places between the two, going round.  A tick that serves some
other device serves one of those places and moves the mark there, so the count falls;
and toggles, drops and sends out of turn move no mark, whatever they do to the set the
timer picks from.  As long as a device stays in rotation and is not served, the devices
that are served have falling counts, so none of them comes twice.
-/
import MK1Tank.Proofs.Air

namespace MK1Tank

/-! ### The services of a run -/

/-- The device the step serves in its turn. -/
def serves (s : Broadcast) (i : BroadcastStep) : Option Device :=
  if isTick i then servedBy s else none

/-- The devices the ticks of a run serve, in order. -/
def services : Broadcast → List BroadcastStep → List Device
  | _, [] => []
  | s, i :: rest => (serves s i).toList ++ services (s.step i) rest

theorem services_cons_of_none {s : Broadcast} {i : BroadcastStep} (h : serves s i = none)
    (rest : List BroadcastStep) : services s (i :: rest) = services (s.step i) rest := by
  rw [services, h]
  rfl

theorem services_cons_of_some {s : Broadcast} {i : BroadcastStep} {d : Device}
    (h : serves s i = some d) (rest : List BroadcastStep) :
    services s (i :: rest) = d :: services (s.step i) rest := by
  rw [services, h]
  rfl

theorem serves_controlTick (s : Broadcast) : serves s .controlTick = servedBy s := rfl

theorem serves_of_ne {s : Broadcast} {i : BroadcastStep} (h : i ≠ .controlTick) :
    serves s i = none := by
  cases i with
  | controlTick => exact absurd rfl h
  | _ => rfl

/-- The mark moves to the device served, and only a service moves it. -/
theorem step_timeSliceLastDevice (s : Broadcast) (i : BroadcastStep) :
    (s.step i).timeSliceLastDevice
      = ((serves s i).map fun d => (d.val : Int)).getD s.timeSliceLastDevice := by
  rcases (step_round s i).2 with ⟨hkeep, hnone⟩ | ⟨d, rfl, hserved, hmove⟩
  · have hserves : serves s i = none := by
      by_cases hi : i = .controlTick
      · rw [hi, serves_controlTick]
        exact hnone hi
      · exact serves_of_ne hi
    rw [hkeep, hserves]
    rfl
  · rw [hmove, serves_controlTick, hserved]
    rfl

/-! ### A tick that serves nobody -/

/-- The timer finds a device exactly when one is in rotation. -/
theorem mkhNextActiveDevice_eq_none_iff {deviceActive : Device → Bool} {last : Int}
    (hlast : -1 ≤ last ∧ last < mkhMk6NumDevices) :
    mkhNextActiveDevice deviceActive last = none ↔ ∀ d, deviceActive d = false := by
  constructor
  · intro hnone d
    by_contra hd
    obtain ⟨d', hd', -⟩ := mkhNextActiveDevice_turn hlast (Bool.of_not_eq_false hd)
    exact absurd (hnone.symm.trans hd') (by simp)
  · intro hall
    rcases hnext : mkhNextActiveDevice deviceActive last with _ | d
    · rfl
    · exact absurd (mkhNextActiveDevice_active hnext) (by rw [hall d]; decide)

/-- A tick stages something when it serves a device. -/
theorem controlTimer_log_eq_iff (s : Broadcast) :
    (controlTimer s).log = s.log ↔ servedBy s = none := by
  have hlonger : ∀ (new : List Event) (e : Event), new ++ e :: s.log ≠ s.log := by
    intro new e hc
    have hlen := congrArg List.length hc
    simp at hlen
    omega
  rcases controlTimer_cases s with ⟨hnone, heq⟩ | ⟨d, hserved, -, ⟨-, heq⟩ | ⟨-, heq⟩⟩
  · rw [heq]
    exact iff_of_true rfl hnone
  · rw [heq, hserved]
    exact iff_of_false (hlonger [] _) (by simp)
  · rw [heq, hserved]
    exact iff_of_false (hlonger [.dropped d] _) (by simp)

/-! ### Waiting -/

/-- While a device waits in rotation, each device served has fewer places left to it than the one
served before, and than the mark had at the start. -/
theorem services_fall {d : Device} (steps : List BroadcastStep) {s : Broadcast} (hround : InRound s)
    (hactive : Runs.Meets Broadcast.step (fun s _ => s.deviceActive d = true) s steps)
    (hunserved : d ∉ services s steps) :
    (services s steps).Pairwise (fun e e' => turnsBefore d e'.val < turnsBefore d e.val) ∧
      ∀ e ∈ services s steps, turnsBefore d e.val < turnsBefore d s.timeSliceLastDevice := by
  induction steps generalizing s with
  | nil => exact ⟨.nil, fun e he => absurd he (List.not_mem_nil)⟩
  | cons i rest ih =>
    obtain ⟨hd, hrest⟩ := hactive
    have hmark := step_timeSliceLastDevice s i
    rcases hserves : serves s i with _ | e
    · rw [services_cons_of_none hserves] at hunserved ⊢
      rw [hserves] at hmark
      rw [← show (s.step i).timeSliceLastDevice = s.timeSliceLastDevice from hmark]
      exact ih (inRound_step s i hround) hrest hunserved
    · rw [services_cons_of_some hserves] at hunserved ⊢
      rw [hserves] at hmark
      have hne : d ≠ e := List.ne_of_not_mem_cons hunserved
      have hlater := List.not_mem_of_not_mem_cons hunserved
      obtain ⟨hpair, hbelow⟩ := ih (inRound_step s i hround) hrest hlater
      rw [show (s.step i).timeSliceLastDevice = (e.val : Int) from hmark] at hbelow
      -- the timer took the first device after the mark, and the waiting one is further on
      have hfirst : turnsBefore d e.val < turnsBefore d s.timeSliceLastDevice := by
        obtain ⟨d', hd', hturn⟩ := mkhNextActiveDevice_turn hround hd
        have hserved : mkhNextActiveDevice s.deviceActive s.timeSliceLastDevice = some e := by
          unfold serves servedBy at hserves
          split at hserves
          · split at hserves
            · exact hserves
            · cases hserves
          · cases hserves
        obtain rfl : d' = e := Option.some.inj (hd'.symm.trans hserved)
        exact hturn hne.symm
      refine ⟨.cons hbelow hpair, fun e' he' => ?_⟩
      rcases List.mem_cons.mp he' with rfl | hin
      · exact hfirst
      · exact (hbelow e' hin).trans hfirst

/-- **The rotation starves nobody.**  While a device stays in rotation without being served, as it
does between two consecutive services, the ticks serve no device twice; and a tick stages nothing
only when no device is in rotation. -/
theorem rotation_starves_nobody (d : Device) :
    (∀ front wait : List BroadcastStep,
      Runs.Meets Broadcast.step (fun s _ => s.deviceActive d = true) (broadcastAfter front) wait →
      d ∉ services (broadcastAfter front) wait →
      (services (broadcastAfter front) wait).Nodup) ∧
    (∀ steps, (broadcastAfter steps).advertisingStarted = true →
      ((broadcastAfter (steps ++ [.controlTick])).log = (broadcastAfter steps).log ↔
        ∀ e, (broadcastAfter steps).deviceActive e = false)) := by
  constructor
  · intro front wait hactive hunserved
    refine (services_fall wait (inRound_after front) hactive hunserved).1.imp fun hless hc => ?_
    rw [hc] at hless
    exact absurd hless (Nat.lt_irrefl _)
  · intro steps hstarted
    have hstep : broadcastAfter (steps ++ [.controlTick]) = controlTimer (broadcastAfter steps) :=
      Runs.after_append ..
    rw [hstep, controlTimer_log_eq_iff, servedBy, if_pos hstarted]
    exact mkhNextActiveDevice_eq_none_iff (inRound_after steps)

/-- Hub 2 is turned off while hub 1 waits for its next turn: it is served once on its way out. -/
theorem rotation_starves_nobody_leaving :
    serves (broadcastAfter [.stateWorking]) .controlTick = some 0 ∧
    serves (broadcastAfter [.stateWorking, .controlTick, .toggleOff 1 (fun _ => 0), .controlTick])
      .controlTick = some 0 ∧
    services (broadcastAfter [.stateWorking, .controlTick])
      [.toggleOff 1 (fun _ => 0), .controlTick] = [1] ∧
    (services (broadcastAfter [.stateWorking, .controlTick])
      [.toggleOff 1 (fun _ => 0), .controlTick]).Nodup :=
  ⟨by decide +kernel, by decide +kernel, by decide +kernel,
    (rotation_starves_nobody 0).1 [.stateWorking, .controlTick] _
      (by decide +kernel) (by decide +kernel)⟩

end MK1Tank
