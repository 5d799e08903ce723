/-
What the sketch asks of a device.

A request waits in a queue until a report comes in, and is then carried out on the device
that sits in the seat it names.  No request is lost once it is queued, none is carried
out twice and none overtakes another; but one whose seat is empty ends the round, and
what is behind it waits for the next report.
-/
import MK1Tank.Proofs.Mail
import MK1Tank.Lib.Fifo

namespace MK1Tank

open Runs

/-! ### Carrying a request out -/

/-- The device that a request is carried out on. -/
def carriedOut (s : Bridge) (request : PendingRequest) : Option HidSlot :=
  (s.deviceWithIdx request.controllerIdx.val).filter fun d =>
    (s.devices d).reportParser.supports request.cmd

/-- What the devices are told for a request. -/
def toldFor (s : Bridge) (request : PendingRequest) : List (HidSlot × PendingRequestCmd) :=
  ((carriedOut s request).map (·, request.cmd)).toList

theorem drain_of_not_draining {s : Bridge} (h : ∀ d ctl, s.phase ≠ .draining d ctl) :
    drainRequest s = s := by
  unfold drainRequest
  split
  · exact absurd ‹_› (h _ _)
  · rfl

theorem drain_of_empty {s : Bridge} {d : HidSlot} {ctl : ControllerData}
    (hphase : s.phase = .draining d ctl) (hqueue : s.pendingQueue = []) :
    drainRequest s = { s with phase := .posting d ctl } := by
  unfold drainRequest
  rw [hphase, hqueue]

/-- A request whose device is gone ends the round. -/
theorem drain_of_gone {s : Bridge} {d : HidSlot} {ctl : ControllerData} {request : PendingRequest}
    {rest : List PendingRequest} (hphase : s.phase = .draining d ctl)
    (hqueue : s.pendingQueue = request :: rest)
    (hgone : s.deviceWithIdx request.controllerIdx.val = none) :
    drainRequest s = { s with pendingQueue := rest, phase := .posting d ctl } := by
  unfold drainRequest
  rw [hphase, hqueue]
  have hgone' : ({ s with pendingQueue := rest, phase := .draining d ctl } : Bridge).deviceWithIdx
      request.controllerIdx.val = none := hgone
  simp only [hgone']

theorem drain_of_found {s : Bridge} {d d' : HidSlot} {ctl : ControllerData} {request : PendingRequest}
    {rest : List PendingRequest} (hphase : s.phase = .draining d ctl)
    (hqueue : s.pendingQueue = request :: rest)
    (hfound : s.deviceWithIdx request.controllerIdx.val = some d') :
    drainRequest s =
      { s with pendingQueue := rest, outputs := toldFor s request ++ s.outputs } := by
  unfold drainRequest
  rw [hphase, hqueue]
  have hfound' : ({ s with pendingQueue := rest, phase := .draining d ctl } : Bridge).deviceWithIdx
      request.controllerIdx.val = some d' := hfound
  simp only [hfound', runRequest, toldFor, carriedOut, hfound]
  split_ifs with hsupports
  · simp [Option.filter, hsupports]
  · simp [Option.filter, hsupports]

/-! ### The queue -/

/-- What a step does to the queue of requests. -/
def queueOp (s : Bridge) : BridgeStep → Option (Fifo.Op PendingRequest)
  | .send request => some (.push request)
  | .drain =>
    match s.phase with
    | .draining _ _ => some .pop
    | _ => none
  | _ => none

theorem drain_queue (s : Bridge) :
    (drainRequest s).pendingQueue = (queueOp s .drain).elim s.pendingQueue
      (Fifo.step maxPendingRequests s.pendingQueue) := by
  unfold queueOp
  cases hphase : s.phase with
  | draining d ctl =>
    simp only [Option.elim, Fifo.step]
    cases hqueue : s.pendingQueue with
    | nil =>
      rw [drain_of_empty hphase hqueue]
      exact hqueue
    | cons request rest =>
      cases hfind : s.deviceWithIdx request.controllerIdx.val with
      | none => rw [drain_of_gone hphase hqueue hfind, List.tail_cons]
      | some d' => rw [drain_of_found hphase hqueue hfind, List.tail_cons]
  | _ =>
    rw [drain_of_not_draining (by simp [hphase])]
    rfl

theorem step_queue {s : Bridge} (h : s.Placed) (step : BridgeStep) :
    (s.step step).pendingQueue = (queueOp s step).elim s.pendingQueue
      (Fifo.step maxPendingRequests s.pendingQueue) := by
  cases step with
  | event e =>
    show (s.step (.event e)).pendingQueue = s.pendingQueue
    simp only [Bridge.step]
    split_ifs
    · rcases event_keeps h e with hkeeps | ⟨-, d, ctl, -, -, heq⟩
      · exact hkeeps.queue
      · rw [heq]
    · rfl
  | depart e =>
    show (s.step (.depart e)).pendingQueue = s.pendingQueue
    rcases depart_cases s e with heq | ⟨d, i, -, -, -, heq⟩ <;> rw [heq]
  | cleared =>
    show (finishDeparture s).pendingQueue = s.pendingQueue
    exact (h.finish_keeps).1
  | drain => exact drain_queue s
  | post =>
    show (postData s).pendingQueue = s.pendingQueue
    unfold postData
    split
    · simp only
      split <;> rfl
    · rfl
  | fetch i =>
    show (fetchData s i).1.pendingQueue = s.pendingQueue
    unfold fetchData
    split_ifs <;> rfl
  | tear i torn =>
    show (s.step (.tear i torn)).pendingQueue = s.pendingQueue
    simp only [Bridge.step, fetchTorn]
    split_ifs <;> rfl
  | send request =>
    show (sendToBack s request).pendingQueue = _
    unfold sendToBack queueOp
    simp only [Option.elim, Fifo.step]
    split_ifs <;> rfl

theorem request_queue :
    Fifo.Within maxPendingRequests Bridge.step queueOp Bridge.pendingQueue Bridge.Placed where
  keep := step_placed
  queue _ step h := step_queue h step

/-- The request that a step takes off the queue. -/
def drained (s : Bridge) : BridgeStep → List PendingRequest
  | .drain =>
    match s.phase with
    | .draining _ _ => s.pendingQueue.head?.toList
    | _ => []
  | _ => []

/-- The requests that a step carries out, with their devices. -/
def served (s : Bridge) (step : BridgeStep) : List (PendingRequest × HidSlot) :=
  (drained s step).flatMap fun request => ((carriedOut s request).map (request, ·)).toList

/-- The request that the queue has room for. -/
def queued (s : Bridge) : BridgeStep → List PendingRequest
  | .send request => if s.pendingQueue.length < maxPendingRequests then [request] else []
  | _ => []

theorem pops_eq_drained : Fifo.pops queueOp Bridge.pendingQueue = drained := by
  funext s step
  cases step with
  | drain =>
    simp only [Fifo.pops, queueOp, drained]
    split <;> rfl
  | _ => rfl

theorem accepts_eq_queued :
    Fifo.accepts maxPendingRequests queueOp Bridge.pendingQueue = queued := by
  funext s step
  cases step with
  | drain =>
    simp only [Fifo.accepts, queueOp, queued]
    split <;> rfl
  | _ => rfl

theorem served_sublist (s : Bridge) (step : BridgeStep) :
    ((served s step).map Prod.fst).Sublist (drained s step) := by
  unfold served
  induction drained s step with
  | nil => exact List.nil_sublist _
  | cons request rest ih =>
    rw [List.flatMap_cons, List.map_append]
    cases carriedOut s request with
    | none => exact ih.cons request
    | some d => exact ih.cons_cons request

/-- **Requests are carried out in the order they were queued, once each at most**, and those that have
not been looked at are still queued. -/
theorem requests_in_order (steps : List BridgeStep) :
    (trace Bridge.step drained Bridge.boot steps).flatten ++
        (after Bridge.step Bridge.boot steps).pendingQueue =
      (trace Bridge.step queued Bridge.boot steps).flatten ∧
    ((trace Bridge.step served Bridge.boot steps).flatten.map Prod.fst).Sublist
      (trace Bridge.step drained Bridge.boot steps).flatten ∧
    (after Bridge.step Bridge.boot steps).pendingQueue.length ≤ maxPendingRequests := by
  have hboot := bridge_boot_seated.toPlaced
  refine ⟨?_, ?_, request_queue.length_queue_le steps hboot (by decide)⟩
  · have hconserved := request_queue.pops_append_queue steps hboot
    rw [pops_eq_drained, accepts_eq_queued] at hconserved
    exact hconserved
  · have hmap : ∀ (steps : List BridgeStep) (s : Bridge),
        (trace Bridge.step served s steps).flatten.map Prod.fst =
          (trace Bridge.step (fun s step => (served s step).map Prod.fst) s steps).flatten := by
      intro steps
      induction steps with
      | nil => exact fun _ => rfl
      | cons step rest ih =>
        intro s
        rw [trace_cons, trace_cons, List.flatten_cons, List.flatten_cons, List.map_append, ih]
    rw [hmap]
    exact trace_flatten_sublist served_sublist steps Bridge.boot

/-! ### What the devices are told -/

theorem sits_of_deviceWithIdx {s : Bridge} (h : s.Placed) {i : Seat} {d : HidSlot}
    (hfind : s.deviceWithIdx i.val = some d) : (s.devices d).state = .deviceReady ∧ s.sits d i := by
  have hfound := List.find?_some hfind
  simp only [Bool.and_eq_true, beq_iff_eq] at hfound
  exact ⟨hfound.1, (h.ready d hfound.1).1, hfound.2⟩

/-- **A device is told nothing but the number of the seat it is given, and what was asked of the seat
it sits in.** -/
theorem told_by_seat_or_request (steps : List BridgeStep) (step : BridgeStep) :
    (after Bridge.step Bridge.boot (steps ++ [step])).outputs =
        (after Bridge.step Bridge.boot steps).outputs ∨
      (∃ d i, (after Bridge.step Bridge.boot (steps ++ [step])).outputs =
          (d, .playerLeds (UInt8.ofInt (i.val + 1))) :: (after Bridge.step Bridge.boot steps).outputs ∧
        (after Bridge.step Bridge.boot (steps ++ [step])).sits d i ∧
        (after Bridge.step Bridge.boot steps).taken i = false) ∨
      ∃ d request, served (after Bridge.step Bridge.boot steps) step = [(request, d)] ∧
        (after Bridge.step Bridge.boot (steps ++ [step])).outputs =
          (d, request.cmd) :: (after Bridge.step Bridge.boot steps).outputs ∧
        ((after Bridge.step Bridge.boot steps).devices d).state = .deviceReady ∧
        (after Bridge.step Bridge.boot steps).sits d request.controllerIdx ∧
        ∀ d', (after Bridge.step Bridge.boot steps).sits d' request.controllerIdx → d' = d := by
  rw [after_append, after_cons, after_nil]
  have h := placed_after steps
  set s := after Bridge.step Bridge.boot steps
  cases step with
  | event e =>
    simp only [Bridge.step]
    split_ifs
    · rcases event_keeps h e with hkeeps | ⟨-, d, ctl, -, -, heq⟩
      · rcases hkeeps.outputs with hsame | hseat
        · exact Or.inl hsame
        · exact Or.inr (Or.inl hseat)
      · exact Or.inl (by rw [heq])
    · exact Or.inl rfl
  | depart e => exact Or.inl (by rcases depart_cases s e with heq | ⟨d, i, -, -, -, heq⟩ <;> rw [heq])
  | cleared => exact Or.inl h.finish_keeps.2
  | drain =>
    simp only [Bridge.step]
    cases hphase : s.phase with
    | draining d ctl =>
      cases hqueue : s.pendingQueue with
      | nil => exact Or.inl (by rw [drain_of_empty hphase hqueue])
      | cons request rest =>
        cases hfind : s.deviceWithIdx request.controllerIdx.val with
        | none => exact Or.inl (by rw [drain_of_gone hphase hqueue hfind])
        | some d' =>
          rw [drain_of_found hphase hqueue hfind]
          obtain ⟨hready, hsits⟩ := sits_of_deviceWithIdx h hfind
          cases hsupports : (s.devices d').reportParser.supports request.cmd with
          | false => exact Or.inl (by simp [toldFor, carriedOut, hfind, Option.filter, hsupports])
          | true =>
            refine Or.inr (Or.inr ⟨d', request, ?_, ?_, hready, hsits, ?_⟩)
            · simp [served, drained, hphase, hqueue, carriedOut, hfind, Option.filter, hsupports]
            · simp [toldFor, carriedOut, hfind, Option.filter, hsupports]
            · exact fun d'' hd'' => h.unique d'' d' _ hd'' hsits
    | _ => exact Or.inl (by rw [drain_of_not_draining (by simp [hphase])])
  | post =>
    refine Or.inl ?_
    show (postData s).outputs = s.outputs
    unfold postData
    split
    · simp only
      split <;> rfl
    · rfl
  | fetch i =>
    refine Or.inl ?_
    show (fetchData s i).1.outputs = s.outputs
    unfold fetchData
    split_ifs <;> rfl
  | tear i torn =>
    refine Or.inl ?_
    simp only [Bridge.step, fetchTorn]
    split_ifs <;> rfl
  | send request =>
    refine Or.inl ?_
    show (sendToBack s request).outputs = s.outputs
    unfold sendToBack
    split_ifs <;> rfl

/-! ### A round -/

/-- Whether some ready device sits in the seat that the request names. -/
def Bridge.answers (s : Bridge) (request : PendingRequest) : Bool :=
  (s.deviceWithIdx request.controllerIdx.val).isSome

theorem toldFor_reverse (s : Bridge) (request : PendingRequest) :
    (toldFor s request).reverse = toldFor s request := by
  unfold toldFor
  cases carriedOut s request <;> rfl

theorem drain_round_of_queue {d : HidSlot} {ctl : ControllerData} (queue : List PendingRequest) :
    ∀ s : Bridge, s.pendingQueue = queue → s.phase = .draining d ctl →
      after Bridge.step s (List.replicate ((queue.takeWhile s.answers).length + 1) .drain) =
        { s with
          phase := .posting d ctl
          pendingQueue := (queue.dropWhile s.answers).tail
          outputs := ((queue.takeWhile s.answers).flatMap (toldFor s)).reverse ++ s.outputs } := by
  induction queue with
  | nil =>
    intro s hqueue hphase
    show drainRequest s = _
    rw [drain_of_empty hphase hqueue]
    simp [hqueue]
  | cons request rest ih =>
    intro s hqueue hphase
    cases hfind : s.deviceWithIdx request.controllerIdx.val with
    | none =>
      have hgone : s.answers request = false := by
        unfold Bridge.answers
        rw [hfind]
        rfl
      rw [List.takeWhile_cons, List.dropWhile_cons, hgone]
      show drainRequest s = _
      rw [drain_of_gone hphase hqueue hfind]
      rfl
    | some d' =>
      have hanswers : s.answers request = true := by
        unfold Bridge.answers
        rw [hfind]
        rfl
      rw [List.takeWhile_cons, List.dropWhile_cons, hanswers]
      have hnext := drain_of_found hphase hqueue hfind
      have hrest := ih (drainRequest s) (by rw [hnext]) (by rw [hnext]; exact hphase)
      have hsame : (drainRequest s).answers = s.answers := by
        rw [hnext]
        rfl
      have htold : toldFor (drainRequest s) = toldFor s := by
        rw [hnext]
        rfl
      rw [hsame, htold] at hrest
      show after Bridge.step (drainRequest s)
        (List.replicate ((rest.takeWhile s.answers).length + 1) .drain) = _
      rw [hrest, hnext]
      simp [List.flatMap_cons, toldFor_reverse]

/-- **A round carries out what is queued up to the first request whose device is gone**, drops that one
and leaves the rest. -/
theorem drain_round (s : Bridge) (d : HidSlot) (ctl : ControllerData) :
    after Bridge.step { s with phase := .draining d ctl }
        (List.replicate ((s.pendingQueue.takeWhile s.answers).length + 1) .drain) =
      { s with
        phase := .posting d ctl
        pendingQueue := (s.pendingQueue.dropWhile s.answers).tail
        outputs := ((s.pendingQueue.takeWhile s.answers).flatMap (toldFor s)).reverse ++ s.outputs } :=
  drain_round_of_queue s.pendingQueue { s with phase := .draining d ctl } rfl rfl

end MK1Tank
