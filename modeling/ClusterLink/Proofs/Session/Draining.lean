import ClusterLink.Proofs.Roster.Calls
import ClusterLink.Proofs.Session.Dispatch
import ClusterLink.Session.Schedule
/-!
It does not matter when a session is drained. Every way to drain it commutes with the deliveries
that are still to come, as long as no call changes whether the runtime is ready. Main statement:
`schedules_agree`, schedules with the same deliveries give the same frames and the same session.
-/
namespace ClusterLink

open GameRuntime

/-! ### The queue in front of the poller -/

namespace Gate

/-- The gate with more ready envelopes ahead of its own. -/
def ahead (front : List Envelope) (gate : Gate) : Gate :=
  { gate with ready := front ++ gate.ready }

variable (front : List Envelope) (gate : Gate)

theorem place_ahead (envelope : Envelope) :
    ((gate.ahead front).place envelope).2 = (gate.place envelope).2.ahead front := by
  unfold place ahead
  cases gate.load <;> simp

theorem placePacket_ahead (envelope : Envelope) :
    ((gate.ahead front).placePacket envelope).2 = (gate.placePacket envelope).2.ahead front := by
  have hplace := gate.place_ahead front envelope
  unfold placePacket
  cases envelope.kind? with
  | none => exact hplace
  | some kind =>
    have hmapChange : (gate.ahead front).mapChange = gate.mapChange := rfl
    have hpasses : ((gate.ahead front).load = .loading ∧ (gate.ahead front).policy.passes kind) =
      (gate.load = .loading ∧ gate.policy.passes kind) := rfl
    simp only [hmapChange, hpasses]
    by_cases hchange : kind = gate.mapChange
    · simp [hchange, ahead]
    · by_cases hpass : gate.load = .loading ∧ gate.policy.passes kind
      · simp [hchange, hpass, ahead]
      · simpa only [hchange, hpass, if_false] using hplace

theorem heed_ahead (event : ConnectionEvent) :
    (gate.ahead front).heed event = (gate.heed event).ahead front := by
  cases event with
  | message envelope =>
    cases envelope with
    | packet => exact gate.placePacket_ahead front _
    | info | serverResponse | auth | chat => rfl
    | _ => exact gate.place_ahead front _
  | opened | closed => rfl

/-- What is placed later goes behind what was ready before. -/
theorem foldl_heed_ahead (events : List ConnectionEvent) :
    events.foldl heed (gate.ahead front) = (events.foldl heed gate).ahead front := by
  induction events generalizing gate with
  | nil => rfl
  | cons event events ih => rw [List.foldl_cons, heed_ahead, ih, List.foldl_cons]

end Gate

namespace Poller

variable {poller next : Poller} {queue rest : List Envelope} {frame : Option Octets}

/-- A poll takes the front of a queue, whatever comes behind it. -/
theorem pollQueue_eq (h : poller.pollQueue queue = (frame, next, rest)) :
    ∃ front, queue = front ++ rest ∧ ∀ more, poller.drainQueue (front ++ more) =
      (frame.toList ++ (next.drainQueue more).1, (next.drainQueue more).2) := by
  induction queue generalizing poller with
  | nil =>
    cases h
    exact ⟨[], rfl, fun more => rfl⟩
  | cons envelope queue ih =>
    rw [pollQueue] at h
    cases hsize : RuntimeFrame.size? envelope with
    | none =>
      simp only [hsize] at h
      obtain ⟨front, rfl, hdrain⟩ := ih h
      refine ⟨envelope :: front, rfl, ?_⟩
      intro more
      simp only [List.cons_append, drainQueue, hsize, hdrain]
    | some size =>
      simp only [hsize] at h
      cases h
      refine ⟨[envelope], rfl, ?_⟩
      intro more
      simp only [List.cons_append, List.nil_append, drainQueue, hsize]
      rfl

/-- A poll takes something off the front of the gate, and a drain of that front and of anything
behind it begins with the same frame. -/
theorem poll_eq (poller : Poller) (gate : Gate) :
    let (frame, next, left) := poller.poll gate
    ∃ front, gate = left.ahead front ∧ ∀ later : Gate, poller.drain (later.ahead front) =
      (frame.toList ++ (next.drain later).1, (next.drain later).2) := by
  obtain ⟨front, hqueue, hdrain⟩ :=
    pollQueue_eq (rfl : poller.pollQueue gate.ready = (_, _, _))
  refine ⟨front, ?_, ?_⟩
  · exact congrArg (fun ready => { gate with ready }) hqueue
  · intro later
    simp only [drain, Gate.ahead, hdrain]

/-- A poll without a frame has used up the queue. -/
theorem pollQueue_none (h : poller.pollQueue queue = (none, next, rest)) : rest = [] := by
  induction queue generalizing poller with
  | nil =>
    cases h
    rfl
  | cons envelope queue ih =>
    rw [pollQueue] at h
    cases hsize : RuntimeFrame.size? envelope with
    | none =>
      simp only [hsize] at h
      exact ih h
    | some size =>
      simp only [hsize] at h
      cases h

end Poller

namespace Session

variable {ρ : Type} [GameRuntime ρ] {session final : Session ρ} {frames : List Octets}

/-! ### The runtime -/

/-- A session stays steady whatever is done to drain it. -/
theorem step_steady (h : Steady session.runtime) (step : DrainStep) :
    Steady (session.step step.toStep).2.runtime := by
  cases step with
  | deliver event => exact h
  | pump => exact h.of_calls session.pump_calls
  | processNext => exact h.of_calls session.processNext_calls
  | poll => exact h.of_calls session.pump_calls

/-! ### Asking for what the roster keeps -/

theorem runtimeReady_runtimeReady (h : Steady session.runtime) :
    session.runtimeReady.2.runtimeReady.2 = session.runtimeReady.2 := by
  have hreplay := session.roster.replay_replay h
  apply Session.ext
  case roster => exact congrArg (·.1) hreplay
  case runtime => exact congrArg (·.2) hreplay
  all_goals rfl

/-- It does not matter whether the roster is asked in front of an event or behind it. -/
theorem runtimeReady_handle (h : Steady session.runtime) (event : ConnectionEvent) :
    (session.handle event).runtimeReady.2 = session.runtimeReady.2.handle event := by
  cases event with
  | message envelope =>
    cases envelope with
    | info cluster master =>
      have hinject := session.roster.replay_inject h (master ++ cluster)
      apply Session.ext
      case roster => exact congrArg (·.1) hinject
      case runtime => exact congrArg (·.2) hinject
      all_goals rfl
    | _ => rfl
  | opened | closed => rfl

theorem runtimeReady_foldl_handle (h : Steady session.runtime) (events : List ConnectionEvent) :
    (events.foldl handle session).runtimeReady.2 = events.foldl handle session.runtimeReady.2 := by
  induction events generalizing session with
  | nil => rfl
  | cons event events ih =>
    have hnext : Steady (session.handle event).runtime := h.of_calls (session.handle_calls event)
    rw [List.foldl_cons, ih hnext, runtimeReady_handle h, List.foldl_cons]

/-! ### Events that are still to come -/

theorem handle_withGame (session : Session ρ) (poller : Poller) (gate : Gate)
    (event : ConnectionEvent) :
    ({ session with poller, gate }).handle event =
      { session.handle event with poller, gate := gate.heed event } := by
  cases event with
  | message envelope => cases envelope <;> rfl
  | opened | closed => rfl

theorem foldl_handle_withGame (session : Session ρ) (poller : Poller) (gate : Gate)
    (events : List ConnectionEvent) :
    events.foldl handle { session with poller, gate } =
      { events.foldl handle session with poller, gate := events.foldl Gate.heed gate } := by
  induction events generalizing session gate with
  | nil => rfl
  | cons event events ih => rw [List.foldl_cons, handle_withGame, ih]; rfl

theorem foldl_handle_poller (session : Session ρ) (events : List ConnectionEvent) :
    (events.foldl handle session).poller = session.poller := by
  rw [foldl_handle]
  rfl

/-- The session with more events in its inbox. -/
def awaiting (session : Session ρ) (events : List ConnectionEvent) : Session ρ :=
  { session with inbox.queue := session.inbox.queue ++ events }

omit [GameRuntime ρ] in
theorem awaiting_nil (session : Session ρ) : session.awaiting [] = session := by
  unfold awaiting
  rw [List.append_nil]

theorem handle_awaiting (session : Session ρ) (events : List ConnectionEvent)
    (event : ConnectionEvent) :
    (session.awaiting events).handle event = (session.handle event).awaiting events := by
  cases event with
  | message envelope => cases envelope <;> rfl
  | opened | closed => rfl

theorem pump_awaiting (session : Session ρ) (events : List ConnectionEvent) :
    (session.awaiting events).pump.2 = events.foldl handle session.pump.2 := by
  show (session.inbox.queue ++ events).foldl handle _ = _
  rw [List.foldl_append]
  rfl

theorem pump_of_empty (h : session.inbox.queue = []) :
    session.pump.2 = session.runtimeReady.2 := by
  obtain ⟨⟨queue, sending, receiving⟩, _⟩ := session
  cases h
  rfl

/-- The session as if nothing had arrived. -/
def unburdened (session : Session ρ) : Session ρ := { session with inbox.queue := [] }

/-- A pump asks the roster first. -/
theorem pump_eq (session : Session ρ) : session.pump.2 =
    session.inbox.queue.foldl handle session.unburdened.runtimeReady.2 :=
  rfl

/-- With no event in between, a second pump changes nothing. -/
theorem pump_pump (h : Steady session.runtime) : session.pump.2.pump.2 = session.pump.2 := by
  have hempty : session.pump.2.inbox.queue = [] := by rw [pump_inbox]
  have hstart : Steady session.unburdened.runtime := h
  have hasked : Steady session.unburdened.runtimeReady.2.runtime :=
    hstart.of_calls session.unburdened.runtimeReady_calls
  -- the second pump finds no event, and to ask the roster again can be moved to the front
  rw [pump_of_empty hempty, pump_eq, runtimeReady_foldl_handle hasked,
    runtimeReady_runtimeReady hstart]

/-- An event that was handled by itself need not be left for the pump. -/
theorem processNext_pump (h : Steady session.runtime) :
    session.processNext.2.pump.2 = session.pump.2 := by
  cases hqueue : session.inbox.queue with
  | nil =>
    unfold processNext
    rw [hqueue]
  | cons event rest =>
    have hnext : session.processNext.2 = (session.unburdened.handle event).awaiting rest := by
      unfold processNext
      rw [hqueue]
      exact session.unburdened.handle_awaiting rest event
    have hempty : (session.unburdened.handle event).inbox.queue = [] := by
      rw [handle_inbox]
      rfl
    have hstart : Steady session.unburdened.runtime := h
    -- a pump asks the roster in front of the event, and here it does so behind it
    rw [hnext, pump_awaiting, pump_of_empty hempty, runtimeReady_handle hstart, pump_eq, hqueue,
      List.foldl_cons]

/-! ### Polls -/

/-- What is left of a session when everything ready is taken out of it. -/
def emptied (session : Session ρ) : List Octets × Session ρ :=
  let (frames, poller, gate) := session.poller.drain session.gate
  (frames, { session with poller, gate })

theorem drain_eq (session : Session ρ) : session.drain = session.pump.2.emptied := rfl

theorem poll_pump (h : Steady session.runtime) : session.poll.2.pump.2 = session.poll.2 := by
  have hpumped : session.pump.2.inbox.queue = [] := by rw [pump_inbox]
  have hempty : session.poll.2.inbox.queue = [] := hpumped
  have hready : session.pump.2.runtimeReady.2 = session.pump.2 := by
    rw [← pump_of_empty hpumped, pump_pump h]
  rw [pump_of_empty hempty]
  exact congrArg (fun asked : Session ρ =>
    { asked with poller := session.poll.2.poller, gate := session.poll.2.gate }) hready

omit [GameRuntime ρ] in
theorem emptied_of_ready_nil (h : session.gate.ready = []) : session.emptied = ([], session) := by
  obtain ⟨_, _, _, ⟨mapChange, policy, load, ready, deferred⟩, _⟩ := session
  cases h
  rfl

/-- A poll takes the first frame, whatever arrives before the rest is drained. -/
theorem drain_poll (h : Steady session.runtime) (events : List ConnectionEvent) :
    (session.awaiting events).drain =
      (session.poll.2.awaiting events).drain.map (session.poll.1.toList ++ ·) id := by
  -- what the poll took stood in front of all that the gate is given later
  obtain ⟨front, hgate, hdrain⟩ := session.pump.2.poller.poll_eq session.pump.2.gate
  have htaken : (events.foldl handle session.pump.2).poller.drain
        (events.foldl handle session.pump.2).gate =
      (session.poll.1.toList ++
          (session.poll.2.poller.drain (events.foldl Gate.heed session.poll.2.gate)).1,
        (session.poll.2.poller.drain (events.foldl Gate.heed session.poll.2.gate)).2) := by
    rw [foldl_handle_poller, foldl_handle_gate, hgate, Gate.foldl_heed_ahead, hdrain]
    rfl
  have hpolled : events.foldl handle session.poll.2 =
      { events.foldl handle session.pump.2 with
        poller := session.poll.2.poller
        gate := events.foldl Gate.heed session.poll.2.gate } :=
    foldl_handle_withGame session.pump.2 session.poll.2.poller session.poll.2.gate events
  rw [drain_eq, drain_eq, pump_awaiting, pump_awaiting, poll_pump h, hpolled, emptied, htaken]
  rfl

/-- Once a poll has no frame, nothing is left to be drained. -/
theorem drain_of_poll_none (h : Steady session.runtime) (hnone : session.poll.1 = none) :
    session.drain = ([], session.poll.2) := by
  have hready : session.poll.2.gate.ready = [] :=
    Poller.pollQueue_none (congrArg (·, _, _) hnone :
      session.pump.2.poller.pollQueue session.pump.2.gate.ready = (none, _, _))
  have hrest : session.poll.2.drain = ([], session.poll.2) := by
    rw [drain_eq, poll_pump h, emptied_of_ready_nil hready]
  rw [← session.awaiting_nil, drain_poll h, awaiting_nil, awaiting_nil, hrest, hnone]
  rfl

theorem drain_of_poll_some (h : Steady session.runtime) {frame : Octets}
    (hframe : session.poll.1 = some frame) :
    session.drain = (frame :: session.poll.2.drain.1, session.poll.2.drain.2) := by
  rw [← session.awaiting_nil, drain_poll h, awaiting_nil, awaiting_nil, hframe]
  rfl

/-- Polls up to the first one without a frame are one drain. -/
theorem run_polls_iff (h : Steady session.runtime) (polled : List Octets) :
    session.run (List.replicate (polled.length + 1) .poll) =
        (polled.map (fun frame => .polled (some frame)) ++ [.polled none], final) ↔
      session.drain = (polled, final) := by
  induction polled generalizing session with
  | nil =>
    show ([SessionAnswer.polled session.poll.1], session.poll.2) = ([.polled none], final) ↔ _
    cases hframe : session.poll.1 with
    | none => simp [drain_of_poll_none h hframe]
    | some frame => simp [drain_of_poll_some h hframe]
  | cons first rest ih =>
    have hnext : session.poll.2.run (List.replicate (rest.length + 1) .poll) =
          (rest.map (fun frame => .polled (some frame)) ++ [.polled none], final) ↔
        session.poll.2.drain = (rest, final) :=
      ih (step_steady h .poll)
    rw [List.length_cons, List.replicate_succ, run_cons, List.map_cons, List.cons_append]
    show (SessionAnswer.polled session.poll.1 :: (session.poll.2.run _).1, _) = _ ↔ _
    cases hframe : session.poll.1 with
    | none => simp [drain_of_poll_none h hframe]
    | some frame =>
      simp only [drain_of_poll_some h hframe, Prod.ext_iff, List.cons.injEq, and_assoc,
        SessionAnswer.polled.injEq, Option.some.injEq] at hnext ⊢
      exact and_congr_right fun _ => hnext

/-! ### Schedules -/

/-- The events that a schedule puts into the inbox. -/
def arriving (session : Session ρ) (schedule : List DrainStep) : List ConnectionEvent :=
  if session.inbox.receiving then DrainStep.deliveries schedule else []

omit [GameRuntime ρ] in
theorem deliver_eq (session : Session ρ) (event : ConnectionEvent) :
    session.deliver event = session.awaiting (session.arriving [.deliver event]) := by
  unfold deliver Channel.send? arriving
  split
  · rfl
  · exact session.awaiting_nil.symm

omit [GameRuntime ρ] in
theorem arriving_of_no_delivery (session : Session ρ) {step : DrainStep}
    (h : step.delivery? = none) : session.arriving [step] = [] := by
  rw [arriving, DrainStep.deliveries, List.filterMap_cons_none h, List.filterMap_nil, ite_self]

theorem step_receiving (session : Session ρ) (step : DrainStep) :
    (session.step step.toStep).2.inbox.receiving = session.inbox.receiving := by
  cases step with
  | deliver event =>
    show (session.deliver event).inbox.receiving = _
    rw [deliver_eq]
    rfl
  | processNext =>
    show session.processNext.2.inbox.receiving = _
    rw [processNext_eq, foldl_handle_inbox]
  | pump | poll =>
    show session.pump.2.inbox.receiving = _
    rw [pump_inbox]

theorem arriving_cons (session : Session ρ) (step : DrainStep) (rest : List DrainStep) :
    session.arriving (step :: rest) =
      session.arriving [step] ++ (session.step step.toStep).2.arriving rest := by
  unfold arriving
  rw [step_receiving]
  split
  · rw [← List.singleton_append]
    exact List.filterMap_append
  · rfl

omit [GameRuntime ρ] in
theorem awaiting_append (session : Session ρ) (first second : List ConnectionEvent) :
    session.awaiting (first ++ second) = (session.awaiting first).awaiting second := by
  unfold awaiting
  rw [List.append_assoc]

/-- Every step of a schedule commutes with what arrives later. -/
theorem drain_step (h : Steady session.runtime) (step : DrainStep)
    (events : List ConnectionEvent) :
    (session.awaiting (session.arriving [step] ++ events)).drain =
      ((session.step step.toStep).2.awaiting events).drain.map
        ((session.step step.toStep).1.frame?.toList ++ ·) id := by
  cases step with
  | deliver event =>
    show _ = ((session.deliver event).awaiting events).drain
    rw [awaiting_append, deliver_eq]
  | pump =>
    show _ = (session.pump.2.awaiting events).drain
    rw [arriving_of_no_delivery session rfl, List.nil_append, drain_eq, drain_eq, pump_awaiting,
      pump_awaiting, pump_pump h]
  | processNext =>
    show _ = (session.processNext.2.awaiting events).drain
    rw [arriving_of_no_delivery session rfl, List.nil_append, drain_eq, drain_eq, pump_awaiting,
      pump_awaiting, processNext_pump h]
  | poll =>
    rw [arriving_of_no_delivery session rfl, List.nil_append]
    exact drain_poll h events

/-- A schedule takes frames off the front of what one drain would give at its end. -/
theorem drain_run (h : Steady session.runtime) (schedule : List DrainStep) :
    (session.awaiting (session.arriving schedule)).drain =
      (session.run (schedule.map DrainStep.toStep)).2.drain.map
        ((session.run (schedule.map DrainStep.toStep)).1.filterMap (·.frame?) ++ ·) id := by
  induction schedule generalizing session with
  | nil =>
    have hnone : session.arriving [] = [] := ite_self _
    rw [hnone, awaiting_nil]
    rfl
  | cons step rest ih =>
    have hframes (answer : SessionAnswer) (answers : List SessionAnswer) :
        (answer :: answers).filterMap (·.frame?) =
          answer.frame?.toList ++ answers.filterMap (·.frame?) := by
      cases hframe : answer.frame? <;> simp [hframe]
    rw [List.map_cons, run_cons, arriving_cons, drain_step h, ih (step_steady h step), hframes,
      Prod.map_map, Function.comp_id]
    simp only [Function.comp_def, List.append_assoc]

/-- A schedule and the polls behind it are one drain of everything that arrives. -/
theorem exhausts_iff (h : Steady session.runtime) (schedule : List DrainStep) :
    session.Exhausts schedule frames final ↔
      (session.awaiting (session.arriving schedule)).drain = (frames, final) := by
  have hsteady : Steady (session.run (schedule.map DrainStep.toStep)).2.runtime := by
    induction schedule generalizing session with
    | nil => exact h
    | cons step rest ih => exact ih (step_steady h step)
  rw [drain_run h]
  constructor
  · rintro ⟨polled, hpolls, rfl⟩
    rw [(run_polls_iff hsteady polled).1 hpolls]
    rfl
  · intro heq
    refine ⟨_, (run_polls_iff hsteady _).2 (Prod.ext rfl ?_), ?_⟩
    · exact congrArg (·.2) heq
    · exact (congrArg (·.1) heq).symm

/-- What a session makes of its events does not depend on the schedule: provided that no call
changes whether the runtime is ready, every schedule of the same deliveries comes to an end, with
the same frames and in the same session: what was observed, called, written and answered, the gate
and the counts of the poller are all part of it. -/
theorem schedules_agree (session : Session ρ) (h : Steady session.runtime)
    (events : List ConnectionEvent) : ∃ frames final, ∀ schedule : List DrainStep,
      DrainStep.deliveries schedule = events → ∀ frames' final',
        session.Exhausts schedule frames' final' ↔ frames' = frames ∧ final' = final := by
  let arriving := if session.inbox.receiving then events else []
  refine ⟨(session.awaiting arriving).drain.1, (session.awaiting arriving).drain.2, ?_⟩
  rintro schedule rfl frames' final'
  rw [exhausts_iff h, Prod.ext_iff, eq_comm, @eq_comm _ _ final']
  rfl

/-- Whether a map change is polled before the spawn behind it arrives or not, it comes to the same
frames and the same session. -/
theorem schedules_agree_spawn :
    let session := Session.new (CallLog.new false) .mapChange .standard (.ofScript [])
    let change := ConnectionEvent.message (.wholePacket 1 [22])
    let spawn := ConnectionEvent.message (.wholePacket 1 [18])
    Steady session.runtime ∧ ∃ frames final, ∀ frames' final',
      (session.Exhausts [.deliver change, .poll, .deliver spawn, .processNext] frames' final' ↔
        frames' = frames ∧ final' = final) ∧
      (session.Exhausts [.deliver change, .deliver spawn] frames' final' ↔
        frames' = frames ∧ final' = final) := by
  intro session change spawn
  have hsteady : Steady session.runtime := CallLog.steady _
  obtain ⟨frames, final, hall⟩ := schedules_agree session hsteady [change, spawn]
  exact ⟨hsteady, frames, final, fun frames' final' =>
    ⟨hall _ rfl frames' final', hall _ rfl frames' final'⟩⟩

end Session
end ClusterLink
