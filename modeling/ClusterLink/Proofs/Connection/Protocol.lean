import ClusterLink.Connection.TaskRun
import ClusterLink.Proofs.Connection.Reporting
import ClusterLink.Proofs.Connection.Stopping
import ClusterLink.Proofs.Connection.Writing
/-!
The task between the two directions of its connection, whatever happens around it and in which
order: what it reports is what the stream brings, and what it writes is what the session has sent.
-/
namespace ClusterLink

open ClusterLink.Frame Envelope

namespace Transport

variable {t : Transport}

theorem ended_feed (t : Transport) (octets : Octets) : (t.feed octets).ended = t.ended := by
  unfold Transport.feed
  split <;> rfl

theorem ended_breakOff (t : Transport) (cause : String) : (t.breakOff cause).ended = true := by
  unfold Transport.breakOff
  split
  case isTrue hended => exact hended
  case isFalse => rfl

end Transport

namespace ConnectionTask

open Connection

variable {task : ConnectionTask} {stream more : Octets} {told : List Envelope}
  {log : List ConnectionEvent}

/-! ### The stream -/

theorem advance_ended (task : ConnectionTask) (step : TaskStep) :
    (task.advance step).2.connection.transport.ended =
      (task.connection.transport.ended || step.ends) := by
  cases step with
  | arrive octets => simp [advance, onTransport, Transport.ended_feed, TaskStep.ends]
  | hangUp => simp [advance, onTransport, Transport.hangUp, TaskStep.ends]
  | breakOff cause => simp [advance, onTransport, Transport.ended_breakOff, TaskStep.ends]
  | round first => simp [advance, step_ended, TaskStep.ends]
  | send body =>
    obtain ⟨-, -, hoffer⟩ | ⟨-, hoffer⟩ := task.offer_cases body <;>
      simp [advance, hoffer, TaskStep.ends]
  | jam | jamShutdown | collect | dropOutbound | dropEvents =>
    simp [advance, onTransport, TaskStep.ends]

/-! ### The events -/

namespace Reports

theorem onTransport (h : Reports stream told log task) (act : Transport → Transport)
    (hunread : (act task.connection.transport).unread = task.connection.transport.unread ++ more)
    (hsteady : task.connection.transport.Steady → (act task.connection.transport).Steady)
    (hended : task.connection.transport.ended = true →
      (act task.connection.transport).ended = true ∧ more = []) :
    Reports (stream ++ more) told log (task.onTransport act) where
  tells := h.tells
  unended := h.unended
  hears := fun hne => (h.hears hne).onTransport hunread (hsteady (h.hears hne).steady)
  heard := by
    obtain ⟨heard, htaken, hfront⟩ := h.heard
    exact ⟨heard, htaken.onTransport hunread, hfront⟩
  complete := fun reason hreason hends =>
    (h.complete reason hreason hends).onTransport hunread hended

theorem onQuiet (h : Reports stream told log task) (act : Transport → Transport)
    (hunread : (act task.connection.transport).unread = task.connection.transport.unread)
    (hsteady : task.connection.transport.Steady → (act task.connection.transport).Steady)
    (hended : task.connection.transport.ended = true →
      (act task.connection.transport).ended = true) :
    Reports stream told log (task.onTransport act) := by
  rw [← List.append_nil task.connection.transport.unread] at hunread
  have hnext := h.onTransport act hunread hsteady fun h => ⟨hended h, rfl⟩
  rwa [List.append_nil] at hnext

/-- The session may take the events or stop listening. -/
theorem onEvents (h : Reports stream told log task) {events : Channel ConnectionEvent}
    (hevents : events.receiving = true → task.events.receiving = true) :
    Reports stream told log { task with events } := by
  refine ⟨?_, h.unended, h.hears, h.heard, h.complete⟩
  have hdeaf : task.events.receiving = false → events.receiving = false := by
    rw [← Bool.not_eq_true, ← Bool.not_eq_true]
    exact mt hevents
  have htells := h.tells
  cases hphase : task.phase with
  | starting | running => simpa only [Tells, hphase] using htells
  | finished =>
    cases hending : task.ending with
    | none =>
      simp only [Tells, hphase, hending] at htells ⊢
      exact ⟨htells.1, htells.2.1, hdeaf htells.2.2⟩
    | some reason =>
      simp only [Tells, hphase, hending] at htells ⊢
      exact htells.imp_right fun hmissing => ⟨hmissing.1, hdeaf hmissing.2⟩

theorem onOutbound (h : Reports stream told log task) (outbound : Channel Octets) :
    Reports stream told log { task with outbound } :=
  ⟨h.tells, h.unended, h.hears, h.heard, h.complete⟩

theorem offer (h : Reports stream told log task) (body : Octets) :
    Reports stream told log (task.offer body) := by
  unfold ConnectionTask.offer
  split
  · exact h.onOutbound _
  · exact h

/-- What goes on around the task sends nothing; what comes in is still to be heard. -/
theorem advance (h : Reports stream told log task) (step : TaskStep) : ∃ told,
    Reports (stream ++ if task.connection.transport.ended then [] else step.octets) told
      (log ++ (task.advance step).1) (task.advance step).2 := by
  have hquiet : step.octets = [] → ∀ next, Reports stream told log next → ∃ told,
      Reports (stream ++ if task.connection.transport.ended then [] else step.octets) told
        (log ++ []) next := by
    intro hnone next hnext
    refine ⟨told, ?_⟩
    rwa [hnone, ite_self, List.append_nil, List.append_nil]
  cases step with
  | arrive octets =>
    refine ⟨told, ?_⟩
    rw [ConnectionTask.advance, List.append_nil]
    refine h.onTransport (·.feed octets) (Transport.unread_feed _ _)
      (fun hsteady => hsteady.feed octets) fun hended => ?_
    exact ⟨by rw [Transport.ended_feed, hended], by rw [hended, if_pos rfl]⟩
  | hangUp =>
    exact hquiet rfl _ (h.onQuiet (·.hangUp) rfl (fun hsteady => hsteady.hangUp) fun _ => rfl)
  | breakOff cause =>
    exact hquiet rfl _ (h.onQuiet (·.breakOff cause) (Transport.unread_breakOff _ _)
      (fun hsteady => hsteady.breakOff cause) fun _ => Transport.ended_breakOff _ _)
  | jam cause =>
    exact hquiet rfl _ (h.onQuiet ({ · with writeFailure := some cause }) rfl id id)
  | jamShutdown cause =>
    exact hquiet rfl _ (h.onQuiet ({ · with shutdownFailure := some cause }) rfl id id)
  | send body => exact hquiet rfl _ (h.offer body)
  | collect => exact hquiet rfl _ (h.onEvents id)
  | dropOutbound => exact hquiet rfl _ (h.onOutbound _)
  | dropEvents =>
    exact hquiet rfl _ (h.onEvents fun hreceiving => absurd hreceiving Bool.false_ne_true)
  | round first =>
    obtain ⟨events, told, hqueue, hreports⟩ := h.step first
    have hnone : (TaskStep.round first).octets = [] := rfl
    refine ⟨told, ?_⟩
    rw [hnone, ite_self, List.append_nil, ConnectionTask.advance, hqueue, List.drop_left]
    exact hreports

end Reports

/-! ### Both sides -/

/-- A run keeps the account of what was reported, of what was written and of the stream's end. -/
theorem course_account (steps : List TaskStep) :
    let (log, task) := (ConnectionTask.new .new).course steps
    (∃ told, Reports (TaskStep.inbound steps) told log task) ∧
      Writes (TaskStep.outbound steps) task ∧
      task.connection.transport.ended = steps.any TaskStep.ends := by
  refine runSteps_induction advance (motive := fun steps answers task =>
    (∃ told, Reports (TaskStep.inbound steps) told answers.flatten task) ∧
      Writes (TaskStep.outbound steps) task ∧
      task.connection.transport.ended = steps.any TaskStep.ends) ⟨⟨[], .new⟩, .new, rfl⟩ ?_ steps
  rintro steps answers task last ⟨⟨told, hreports⟩, hwrites, hended⟩
  rw [TaskStep.inbound_snoc, TaskStep.outbound_snoc, ← hended, List.flatten_append,
    List.flatten_singleton]
  refine ⟨hreports.advance last, hwrites.advance last, ?_⟩
  rw [advance_ended, hended, List.any_append, List.any_cons, List.any_nil, Bool.or_false]

/-- Whatever happens around the task and whichever branches its rounds take: the events are the
opening, what comes first of the envelopes that the stream brings, and one end, of which something
is missing only if nobody listens; where the stream gives the reason of the end, no envelope ahead
of it is missing. What is written are the frames of what comes first of the bodies that the session
has sent. A round that waits leaves nothing behind on either side. When the stream has ended or
broken, or the session has let go of its sending end, rounds end the task. -/
theorem course_protocol (steps : List TaskStep) :
    let (log, task) := (ConnectionTask.new .new).course steps
    (∃ bodies rest told written,
      (∀ body ∈ bodies, body.length ≤ maxBodySize) ∧
      TaskStep.inbound steps = frames bodies ++ rest ∧ IsPartial rest ∧
      told <+: bodies.filterMap decode? ∧ task.Tells told log ∧
      (∀ reason ∈ task.ending, EndsInbound reason → told = bodies.filterMap decode?) ∧
      (∀ body ∈ written, body.length ≤ maxBodySize) ∧
      task.connection.transport.written = frames written ∧ written <+: TaskStep.outbound steps ∧
      ∀ first, task.phase = .running → (task.step first).1 = false →
        told = bodies.filterMap decode? ∧ written = TaskStep.outbound steps) ∧
    (task.connection.transport.ended = true ∨ task.outbound.sending = false →
      ∀ choices : List Branch, task.left ≤ choices.length →
        (task.run choices).phase = .finished) := by
  have haccount := course_account steps
  generalize (ConnectionTask.new .new).course steps = run at haccount
  obtain ⟨log, task⟩ := run
  obtain ⟨⟨told, hreports⟩, ⟨hlistening, written, hwritten, hframes, hfront, hall⟩, -⟩ := haccount
  obtain ⟨bodies, rest, hbodies, hstream, hrest⟩ := exists_frames_append (TaskStep.inbound steps)
  refine ⟨⟨bodies, rest, told, written, hbodies, hstream, hrest, ?_, hreports.tells, ?_, hwritten,
    hframes, ?_, ?_⟩, fun hends choices hrounds => run_finishes hends choices hrounds⟩
  · obtain ⟨heard, htaken, htold⟩ := hreports.heard
    exact htold.trans (htaken.isPrefix hbodies hstream hrest)
  · intro reason hreason hends
    obtain ⟨htaken, hfinal⟩ := hreports.complete reason hreason hends
    exact htaken.eq hfinal.isPartial hbodies hstream hrest
  · exact (List.prefix_append _ _).trans hfront
  · intro first hphase hwaits
    have hrunning : task.phase ≠ .finished := by simp [hphase]
    obtain ⟨⟨d, hrecv⟩, hqueue, hsending⟩ := step_waits hphase hwaits
    obtain ⟨hhears, hspent⟩ := (hreports.hears hrunning).recv_pending hrecv
    have hlinked := hall (hlistening hrunning) hsending
    rw [hqueue, List.append_nil] at hlinked
    exact ⟨hhears.taken.eq (hspent.isPartial hhears.sound) hbodies hstream hrest, hlinked⟩

/-- Between the two parts of an envelope's frame a body is written, and behind the end of the stream
the task ends. -/
theorem course_protocol_crossing :
    let frame := frames [[0xA1, 0x62, 0x4F, 0x70, 0x05]]
    let steps : List TaskStep := [.round .inbound, .arrive (frame.take 9), .send [1, 2],
      .round .inbound, .arrive (frame.drop 9), .round .outbound, .hangUp]
    let (log, task) := (ConnectionTask.new .new).course steps
    log = [.opened, .message .disconnect] ∧
      task.connection.transport.written = frames [[1, 2]] ∧
      (task.run [.outbound, .inbound]).phase = .finished ∧
      (task.run [.outbound, .inbound]).ending = some "Connection closed by peer" := by
  intro frame steps
  have h := course_protocol steps
  refine ⟨by decide +kernel, by decide +kernel, ?_, by decide +kernel⟩
  exact h.2 (.inl (by decide +kernel)) [.outbound, .inbound] (by decide +kernel)

end ConnectionTask
end ClusterLink
