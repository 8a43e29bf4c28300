import ClusterLink.Proofs.Connection.Rounds
/-!
What the task reports to the session: the opening, then the envelopes that it heard, then the end.
The invariant ties these events to the stream, and every branch that a round may take keeps it.
-/
namespace ClusterLink

open ClusterLink.Frame

theorem String.head?_toList_append {front : String} {c : Char} (h : front.toList.head? = some c)
    (s : String) : (front ++ s).toList.head? = some c := by
  rw [String.toList_append, List.head?_append, h, Option.some_or]

/-- The reasons that the inbound stream gives, by ending or by failing. -/
def EndsInbound (reason : String) : Prop :=
  reason = "Connection closed by peer" ∨ ∃ e : ConnectionError, reason = s!"Error: {e.message}"

theorem EndsInbound.head? {reason : String} (h : EndsInbound reason) :
    reason.toList.head? = some 'C' ∨ reason.toList.head? = some 'E' := by
  obtain rfl | ⟨e, rfl⟩ := h
  · exact .inl (by decide)
  · exact .inr (String.head?_toList_append (by decide) _)

theorem not_endsInbound_bridgeDropped : ¬ EndsInbound "Bridge dropped" := fun h =>
  absurd h.head? (by decide)

theorem not_endsInbound_sendError (e : ConnectionError) :
    ¬ EndsInbound s!"Send error: {e.message}" := by
  intro h
  have hhead : (s!"Send error: {e.message}").toList.head? = some 'S' :=
    String.head?_toList_append (by decide) _
  have hother := h.head?
  rw [hhead] at hother
  exact absurd hother (by decide)

namespace Connection

variable {c d : Connection} {stream more : Octets} {envelopes : List Envelope}

theorem Hears.congr (h : Hears stream envelopes c) (hsplitter : d.splitter = c.splitter)
    (harrivals : d.transport.arrivals = c.transport.arrivals)
    (hended : d.transport.ended = c.transport.ended) : Hears stream envelopes d where
  taken := by
    have htaken := h.taken
    rwa [Connection.rest, Transport.unread, ← hsplitter, ← harrivals] at htaken
  sound := hsplitter ▸ h.sound
  steady := by
    have hsteady := h.steady
    simp only [Transport.Steady, Transport.Brings] at hsteady ⊢
    rwa [harrivals, hended]

theorem rest_close (c : Connection) : c.close.2.rest = c.rest := by
  rw [close_snd]
  rfl

theorem Over.close (h : Over stream envelopes c) : Over stream envelopes c.close.2 := by
  rw [Over, rest_close, close_snd]
  exact h

end Connection

namespace ConnectionTask

open Connection

variable {task : ConnectionTask} {stream more : Octets} {told heard : List Envelope}
  {log : List ConnectionEvent} {reason : String}

/-- What the task has sent to the session by passing these envelopes on. Something is missing at the
end only if nobody listens any more. -/
def Tells (task : ConnectionTask) (told : List Envelope) (log : List ConnectionEvent) : Prop :=
  match task.phase, task.ending with
  | .starting, _ => told = [] ∧ log = []
  | .running, _ => log = .opened :: told.map .message
  | .finished, none => told = [] ∧ log = [] ∧ task.events.receiving = false
  | .finished, some reason =>
    log = .opened :: told.map .message ++ [.closed reason] ∨
      log = .opened :: told.map .message ∧ task.events.receiving = false

/-- The events are what the stream has brought: as long as the task runs, all that was taken off it,
and from then on what comes first of that, or all of it if the stream was over. -/
structure Reports (stream : Octets) (told : List Envelope) (log : List ConnectionEvent)
    (task : ConnectionTask) : Prop where
  tells : task.Tells told log
  unended : task.phase ≠ .finished → task.ending = none
  hears : task.phase ≠ .finished → Hears stream told task.connection
  heard : ∃ heard, Taken stream heard task.connection.rest ∧ told <+: heard
  complete : ∀ reason ∈ task.ending, EndsInbound reason → Over stream told task.connection

/-- A later state of the task, which has sent more events and reports the stream with them. -/
def Reaches (stream : Octets) (log : List ConnectionEvent) (task next : ConnectionTask) : Prop :=
  ∃ events told, next.events.queue = task.events.queue ++ events ∧
    Reports stream told (log ++ events) next

theorem Reaches.of_silent {next : ConnectionTask} (h : Reports stream told log next)
    (hqueue : next.events.queue = task.events.queue) : Reaches stream log task next :=
  ⟨[], told, by rw [hqueue, List.append_nil], by rwa [List.append_nil]⟩

theorem Reaches.trans {next last : ConnectionTask} (h : Reaches stream log task next)
    (hlast : ∀ told log, Reports stream told log next → Reaches stream log next last) :
    Reaches stream log task last := by
  obtain ⟨events, told, hqueue, hreports⟩ := h
  obtain ⟨more, told, hmore, hreports⟩ := hlast told (log ++ events) hreports
  exact ⟨events ++ more, told, by rw [hmore, hqueue, List.append_assoc],
    by rwa [← List.append_assoc]⟩

theorem Reports.new : Reports [] [] [] (ConnectionTask.new .new) where
  tells := ⟨rfl, rfl⟩
  unended := fun _ => rfl
  hears := fun _ => ⟨⟨[], by simp, rfl, rfl⟩, new_sound _, Transport.new_steady⟩
  heard := ⟨[], ⟨[], by simp, rfl, rfl⟩, List.prefix_rfl⟩
  complete := by simp [ConnectionTask.new]

theorem Reports.start (h : Reports stream told log task) (hphase : task.phase = .starting) :
    Reaches stream log task task.start := by
  have hrunning : task.phase ≠ .finished := by simp [hphase]
  have htells := h.tells
  simp only [Tells, hphase] at htells
  obtain ⟨rfl, rfl⟩ := htells
  have hending := h.unended hrunning
  cases hreceiving : task.events.receiving with
  | true =>
    refine ⟨[.opened], [], ?_, ?_⟩
    · simp [ConnectionTask.start, Channel.send?, hreceiving]
    · simp only [ConnectionTask.start, Channel.send?, hreceiving]
      exact ⟨rfl, fun _ => hending, fun _ => h.hears hrunning, h.heard, h.complete⟩
  | false =>
    refine ⟨[], [], ?_, ?_⟩
    · simp [ConnectionTask.start, Channel.send?, hreceiving, finish, Channel.dropSender]
    · simp only [ConnectionTask.start, Channel.send?, hreceiving]
      refine ⟨?_, fun hne => absurd rfl hne, fun hne => absurd rfl hne, h.heard, h.complete⟩
      simp [Tells, finish, Channel.dropSender, hending, hreceiving]

/-- Stopping tells the reason as the last event. -/
theorem Reports.stop (h : Reports stream told log task) (hphase : task.phase = .running)
    {d : Connection} {outbound : Channel Octets} (htaken : Taken stream heard d.rest)
    (hfront : told <+: heard) (hover : EndsInbound reason → Over stream told d) :
    Reaches stream log task
      (ConnectionTask.stop { task with connection := d, outbound } reason) := by
  have htells := h.tells
  simp only [Tells, hphase] at htells
  generalize hnext : ConnectionTask.stop { task with connection := d, outbound } reason = next
  have hfinished : next.phase = .finished := by rw [← hnext]; rfl
  have hending : next.ending = some reason := by rw [← hnext]; rfl
  have hclosed : next.connection = d.close.2 := by rw [← hnext]; rfl
  have hreceiving : next.events.receiving = task.events.receiving := by
    rw [← hnext, stop_receiving]
  refine ⟨_, told, by rw [← hnext, stop_queue], ?_⟩
  exact {
    tells := by
      cases hheard : task.events.receiving <;>
        simp [Tells, hfinished, hending, hreceiving, hheard, htells]
    unended := fun hne => absurd hfinished hne
    hears := fun hne => absurd hfinished hne
    heard := ⟨heard, by rwa [hclosed, rest_close], hfront⟩
    complete := by
      intro given hgiven hends
      rw [hending, Option.mem_some] at hgiven
      rw [hclosed]
      exact (hover (hgiven ▸ hends)).close }

theorem Reports.takeInbound (h : Reports stream told log task) (hphase : task.phase = .running) :
    Reaches stream log task task.takeInbound.2 := by
  have hrunning : task.phase ≠ .finished := by simp [hphase]
  have hhears := h.hears hrunning
  have hending := h.unended hrunning
  have htells := h.tells
  simp only [Tells, hphase] at htells
  obtain ⟨d, hrecv, htaken⟩ | ⟨envelope, d, hrecv, -, htaken⟩ |
    ⟨answer, d, reason, hrecv, htaken, hreason⟩ := task.takeInbound_cases
  · obtain ⟨hnext, -⟩ := hhears.recv_pending hrecv
    rw [htaken]
    exact .of_silent ⟨by simpa only [Tells, hphase] using htells, h.unended, fun _ => hnext,
      ⟨told, hnext.taken, List.prefix_rfl⟩, by simp [hending]⟩ rfl
  · have hnext := hhears.recv_envelope hrecv
    rw [htaken]
    refine ⟨[.message envelope], told ++ [envelope], rfl, ?_, h.unended, fun _ => hnext,
      ⟨_, hnext.taken, List.prefix_rfl⟩, by simp [hending]⟩
    simp [Tells, hphase, htells]
  · rw [htaken]
    obtain ⟨⟨envelope, rfl⟩, rfl⟩ | hanswer := hreason
    · exact h.stop hphase (hhears.recv_envelope hrecv).taken (List.prefix_append _ _)
        fun hends => absurd hends not_endsInbound_bridgeDropped
    · have hover := hhears.recv_over hrecv hanswer
      exact h.stop hphase hover.1 List.prefix_rfl fun _ => hover

theorem Reports.takeOutbound (h : Reports stream told log task) (hphase : task.phase = .running) :
    Reaches stream log task task.takeOutbound.2 := by
  have hrunning : task.phase ≠ .finished := by simp [hphase]
  have hhears := h.hears hrunning
  have hending := h.unended hrunning
  obtain ⟨-, -, htaken⟩ | ⟨body, rest, d, -, hsent, htaken⟩ | ⟨outbound, reason, htaken, hreason⟩ :=
    task.takeOutbound_cases
  · rw [htaken]
    exact .of_silent h rfl
  · have hnext : Hears stream told d :=
      hhears.congr hsent.splitter (by rw [hsent.transport]) (by rw [hsent.transport])
    have htells := h.tells
    simp only [Tells, hphase] at htells
    rw [htaken]
    exact .of_silent ⟨by simpa only [Tells, hphase] using htells, h.unended, fun _ => hnext,
      ⟨told, hnext.taken, List.prefix_rfl⟩, by simp [hending]⟩ rfl
  · rw [htaken]
    refine h.stop hphase hhears.taken List.prefix_rfl fun hends => ?_
    obtain rfl | ⟨e, rfl⟩ := hreason
    · exact absurd hends not_endsInbound_bridgeDropped
    · exact absurd hends (not_endsInbound_sendError e)

/-- A round reports what it takes off the stream. -/
theorem Reports.step (h : Reports stream told log task) (first : Branch) :
    Reaches stream log task (task.step first).2 := by
  cases hphase : task.phase with
  | starting =>
    simp only [ConnectionTask.step, hphase]
    exact h.start hphase
  | finished =>
    simp only [ConnectionTask.step, hphase]
    exact .of_silent h rfl
  | running =>
    refine step_induction hphase (.of_silent h rfl) ?_ ?_ first
    · exact fun next hrunning hreached => hreached.trans fun _ _ h => h.takeInbound hrunning
    · exact fun next hrunning hreached => hreached.trans fun _ _ h => h.takeOutbound hrunning

end ConnectionTask
end ClusterLink
