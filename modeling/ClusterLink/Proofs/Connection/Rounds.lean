import ClusterLink.Proofs.Connection.Hearing
/-!
What one round of the task can do: it opens, takes one of the branches, or waits with both. The
branches leave to each other what the other one needs.
-/
namespace ClusterLink

open ClusterLink.Frame

namespace Connection

theorem close_snd (c : Connection) :
    c.close.2 = { c with transport := { c.transport with shut := true } } := by
  unfold close
  split
  case h_1 cause transport h => rw [← (Prod.mk.inj h).2]
  case h_2 transport h => rw [← (Prod.mk.inj h).2]

/-- A body has been written as one whole frame. -/
structure Sent (c : Connection) (body : Octets) (d : Connection) : Prop where
  size : body.length ≤ maxBodySize
  splitter : d.splitter = c.splitter
  transport : d.transport = { c.transport with written := c.transport.written ++ around body }

/-- A body is written as a whole, or nothing is. -/
theorem sendBody_cases (c : Connection) (body : Octets) :
    (∃ d, c.sendBody body = (.ok (), d) ∧ c.Sent body d) ∨
      ∃ e, c.sendBody body = (.error e, c) := by
  by_cases hsize : body.length ≤ maxBodySize
  · cases hfailure : c.transport.writeFailure with
    | none =>
      left
      rw [sendBody, write_eq hsize]
      simp only [Transport.write, hfailure]
      exact ⟨_, rfl, hsize, rfl, by simp [hfailure]⟩
    | some cause =>
      right
      rw [sendBody, write_eq hsize]
      simp only [Transport.write, hfailure]
      exact ⟨_, rfl⟩
  · right
    rw [sendBody, Frame.write, if_pos (Nat.lt_of_not_le hsize)]
    exact ⟨_, rfl⟩

end Connection

namespace ConnectionTask

open Connection

variable {task : ConnectionTask}

theorem stop_queue (task : ConnectionTask) (reason : String) : (task.stop reason).events.queue =
    task.events.queue ++ if task.events.receiving then [.closed reason] else [] := by
  cases h : task.events.receiving <;> simp [stop, finish, Channel.dropSender, Channel.send?, h]

theorem stop_receiving (task : ConnectionTask) (reason : String) :
    (task.stop reason).events.receiving = task.events.receiving := by
  cases h : task.events.receiving <;> simp [stop, finish, Channel.dropSender, Channel.send?, h]

/-- The inbound branch waits, passes an envelope on, or ends the task. -/
theorem takeInbound_cases (task : ConnectionTask) :
    (∃ d, task.connection.recv = (.pending, d) ∧
      task.takeInbound = (false, { task with connection := d })) ∨
    (∃ envelope d, task.connection.recv = (.envelope envelope, d) ∧
      task.events.receiving = true ∧
      task.takeInbound = (true, { task with
        connection := d
        events := { task.events with queue := task.events.queue ++ [.message envelope] } })) ∨
    ∃ answer d reason, task.connection.recv = (answer, d) ∧
      task.takeInbound = (true, stop { task with connection := d } reason) ∧
      ((∃ envelope, answer = .envelope envelope) ∧ reason = "Bridge dropped" ∨
        answer = .ended ∨ ∃ e, answer = .failed e) := by
  unfold takeInbound
  cases hrecv : task.connection.recv with
  | mk answer d =>
    cases answer with
    | pending => exact .inl ⟨d, rfl, rfl⟩
    | envelope envelope =>
      cases hreceiving : task.events.receiving with
      | true =>
        refine .inr (.inl ⟨envelope, d, rfl, rfl, ?_⟩)
        simp [Channel.send?, hreceiving]
      | false =>
        refine .inr (.inr ⟨.envelope envelope, d, _, rfl, ?_, .inl ⟨⟨envelope, rfl⟩, rfl⟩⟩)
        simp [Channel.send?, hreceiving]
    | ended => exact .inr (.inr ⟨.ended, d, _, rfl, rfl, .inr (.inl rfl)⟩)
    | failed e => exact .inr (.inr ⟨.failed e, d, _, rfl, rfl, .inr (.inr ⟨e, rfl⟩)⟩)

/-- The outbound branch waits, writes a body, or ends the task. -/
theorem takeOutbound_cases (task : ConnectionTask) :
    (task.outbound.queue = [] ∧ task.outbound.sending = true ∧
      task.takeOutbound = (false, task)) ∨
    (∃ body rest d, task.outbound.queue = body :: rest ∧ task.connection.Sent body d ∧
      task.takeOutbound = (true, { task with
        connection := d
        outbound := { task.outbound with queue := rest } })) ∨
    ∃ outbound reason, task.takeOutbound = (true, stop { task with outbound } reason) ∧
      (reason = "Bridge dropped" ∨
        ∃ e : ConnectionError, reason = s!"Send error: {e.message}") := by
  unfold takeOutbound
  cases hqueue : task.outbound.queue with
  | nil =>
    cases hsending : task.outbound.sending with
    | true => exact .inl ⟨rfl, rfl, rfl⟩
    | false =>
      exact .inr (.inr ⟨task.outbound, _, rfl, .inl rfl⟩)
  | cons body rest =>
    obtain ⟨d, hok, hsent⟩ | ⟨e, hfailed⟩ := task.connection.sendBody_cases body
    · refine .inr (.inl ⟨body, rest, d, rfl, hsent, ?_⟩)
      simp only [hok]
    · refine .inr (.inr ⟨{ task.outbound with queue := rest }, _, ?_, .inr ⟨e, rfl⟩⟩)
      simp only [hfailed]

/-- What the branches of a running task keep, a round keeps. -/
theorem step_induction {P : ConnectionTask → Prop} (hphase : task.phase = .running) (h : P task)
    (hinbound : ∀ task, task.phase = .running → P task → P task.takeInbound.2)
    (houtbound : ∀ task, task.phase = .running → P task → P task.takeOutbound.2)
    (first : Branch) : P (task.step first).2 := by
  unfold step
  rw [hphase]
  cases first with
  | inbound =>
    have hfirst := hinbound task hphase h
    obtain ⟨d, -, htaken⟩ | ⟨envelope, d, -, -, htaken⟩ | ⟨answer, d, reason, -, htaken, -⟩ :=
      task.takeInbound_cases
    · simp only [htaken] at hfirst ⊢
      exact houtbound _ hphase hfirst
    · simp only [htaken] at hfirst ⊢
      exact hfirst
    · simp only [htaken] at hfirst ⊢
      exact hfirst
  | outbound =>
    have hfirst := houtbound task hphase h
    obtain ⟨-, -, htaken⟩ | ⟨body, rest, d, -, -, htaken⟩ | ⟨outbound, reason, htaken, -⟩ :=
      task.takeOutbound_cases
    · simp only [htaken]
      exact hinbound task hphase h
    · simp only [htaken] at hfirst ⊢
      exact hfirst
    · simp only [htaken] at hfirst ⊢
      exact hfirst

/-- The inbound branch neither ends the stream nor writes to it. -/
theorem takeInbound_keeps (task : ConnectionTask) :
    task.takeInbound.2.connection.transport.ended = task.connection.transport.ended ∧
      task.takeInbound.2.connection.transport.written = task.connection.transport.written := by
  have hkeeps := recv_keeps task.connection
  obtain ⟨d, hrecv, htaken⟩ | ⟨envelope, d, hrecv, -, htaken⟩ |
    ⟨answer, d, reason, hrecv, htaken, -⟩ := task.takeInbound_cases
  all_goals
    rw [hrecv] at hkeeps
    rw [htaken]
  · exact hkeeps
  · exact hkeeps
  · rwa [stop, finish, close_snd]

theorem takeOutbound_ended (task : ConnectionTask) :
    task.takeOutbound.2.connection.transport.ended = task.connection.transport.ended := by
  obtain ⟨-, -, htaken⟩ | ⟨body, rest, d, -, hsent, htaken⟩ | ⟨outbound, reason, htaken, -⟩ :=
    task.takeOutbound_cases
  · rw [htaken]
  · rw [htaken, hsent.transport]
  · rw [htaken, stop, finish, close_snd]

theorem step_ended (task : ConnectionTask) (first : Branch) :
    (task.step first).2.connection.transport.ended = task.connection.transport.ended := by
  cases hphase : task.phase with
  | starting =>
    simp only [step, hphase, start]
    split <;> rfl
  | finished => simp only [step, hphase]
  | running =>
    refine step_induction (P := fun next =>
      next.connection.transport.ended = task.connection.transport.ended) hphase rfl ?_ ?_ first
    · exact fun next _ h => next.takeInbound_keeps.1.trans h
    · exact fun next _ h => next.takeOutbound_ended.trans h

theorem takeInbound_waits (h : task.takeInbound.1 = false) : ∃ d,
    task.connection.recv = (.pending, d) ∧
      task.takeInbound = (false, { task with connection := d }) := by
  obtain hwaits | ⟨envelope, d, -, -, htaken⟩ | ⟨answer, d, reason, -, htaken, -⟩ :=
    task.takeInbound_cases
  · exact hwaits
  · simp [htaken] at h
  · simp [htaken] at h

theorem takeOutbound_waits (h : task.takeOutbound.1 = false) :
    task.outbound.queue = [] ∧ task.outbound.sending = true ∧
      task.takeOutbound = (false, task) := by
  obtain hwaits | ⟨body, rest, d, -, -, htaken⟩ | ⟨outbound, reason, htaken, -⟩ :=
    task.takeOutbound_cases
  · exact hwaits
  · simp [htaken] at h
  · simp [htaken] at h

/-- A round in which nothing is ready has offered both branches. -/
theorem step_waits {first : Branch} (hphase : task.phase = .running)
    (h : (task.step first).1 = false) : (∃ d, task.connection.recv = (.pending, d)) ∧
      task.outbound.queue = [] ∧ task.outbound.sending = true := by
  unfold step at h
  rw [hphase] at h
  cases first with
  | inbound =>
    dsimp only at h
    split at h
    · cases h
    case h_2 next hnext =>
      obtain ⟨d, hrecv, htaken⟩ := takeInbound_waits (congrArg Prod.fst hnext)
      cases hnext.symm.trans htaken
      obtain ⟨hqueue, hsending, -⟩ := takeOutbound_waits h
      exact ⟨⟨d, hrecv⟩, hqueue, hsending⟩
  | outbound =>
    dsimp only at h
    split at h
    · cases h
    case h_2 next hnext =>
      obtain ⟨hqueue, hsending, htaken⟩ := takeOutbound_waits (congrArg Prod.fst hnext)
      cases hnext.symm.trans htaken
      obtain ⟨d, hrecv, -⟩ := takeInbound_waits h
      exact ⟨⟨d, hrecv⟩, hqueue, hsending⟩

end ConnectionTask
end ClusterLink
