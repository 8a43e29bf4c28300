import ClusterLink.Connection.Run
import ClusterLink.Proofs.Connection.Rounds
/-!
What stops the task. Main statement: `run_finishes`, once the stream has ended or broken, or the
session has let go of its sending end, rounds come to an end, in whichever order they are offered
their branches.
-/
namespace ClusterLink

namespace Transport

theorem read_weight_le (t : Transport) : t.read.2.weight ≤ t.weight := by
  unfold read
  split
  case h_1 octets rest harrivals =>
    simp only [weight, harrivals, weightOf]
    split
    · omega
    · simp only [weightOf, List.length_drop]
      omega
  case h_2 cause rest harrivals =>
    simp only [weight, harrivals, weightOf]
    omega
  case h_3 => exact Nat.le_refl _

theorem read_ne_pending {t : Transport} (h : t.ended = true) : t.read.1 ≠ .pending := by
  unfold read
  split
  · simp
  · simp
  · simp [h]

end Transport

namespace Connection

variable {c : Connection}

theorem scan_weight_keeps (c : Connection) : c.scan.2.weight ≤ c.weight := by
  rw [weight, weight, scan_transport]
  exact Nat.add_le_add_right (scan_weight_le c) _

theorem recv_weight_le (c : Connection) : c.recv.2.weight ≤ c.weight := by
  have hscanned := scan_weight_keeps c
  fun_induction recv c with
  | case1 c envelope d hscan | case2 c e d hscan => rwa [hscan] at hscanned
  | case3 c d hscan transport hread | case4 c d hscan cause transport hread
  | case5 c d hscan transport hread =>
    have hless := d.transport.read_weight_le
    rw [hscan] at hscanned
    rw [hread] at hless
    exact Nat.le_trans (Nat.add_le_add_left hless _) hscanned
  | case6 c d hscan octets transport hread filled hless ih =>
    rw [hscan] at hscanned
    calc
      (d.accept transport octets).recv.2.weight ≤ (d.accept transport octets).weight :=
        ih (scan_weight_keeps _)
      _ ≤ d.weight := accept_weight hread filled
      _ ≤ c.weight := hscanned

/-- Receiving does not wait for a stream that has ended or broken. -/
theorem recv_ne_pending (h : c.transport.ended = true) : c.recv.1 ≠ .pending := by
  fun_induction recv c with
  | case3 c d hscan transport hread =>
    have htransport := scan_transport c
    rw [hscan] at htransport
    rw [← htransport] at h
    have hnever := Transport.read_ne_pending h
    rw [hread] at hnever
    exact fun _ => hnever rfl
  | case5 c d hscan transport hread => split <;> simp
  | case6 c d hscan octets transport hread filled hless ih =>
    have htransport := scan_transport c
    have hkeeps := d.transport.read_keeps.1
    rw [hscan] at htransport
    rw [hread] at hkeeps
    refine ih ?_
    rw [accept, hkeeps, htransport, h]
  | _ => simp

end Connection

/-- Why an answer of the stream stops the task, if it does. -/
def Received.reason? (listening : Bool) : Received → Option String
  | .envelope _ => if listening then none else some "Bridge dropped"
  | .ended => some "Connection closed by peer"
  | .failed e => some s!"Error: {e.message}"
  | .pending => none

namespace ConnectionTask

open Connection

variable {task : ConnectionTask}

/-! ### One round -/

/-- The end of the stream, its failure, and an envelope that nobody takes stop the task. -/
theorem step_inbound_stops (hphase : task.phase = .running) {answer : Received} {d : Connection}
    {reason : String} (hrecv : task.connection.recv = (answer, d))
    (hreason : answer.reason? task.events.receiving = some reason) :
    task.step .inbound = (true, stop { task with connection := d } reason) := by
  have htaken : task.takeInbound = (true, stop { task with connection := d } reason) := by
    unfold takeInbound
    rw [hrecv]
    cases answer with
    | pending => cases hreason
    | ended | failed => rw [← Option.some.inj hreason]
    | envelope envelope =>
      cases hlistening : task.events.receiving with
      | true => simp [Received.reason?, hlistening] at hreason
      | false =>
        rw [Received.reason?, hlistening, if_neg Bool.false_ne_true] at hreason
        simp [Channel.send?, hlistening, ← Option.some.inj hreason]
  simp only [step, hphase, htaken]

/-- A link on which nothing is left and nothing will be put stops the task. -/
theorem step_outbound_dropped (hphase : task.phase = .running) (hqueue : task.outbound.queue = [])
    (hsending : task.outbound.sending = false) :
    task.step .outbound = (true, task.stop "Bridge dropped") := by
  have htaken : task.takeOutbound = (true, task.stop "Bridge dropped") := by
    simp [takeOutbound, hqueue, hsending]
  simp only [step, hphase, htaken]

/-- A body that cannot be written stops the task. -/
theorem step_outbound_fails (hphase : task.phase = .running) {body : Octets} {rest : List Octets}
    {e : ConnectionError} {d : Connection} (hqueue : task.outbound.queue = body :: rest)
    (hfails : task.connection.sendBody body = (.error e, d)) :
    task.step .outbound = (true, stop { task with
      connection := d
      outbound := { task.outbound with queue := rest } } s!"Send error: {e.message}") := by
  have htaken : task.takeOutbound = (true, stop { task with
      connection := d
      outbound := { task.outbound with queue := rest } } s!"Send error: {e.message}") := by
    simp only [takeOutbound, hqueue, hfails]
  simp only [step, hphase, htaken]

theorem step_of_finished (h : task.phase = .finished) (first : Branch) :
    task.step first = (false, task) := by
  simp only [step, h]

/-- With an end in sight on either side, every round does something. -/
theorem step_ready (hphase : task.phase ≠ .finished)
    (h : task.connection.transport.ended = true ∨ task.outbound.sending = false)
    (first : Branch) : (task.step first).1 = true := by
  cases hnow : task.phase with
  | starting => simp only [step, hnow]
  | finished => exact absurd hnow hphase
  | running =>
    by_contra hwaits
    obtain ⟨⟨d, hrecv⟩, -, hsending⟩ := step_waits hnow (Bool.not_eq_true _ ▸ hwaits)
    rcases h with hended | hdropped
    · exact recv_ne_pending hended (congrArg Prod.fst hrecv)
    · rw [hdropped] at hsending
      cases hsending

theorem takeInbound_sending (task : ConnectionTask) :
    task.takeInbound.2.outbound.sending = task.outbound.sending := by
  obtain ⟨d, -, htaken⟩ | ⟨envelope, d, -, -, htaken⟩ | ⟨answer, d, reason, -, htaken, -⟩ :=
    task.takeInbound_cases
  all_goals exact congrArg (·.2.outbound.sending) htaken

theorem takeOutbound_sending (task : ConnectionTask) :
    task.takeOutbound.2.outbound.sending = task.outbound.sending := by
  unfold takeOutbound
  split
  · dsimp only
    split <;> rfl
  · split <;> rfl

theorem step_sending (task : ConnectionTask) (first : Branch) :
    (task.step first).2.outbound.sending = task.outbound.sending := by
  cases hphase : task.phase with
  | starting =>
    simp only [step, hphase, start]
    split <;> rfl
  | finished => simp only [step, hphase]
  | running =>
    refine step_induction (P := fun next => next.outbound.sending = task.outbound.sending) hphase
      rfl ?_ ?_ first
    · exact fun next _ h => next.takeInbound_sending.trans h
    · exact fun next _ h => next.takeOutbound_sending.trans h

/-! ### Rounds -/

/-- What bounds the rounds in which something is still done. -/
def left (task : ConnectionTask) : Nat :=
  match task.phase with
  | .starting => task.connection.weight + task.outbound.queue.length + 2
  | .running => task.connection.weight + task.outbound.queue.length + 1
  | .finished => 0

theorem left_lt_work (task : ConnectionTask) : task.left < task.work := by
  unfold left work Connection.weight
  split <;> omega

/-- What was ready leaves less to do, and what was not leaves the task running with no more. -/
def Lessens (task : ConnectionTask) : Bool × ConnectionTask → Prop
  | (true, next) => next.left < task.left
  | (false, next) => next.phase = .running ∧ next.left ≤ task.left

theorem Lessens.trans {next : ConnectionTask} {taken : Bool × ConnectionTask}
    (h : task.Lessens (false, next)) (hnext : next.phase = .running → next.Lessens taken) :
    task.Lessens taken := by
  obtain ⟨hphase, hle⟩ := h
  have htaken := hnext hphase
  obtain ⟨_ | _, last⟩ := taken
  · exact ⟨htaken.1, Nat.le_trans htaken.2 hle⟩
  · exact Nat.lt_of_lt_of_le htaken hle

theorem lessens_stop (hphase : task.phase = .running) (next : ConnectionTask) (reason : String) :
    task.Lessens (true, next.stop reason) := by
  show 0 < task.left
  rw [left, hphase]
  exact Nat.succ_pos _

theorem takeInbound_lessens (hphase : task.phase = .running) : task.Lessens task.takeInbound := by
  obtain ⟨d, hrecv, htaken⟩ | ⟨envelope, d, hrecv, -, htaken⟩ | ⟨answer, d, reason, -, htaken, -⟩ :=
    task.takeInbound_cases
  · have hweight : d.weight ≤ task.connection.weight := by
      simpa only [hrecv] using recv_weight_le task.connection
    rw [htaken]
    refine ⟨hphase, ?_⟩
    simp only [left, hphase]
    omega
  · have hweight := recv_weight hrecv
    rw [htaken]
    simp only [Lessens, left, hphase]
    omega
  · rw [htaken]
    exact lessens_stop hphase _ reason

theorem takeOutbound_lessens (hphase : task.phase = .running) :
    task.Lessens task.takeOutbound := by
  obtain ⟨-, -, htaken⟩ | ⟨body, rest, d, hqueue, hsent, htaken⟩ | ⟨outbound, reason, htaken, -⟩ :=
    task.takeOutbound_cases
  · rw [htaken]
    exact ⟨hphase, Nat.le_refl _⟩
  · have hweight : d.weight = task.connection.weight := by
      rw [Connection.weight, hsent.splitter, hsent.transport]
      rfl
    rw [htaken]
    simp only [Lessens, left, hphase, hqueue, hweight, List.length_cons]
    omega
  · rw [htaken]
    exact lessens_stop hphase _ reason

theorem step_lessens (hphase : task.phase = .running) (first : Branch) :
    task.Lessens (task.step first) := by
  unfold step
  rw [hphase]
  cases first with
  | inbound =>
    have h := takeInbound_lessens hphase
    rcases htaken : task.takeInbound with ⟨_ | _, next⟩ <;> rw [htaken] at h
    · exact h.trans takeOutbound_lessens
    · exact h
  | outbound =>
    have h := takeOutbound_lessens hphase
    rcases htaken : task.takeOutbound with ⟨_ | _, next⟩ <;> rw [htaken] at h
    · exact h.trans takeInbound_lessens
    · exact h

/-- A round that does something leaves less to do. -/
theorem step_left_lt {first : Branch} (h : (task.step first).1 = true) :
    (task.step first).2.left < task.left := by
  cases hphase : task.phase with
  | finished =>
    rw [step_of_finished hphase] at h
    cases h
  | starting =>
    simp only [step, hphase, start]
    split <;> simp [left, hphase, finish]
  | running =>
    have hless := step_lessens hphase first
    rcases hstep : task.step first with ⟨ready, next⟩
    rw [hstep] at h hless
    cases h
    exact hless

theorem finished_of_left (h : task.left = 0) : task.phase = .finished := by
  unfold left at h
  split at h
  · cases h
  · cases h
  · assumption

theorem run_of_finished (h : task.phase = .finished) (choices : List Branch) :
    task.run choices = task := by
  induction choices with
  | nil => rfl
  | cons first rest ih =>
    show (task.step first).2.run rest = task
    rw [step_of_finished h, ih]

/-- With an end in sight on either side, as many rounds as there is work end the task. -/
theorem run_finishes (h : task.connection.transport.ended = true ∨ task.outbound.sending = false)
    (choices : List Branch) (hrounds : task.left ≤ choices.length) :
    (task.run choices).phase = .finished := by
  induction choices generalizing task with
  | nil => exact finished_of_left (Nat.le_zero.1 hrounds)
  | cons first rest ih =>
    by_cases hphase : task.phase = .finished
    · rwa [run_of_finished hphase]
    · have hless := step_left_lt (step_ready hphase h first)
      refine ih ?_ (Nat.le_of_lt_succ (Nat.lt_of_lt_of_le hless hrounds))
      rwa [step_ended, step_sending]

theorem settleWithin_waits {rounds : Nat} (h : task.left < rounds) :
    ∃ last : ConnectionTask, last.step .inbound = (false, task.settleWithin rounds) := by
  induction rounds generalizing task with
  | zero => exact absurd h (Nat.not_lt_zero _)
  | succ rounds ih =>
    rcases hstep : task.step .inbound with ⟨_ | _, next⟩
    · exact ⟨task, by rw [settleWithin, hstep]⟩
    · have hless := step_left_lt (congrArg Prod.fst hstep)
      rw [hstep] at hless
      rw [settleWithin, hstep]
      exact ih (Nat.lt_of_lt_of_le hless (Nat.le_of_lt_succ h))

/-- Settling comes to a round in which nothing is ready. -/
theorem settle_waits (task : ConnectionTask) :
    ∃ last : ConnectionTask, last.step .inbound = (false, task.settle) :=
  settleWithin_waits task.left_lt_work

end ConnectionTask
end ClusterLink
