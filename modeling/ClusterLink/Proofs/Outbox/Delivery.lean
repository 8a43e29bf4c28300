import ClusterLink.Outbox.Run
import ClusterLink.Proofs.Outbox.Acceptance
import Mathlib.Data.List.Induction
/-!
Every accepted body is put on the wire exactly once and in order, as soon as the connection is
open. An outbox that closes before it opened has put nothing there, and a closed one stays closed.
-/
namespace ClusterLink

/-- The body of a send that was accepted. -/
def OutboxStep.accepted? (step : OutboxStep) (answer : OutboxAnswer) : Option Octets :=
  match step, answer with
  | .send envelope, .sent (.ok _) => envelope.encode.toOption
  | _, _ => none

namespace Outbox

/-- The bodies of all sends that were accepted, in order. -/
def accepted (records : List OutboxRecord) : List Octets :=
  records.filterMap fun record => record.step.accepted? record.answer

/-- The bodies that were put on the wire, in order. -/
def written (records : List OutboxRecord) : List Octets := records.flatMap (·.written)

/-- What a step does to the state, by the body that it accepts and the bodies that it writes. -/
inductive Moves : OutboxState → Option Octets → List Octets → OutboxState → Prop
  | stay (state) : Moves state none [] state
  | wait (pending body) :
      Moves (.connecting pending) (some body) [] (.connecting (pending ++ [body]))
  | write (body) : Moves .opened (some body) [body] .opened
  | connect (pending) : Moves (.connecting pending) none pending .opened
  | close (state) : Moves state none [] .closed

variable {outbox next : Outbox}

theorem writtenSince_eq {bodies : List Octets}
    (h : next.wire.queue = outbox.wire.queue ++ bodies) : next.writtenSince outbox = bodies := by
  rw [writtenSince, h, List.drop_left]

/-- Only the wire tells what was written. -/
theorem writtenSince_of_state (outbox : Outbox) (state : OutboxState) :
    writtenSince { outbox with state } outbox = [] :=
  writtenSince_eq (List.append_nil _).symm

theorem writtenSince_of_empty (h : next.wire.queue = []) : next.writtenSince outbox = [] := by
  rw [writtenSince, h, List.drop_nil]

theorem send_moves (outbox : Outbox) (envelope : Envelope) :
    let (answer, next) := outbox.step (.send envelope)
    Moves outbox.state (OutboxStep.accepted? (.send envelope) answer) (next.writtenSince outbox)
      next.state := by
  cases hbody : envelope.encode with
  | error cause =>
    simp only [step, send_of_error hbody]
    rw [writtenSince_of_state outbox outbox.state]
    exact .stay outbox.state
  | ok body =>
    by_cases hrefuses : outbox.Refuses
    · simp only [step, send_of_refuses hbody hrefuses]
      rw [close, writtenSince_of_state]
      exact .close outbox.state
    · simp only [step, send_of_not_refuses hbody hrefuses, OutboxStep.accepted?, hbody,
        Except.toOption]
      cases hstate : outbox.state with
      | connecting pending =>
        simp only [accept, hstate]
        rw [writtenSince_of_state]
        exact .wait pending body
      | opened =>
        simp only [accept, hstate]
        rw [writtenSince_eq rfl]
        exact .write body
      | closed => exact absurd (.inl hstate) hrefuses

theorem connect_moves (outbox : Outbox) :
    Moves outbox.state none (outbox.connect.2.writtenSince outbox) outbox.connect.2.state := by
  cases hstate : outbox.state with
  | connecting pending =>
    by_cases hflush : outbox.wire.receiving = true ∨ pending = []
    · rw [connect_of_connecting hstate hflush, writtenSince_eq rfl]
      exact .connect pending
    · rw [not_or, Bool.not_eq_true] at hflush
      rw [connect_of_connecting_dropped hstate hflush.1 hflush.2, close, writtenSince_of_state]
      exact .close _
  | opened =>
    rw [connect_of_opened hstate, writtenSince_of_state outbox outbox.state, hstate]
    exact .stay _
  | closed =>
    rw [connect_of_closed hstate, writtenSince_of_state outbox outbox.state, hstate]
    exact .stay _

/-- Every step is one of the moves. -/
theorem step_moves (outbox : Outbox) (step : OutboxStep) :
    let (answer, next) := outbox.step step
    Moves outbox.state (step.accepted? answer) (next.writtenSince outbox) next.state := by
  cases step with
  | send envelope => exact send_moves outbox envelope
  | connect => exact connect_moves outbox
  | close =>
    show Moves outbox.state none (outbox.close.writtenSince outbox) .closed
    rw [close, writtenSince_of_state]
    exact .close outbox.state
  | collect =>
    show Moves outbox.state none (outbox.collect.2.writtenSince outbox) outbox.state
    rw [writtenSince_of_empty rfl]
    exact .stay outbox.state
  | dropReceiver =>
    show Moves outbox.state none (outbox.dropReceiver.writtenSince outbox) outbox.state
    rw [writtenSince_of_empty rfl]
    exact .stay outbox.state

theorem accepted_snoc (records : List OutboxRecord) (last : OutboxRecord) :
    accepted (records ++ [last]) =
      accepted records ++ (last.step.accepted? last.answer).toList := by
  rw [accepted, List.filterMap_append, accepted]
  cases h : last.step.accepted? last.answer <;> simp [h]

theorem written_snoc (records : List OutboxRecord) (last : OutboxRecord) :
    written (records ++ [last]) = written records ++ last.written := by
  simp [written]

/-! ### Runs -/

/-- How the bodies that a run accepted and wrote go with the state that it has come to. A run that
has closed did so in one of its steps. -/
def Accounts (steps : List OutboxStep) (accepted written : List Octets) : OutboxState → Prop
  | .connecting pending => pending = accepted ∧ written = []
  | .opened => written = accepted
  | .closed => ∃ before step after, steps = before ++ step :: after ∧
      (new.run (before ++ [step])).2.state = .closed ∧
      match (new.run before).2.state with
      | .connecting _ => written = []
      | .opened => written = accepted
      | .closed => False

section

variable {steps : List OutboxStep} {accepted written bodies : List Octets} {body : Option Octets}
  {state : OutboxState}

theorem Moves.of_closed (h : Moves .closed body bodies state) :
    body = none ∧ bodies = [] ∧ state = .closed := by
  cases h with
  | stay => exact ⟨rfl, rfl, rfl⟩
  | close => exact ⟨rfl, rfl, rfl⟩

theorem Accounts.closed_snoc (h : Accounts steps accepted written .closed) (last : OutboxStep) :
    Accounts (steps ++ [last]) accepted written .closed := by
  obtain ⟨before, step, after, rfl, hclosed, hbefore⟩ := h
  refine ⟨before, step, after ++ [last], ?_, hclosed, hbefore⟩
  rw [List.append_assoc, List.cons_append]

theorem Accounts.snoc {last : OutboxStep}
    (h : Accounts steps accepted written (new.run steps).2.state)
    (hmoves : Moves (new.run steps).2.state body bodies state)
    (hnext : (new.run (steps ++ [last])).2.state = state) :
    Accounts (steps ++ [last]) (accepted ++ body.toList) (written ++ bodies) state := by
  generalize hstart : (new.run steps).2.state = start at h hmoves
  cases hmoves with
  | stay state =>
    rw [Option.toList_none, List.append_nil, List.append_nil]
    cases state with
    | connecting pending => exact h
    | opened => exact h
    | closed => exact h.closed_snoc last
  | wait pending body =>
    obtain ⟨rfl, rfl⟩ := h
    exact ⟨rfl, rfl⟩
  | write body => exact congrArg (· ++ [body]) h
  | connect pending =>
    obtain ⟨rfl, rfl⟩ := h
    exact (List.append_nil _).symm
  | close =>
    rw [Option.toList_none, List.append_nil, List.append_nil]
    cases start with
    | connecting pending =>
      refine ⟨steps, last, [], rfl, hnext, ?_⟩
      rw [hstart]
      exact h.2
    | opened =>
      refine ⟨steps, last, [], rfl, hnext, ?_⟩
      rw [hstart]
      exact h
    | closed => exact h.closed_snoc last

end

/-- Every run keeps the account, one step after the other. -/
theorem run_accounts (steps : List OutboxStep) :
    Accounts steps (accepted (new.run steps).1) (written (new.run steps).1)
      (new.run steps).2.state := by
  induction steps using List.reverseRecOn with
  | nil => exact ⟨rfl, rfl⟩
  | append_singleton steps last ih =>
    have hrun := runSteps_snoc record new steps last
    have hnext := ih.snoc (step_moves (new.run steps).2 last) (congrArg (·.2.state) hrun)
    rw [run, hrun, accepted_snoc, written_snoc]
    exact hnext

/-- A closed outbox stays closed and writes nothing. -/
theorem run_of_closed (hclosed : outbox.state = .closed) (steps : List OutboxStep) :
    (outbox.run steps).2.state = .closed ∧ written (outbox.run steps).1 = [] := by
  refine runSteps_induction record (motive := fun _ records outbox =>
    outbox.state = .closed ∧ written records = []) ⟨hclosed, rfl⟩ ?_ steps
  rintro - records outbox last ⟨hstate, hwritten⟩
  have hmoves := step_moves outbox last
  rw [hstate] at hmoves
  obtain ⟨-, hnothing, hnext⟩ := hmoves.of_closed
  rw [written_snoc, hwritten, List.nil_append]
  exact ⟨hnext, hnothing⟩

/-- Opening writes what waits, unless the outbox is closed or nobody receives what waits. -/
theorem connect_cases (outbox : Outbox) :
    (¬ outbox.Barred ∧ ∃ next, outbox.connect = (.ok outbox.waiting.length, next) ∧
      next.state = .opened ∧ next.writtenSince outbox = outbox.waiting) ∨
    outbox.Barred ∧ outbox.connect = (.error .connectionClosed, outbox.close) := by
  cases hstate : outbox.state with
  | connecting pending =>
    have hwaiting : outbox.waiting = pending := by simp [waiting, hstate]
    by_cases hflush : outbox.wire.receiving = true ∨ pending = []
    · refine .inl ⟨?_, { outbox with
        state := .opened
        wire.queue := outbox.wire.queue ++ pending }, ?_, rfl, ?_⟩
      · simp only [Barred, hstate, hwaiting]
        rcases hflush with hreceiving | rfl
        · simp [hreceiving]
        · simp
      · rw [connect_of_connecting hstate hflush, hwaiting]
      · rw [hwaiting]
        exact writtenSince_eq rfl
    · rw [not_or, Bool.not_eq_true] at hflush
      refine .inr ⟨.inr ⟨?_, hflush.1⟩, connect_of_connecting_dropped hstate hflush.1 hflush.2⟩
      rw [hwaiting]
      exact hflush.2
  | opened =>
    have hwaiting : outbox.waiting = [] := by simp [waiting, hstate]
    refine .inl ⟨by simp [Barred, hstate, hwaiting], outbox, ?_, hstate, ?_⟩
    · rw [connect_of_opened hstate, hwaiting]
      rfl
    · rw [hwaiting]
      exact writtenSince_of_state outbox outbox.state
  | closed =>
    refine .inr ⟨.inl hstate, ?_⟩
    rw [connect_of_closed hstate, close, ← hstate]

/-- While the outbox connects, exactly the accepted bodies wait and nothing is written; while it is
open, nothing waits and exactly the accepted bodies are written. Once closed it stays closed, and
nothing waits or is written any more: what is written then is all that was accepted if it closed
when it was open, and nothing if it closed before. A body is refused exactly by a closed outbox and
by an open one to which nobody listens, an opening exactly by a closed outbox and by one whose
waiting bodies nobody receives. Opening tells the number of bodies that it writes, and an envelope
without a body changes nothing. -/
theorem run_delivers (steps : List OutboxStep) :
    let (records, outbox) := new.run steps
    (match outbox.state with
      | .connecting pending => pending = accepted records ∧ written records = []
      | .opened => outbox.pendingCount = 0 ∧ written records = accepted records
      | .closed => outbox.pendingCount = 0 ∧
        (∃ before step after, steps = before ++ step :: after ∧
          (new.run (before ++ [step])).2.state = .closed ∧
          match (new.run before).2.state with
          | .connecting _ => written records = []
          | .opened => written records = accepted records
          | .closed => False) ∧
        ∀ later, (outbox.run later).2.state = .closed ∧ (outbox.run later).2.pendingCount = 0 ∧
          written (outbox.run later).1 = []) ∧
    (∀ envelope : Envelope,
      match envelope.encode with
      | .error cause => outbox.send envelope = (.error (.codec cause), outbox)
      | .ok _ => (outbox.Refuses ∧ (outbox.send envelope).1 = .error .connectionClosed) ∨
        ¬ outbox.Refuses ∧ (outbox.send envelope).1 = .ok ()) ∧
    ((outbox.Barred ∧ outbox.connect = (.error .connectionClosed, outbox.close)) ∨
      ¬ outbox.Barred ∧ ∃ count next, outbox.connect = (.ok count, next) ∧ next.state = .opened ∧
        count = (next.writtenSince outbox).length ∧ (outbox.state = .opened → count = 0)) := by
  have haccounts := run_accounts steps
  generalize hrun : new.run steps = run at haccounts ⊢
  obtain ⟨records, outbox⟩ := run
  refine ⟨?_, ?_, ?_⟩
  · cases hstate : outbox.state with
    | connecting pending =>
      rw [hstate] at haccounts
      exact haccounts
    | opened =>
      rw [hstate] at haccounts
      exact ⟨by simp [pendingCount, hstate], haccounts⟩
    | closed =>
      rw [hstate] at haccounts
      refine ⟨by simp [pendingCount, hstate], haccounts, ?_⟩
      intro later
      obtain ⟨hclosed, hnothing⟩ := run_of_closed hstate later
      exact ⟨hclosed, by simp [pendingCount, hclosed], hnothing⟩
  · intro envelope
    cases hbody : envelope.encode with
    | error cause => exact send_of_error hbody
    | ok body =>
      by_cases hrefuses : outbox.Refuses
      · exact .inl ⟨hrefuses, by rw [send_of_refuses hbody hrefuses]⟩
      · exact .inr ⟨hrefuses, by rw [send_of_not_refuses hbody hrefuses]⟩
  · obtain ⟨hopens, next, hconnect, hopened, hwritten⟩ | hbarred := outbox.connect_cases
    · refine .inr ⟨hopens, _, next, hconnect, hopened, by rw [hwritten], ?_⟩
      intro hstate
      simp [waiting, hstate]
    · exact .inl hbarred

end Outbox
end ClusterLink
