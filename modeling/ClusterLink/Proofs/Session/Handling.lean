import ClusterLink.Proofs.Command.Table
import ClusterLink.Proofs.Roster.Calls
import ClusterLink.Session.Basic
/-!
What the events of a connection do to the parts of a session: each part takes what concerns it and
depends on nothing else.
-/
namespace ClusterLink

namespace ConnectionEvent

/-- The reason that an event gives for the end of the connection. -/
def closing? : ConnectionEvent → Option String
  | .closed reason => some reason
  | _ => none

/-- Whether an event is a response that names this id. -/
def answers (id : UInt16) : ConnectionEvent → Bool
  | .message (.serverResponse named _ _) => named == id
  | _ => false

end ConnectionEvent

namespace Gate

/-- What a session does at its gate with an inbound envelope. -/
def accept (gate : Gate) (envelope : Envelope) : Gate :=
  match envelope with
  | .info .. | .serverResponse .. | .auth .. | .chat .. => gate
  | .packet .. => (gate.placePacket envelope).2
  | _ => (gate.place envelope).2

/-- What a session does at its gate with an event. -/
def heed (gate : Gate) (event : ConnectionEvent) : Gate :=
  match event with
  | .message envelope => gate.accept envelope
  | _ => gate

end Gate

namespace CommandTable

variable {table : CommandTable} {id : UInt16} {event : ConnectionEvent}

/-- What a session does in its table with an event. -/
def heed (table : CommandTable) (event : ConnectionEvent) : CommandTable :=
  match event with
  | .message (.serverResponse id payload success) => (table.resolve id payload success).2
  | _ => table

/-- An event that answers no outstanding command leaves the table as it is. -/
theorem heed_eq_self (h : ∀ id ∈ table.outstandingIds, event.answers id = false) :
    table.heed event = table := by
  unfold heed
  split
  case h_1 id payload success =>
    have hfree : id ∉ table.outstandingIds := fun hid => by
      simpa [ConnectionEvent.answers] using h id hid
    rw [resolve_of_notMem payload success hfree]
  case h_2 => rfl

end CommandTable

namespace Session

variable {ρ : Type} [GameRuntime ρ]

theorem dispatch_gate (session : Session ρ) (envelope : Envelope) :
    (session.dispatch envelope).gate = session.gate.accept envelope := by
  cases envelope <;> rfl

theorem handle_gate (session : Session ρ) (event : ConnectionEvent) :
    (session.handle event).gate = session.gate.heed event := by
  cases event with
  | message envelope => exact session.dispatch_gate envelope
  | opened | closed => rfl

theorem handle_commands (session : Session ρ) (event : ConnectionEvent) :
    (session.handle event).commands = session.commands.heed event := by
  cases event with
  | message envelope => cases envelope <;> rfl
  | opened | closed => rfl

theorem handle_closeReason (session : Session ρ) (event : ConnectionEvent) :
    (session.handle event).closeReason = event.closing?.or session.closeReason := by
  cases event with
  | message envelope => cases envelope <;> rfl
  | opened | closed => rfl

theorem handle_inbox (session : Session ρ) (event : ConnectionEvent) :
    (session.handle event).inbox = session.inbox := by
  cases event with
  | message envelope => cases envelope <;> rfl
  | opened | closed => rfl

theorem foldl_handle_gate (session : Session ρ) (events : List ConnectionEvent) :
    (events.foldl handle session).gate = events.foldl Gate.heed session.gate :=
  (List.foldl_hom Session.gate fun session event => (session.handle_gate event).symm).symm

theorem foldl_handle_commands (session : Session ρ) (events : List ConnectionEvent) :
    (events.foldl handle session).commands = events.foldl CommandTable.heed session.commands :=
  (List.foldl_hom Session.commands fun session event => (session.handle_commands event).symm).symm

theorem foldl_handle_inbox (session : Session ρ) (events : List ConnectionEvent) :
    (events.foldl handle session).inbox = session.inbox := by
  induction events generalizing session with
  | nil => rfl
  | cons event events ih => rw [List.foldl_cons, ih, handle_inbox]

theorem processNext_eq (session : Session ρ) :
    session.processNext.2 = (session.inbox.queue.take 1).foldl handle
      { session with inbox.queue := session.inbox.queue.drop 1 } := by
  obtain ⟨⟨queue, _, _⟩, _⟩ := session
  cases queue with
  | nil => rfl
  | cons event rest => rfl

theorem pump_gate (session : Session ρ) :
    session.pump.2.gate = session.inbox.queue.foldl Gate.heed session.gate :=
  foldl_handle_gate _ _

theorem processNext_gate (session : Session ρ) :
    session.processNext.2.gate = (session.inbox.queue.take 1).foldl Gate.heed session.gate := by
  rw [processNext_eq, foldl_handle_gate]

theorem pump_commands (session : Session ρ) :
    session.pump.2.commands = session.inbox.queue.foldl CommandTable.heed session.commands :=
  foldl_handle_commands _ _

theorem processNext_commands (session : Session ρ) :
    session.processNext.2.commands =
      (session.inbox.queue.take 1).foldl CommandTable.heed session.commands := by
  rw [processNext_eq, foldl_handle_commands]

theorem pump_inbox (session : Session ρ) :
    session.pump.2.inbox = { session.inbox with queue := [] } :=
  foldl_handle_inbox _ _

theorem processNext_inbox (session : Session ρ) :
    session.processNext.2.inbox = { session.inbox with queue := session.inbox.queue.drop 1 } := by
  rw [processNext_eq, foldl_handle_inbox]

/-! ### The runtime -/

open GameRuntime

theorem runtimeReady_calls (session : Session ρ) : ∃ calls : List RuntimeCall,
    session.runtimeReady.2.runtime = calls.foldl call session.runtime :=
  Roster.replay_calls session.roster session.runtime

theorem handle_calls (session : Session ρ) (event : ConnectionEvent) :
    ∃ calls : List RuntimeCall, (session.handle event).runtime =
      calls.foldl call session.runtime := by
  cases event with
  | message envelope =>
    cases envelope with
    | info cluster master =>
      exact Roster.inject_calls session.roster session.runtime (master ++ cluster)
    | _ => exact ⟨[], rfl⟩
  | opened | closed => exact ⟨[], rfl⟩

theorem foldl_handle_calls (session : Session ρ) (events : List ConnectionEvent) :
    ∃ calls : List RuntimeCall, (events.foldl handle session).runtime =
      calls.foldl call session.runtime := by
  induction events generalizing session with
  | nil => exact ⟨[], rfl⟩
  | cons event events ih =>
    obtain ⟨calls, hcalls⟩ := session.handle_calls event
    obtain ⟨more, hmore⟩ := ih (session.handle event)
    exact ⟨calls ++ more, by rw [List.foldl_cons, hmore, hcalls, List.foldl_append]⟩

theorem pump_calls (session : Session ρ) : ∃ calls : List RuntimeCall,
    session.pump.2.runtime = calls.foldl call session.runtime := by
  obtain ⟨calls, hcalls⟩ := session.runtimeReady_calls
  obtain ⟨more, hmore⟩ := foldl_handle_calls
    { session.runtimeReady.2 with inbox := session.inbox.takeAll.2 } session.inbox.queue
  refine ⟨calls ++ more, ?_⟩
  rw [List.foldl_append, ← hcalls]
  exact hmore

theorem processNext_calls (session : Session ρ) : ∃ calls : List RuntimeCall,
    session.processNext.2.runtime = calls.foldl call session.runtime := by
  rw [processNext_eq]
  exact foldl_handle_calls _ _

end Session
end ClusterLink
