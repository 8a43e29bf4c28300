import ClusterLink.Command.Run
import ClusterLink.Gate.Run
import ClusterLink.Outbox.Run
import ClusterLink.Proofs.Session.Handling
/-!
Every event goes to the parts of a session that it concerns and to no other. What a list of events
makes of a session is the product of what each part makes of its own share of the list.
-/
namespace ClusterLink

attribute [ext] Session

namespace ConnectionEvent

/-- What an event asks of the outbox. -/
def outboxStep? : ConnectionEvent → Option OutboxStep
  | .opened => some .connect
  | .closed _ => some .close
  | .message _ => none

/-- What an event asks of the command table. -/
def commandStep? : ConnectionEvent → Option CommandStep
  | .message (.serverResponse id payload success) => some (.resolve id payload success)
  | _ => none

theorem exists_of_commandStep? {event : ConnectionEvent} {step : CommandStep}
    (h : event.commandStep? = some step) :
    ∃ id payload success, step = .resolve id payload success := by
  unfold commandStep? at h
  split at h
  case h_1 id payload success =>
    cases h
    exact ⟨id, payload, success, rfl⟩
  case h_2 => cases h

/-- What an event asks of the gate. -/
def gateStep? : ConnectionEvent → Option GateStep
  | .message envelope =>
    match envelope with
    | .packet .. => some (.placePacket envelope)
    | .serverConnected .. | .serverDisconnected .. | .connect .. | .disconnect | .command .. =>
      some (.place envelope)
    | .info .. | .serverResponse .. | .auth .. | .chat .. => none
  | .opened | .closed _ => none

/-- The servers that an event brings for the runtime. -/
def batch? : ConnectionEvent → Option (List ServerEntry)
  | .message (.info cluster master) => some (master ++ cluster)
  | _ => none

/-- What is observed of an event. -/
def observation? : ConnectionEvent → Option Observation
  | .message (.serverConnected server internal owned) => some (.connected server internal owned)
  | .message (.auth kind fields) => some (.auth kind fields)
  | .message (.chat text) => some (.chat text)
  | _ => none

end ConnectionEvent

section

open ConnectionEvent

variable {ρ : Type} [GameRuntime ρ]

/-- Hands over batches in order. -/
def Roster.injectAll (start : Roster × ρ) (batches : List (List ServerEntry)) : Roster × ρ :=
  batches.foldl (fun (roster, runtime) batch => (roster.inject runtime batch).2) start

namespace Session

/-- Every part of a session after its own share of a list of events. -/
def routed (session : Session ρ) (events : List ConnectionEvent) : Session ρ :=
  let (roster, runtime) :=
    Roster.injectAll (session.roster, session.runtime) (events.filterMap batch?)
  { session with
    outbox := (session.outbox.run (events.filterMap outboxStep?)).2
    commands := (CommandDesk.run ⟨session.commands, []⟩ (events.filterMap commandStep?)).2.table
    gate := (session.gate.run (events.filterMap gateStep?)).2
    roster
    runtime
    observed := session.observed ++ events.filterMap observation?
    closeReason := (events.filterMap closing?).getLast?.or session.closeReason }

theorem handle_observed (session : Session ρ) (event : ConnectionEvent) :
    (session.handle event).observed = session.observed ++ [event].filterMap observation? := by
  cases event with
  | message envelope =>
    cases envelope with
    | serverConnected | auth | chat => rfl
    | _ => exact (List.append_nil _).symm
  | opened | closed => exact (List.append_nil _).symm

theorem handle_eq_routed (session : Session ρ) (event : ConnectionEvent) :
    session.handle event = session.routed [event] := by
  apply Session.ext
  case observed => exact session.handle_observed event
  all_goals
    cases event with
    | message envelope => cases envelope <;> rfl
    | opened | closed => rfl

theorem routed_nil (session : Session ρ) : session.routed [] = session := by
  apply Session.ext
  case observed => exact List.append_nil _
  all_goals rfl

/-- Events give steps to the command table that do not touch its handles. -/
theorem run_commandSteps_handles (desk : CommandDesk) (events : List ConnectionEvent) :
    (desk.run (events.filterMap commandStep?)).2.handles = desk.handles := by
  induction events generalizing desk with
  | nil => rfl
  | cons event events ih =>
    cases hstep : event.commandStep? with
    | none => rw [List.filterMap_cons_none hstep, ih]
    | some step =>
      obtain ⟨id, payload, success, rfl⟩ := exists_of_commandStep? hstep
      rw [List.filterMap_cons_some hstep, CommandDesk.run_cons, ih]
      rfl

theorem routed_append (session : Session ρ) (first second : List ConnectionEvent) :
    session.routed (first ++ second) = (session.routed first).routed second := by
  have hdesk : (CommandDesk.run ⟨session.commands, []⟩ (first.filterMap commandStep?)).2 =
      ⟨(CommandDesk.run ⟨session.commands, []⟩ (first.filterMap commandStep?)).2.table, []⟩ :=
    congrArg (CommandDesk.mk _) (run_commandSteps_handles ⟨session.commands, []⟩ first)
  apply Session.ext
  case commands =>
    show (CommandDesk.run _ _).2.table = (CommandDesk.run _ _).2.table
    rw [List.filterMap_append, CommandDesk.run_append, hdesk]
    rfl
  case observed =>
    show session.observed ++ _ = session.observed ++ _ ++ _
    rw [List.filterMap_append, List.append_assoc]
  case closeReason =>
    show (List.getLast? _).or session.closeReason = (List.getLast? _).or ((List.getLast? _).or _)
    rw [List.filterMap_append, List.getLast?_append, Option.or_assoc]
  all_goals
    simp only [routed, List.filterMap_append, Outbox.run_append, Gate.run_append,
      Roster.injectAll, List.foldl_append]

/-- Handling events one after the other gives every part its own share of them. -/
theorem foldl_handle (session : Session ρ) (events : List ConnectionEvent) :
    events.foldl handle session = session.routed events := by
  induction events generalizing session with
  | nil => exact session.routed_nil.symm
  | cons event events ih =>
    rw [List.foldl_cons, ih, handle_eq_routed, ← routed_append, List.singleton_append]

end Session
end
end ClusterLink
