import ClusterLink.Session.Basic
/-!
Waiting for the response to one command. An inquiry waits for its ticket and for connection events,
and when both are ready it takes either. It is lost once the connection is closed.
-/
namespace ClusterLink

/-- The two things that an inquiry waits for. -/
inductive Awaited where
  | response
  | event
  deriving DecidableEq, Repr

inductive InquiryEnd where
  | answered (result : CommandResult)
  /-- The connection closed, for a reason if one was reported. -/
  | lost (reason : Option String)

structure Inquiry (ρ : Type) where
  session : Session ρ
  ticket : Ticket

namespace Inquiry

variable {ρ : Type} [GameRuntime ρ]

/-- The end of the inquiry by its response, if that is there. -/
def takeResponse (inquiry : Inquiry ρ) : Option InquiryEnd :=
  (inquiry.session.commands.result? inquiry.ticket).map .answered

/-- Handles the next event, if one is there: either the inquiry goes on or it is lost. -/
def takeEvent (inquiry : Inquiry ρ) : Option (InquiryEnd ⊕ Inquiry ρ) :=
  match inquiry.session.processNext with
  | (.pending, _) => none
  | (.gone, session) => some (.inl (.lost session.closeReason))
  | (.handled, session) =>
    if session.isClosed then some (.inl (.lost session.closeReason))
    else some (.inr { inquiry with session })

/-- One round, in which the first choice is taken if it is ready and else the other one. Without a
result nothing was ready. -/
def step (inquiry : Inquiry ρ) (first : Awaited) : Option (InquiryEnd ⊕ Inquiry ρ) :=
  match first with
  | .response =>
    match inquiry.takeResponse with
    | some ending => some (.inl ending)
    | none => inquiry.takeEvent
  | .event =>
    match inquiry.takeEvent with
    | some next => some next
    | none => inquiry.takeResponse.map .inl

/-- Rounds with the given first choices, up to the end or to a round in which nothing is ready. -/
def run (inquiry : Inquiry ρ) : List Awaited → InquiryEnd ⊕ Inquiry ρ
  | [] => .inr inquiry
  | first :: rest =>
    match inquiry.step first with
    | some (.inr inquiry) => run inquiry rest
    | some (.inl ending) => .inl ending
    | none => .inr inquiry

/-- The end of an inquiry that prefers events to its response, when no further event arrives
before the deadline. -/
def finish (inquiry : Inquiry ρ) (deadline : Milliseconds) : InquiryEnd :=
  match inquiry.run (List.replicate (inquiry.session.inbox.queue.length + 2) .event) with
  | .inl ending => ending
  | .inr _ => .answered (.error (.timeout deadline))

end Inquiry
end ClusterLink
