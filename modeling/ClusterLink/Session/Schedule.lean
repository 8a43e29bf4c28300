import ClusterLink.Session.Run
/-!
Schedules of a session: its connection delivers events, and between the deliveries its owner drains
it in one way or another.
-/
namespace ClusterLink

inductive DrainStep where
  | deliver (event : ConnectionEvent)
  | pump
  | processNext
  | poll
  deriving DecidableEq, Repr

namespace DrainStep

def toStep {ρ : Type} : DrainStep → SessionStep ρ
  | .deliver event => .deliver event
  | .pump => .pump
  | .processNext => .processNext
  | .poll => .poll

def delivery? : DrainStep → Option ConnectionEvent
  | .deliver event => some event
  | _ => none

/-- The events that a schedule delivers, in order. -/
def deliveries (schedule : List DrainStep) : List ConnectionEvent :=
  schedule.filterMap delivery?

end DrainStep

/-- The frame that a poll answers with. -/
def SessionAnswer.frame? : SessionAnswer → Option Octets
  | .polled frame => frame
  | _ => none

namespace Session

variable {ρ : Type} [GameRuntime ρ]

/-- A schedule and then polls, up to the first one without a frame, give these frames and end in
this session. -/
def Exhausts (session : Session ρ) (schedule : List DrainStep) (frames : List Octets)
    (final : Session ρ) : Prop :=
  let (answers, next) := session.run (schedule.map DrainStep.toStep)
  ∃ polled : List Octets,
    next.run (List.replicate (polled.length + 1) .poll) =
      (polled.map (fun frame => .polled (some frame)) ++ [.polled none], final) ∧
    frames = answers.filterMap (·.frame?) ++ polled

end Session
end ClusterLink
