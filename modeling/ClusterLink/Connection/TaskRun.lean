import ClusterLink.Connection.Task
import ClusterLink.Steps
/-!
Runs of the task among everything that may happen around it: the remote side sends octets and ends
or breaks the stream, the session sends bodies, takes its events and lets go of either channel, and
between all this the task goes through its rounds.
-/
namespace ClusterLink

inductive TaskStep where
  | arrive (octets : Octets)
  /-- The remote side ends the stream. -/
  | hangUp
  /-- The stream breaks: behind what has arrived, reads fail. -/
  | breakOff (cause : String)
  /-- From now on writes fail. -/
  | jam (cause : String)
  | jamShutdown (cause : String)
  /-- The session puts a body on the link. -/
  | send (body : Octets)
  /-- The session takes the events that have been sent to it. -/
  | collect
  | dropOutbound
  | dropEvents
  /-- A round of the task, in which this branch is offered first. -/
  | round (first : Branch)
  deriving DecidableEq, Repr

namespace TaskStep

/-- What a step adds to the inbound stream. -/
def octets : TaskStep → Octets
  | .arrive octets => octets
  | _ => []

/-- Whether a step ends the inbound stream. -/
def ends : TaskStep → Bool
  | .hangUp | .breakOff _ => true
  | _ => false

/-- The body that a step puts on the link. -/
def body? : TaskStep → Option Octets
  | .send body => some body
  | _ => none

/-- The octets that come in before the stream ends. -/
def inbound (steps : List TaskStep) : Octets :=
  (steps.takeWhile fun step => !step.ends).flatMap octets

def outbound (steps : List TaskStep) : List Octets := steps.filterMap body?

theorem outbound_snoc (steps : List TaskStep) (last : TaskStep) :
    outbound (steps ++ [last]) = outbound steps ++ last.body?.toList := by
  cases h : last.body? <;> simp [outbound, h]

theorem inbound_snoc (steps : List TaskStep) (last : TaskStep) : inbound (steps ++ [last]) =
    inbound steps ++ if steps.any ends then [] else last.octets := by
  induction steps with
  | nil => cases last <;> simp [inbound, ends, octets]
  | cons step rest ih =>
    cases h : step.ends with
    | true => simp [inbound, h]
    | false =>
      simp only [inbound, List.cons_append, List.takeWhile_cons, h, Bool.not_false, if_true,
        List.flatMap_cons, List.any_cons, Bool.false_or] at ih ⊢
      rw [ih, List.append_assoc]

end TaskStep

namespace Transport

/-- Octets come in. Nothing follows the end of the stream, and no octets are no arrival. -/
def feed (transport : Transport) (octets : Octets) : Transport :=
  if transport.ended ∨ octets = [] then transport else transport.arrive (.data octets)

def hangUp (transport : Transport) : Transport := { transport with ended := true }

def breakOff (transport : Transport) (cause : String) : Transport :=
  if transport.ended then transport else (transport.arrive (.failure cause)).hangUp

end Transport

namespace ConnectionTask

def onTransport (task : ConnectionTask) (act : Transport → Transport) : ConnectionTask :=
  { task with connection.transport := act task.connection.transport }

/-- The session sends a body, if it still holds its end and the task still listens. -/
def offer (task : ConnectionTask) (body : Octets) : ConnectionTask :=
  if task.outbound.sending then
    { task with outbound := (task.outbound.send? body).getD task.outbound }
  else task

/-- What a step leads to, and the events that it sends to the session. -/
def advance (task : ConnectionTask) : TaskStep → List ConnectionEvent × ConnectionTask
  | .arrive octets => ([], task.onTransport (·.feed octets))
  | .hangUp => ([], task.onTransport (·.hangUp))
  | .breakOff cause => ([], task.onTransport (·.breakOff cause))
  | .jam cause => ([], task.onTransport ({ · with writeFailure := some cause }))
  | .jamShutdown cause => ([], task.onTransport ({ · with shutdownFailure := some cause }))
  | .send body => ([], task.offer body)
  | .collect => ([], { task with events := task.events.takeAll.2 })
  | .dropOutbound => ([], { task with outbound := task.outbound.dropSender })
  | .dropEvents => ([], { task with events := task.events.dropReceiver })
  | .round first =>
    let next := (task.step first).2
    (next.events.queue.drop task.events.queue.length, next)

/-- The events of a row of steps, in order, and the task behind them. -/
def course (task : ConnectionTask) (steps : List TaskStep) :
    List ConnectionEvent × ConnectionTask :=
  let (events, task) := runSteps advance task steps
  (events.flatten, task)

end ConnectionTask
end ClusterLink
