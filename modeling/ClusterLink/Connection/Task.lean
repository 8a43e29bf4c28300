import ClusterLink.Connection.Basic
import ClusterLink.Session.Basic
/-!
The task that drives a connection for a session. It reports the opening, forwards inbound envelopes
as events and writes outbound bodies, whichever it is offered first, until either side goes away;
then it shuts the stream down and reports the end as its last event.
-/
namespace ClusterLink

/-- The two things that the task waits for. -/
inductive Branch where
  | inbound
  | outbound
  deriving DecidableEq, Repr

inductive TaskPhase where
  | starting
  | running
  | finished
  deriving DecidableEq, Repr

structure ConnectionTask where
  phase : TaskPhase
  connection : Connection
  events : Channel ConnectionEvent
  outbound : Channel Octets
  /-- Why the task ended. One that never began to run gives no reason. -/
  ending : Option String

namespace ConnectionTask

def new (transport : Transport) : ConnectionTask :=
  ⟨.starting, .new transport, .new, .new, none⟩

/-- Lets go of both channels. -/
def finish (task : ConnectionTask) : ConnectionTask :=
  { task with
    phase := .finished
    events := task.events.dropSender
    outbound := task.outbound.dropReceiver }

/-- Shuts the stream down and reports why, to whoever still listens. -/
def stop (task : ConnectionTask) (reason : String) : ConnectionTask :=
  finish { task with
    connection := task.connection.close.2
    events := (task.events.send? (.closed reason)).getD task.events
    ending := some reason }

def start (task : ConnectionTask) : ConnectionTask :=
  match task.events.send? .opened with
  | some events => { task with phase := .running, events }
  | none => task.finish

/-- Takes the inbound branch, if it is ready. -/
def takeInbound (task : ConnectionTask) : Bool × ConnectionTask :=
  match task.connection.recv with
  | (.pending, connection) => (false, { task with connection })
  | (.envelope envelope, connection) =>
    match task.events.send? (.message envelope) with
    | some events => (true, { task with connection, events })
    | none => (true, stop { task with connection } "Bridge dropped")
  | (.ended, connection) => (true, stop { task with connection } "Connection closed by peer")
  | (.failed e, connection) => (true, stop { task with connection } s!"Error: {e.message}")

/-- Takes the outbound branch, if it is ready. -/
def takeOutbound (task : ConnectionTask) : Bool × ConnectionTask :=
  match task.outbound.queue with
  | body :: rest =>
    let task := { task with outbound := { task.outbound with queue := rest } }
    match task.connection.sendBody body with
    | (.ok _, connection) => (true, { task with connection })
    | (.error e, connection) => (true, stop { task with connection } s!"Send error: {e.message}")
  | [] => if task.outbound.sending then (false, task) else (true, task.stop "Bridge dropped")

/-- One round of the task, offering it one branch before the other, and whether anything was
ready. -/
def step (task : ConnectionTask) (first : Branch) : Bool × ConnectionTask :=
  match task.phase with
  | .starting => (true, task.start)
  | .finished => (false, task)
  | .running =>
    match first with
    | .inbound =>
      match task.takeInbound with
      | (true, task) => (true, task)
      | (false, task) => task.takeOutbound
    | .outbound =>
      match task.takeOutbound with
      | (true, task) => (true, task)
      | (false, task) => task.takeInbound

/-- Runs the task through rounds in which the branches are offered as listed. -/
def run (task : ConnectionTask) (choices : List Branch) : ConnectionTask :=
  choices.foldl (fun task first => (task.step first).2) task

/-- More rounds than the task can take before it waits. -/
def work (task : ConnectionTask) : Nat :=
  task.connection.splitter.weight + task.connection.transport.weight +
    task.outbound.queue.length + 3

def settleWithin : (rounds : Nat) → ConnectionTask → ConnectionTask
  | 0, task => task
  | rounds + 1, task =>
    match task.step .inbound with
    | (true, task) => settleWithin rounds task
    | (false, task) => task

/-- Runs the task until it waits, inbound first. -/
def settle (task : ConnectionTask) : ConnectionTask := settleWithin task.work task

end ConnectionTask
end ClusterLink
