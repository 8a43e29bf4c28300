import ClusterLink.Outbox
import ClusterLink.Steps
/-!
Runs of the outbox: its answers to a list of steps, taken in order, and what each step puts on the
wire.
-/
namespace ClusterLink

inductive OutboxStep where
  | send (envelope : Envelope)
  | connect
  | close
  /-- The receiving end takes what is on the wire. -/
  | collect
  /-- The receiving end is given up. -/
  | dropReceiver
  deriving DecidableEq, Repr

inductive OutboxAnswer where
  | sent (outcome : Except SessionError Unit)
  | connected (outcome : Except SessionError Nat)
  | collected (bodies : List Octets)
  | done

structure OutboxRecord where
  step : OutboxStep
  answer : OutboxAnswer
  /-- The bodies that the step put on the wire. -/
  written : List Octets

namespace Outbox

/-- The receiving end takes what is on the wire. -/
def collect (outbox : Outbox) : List Octets × Outbox :=
  let (bodies, wire) := outbox.wire.takeAll
  (bodies, { outbox with wire })

/-- Nobody receives any more. -/
def dropReceiver (outbox : Outbox) : Outbox := { outbox with wire := outbox.wire.dropReceiver }

def step (outbox : Outbox) : OutboxStep → OutboxAnswer × Outbox
  | .send envelope =>
    let (outcome, outbox) := outbox.send envelope
    (.sent outcome, outbox)
  | .connect =>
    let (outcome, outbox) := outbox.connect
    (.connected outcome, outbox)
  | .close => (.done, outbox.close)
  | .collect =>
    let (bodies, outbox) := outbox.collect
    (.collected bodies, outbox)
  | .dropReceiver => (.done, outbox.dropReceiver)

/-- What is on the wire now and was not on it before. -/
def writtenSince (outbox before : Outbox) : List Octets :=
  outbox.wire.queue.drop before.wire.queue.length

def record (outbox : Outbox) (step : OutboxStep) : OutboxRecord × Outbox :=
  let (answer, next) := outbox.step step
  (⟨step, answer, next.writtenSince outbox⟩, next)

def run (outbox : Outbox) (steps : List OutboxStep) : List OutboxRecord × Outbox :=
  runSteps record outbox steps

theorem run_append (outbox : Outbox) (steps later : List OutboxStep) :
    outbox.run (steps ++ later) =
      ((outbox.run steps).1 ++ ((outbox.run steps).2.run later).1,
        ((outbox.run steps).2.run later).2) :=
  runSteps_append record outbox steps later

end Outbox
end ClusterLink
