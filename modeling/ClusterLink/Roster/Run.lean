import ClusterLink.Roster
import ClusterLink.Steps
/-!
Runs of the roster with a runtime that keeps a log of its calls: batches come in, the one that is
kept is asked for, and the runtime turns ready and back.
-/
namespace ClusterLink

inductive RosterStep where
  | inject (batch : List ServerEntry)
  | replay
  | setReady (ready : Bool)
  deriving DecidableEq, Repr

inductive RosterAnswer where
  | injected (injection : Injection)
  | replayed (count : Option Nat)
  | done
  deriving DecidableEq, Repr

structure RosterRecord where
  answer : RosterAnswer
  /-- The calls that the runtime got during the step. -/
  calls : List RuntimeCall
  deriving DecidableEq, Repr

/-- The roster and the runtime that it hands batches to. -/
structure RosterDesk where
  roster : Roster
  runtime : CallLog

namespace RosterDesk

def new (ready : Bool) : RosterDesk := ⟨.new, .new ready⟩

def step (desk : RosterDesk) : RosterStep → RosterAnswer × RosterDesk
  | .inject batch =>
    let (injection, roster, runtime) := desk.roster.inject desk.runtime batch
    (.injected injection, ⟨roster, runtime⟩)
  | .replay =>
    let (count, roster, runtime) := desk.roster.replay desk.runtime
    (.replayed count, ⟨roster, runtime⟩)
  | .setReady ready => (.done, { desk with runtime := { desk.runtime with ready } })

def record (desk : RosterDesk) (step : RosterStep) : RosterRecord × RosterDesk :=
  let (answer, next) := desk.step step
  (⟨answer, next.runtime.calls.drop desk.runtime.calls.length⟩, next)

def run (desk : RosterDesk) (steps : List RosterStep) : List RosterRecord × RosterDesk :=
  runSteps record desk steps

end RosterDesk
end ClusterLink
