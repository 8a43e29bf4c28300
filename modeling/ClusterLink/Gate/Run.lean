import ClusterLink.Gate.Basic
import ClusterLink.Steps
/-!
Runs of the gate: its answers to a list of steps, taken in order.
-/
namespace ClusterLink

inductive GateStep where
  | placePacket (envelope : Envelope)
  | place (envelope : Envelope)
  | worldReady
  | pop
  deriving DecidableEq, Repr

inductive GateAnswer where
  | placed (placement : Placement)
  | released (count : Nat)
  | popped (envelope : Option Envelope)
  deriving DecidableEq, Repr

namespace Gate

def step (gate : Gate) : GateStep → GateAnswer × Gate
  | .placePacket envelope =>
    let (placement, gate) := gate.placePacket envelope
    (.placed placement, gate)
  | .place envelope =>
    let (placement, gate) := gate.place envelope
    (.placed placement, gate)
  | .worldReady =>
    let (count, gate) := gate.worldReady
    (.released count, gate)
  | .pop =>
    let (envelope, gate) := gate.pop
    (.popped envelope, gate)

def run (gate : Gate) (steps : List GateStep) : List GateAnswer × Gate := runSteps step gate steps

/-- The envelopes that a list of answers handed out. -/
def popped (answers : List GateAnswer) : List Envelope :=
  answers.filterMap fun
    | .popped envelope => envelope
    | _ => none

theorem run_append (gate : Gate) (steps later : List GateStep) :
    gate.run (steps ++ later) =
      ((gate.run steps).1 ++ ((gate.run steps).2.run later).1,
        ((gate.run steps).2.run later).2) :=
  runSteps_append step gate steps later

theorem popped_append (a b : List GateAnswer) : popped (a ++ b) = popped a ++ popped b :=
  List.filterMap_append

end Gate
end ClusterLink
