import ClusterLink.Gate.Policy
/-!
The world-load gate. A map change opens a load; until the world is reported ready, what depends on
the new world waits behind the gate and is then released in order of arrival, behind all that
passed before it.
-/
namespace ClusterLink

inductive LoadState where
  | idle
  | loading
  deriving DecidableEq, Repr

inductive Placement where
  | ready
  | deferred
  deriving DecidableEq, Repr

structure Gate where
  mapChange : PacketKind
  policy : DeferralPolicy
  load : LoadState
  ready : List Envelope
  deferred : List Envelope

namespace Gate

def new (mapChange : PacketKind) (policy : DeferralPolicy) : Gate :=
  ⟨mapChange, policy, .idle, [], []⟩

/-- An envelope that waits while a world loads. -/
def place (gate : Gate) (envelope : Envelope) : Placement × Gate :=
  match gate.load with
  | .idle => (.ready, { gate with ready := gate.ready ++ [envelope] })
  | .loading => (.deferred, { gate with deferred := gate.deferred ++ [envelope] })

/-- A packet is placed by its kind: a map change passes and opens a load, and while a world loads
the policy decides. A packet without a readable kind waits. -/
def placePacket (gate : Gate) (envelope : Envelope) : Placement × Gate :=
  match envelope.kind? with
  | some kind =>
    if kind = gate.mapChange then
      (.ready, { gate with load := .loading, ready := gate.ready ++ [envelope] })
    else if gate.load = .loading ∧ gate.policy.passes kind then
      (.ready, { gate with ready := gate.ready ++ [envelope] })
    else gate.place envelope
  | none => gate.place envelope

/-- The world is ready: what waited is released. The count is of the envelopes released. -/
def worldReady (gate : Gate) : Nat × Gate :=
  match gate.load with
  | .idle => (0, gate)
  | .loading =>
    (gate.deferred.length,
      { gate with load := .idle, ready := gate.ready ++ gate.deferred, deferred := [] })

def pop (gate : Gate) : Option Envelope × Gate :=
  match gate.ready with
  | [] => (none, gate)
  | envelope :: rest => (some envelope, { gate with ready := rest })

end Gate
end ClusterLink
