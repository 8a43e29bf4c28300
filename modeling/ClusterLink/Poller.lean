import ClusterLink.Gate.Basic
import ClusterLink.RuntimeFrame
/-!
The poller writes the frame of the next ready envelope into a region that only grows. Envelopes
without a frame are skipped.
-/
namespace ClusterLink

/-- The memory that every frame is written into. -/
structure Region where
  octets : Octets
  reallocations : Nat

namespace Region

def empty : Region := ⟨[], 0⟩

/-- Makes room for `size` octets: a region that is too small is replaced. -/
def reserve (region : Region) (size : Nat) : Region :=
  if region.octets.length < size then
    ⟨List.replicate size 0, region.reallocations + 1⟩
  else region

/-- Writes over the front of the region. -/
def overwrite (region : Region) (s : Octets) : Region :=
  { region with octets := s ++ region.octets.drop s.length }

end Region

structure Poller where
  region : Region
  delivered : Nat
  skipped : Nat

namespace Poller

def new : Poller := ⟨.empty, 0, 0⟩

def skip (poller : Poller) : Poller := { poller with skipped := poller.skipped + 1 }

/-- The frame of an envelope, as it stands in the region after it was written. -/
def deliver (poller : Poller) (envelope : Envelope) (size : Nat) : Octets × Poller :=
  let region := (poller.region.reserve size).overwrite (RuntimeFrame.write envelope)
  (region.octets.take size, { poller with region, delivered := poller.delivered + 1 })

/-- The next frame, and the envelopes still ready behind it. -/
def pollQueue (poller : Poller) : List Envelope → Option Octets × Poller × List Envelope
  | [] => (none, poller, [])
  | envelope :: rest =>
    match RuntimeFrame.size? envelope with
    | none => poller.skip.pollQueue rest
    | some size =>
      let (frame, poller) := poller.deliver envelope size
      (some frame, poller, rest)

def poll (poller : Poller) (gate : Gate) : Option Octets × Poller × Gate :=
  let (frame, poller, ready) := poller.pollQueue gate.ready
  (frame, poller, { gate with ready })

/-- The frames of all envelopes in a queue. -/
def drainQueue (poller : Poller) : List Envelope → List Octets × Poller
  | [] => ([], poller)
  | envelope :: rest =>
    match RuntimeFrame.size? envelope with
    | none => poller.skip.drainQueue rest
    | some size =>
      let (frame, poller) := poller.deliver envelope size
      let (frames, poller) := poller.drainQueue rest
      (frame :: frames, poller)

/-- Polls until nothing is ready. -/
def drain (poller : Poller) (gate : Gate) : List Octets × Poller × Gate :=
  let (frames, poller) := poller.drainQueue gate.ready
  (frames, poller, { gate with ready := [] })

end Poller
end ClusterLink
