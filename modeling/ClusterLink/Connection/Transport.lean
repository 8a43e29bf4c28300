import ClusterLink.Octets
/-!
The byte stream under a connection: what arrives, how writes and the shutdown fare, and what was
written. One read brings at most `readLimit` octets, and an empty read means the end of the stream.
-/
namespace ClusterLink

inductive Arrival where
  | data (octets : Octets)
  | failure (cause : String)
  deriving DecidableEq, Repr

structure Transport where
  arrivals : List Arrival
  /-- Whether nothing follows what has arrived. -/
  ended : Bool
  writeFailure : Option String
  shutdownFailure : Option String
  written : Octets
  shut : Bool
  deriving DecidableEq, Repr

inductive ReadOutcome where
  | data (octets : Octets)
  | failed (cause : String)
  | pending
  deriving DecidableEq, Repr

namespace Transport

def new : Transport := ⟨[], false, none, none, [], false⟩

def readLimit : Nat := 4096

def arrive (transport : Transport) (arrival : Arrival) : Transport :=
  { transport with arrivals := transport.arrivals ++ [arrival] }

def read (transport : Transport) : ReadOutcome × Transport :=
  match transport.arrivals with
  | .data octets :: rest =>
    let left := octets.drop readLimit
    let arrivals := if left.isEmpty then rest else .data left :: rest
    (.data (octets.take readLimit), { transport with arrivals })
  | .failure cause :: rest => (.failed cause, { transport with arrivals := rest })
  | [] => (if transport.ended then .data [] else .pending, transport)

def write (transport : Transport) (octets : Octets) : Option String × Transport :=
  match transport.writeFailure with
  | some cause => (some cause, transport)
  | none => (none, { transport with written := transport.written ++ octets })

def shutdown (transport : Transport) : Option String × Transport :=
  (transport.shutdownFailure, { transport with shut := true })

def weightOf : List Arrival → Nat
  | [] => 0
  | .data octets :: rest => octets.length + 1 + weightOf rest
  | .failure _ :: rest => 1 + weightOf rest

/-- What bounds the reads still to come. -/
def weight (transport : Transport) : Nat := weightOf transport.arrivals

theorem read_weight {t u : Transport} {octets : Octets} (h : t.read = (.data octets, u))
    (filled : octets ≠ []) : u.weight + octets.length ≤ t.weight ∧ u.weight < t.weight := by
  unfold read at h
  split at h
  · rename_i s rest hs
    simp only [Prod.mk.injEq, ReadOutcome.data.injEq] at h
    obtain ⟨rfl, rfl⟩ := h
    have hpos : 0 < (s.take readLimit).length := List.length_pos_iff.2 filled
    simp only [weight, hs, weightOf]
    simp only [List.length_take] at hpos ⊢
    split
    · omega
    · simp only [weightOf, List.length_drop]
      omega
  · simp at h
  · split at h
    · simp only [Prod.mk.injEq, ReadOutcome.data.injEq] at h
      exact absurd h.1.symm filled
    · simp at h

end Transport
end ClusterLink
