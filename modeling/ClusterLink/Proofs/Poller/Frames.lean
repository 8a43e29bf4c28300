import ClusterLink.Poller
/-!
The runtime reads from a frame what the envelope says that the frame was written for, whatever the
region held before.
-/
namespace ClusterLink

open Octets

variable {envelope : Envelope} {size : Nat}

/-- What an envelope tells the runtime. A packet tells the octets that it means. -/
def RuntimeEvent.of? : Envelope → Option RuntimeEvent
  | .serverConnected .. => some .connect
  | .serverDisconnected reason _ => some (.disconnect reason)
  | .packet channel data length =>
    (Envelope.packet channel data length).payload?.map (.receive channel)
  | _ => none

namespace Envelope

theorem payload?_packet {channel : UInt16} {data payload : Octets} {length : UInt32}
    (h : (packet channel data length).payload? = some payload) :
    payload.length = length.toNat := by
  rw [payload?, Option.map_eq_some_iff] at h
  obtain ⟨⟨front, rest⟩, hsplit, rfl⟩ := h
  exact (split?_eq_some hsplit).2

end Envelope

namespace RuntimeFrame

theorem size?_isSome (envelope : Envelope) :
    (size? envelope).isSome = (RuntimeEvent.of? envelope).isSome := by
  cases envelope <;> simp [size?, RuntimeEvent.of?]

/-- A frame has the size that was reserved for it. -/
theorem length_write (h : size? envelope = some size) : (write envelope).length = size := by
  cases envelope with
  | serverConnected => simpa [size?, write] using h
  | serverDisconnected => simpa [size?, write] using h
  | packet channel data length =>
    rw [size?, Option.map_eq_some_iff] at h
    obtain ⟨payload, hpayload, rfl⟩ := h
    simp only [write, hpayload, Option.getD_some, List.length_append, length_ofNatLE]
  | _ => cases h

theorem split?_ofNatLE (width n : Nat) (rest : Octets) :
    split? width (ofNatLE width n ++ rest) = some (ofNatLE width n, rest) := by
  have h := split?_append (ofNatLE width n) rest
  rwa [length_ofNatLE] at h

theorem split?_self (s : Octets) : split? s.length s = some (s, []) := by
  have h := split?_append s []
  rwa [List.append_nil] at h

theorem ofNat_toNatLE (n : UInt16) : UInt16.ofNat (toNatLE (ofNatLE 2 n.toNat)) = n := by
  rw [toNatLE_ofNatLE 2 n.toNat n.toNat_lt, UInt16.ofNat_toNat]

/-- The runtime reads back what was written. -/
theorem read?_write (h : (size? envelope).isSome) :
    RuntimeEvent.read? (write envelope) = RuntimeEvent.of? envelope := by
  cases envelope with
  | serverConnected => rfl
  | serverDisconnected reason message =>
    have hcode : toNatLE (ofNatLE 2 2) = 2 := rfl
    have hreason : split? 2 (ofNatLE 2 reason.toNat) = some (ofNatLE 2 reason.toNat, []) := by
      simpa using split?_ofNatLE 2 reason.toNat []
    simp [RuntimeEvent.read?, RuntimeEvent.of?, write, split?_ofNatLE, hcode, hreason,
      disconnectCode, connectCode, ofNat_toNatLE]
  | packet channel data length =>
    obtain ⟨payload, hpayload⟩ : ∃ payload,
        (Envelope.packet channel data length).payload? = some payload := by
      simpa [size?, Option.isSome_iff_exists] using h
    have hcode : toNatLE (ofNatLE 2 3) = 3 := rfl
    have hlength : toNatLE (ofNatLE 4 payload.length) = payload.length := by
      refine toNatLE_ofNatLE 4 _ ?_
      rw [Envelope.payload?_packet hpayload]
      exact length.toNat_lt
    simp [RuntimeEvent.read?, RuntimeEvent.of?, write, split?_ofNatLE, hcode, hpayload, hlength,
      split?_self, receiveCode, disconnectCode, connectCode, ofNat_toNatLE]
  | _ => cases h

end RuntimeFrame

namespace Poller

/-- What the region held before does not show in a frame. -/
theorem deliver_fst (poller : Poller) (h : RuntimeFrame.size? envelope = some size) :
    (poller.deliver envelope size).1 = RuntimeFrame.write envelope := by
  rw [deliver, Region.overwrite, ← RuntimeFrame.length_write h, List.take_left]

/-- Draining gives the frames of all envelopes that have one, in order. -/
theorem drainQueue_fst (poller : Poller) (queue : List Envelope) :
    (poller.drainQueue queue).1 =
      (queue.filter fun envelope => (RuntimeFrame.size? envelope).isSome).map
        RuntimeFrame.write := by
  fun_induction drainQueue poller queue with
  | case1 => rfl
  | case2 poller envelope rest hsize ih => simpa [hsize] using ih
  | case3 poller envelope rest size hsize frame next hdeliver frames last hdrain ih =>
    have hframe := poller.deliver_fst hsize
    rw [hdeliver] at hframe
    rw [hdrain] at ih
    simp [hsize, ← ih, ← hframe]

end Poller
end ClusterLink
