import ClusterLink.Connection.Basic
/-!
Receiving for as long as there are envelopes. Every envelope takes a body out of what has arrived,
so that the answer which is none comes after finitely many calls.
-/
namespace ClusterLink

namespace Transport

/-- A stream that brings the given chunks and then ends. -/
def finished (chunks : List Octets) : Transport :=
  { new with arrivals := chunks.map .data, ended := true }

end Transport

/-- What a row of receiving calls gave: envelopes, and then the first answer that is none. -/
structure Reception where
  envelopes : List Envelope
  answer : Received
  connection : Connection

namespace Connection

/-- What bounds the envelopes still to come. -/
def weight (c : Connection) : Nat := c.splitter.weight + c.transport.weight

theorem scan_weight_le (c : Connection) : c.scan.2.splitter.weight ≤ c.splitter.weight := by
  fun_induction scan c with
  | case1 c e splitter hnext | case2 c splitter hnext =>
    have h := c.splitter.next_weight_le
    rwa [hnext] at h
  | case3 c body splitter hnext hless | case4 c body splitter hnext hless =>
    exact Nat.le_of_lt hless
  | case5 c body splitter hnext hless e hdecode hfatal ih =>
    exact Nat.le_trans ih (Nat.le_of_lt hless)

theorem scan_weight {c d : Connection} {envelope : Envelope}
    (h : c.scan = (some (.ok envelope), d)) : d.splitter.weight < c.splitter.weight := by
  fun_induction scan c with
  | case1 | case2 | case4 => cases h
  | case3 c body splitter hnext hless decoded hdecode =>
    cases h
    exact hless
  | case5 c body splitter hnext hless e hdecode hfatal ih => exact Nat.lt_trans (ih h) hless

/-- Reading moves octets into the receive buffer and so makes nothing more of them. -/
theorem accept_weight {c : Connection} {transport : Transport} {octets : Octets}
    (h : c.transport.read = (.data octets, transport)) (filled : octets ≠ []) :
    (c.accept transport octets).weight ≤ c.weight := by
  have hread := (Transport.read_weight h filled).1
  simp only [weight, accept, Splitter.push_weight]
  omega

theorem recv_weight {c d : Connection} {envelope : Envelope}
    (h : c.recv = (.envelope envelope, d)) : d.weight < c.weight := by
  fun_induction recv c with
  | case1 c found next hscan =>
    cases h
    have hless := scan_weight hscan
    have htransport : d.transport = c.transport := by rw [← scan_transport c, hscan]
    rw [weight, weight, htransport]
    omega
  | case6 c next hscan octets transport hread filled hless ih =>
    have hle := scan_weight_le c
    have htransport : next.transport = c.transport := by rw [← scan_transport c, hscan]
    rw [hscan] at hle
    calc
      d.weight < (next.accept transport octets).weight := ih h
      _ ≤ next.weight := accept_weight hread filled
      _ ≤ c.weight := by rw [weight, weight, htransport]; exact Nat.add_le_add_right hle _
  | case5 c next hscan transport hread =>
    obtain ⟨hanswer, -⟩ := Prod.mk.inj h
    split at hanswer <;> cases hanswer
  | _ => cases h

/-- Receives until the answer is no envelope. -/
def receiveAll (c : Connection) : Reception :=
  match h : c.recv with
  | (.envelope envelope, d) =>
    have := recv_weight h
    let rest := receiveAll d
    { rest with envelopes := envelope :: rest.envelopes }
  | (answer, d) => ⟨[], answer, d⟩
termination_by c.weight

end Connection
end ClusterLink
