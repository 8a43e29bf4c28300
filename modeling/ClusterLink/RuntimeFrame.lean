import ClusterLink.Envelope.Basic
/-!
The frames that the runtime polls, all integers least significant octet first: an event code, then
the reason of a disconnection, or the channel, the length and the octets of a packet. Only
envelopes about the game connection have a frame.
-/
namespace ClusterLink
namespace RuntimeFrame

def connectCode : Nat := 1
def disconnectCode : Nat := 2
def receiveCode : Nat := 3

/-- The size of an envelope's frame. A packet whose length exceeds its data has none. -/
def size? (envelope : Envelope) : Option Nat :=
  match envelope with
  | .serverConnected .. => some 2
  | .serverDisconnected .. => some 4
  | .packet .. => envelope.payload?.map fun data => 8 + data.length
  | _ => none

def write (envelope : Envelope) : Octets :=
  match envelope with
  | .serverConnected .. => Octets.ofNatLE 2 connectCode
  | .serverDisconnected reason _ =>
    Octets.ofNatLE 2 disconnectCode ++ Octets.ofNatLE 2 reason.toNat
  | .packet channel _ _ =>
    let data := envelope.payload?.getD []
    Octets.ofNatLE 2 receiveCode ++ Octets.ofNatLE 2 channel.toNat ++
      Octets.ofNatLE 4 data.length ++ data
  | _ => []

end RuntimeFrame

/-- What a frame tells the runtime. -/
inductive RuntimeEvent where
  | connect
  | disconnect (reason : UInt16)
  | receive (channel : UInt16) (data : Octets)
  deriving DecidableEq, Repr

namespace RuntimeEvent

/-- Reads a frame; octets behind its end are ignored. -/
def read? (frame : Octets) : Option RuntimeEvent := do
  let (code, rest) ← Octets.split? 2 frame
  let code := Octets.toNatLE code
  if code = RuntimeFrame.connectCode then some .connect
  else if code = RuntimeFrame.disconnectCode then do
    let (reason, _) ← Octets.split? 2 rest
    some (.disconnect (UInt16.ofNat (Octets.toNatLE reason)))
  else if code = RuntimeFrame.receiveCode then do
    let (channel, rest) ← Octets.split? 2 rest
    let (length, rest) ← Octets.split? 4 rest
    let (data, _) ← Octets.split? (Octets.toNatLE length) rest
    some (.receive (UInt16.ofNat (Octets.toNatLE channel)) data)
  else none

end RuntimeEvent
end ClusterLink
