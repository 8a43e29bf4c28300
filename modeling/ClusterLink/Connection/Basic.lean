import ClusterLink.Connection.Transport
import ClusterLink.Envelope.Body
import ClusterLink.Frame
/-!
A connection sends and receives framed envelopes. A body that is no envelope is dropped and counted;
only a bad frame or a failing stream ends the connection. The stream may end only where nothing is
left in the receive buffer.
-/
namespace ClusterLink

inductive ConnectionError where
  | io (cause : String)
  | protocol (cause : CodecError)
  /-- The stream ended inside a frame. -/
  | closed
  deriving DecidableEq, Repr

def ConnectionError.message : ConnectionError → String
  | .io cause => s!"IO error: {cause}"
  | .protocol cause => s!"Protocol error: {cause.message}"
  | .closed => "Connection closed mid-frame"

structure Traffic where
  messagesSent : Nat
  messagesReceived : Nat
  messagesDropped : Nat
  bytesSent : Nat
  bytesReceived : Nat
  deriving DecidableEq, Repr

structure Connection where
  splitter : Splitter
  transport : Transport
  traffic : Traffic

inductive Received where
  | envelope (envelope : Envelope)
  /-- The stream ended cleanly. -/
  | ended
  | pending
  | failed (error : ConnectionError)
  deriving DecidableEq, Repr

namespace Connection

def new (transport : Transport) : Connection := ⟨.new, transport, ⟨0, 0, 0, 0, 0⟩⟩

/-- Frames and writes a body. -/
def sendBody (c : Connection) (body : Octets) : Except ConnectionError Unit × Connection :=
  match Frame.write body with
  | .error e => (.error (.protocol e), c)
  | .ok frame =>
    match c.transport.write frame with
    | (some cause, transport) => (.error (.io cause), { c with transport })
    | (none, transport) =>
      (.ok (), { c with
        transport
        traffic := { c.traffic with
          messagesSent := c.traffic.messagesSent + 1
          bytesSent := c.traffic.bytesSent + frame.length } })

def send (c : Connection) (envelope : Envelope) : Except ConnectionError Unit × Connection :=
  match envelope.encode with
  | .error e => (.error (.protocol e), c)
  | .ok body => c.sendBody body

/-- The first envelope among the complete bodies in the buffer. Bodies before it are dropped. -/
def scan (c : Connection) : Option (Except CodecError Envelope) × Connection :=
  match h : c.splitter.next with
  | (.error e, splitter) => (some (.error e), { c with splitter })
  | (.ok none, splitter) => (none, { c with splitter })
  | (.ok (some body), splitter) =>
    have := Splitter.next_weight h
    match Envelope.decode body with
    | .ok envelope =>
      (some (.ok envelope), { c with
        splitter
        traffic := { c.traffic with messagesReceived := c.traffic.messagesReceived + 1 } })
    | .error e =>
      if e.fatal then (some (.error e), { c with splitter })
      else scan { c with
        splitter
        traffic := { c.traffic with messagesDropped := c.traffic.messagesDropped + 1 } }
termination_by c.splitter.weight

theorem scan_transport (c : Connection) : c.scan.2.transport = c.transport := by
  fun_induction scan c <;> simp_all

/-- Adds what a read brought to the receive buffer. -/
def accept (c : Connection) (transport : Transport) (octets : Octets) : Connection :=
  { c with
    splitter := c.splitter.push octets
    transport
    traffic := { c.traffic with bytesReceived := c.traffic.bytesReceived + octets.length } }

/-- Receives the next envelope, reading from the stream as far as that needs. -/
def recv (c : Connection) : Received × Connection :=
  match hs : c.scan with
  | (some (.ok envelope), c) => (.envelope envelope, c)
  | (some (.error e), c) => (.failed (.protocol e), c)
  | (none, d) =>
    match hr : d.transport.read with
    | (.pending, transport) => (.pending, { d with transport })
    | (.failed cause, transport) => (.failed (.io cause), { d with transport })
    | (.data octets, transport) =>
      if filled : octets = [] then
        (if d.splitter.buffer.size = 0 then .ended else .failed .closed, { d with transport })
      else
        have : transport.weight < c.transport.weight := by
          have h := scan_transport c
          rw [hs] at h
          simp only at h
          exact h ▸ (Transport.read_weight hr filled).2
        recv (d.accept transport octets)
termination_by c.transport.weight

/-- Shuts the stream down. -/
def close (c : Connection) : Except ConnectionError Unit × Connection :=
  match c.transport.shutdown with
  | (some cause, transport) => (.error (.io cause), { c with transport })
  | (none, transport) => (.ok (), { c with transport })

end Connection
end ClusterLink
