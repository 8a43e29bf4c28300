import ClusterLink.Channel
import ClusterLink.Envelope.Body
/-!
Outbound bodies wait in the outbox until the connection opens and then go straight to the wire.
A closed outbox stays closed.
-/
namespace ClusterLink

inductive SessionError where
  | codec (cause : CodecError)
  | connectionClosed
  | exhausted (outstanding : Nat)
  deriving DecidableEq, Repr

def SessionError.message : SessionError → String
  | .codec cause => s!"Codec error: {cause.message}"
  | .connectionClosed => "Connection closed"
  | .exhausted outstanding => s!"Correlator error: All {outstanding} command ids are outstanding"

inductive OutboxState where
  /-- Bodies wait here, in the order in which they were sent. -/
  | connecting (pending : List Octets)
  | opened
  | closed
  deriving DecidableEq, Repr

structure Outbox where
  state : OutboxState
  wire : Channel Octets

namespace Outbox

def new : Outbox := ⟨.connecting [], .new⟩

/-- Writes a body to the wire. The outbox closes when nobody receives it. -/
def write (outbox : Outbox) (body : Octets) : Except SessionError Unit × Outbox :=
  match outbox.wire.send? body with
  | some wire => (.ok (), { outbox with wire })
  | none => (.error .connectionClosed, { outbox with state := .closed })

/-- Encodes and sends an envelope. One that has no body changes nothing. -/
def send (outbox : Outbox) (envelope : Envelope) : Except SessionError Unit × Outbox :=
  match envelope.encode with
  | .error cause => (.error (.codec cause), outbox)
  | .ok body =>
    match outbox.state with
    | .connecting pending => (.ok (), { outbox with state := .connecting (pending ++ [body]) })
    | .opened => outbox.write body
    | .closed => (.error .connectionClosed, outbox)

/-- Writes bodies in order, up to the first that nobody receives. -/
def flush (outbox : Outbox) : List Octets → Except SessionError Unit × Outbox
  | [] => (.ok (), outbox)
  | body :: rest =>
    match outbox.write body with
    | (.ok _, outbox) => outbox.flush rest
    | failure => failure

/-- Opens the outbox and flushes what waits in it. The count is of the bodies flushed. -/
def connect (outbox : Outbox) : Except SessionError Nat × Outbox :=
  match outbox.state with
  | .connecting pending =>
    let (outcome, outbox) := flush { outbox with state := .opened } pending
    (outcome.map fun _ => pending.length, outbox)
  | .opened => (.ok 0, outbox)
  | .closed => (.error .connectionClosed, outbox)

/-- Drops what waits; later sends fail. -/
def close (outbox : Outbox) : Outbox := { outbox with state := .closed }

def pendingCount (outbox : Outbox) : Nat :=
  match outbox.state with
  | .connecting pending => pending.length
  | _ => 0

end Outbox
end ClusterLink
