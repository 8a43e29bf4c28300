import ClusterLink.Command.Table
import ClusterLink.Outbox
import ClusterLink.Poller
import ClusterLink.Roster
/-!
A session couples one connection to one runtime. Connection events are handled in the order in
which they arrive, every inbound envelope goes to its own consumers, and the runtime polls one
frame at a time.
-/
namespace ClusterLink

/-- What a connection reports to the session. -/
inductive ConnectionEvent where
  | opened
  | message (envelope : Envelope)
  | closed (reason : String)
  deriving DecidableEq, Repr

/-- What is shown outside the runtime. -/
inductive Observation where
  | connected (server : String) (internal owned : Bool)
  | auth (kind : AuthKind) (fields : List (String × Cbor.Item))
  | chat (message : String)
  deriving DecidableEq, Repr

structure Session (ρ : Type) where
  inbox : Channel ConnectionEvent
  outbox : Outbox
  commands : CommandTable
  gate : Gate
  poller : Poller
  roster : Roster
  runtime : ρ
  /-- Everything observed so far, in order. -/
  observed : List Observation
  /-- The reason given when the connection was last reported closed. -/
  closeReason : Option String

namespace Session

variable {ρ : Type} [GameRuntime ρ]

def new (runtime : ρ) (mapChange : PacketKind) (policy : DeferralPolicy) (ids : IdSource) :
    Session ρ where
  inbox := .new
  outbox := .new
  commands := .new ids
  gate := .new mapChange policy
  poller := .new
  roster := .new
  runtime := runtime
  observed := []
  closeReason := none

def isClosed (session : Session ρ) : Bool := session.closeReason.isSome

def observe (session : Session ρ) (observation : Observation) : Session ρ :=
  { session with observed := session.observed ++ [observation] }

def place (session : Session ρ) (envelope : Envelope) : Session ρ :=
  { session with gate := (session.gate.place envelope).2 }

/-- Routes an inbound envelope to its consumers. -/
def dispatch (session : Session ρ) (envelope : Envelope) : Session ρ :=
  match envelope with
  | .info cluster master =>
    let (_, roster, runtime) := session.roster.inject session.runtime (master ++ cluster)
    { session with roster, runtime }
  | .serverResponse id payload success =>
    { session with commands := (session.commands.resolve id payload success).2 }
  | .packet .. => { session with gate := (session.gate.placePacket envelope).2 }
  | .auth kind fields => session.observe (.auth kind fields)
  | .chat message => session.observe (.chat message)
  | .serverConnected server internal owned =>
    (session.observe (.connected server internal owned)).place envelope
  | _ => session.place envelope

def handle (session : Session ρ) (event : ConnectionEvent) : Session ρ :=
  match event with
  | .opened => { session with outbox := session.outbox.connect.2 }
  | .message envelope => session.dispatch envelope
  | .closed reason =>
    { session with outbox := session.outbox.close, closeReason := some reason }

/-- Hands a kept batch of servers to the runtime, if it is ready. -/
def runtimeReady (session : Session ρ) : Option Nat × Session ρ :=
  let (count, roster, runtime) := session.roster.replay session.runtime
  (count, { session with roster, runtime })

/-- Handles every event that has arrived. -/
def pump (session : Session ρ) : Nat × Session ρ :=
  let session := session.runtimeReady.2
  let (events, inbox) := session.inbox.takeAll
  (events.length, events.foldl handle { session with inbox })

inductive Progress where
  | handled
  | pending
  /-- No event will arrive any more. -/
  | gone
  deriving DecidableEq, Repr

/-- Handles the next event, if there is one. -/
def processNext (session : Session ρ) : Progress × Session ρ :=
  match session.inbox.queue with
  | event :: rest =>
    (.handled, handle { session with inbox := { session.inbox with queue := rest } } event)
  | [] => (if session.inbox.sending then .pending else .gone, session)

/-- The next frame for the runtime. -/
def poll (session : Session ρ) : Option Octets × Session ρ :=
  let session := session.pump.2
  let (frame, poller, gate) := session.poller.poll session.gate
  (frame, { session with poller, gate })

/-- Polls until no frame is left. -/
def drain (session : Session ρ) : List Octets × Session ρ :=
  let session := session.pump.2
  let (frames, poller, gate) := session.poller.drain session.gate
  (frames, { session with poller, gate })

/-- The runtime has applied a map change. -/
def worldReady (session : Session ρ) : Nat × Session ρ :=
  let (count, gate) := session.gate.worldReady
  (count, { session with gate })

def send (session : Session ρ) (envelope : Envelope) : Except SessionError Unit × Session ρ :=
  let (outcome, outbox) := session.outbox.send envelope
  (outcome, { session with outbox })

/-- Sends a command. One that cannot be sent is taken back. -/
def issue (session : Session ρ) (text : String) : Except SessionError Issued × Session ρ :=
  match session.commands.issue? text with
  | none => (.error (.exhausted session.commands.outstanding.length), session)
  | some (issued, commands) =>
    match session.outbox.send issued.envelope with
    | (.ok _, outbox) => (.ok issued, { session with commands, outbox })
    | (.error e, outbox) =>
      (.error e, { session with commands := commands.forget issued.id, outbox })

/-- Asks the cluster for a private game. -/
def createGame (session : Session ρ) (preset mode : String) :
    Except SessionError Issued × Session ρ :=
  session.issue s!"creategame {preset} {mode}"

/-- Joins a server by name; the lobby has the empty name. -/
def connectTo (session : Session ρ) (name : String) : Except SessionError Unit × Session ρ :=
  session.send (.connect (if name.isEmpty then "lobby" else name))

def sendPacket (session : Session ρ) (channel : UInt16) (data : Octets) :
    Except SessionError Unit × Session ρ :=
  session.send (.wholePacket channel data)

def disconnect (session : Session ρ) : Except SessionError Unit × Session ρ :=
  session.send .disconnect

def sendAuth (session : Session ρ) (kind : AuthKind) (fields : List (String × Cbor.Item)) :
    Except SessionError Unit × Session ρ :=
  session.send (.auth kind fields)

end Session
end ClusterLink
