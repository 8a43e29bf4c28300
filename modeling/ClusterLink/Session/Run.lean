import ClusterLink.Outbox.Run
import ClusterLink.Session.Basic
/-!
Runs of a session: all that its owner and its connection do with it, in any order.
-/
namespace ClusterLink

inductive SessionStep (ρ : Type) where
  /-- The connection sends an event. -/
  | deliver (event : ConnectionEvent)
  /-- The connection will send no more events. -/
  | dropSender
  /-- The connection takes the bodies that are on the wire. -/
  | collect
  /-- The connection will take no more bodies. -/
  | dropReceiver
  /-- An event is handled that did not come through the inbox. -/
  | handle (event : ConnectionEvent)
  | pump
  | processNext
  | poll
  | worldReady
  | runtimeReady
  /-- The owner uses the runtime. -/
  | useRuntime (use : ρ → ρ)
  | issue (text : String)
  | createGame (preset mode : String)
  | connectTo (name : String)
  | sendPacket (channel : UInt16) (data : Octets)
  | disconnect
  | sendAuth (kind : AuthKind) (fields : List (String × Cbor.Item))

inductive SessionAnswer where
  | done
  | counted (count : Nat)
  | collected (bodies : List Octets)
  | progressed (progress : Session.Progress)
  | polled (frame : Option Octets)
  | replayed (count : Option Nat)
  | issued (outcome : Except SessionError Issued)
  | sent (outcome : Except SessionError Unit)

namespace Session

variable {ρ : Type}

/-- The connection sends an event, if the session still listens. -/
def deliver (session : Session ρ) (event : ConnectionEvent) : Session ρ :=
  { session with inbox := (session.inbox.send? event).getD session.inbox }

def collect (session : Session ρ) : List Octets × Session ρ :=
  let (bodies, outbox) := session.outbox.collect
  (bodies, { session with outbox })

variable [GameRuntime ρ]

def step (session : Session ρ) : SessionStep ρ → SessionAnswer × Session ρ
  | .deliver event => (.done, session.deliver event)
  | .dropSender => (.done, { session with inbox := session.inbox.dropSender })
  | .collect => session.collect.map .collected id
  | .dropReceiver => (.done, { session with outbox := session.outbox.dropReceiver })
  | .handle event => (.done, session.handle event)
  | .pump => session.pump.map .counted id
  | .processNext => session.processNext.map .progressed id
  | .poll => session.poll.map .polled id
  | .worldReady => session.worldReady.map .counted id
  | .runtimeReady => session.runtimeReady.map .replayed id
  | .useRuntime use => (.done, { session with runtime := use session.runtime })
  | .issue text => (session.issue text).map .issued id
  | .createGame preset mode => (session.createGame preset mode).map .issued id
  | .connectTo name => (session.connectTo name).map .sent id
  | .sendPacket channel data => (session.sendPacket channel data).map .sent id
  | .disconnect => session.disconnect.map .sent id
  | .sendAuth kind fields => (session.sendAuth kind fields).map .sent id

def run (session : Session ρ) (steps : List (SessionStep ρ)) : List SessionAnswer × Session ρ :=
  runSteps step session steps

theorem run_cons (session : Session ρ) (first : SessionStep ρ) (rest : List (SessionStep ρ)) :
    session.run (first :: rest) =
      ((session.step first).1 :: ((session.step first).2.run rest).1,
        ((session.step first).2.run rest).2) :=
  runSteps_cons step session first rest

/-- The events that a step handles. -/
def heard (session : Session ρ) : SessionStep ρ → List ConnectionEvent
  | .handle event => [event]
  | .pump | .poll => session.inbox.queue
  | .processNext => session.inbox.queue.take 1
  | _ => []

/-- The events that a run handles, in order. -/
def heardAll (session : Session ρ) : List (SessionStep ρ) → List ConnectionEvent
  | [] => []
  | step :: rest => session.heard step ++ (session.step step).2.heardAll rest

/-- The bodies that a run puts on the wire, in order. -/
def writtenAll (session : Session ρ) : List (SessionStep ρ) → List Octets
  | [] => []
  | step :: rest =>
    (session.step step).2.outbox.writtenSince session.outbox ++
      (session.step step).2.writtenAll rest

end Session
end ClusterLink
