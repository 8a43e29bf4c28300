import ClusterLink.Connection.Task
/-!
A session joined to the task of its connection. In an exchange the task takes the bodies that the
session has written, runs until it waits, and hands over its events.
-/
namespace ClusterLink

structure Link (ρ : Type) where
  session : Session ρ
  task : ConnectionTask

namespace Link

variable {ρ : Type}

def new (session : Session ρ) : Link ρ := ⟨session, .new .new⟩

def exchange (link : Link ρ) : Link ρ :=
  let session := link.session
  let (bodies, wire) := session.outbox.wire.takeAll
  let outbound := { link.task.outbound with queue := link.task.outbound.queue ++ bodies }
  let task := ConnectionTask.settle { link.task with outbound }
  let (arrived, events) := task.events.takeAll
  let inbox := { session.inbox with
    queue := session.inbox.queue ++ arrived
    sending := events.sending }
  let wire := { wire with receiving := task.outbound.receiving }
  { session := { session with inbox, outbox := { session.outbox with wire } }
    task := { task with events } }

/-- A link just opened: the session knows it, and what waited in its outbox is on the stream. -/
def opened [GameRuntime ρ] (session : Session ρ) : Link ρ :=
  let link := (new session).exchange
  exchange { link with session := link.session.processNext.2 }

/-- The remote side sends octets. -/
def arrive (link : Link ρ) (octets : Octets) : Link ρ :=
  let transport := link.task.connection.transport.arrive (.data octets)
  { link with task.connection.transport := transport }

/-- The remote side sends its last octets. -/
def finishInbound (link : Link ρ) (octets : Octets) : Link ρ :=
  { link.arrive octets with task.connection.transport.ended := true }

/-- The bodies of the frames written so far. -/
def framesWritten (link : Link ρ) : List Octets :=
  (Splitter.new.push link.task.connection.transport.written).drain.bodies

end Link

namespace Session

variable {ρ : Type} [GameRuntime ρ]

/-- The connection could not be made. -/
def refuse (session : Session ρ) (cause : String) : Session ρ :=
  let reason := (ConnectionError.io cause).message
  { session with
    inbox := { session.inbox with
      queue := session.inbox.queue ++ [.closed reason]
      sending := false }
    outbox := { session.outbox with wire := session.outbox.wire.dropReceiver } }

/-- Handles events until no more can arrive. The count is of the events handled. -/
def finish (session : Session ρ) : Nat × Session ρ :=
  let (events, inbox) := session.inbox.takeAll
  (events.length, events.foldl handle { session with inbox })

end Session
end ClusterLink
