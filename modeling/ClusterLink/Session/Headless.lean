import ClusterLink.Session.Basic
/-!
A runtime without a game engine. It reads the frames of every tick, reports a world load finished in
the tick that polled the map change, and keeps the server browser sorted by host and port. It takes
servers once it has ticked often enough.
-/
namespace ClusterLink

structure KnownServer where
  host : String
  port : UInt16
  deriving DecidableEq, Repr

/-- Hosts compare by their octets, then ports. -/
def KnownServer.le (a b : KnownServer) : Bool :=
  let s := Octets.ofText a.host
  let t := Octets.ofText b.host
  if s = t then a.port ≤ b.port else decide (s < t)

structure Headless where
  ticks : Nat
  bootTicks : UInt32
  servers : List KnownServer
  connected : Bool
  packets : Nat
  mapsLoaded : Nat
  deriving DecidableEq, Repr

namespace Headless

def new (bootTicks : UInt32) : Headless := ⟨0, bootTicks, [], false, 0, 0⟩

instance : GameRuntime Headless where
  ingestionReady runtime := runtime.bootTicks.toNat ≤ runtime.ticks
  injectServer runtime entry :=
    { runtime with servers := runtime.servers ++ [⟨entry.host, entry.port⟩] }
  execute runtime command :=
    if command = Roster.sortCommand then
      { runtime with servers := runtime.servers.mergeSort KnownServer.le }
    else runtime

/-- Whether a frame holds a map change. -/
def isMapChange (frame : Octets) : Bool :=
  match RuntimeEvent.read? frame with
  | some (.receive _ data) => PacketKind.read? data = some .mapChange
  | _ => false

def readFrame (runtime : Headless) (frame : Octets) : Headless :=
  match RuntimeEvent.read? frame with
  | some .connect => { runtime with connected := true }
  | some (.disconnect _) => { runtime with connected := false }
  | some (.receive _ _) => { runtime with packets := runtime.packets + 1 }
  | none => runtime

end Headless

namespace Session

/-- Counts the tick, and hands kept servers over when it ends the boot. -/
def beginTick (session : Session Headless) : Session Headless :=
  let booting := !GameRuntime.ingestionReady session.runtime
  let runtime := { session.runtime with ticks := session.runtime.ticks + 1 }
  let session := { session with runtime }
  if booting && GameRuntime.ingestionReady runtime then session.runtimeReady.2 else session

/-- One tick of the headless runtime: reads every frame, then finishes the load that they began. -/
def tick (session : Session Headless) : Session Headless :=
  let (frames, session) := session.beginTick.drain
  let runtime := frames.foldl Headless.readFrame session.runtime
  if frames.any Headless.isMapChange then
    { session with runtime := { runtime with mapsLoaded := runtime.mapsLoaded + 1 } }.worldReady.2
  else { session with runtime }

end Session
end ClusterLink
