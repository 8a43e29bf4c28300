import ClusterLink.CommandLine.Report
import ClusterLink.Session.Link
import Std.Async.DNS
import Std.Async.TCP
/-!
The program: reads its files, joins a session to a socket and prints reports. Whatever it decides is
decided by the definitions that it calls.
-/
namespace ClusterLink.CommandLine

open Std.Async

def readFile? (path : String) : IO (Option Octets) := do
  try
    let content ← IO.FS.readBinFile path
    return some content.toList
  catch _ => return none

/-- The default settings files, the one of the user first. -/
def defaultFiles : IO (List String) := do
  let home := (← IO.getEnv "HOME").map (· ++ "/.config")
  let folder := match ← IO.getEnv "XDG_CONFIG_HOME" with
    | some folder => if folder.startsWith "/" then some folder else home
    | none => home
  return (folder.map (· ++ "/sourbridge/config.toml")).toList ++ ["./sourbridge.toml"]

/-- Ids in a random order, more than a session starts with. -/
def randomIds : IO IdSource := do
  let ids ← (List.range 64).mapM fun _ => return UInt16.ofNat (← IO.rand 0 (commandIdSpace - 1))
  return .ofScript ids

/-- A socket and the read that waits on it. -/
structure Peer where
  client : TCP.Socket.Client
  reading : AsyncTask (Option ByteArray)

namespace Peer

def readOf (client : TCP.Socket.Client) : IO (AsyncTask (Option ByteArray)) :=
  EAsync.asTask (client.recv? (UInt64.ofNat Transport.readLimit))

def reach (target : LinkTarget) : IO Peer := do
  let addresses ← (DNS.getAddrInfo target.host (toString target.port)).block
  let some found := addresses[0]? | throw (IO.userError "no address")
  let address : Std.Net.SocketAddress := match found with
    | .v4 address => .v4 ⟨address, target.port⟩
    | .v6 address => .v6 ⟨address, target.port⟩
  let client ← TCP.Socket.Client.mk
  let connecting ← EAsync.asTask (client.connect address)
  let deadline := (← IO.monoMsNow) + target.timeout.count
  while (← connecting.getState) != .finished do
    if deadline ≤ (← IO.monoMsNow) then throw (IO.userError "connection timed out")
    IO.sleep 1
  connecting.block
  return ⟨client, ← readOf client⟩

/-- Passes on what has arrived, lets the link work on it, and sends what it writes. -/
def attend (peer : Peer) (link : Link Headless) : IO (Peer × Link Headless) := do
  let mut peer := peer
  let mut transport := link.task.connection.transport
  if !transport.ended && (← peer.reading.getState) == .finished then
    try
      match ← peer.reading.block with
      | some octets =>
        transport := transport.arrive (.data octets.toList)
        peer := { peer with reading := ← readOf peer.client }
      | none => transport := { transport with ended := true }
    catch e =>
      transport := { transport.arrive (.failure (toString e)) with ended := true }
  let link := { link with task.connection.transport := transport }.exchange
  let worked := link.task.connection.transport
  let mut failure := worked.writeFailure
  if !worked.written.isEmpty then
    try (peer.client.send ⟨worked.written.toArray⟩).block
    catch e => failure := some (toString e)
  let sent := { worked with written := [], writeFailure := failure }
  return (peer, { link with task.connection.transport := sent })

end Peer

/-- Repeats a round, with a pause after each, until it gives a result. -/
partial def rounds {α : Type} (pause : UInt32) (peer : Option Peer) (link : Link Headless)
    (round : Session Headless → IO (Option α × Session Headless)) : IO α := do
  let (peer, link) ← match peer with
    | some peer => do
      let (peer, link) ← peer.attend link
      pure (some peer, link)
    | none => pure (none, link)
  let (result, session) ← round link.session
  match result with
  | some result => return result
  | none =>
    IO.sleep pause
    rounds pause peer { link with session } round

/-- Joins a session to the cluster and goes through rounds with it. -/
def converse {α : Type} (settings : Settings) (session : Session Headless) (pause : UInt32)
    (round : Session Headless → IO (Option α × Session Headless)) : IO α := do
  let link := Link.new session
  let (peer, link) ← try
      pure (some (← Peer.reach settings.linkTarget), link)
    catch e => pure (none, { link with session := session.refuse (toString e) })
  rounds pause peer link round

def bridge (settings : Settings) : IO Report := do
  let report := bridgeReport settings
  if report.code = .abort then return report
  let pause := UInt32.ofNat (settings.runtime.tickInterval / 1000000)
  converse settings (bridgeSession settings (← randomIds)) pause fun session => do
    let session := session.tick
    return (if session.isClosed then some report else none, session)

def ask (text : String) (settings : Settings) : IO Report := do
  let (outcome, session) := (session settings (← randomIds)).issue text
  match outcome with
  | .error e => return .failure e.message
  | .ok issued =>
    let deadline := (← IO.monoMsNow) + settings.runtime.commandTimeout.toNat
    converse settings session 1 fun session => do
      match ({ session, ticket := issued.ticket : Inquiry Headless }).step .response with
      | some (.inl ending) => return (some (inquiryReport ending), session)
      | some (.inr inquiry) => return (none, inquiry.session)
      | none =>
        if (← IO.monoMsNow) < deadline then return (none, session)
        let ending := InquiryEnd.answered (.error (.timeout settings.runtime.deadline))
        return (some (inquiryReport ending), session)

def perform : Task → IO Report
  | .finish report => return report
  | .write path content report => do
    try
      IO.FS.writeFile path content
      return report
    catch e => return .failure (toString e)
  | .bridge settings => bridge settings
  | .ask text settings => ask text settings

end ClusterLink.CommandLine

open ClusterLink CommandLine in
def main (arguments : List String) : IO UInt32 := do
  let defaults ← defaultFiles
  let named := (Invocation.parse arguments).toOption.bind (·.config)
  let files ← (named.toList ++ defaults).mapM fun path => return (path, ← readFile? path)
  let report ← perform (taskOf arguments (fun path => (files.lookup path).join) defaults)
  let output ← IO.getStdout
  output.putStr report.output
  output.flush
  let errors ← IO.getStderr
  errors.putStr report.errors
  return UInt32.ofNat report.code.toNat
