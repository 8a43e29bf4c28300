import ClusterLink.Duration
import ClusterLink.Gate.Policy
/-!
What can be set, with the standard setting of each, and what links and sessions take from it.
Timeouts are in milliseconds.
-/
namespace ClusterLink

structure GeneralSettings where
  verbose : Bool
  /-- The server to join once the connection opens. -/
  join : Option String
  deriving DecidableEq, Repr

structure NetworkSettings where
  host : String
  port : UInt16
  connectTimeout : UInt64
  deriving DecidableEq, Repr

structure GateSettings where
  /-- The kind of packet that opens a world load. -/
  mapChange : PacketKind
  policy : DeferralPolicy
  deriving DecidableEq

structure RuntimeSettings where
  /-- Ticks in a second. -/
  tickRate : UInt32
  /-- Ticks before the runtime takes servers. -/
  bootTicks : UInt32
  commandTimeout : UInt64
  deriving DecidableEq, Repr

structure Settings where
  general : GeneralSettings
  network : NetworkSettings
  gate : GateSettings
  runtime : RuntimeSettings
  deriving DecidableEq

/-- Where a link is opened to, and how long that may take. -/
structure LinkTarget where
  host : String
  port : UInt16
  timeout : Milliseconds
  deriving DecidableEq, Repr

/-- What a session is set up with. Without a kind of its own it opens a world load on the usual
one. -/
structure SessionOptions where
  mapChange : Option PacketKind
  policy : DeferralPolicy
  deriving DecidableEq

namespace GeneralSettings

def standard : GeneralSettings := ⟨false, none⟩

end GeneralSettings

namespace NetworkSettings

/-- Where clusters listen. -/
def defaultPort : UInt16 := 29999

def standard : NetworkSettings := ⟨"localhost", defaultPort, 5000⟩

end NetworkSettings

namespace GateSettings

def standard : GateSettings := ⟨.mapChange, .standard⟩

end GateSettings

namespace RuntimeSettings

def standard : RuntimeSettings := ⟨60, 1, 10000⟩

/-- The time between two ticks, in whole nanoseconds. A rate of zero ticks once a second. -/
def tickInterval (settings : RuntimeSettings) : Nat :=
  1000000000 / max settings.tickRate.toNat 1

/-- How long a command waits for its response. -/
def deadline (settings : RuntimeSettings) : Milliseconds := ⟨settings.commandTimeout.toNat⟩

end RuntimeSettings

namespace Settings

def standard : Settings := ⟨.standard, .standard, .standard, .standard⟩

/-- Settings to start from. -/
def sample : Settings :=
  { standard with
    general := { GeneralSettings.standard with join := some "lobby" }
    network := { NetworkSettings.standard with host := "sourga.me" } }

def linkTarget (settings : Settings) : LinkTarget where
  host := settings.network.host
  port := settings.network.port
  timeout := ⟨settings.network.connectTimeout.toNat⟩

def sessionOptions (settings : Settings) : SessionOptions where
  mapChange := some settings.gate.mapChange
  policy := settings.gate.policy

end Settings
end ClusterLink
