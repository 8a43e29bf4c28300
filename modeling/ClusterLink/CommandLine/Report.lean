import ClusterLink.CommandLine.Arguments
import ClusterLink.RuntimeFrame
import ClusterLink.Session.Headless
import ClusterLink.Session.Inquiry
import ClusterLink.Settings.Saved
/-!
What an invocation does and what the program says about it. The settings are loaded first; a file
that is named has to load, while the default files fall back on the standard settings.
-/
namespace ClusterLink.CommandLine

inductive ExitCode where
  | success
  | failure
  | usage
  /-- The program cannot go on at all. -/
  | abort
  deriving DecidableEq, Repr

def ExitCode.toNat : ExitCode → Nat
  | .success => 0
  | .failure => 1
  | .usage => 2
  | .abort => 101

/-- The end of the program. -/
structure Report where
  code : ExitCode
  output : String
  errors : String
  deriving DecidableEq, Repr

namespace Report

def line (text : String) : Report := ⟨.success, text ++ "\n", ""⟩

def failure (message : String) : Report := ⟨.failure, "", s!"Error: {message}\n"⟩

end Report

def usageText : String :=
  "Usage: sourbridge [OPTIONS] <COMMAND>\n\nCommands:\n" ++
  "  run      Connect and drive a headless runtime\n" ++
  "  command  Send one cluster command and print its response\n" ++
  "  config   Show current configuration\n" ++
  "  info     Show protocol information\n" ++
  "  help     Print this message or the help of the given subcommand(s)\n\nOptions:\n" ++
  "  -c, --config <CONFIG>  Path to configuration file\n" ++
  "  -v, --verbose          Enable verbose output\n" ++
  "  -h, --help             Print help\n" ++
  "  -V, --version          Print version\n"

/-- What is said when nothing is to be done. -/
def Stop.report : Stop → Report
  | .usage => ⟨.usage, "", usageText⟩
  | .help => ⟨.success, usageText, ""⟩
  | .version => .line "sourbridge 0.1.0"

/-- The kinds of a policy and what they are for. -/
def policyText (policy : DeferralPolicy) : String :=
  let list := ", ".intercalate (policy.kinds.map fun kind => s!"PacketKind({kind.toInt})")
  match policy with
  | .allowList _ => "AllowList(\x7b" ++ list ++ "\x7d)"
  | .deferList _ => "DeferList(\x7b" ++ list ++ "\x7d)"

def protocolText (settings : Settings) : String :=
  "Sourbridge Protocol Information\n===============================\n\n" ++
  s!"Cluster: {settings.network.host}:{settings.network.port}\n" ++
  s!"Default Port: {NetworkSettings.defaultPort}\n" ++
  s!"Command id space: {commandIdSpace}\n" ++
  s!"Map change kind: {settings.gate.mapChange.name}\n" ++
  s!"Load policy: {policyText settings.gate.policy}\n" ++
  "\nFrame layouts (little-endian):\n" ++
  s!"  connect     {RuntimeFrame.connectCode} | -\n" ++
  s!"  disconnect  {RuntimeFrame.disconnectCode} | reason u16\n" ++
  s!"  receive     {RuntimeFrame.receiveCode} | channel u16 | length u32 | data\n"

/-- The files by name, as far as they are there. -/
abbrev Files := String → Option Octets

def loadErrorText (path : String) : LoadError → String
  | .notFound => s!"Config file not found: {path}"
  | .unreadable => "IO error: stream did not contain valid UTF-8"
  | .malformed => s!"Parse error: {path}"

/-- The settings of an invocation, or the report that they could not be loaded. -/
def Invocation.settings (invocation : Invocation) (files : Files) (defaults : List String) :
    Except Report Settings :=
  match invocation.config with
  | some path => (Settings.load (files path)).mapError fun e => .failure (loadErrorText path e)
  | none => .ok ((Settings.loadFirst (defaults.map files)).toOption.getD .standard)

/-- What is left to do once the settings are known. -/
inductive Task where
  | finish (report : Report)
  /-- Writes a file and then reports. -/
  | write (path content : String) (report : Report)
  | bridge (settings : Settings)
  | ask (text : String) (settings : Settings)

def withTarget (settings : Settings) (host : Option String) (port : Option UInt16) : Settings :=
  { settings with
    network := { settings.network with
      host := host.getD settings.network.host
      port := port.getD settings.network.port } }

def Action.task (action : Action) (settings : Settings) : Task :=
  match action with
  | .run host port join =>
    let settings := withTarget settings host port
    .bridge { settings with general.join := join.or settings.general.join }
  | .command text host port => .ask text (withTarget settings host port)
  | .config true (some path) =>
    .write path Settings.sample.text (.line s!"Configuration written to: {path}")
  | .config true none => .finish (.line Settings.sample.text)
  | .config false _ => .finish (.line settings.text)
  | .info => .finish ⟨.success, protocolText settings, ""⟩

/-- The task that arguments ask for. -/
def taskOf (arguments : List String) (files : Files) (defaults : List String) : Task :=
  match Invocation.parse arguments with
  | .error stop => .finish stop.report
  | .ok invocation =>
    match invocation.settings files defaults with
    | .error report => .finish report
    | .ok settings => invocation.action.task settings

/-- A new session under the given settings. -/
def session (settings : Settings) (ids : IdSource) : Session Headless :=
  let options := settings.sessionOptions
  .new (.new settings.runtime.bootTicks) (options.mapChange.getD .mapChange) options.policy ids

/-- A session that joins its target, if it has one, as soon as the connection opens. -/
def bridgeSession (settings : Settings) (ids : IdSource) : Session Headless :=
  match settings.general.join with
  | some target => ((session settings ids).connectTo target).2
  | none => session settings ids

/-- The report on a bridge that has run to its end. A clock without a tick interval cannot run. -/
def bridgeReport (settings : Settings) : Report :=
  if settings.runtime.tickInterval = 0 then ⟨.abort, "", ""⟩ else ⟨.success, "", ""⟩

def inquiryReport : InquiryEnd → Report
  | .answered (.ok payload) => .line payload
  | .answered (.error e) => .failure e.message
  | .lost reason =>
    let reason := reason.getD "unknown"
    .failure s!"Connection closed before a response: {reason}"

end ClusterLink.CommandLine
