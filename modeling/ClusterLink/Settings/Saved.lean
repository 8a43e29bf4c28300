import ClusterLink.Document.Printer
import ClusterLink.Octets
import ClusterLink.Settings.Basic
/-!
Settings as a document. Saving writes every setting, a join target only if there is one. Loading
takes the standard setting for whatever is left out, passes over what it does not know, and refuses
the whole document over one setting that it cannot use.
-/
namespace ClusterLink

open Document (Assignment Entries Section Value)

namespace Document

/-- A setting, or its standard where the table leaves it out. -/
def Entries.setting {α : Type} (entries : Entries) (key : String) (read : Value → Option α)
    (standard : α) : Option α :=
  match entries.find? key with
  | none => some standard
  | some value => read value

/-- The natural number below `size` that a value is. -/
def Value.number? (size : Nat) (value : Value) : Option Nat :=
  match value.integer? with
  | some n => if 0 ≤ n ∧ n < size then some n.toNat else none
  | none => none

/-- A section with a heading of its own in which every key stands at the top. -/
def Section.flat (path : List String) (key : String) (settings : List (String × Value)) : Section :=
  ⟨.table, path, key, settings.map fun (key, value) => ⟨[], key, value⟩⟩

end Document

namespace PacketKind

/-- The kind with a number, if there is one. -/
def ofValue? (value : Value) : Option PacketKind :=
  match value.integer? with
  | some n => if (ofInt n).toInt = n then some (ofInt n) else none
  | none => none

def value (kind : PacketKind) : Value := .integer kind.toInt

end PacketKind

namespace GeneralSettings

def ofEntries? (entries : Entries) : Option GeneralSettings := do
  let verbose ← entries.setting "verbose" Value.boolean? standard.verbose
  let join ← entries.setting "join" (fun value => value.text?.map some) standard.join
  some ⟨verbose, join⟩

def saved (settings : GeneralSettings) : Section :=
  .flat [] "general" <|
    ("verbose", .boolean settings.verbose) ::
      settings.join.toList.map fun name => ("join", .text name)

end GeneralSettings

namespace NetworkSettings

def ofEntries? (entries : Entries) : Option NetworkSettings := do
  let host ← entries.setting "host" Value.text? standard.host
  let port ← entries.setting "port"
    (fun value => (value.number? UInt16.size).map UInt16.ofNat) standard.port
  let connectTimeout ← entries.setting "connect_timeout_ms"
    (fun value => (value.number? UInt64.size).map UInt64.ofNat)
    standard.connectTimeout
  some ⟨host, port, connectTimeout⟩

def saved (settings : NetworkSettings) : Section :=
  .flat [] "network" [
    ("host", .text settings.host),
    ("port", .integer settings.port.toNat),
    ("connect_timeout_ms", .integer settings.connectTimeout.toNat)]

end NetworkSettings

namespace DeferralPolicy

/-- A policy has a mode and kinds; neither has a standard of its own. -/
def ofEntries? (entries : Entries) : Option DeferralPolicy := do
  let mode ← (← entries.find? "mode").alternative?
  let kinds ← (← (← entries.find? "kinds").array?).mapM PacketKind.ofValue?
  match mode with
  | "allow_list" => some (.allowList (.ofList kinds))
  | "defer_list" => some (.deferList (.ofList kinds))
  | _ => none

def mode : DeferralPolicy → String
  | .allowList _ => "allow_list"
  | .deferList _ => "defer_list"

def kinds : DeferralPolicy → List PacketKind
  | .allowList set => set.kinds
  | .deferList set => set.kinds

def saved (policy : DeferralPolicy) : Section :=
  .flat ["gate"] "policy" [
    ("mode", .text policy.mode),
    ("kinds", .array (policy.kinds.map PacketKind.value))]

end DeferralPolicy

namespace GateSettings

def ofEntries? (entries : Entries) : Option GateSettings := do
  let mapChange ← entries.setting "map_change" PacketKind.ofValue? standard.mapChange
  let policy ← entries.setting "policy"
    (fun value => value.entries?.bind DeferralPolicy.ofEntries?) standard.policy
  some ⟨mapChange, policy⟩

/-- The policy has a section of its own. -/
def saved (settings : GateSettings) : List Section :=
  [.flat [] "gate" [("map_change", settings.mapChange.value)], settings.policy.saved]

end GateSettings

namespace RuntimeSettings

def ofEntries? (entries : Entries) : Option RuntimeSettings := do
  let word (value : Value) : Option UInt32 :=
    (value.number? UInt32.size).map UInt32.ofNat
  let tickRate ← entries.setting "tick_rate_hz" word standard.tickRate
  let bootTicks ← entries.setting "boot_ticks" word standard.bootTicks
  let commandTimeout ← entries.setting "command_timeout_ms"
    (fun value => (value.number? UInt64.size).map UInt64.ofNat)
    standard.commandTimeout
  some ⟨tickRate, bootTicks, commandTimeout⟩

def saved (settings : RuntimeSettings) : Section :=
  .flat [] "runtime" [
    ("tick_rate_hz", .integer settings.tickRate.toNat),
    ("boot_ticks", .integer settings.bootTicks.toNat),
    ("command_timeout_ms", .integer settings.commandTimeout.toNat)]

end RuntimeSettings

/-- Why no settings could be loaded. -/
inductive LoadError where
  | notFound
  /-- The file is no text. -/
  | unreadable
  | malformed
  deriving DecidableEq, Repr

namespace Settings

def ofEntries? (entries : Entries) : Option Settings := do
  let part {α : Type} (key : String) (read : Entries → Option α) (standard : α) : Option α :=
    entries.setting key (fun value => value.entries?.bind read) standard
  let general ← part "general" GeneralSettings.ofEntries? .standard
  let network ← part "network" NetworkSettings.ofEntries? .standard
  let gate ← part "gate" GateSettings.ofEntries? .standard
  let runtime ← part "runtime" RuntimeSettings.ofEntries? .standard
  some ⟨general, network, gate, runtime⟩

def ofDocument? (document : Document) : Option Settings := document.entries?.bind ofEntries?

/-- The document that holds every setting. -/
def saved (settings : Settings) : Document where
  preamble := []
  sections :=
    [settings.general.saved, settings.network.saved] ++ settings.gate.saved ++
      [settings.runtime.saved]

def text (settings : Settings) : String := settings.saved.render

/-- Loads the settings in a file, given its content if there is such a file. -/
def load : Option Octets → Except LoadError Settings
  | none => .error .notFound
  | some content =>
    match Octets.text? content with
    | none => .error .unreadable
    | some text =>
      match (Document.parse? text).bind ofDocument? with
      | none => .error .malformed
      | some settings => .ok settings

/-- Loads the first file that is there, or takes the standard settings. -/
def loadFirst (files : List (Option Octets)) : Except LoadError Settings :=
  match files.find? Option.isSome with
  | some file => load file
  | none => .ok standard

end Settings
end ClusterLink
