import ClusterLink.Settings.Saved
/-!
Settings left out of a document. What is left out goes by its full name: the names of a heading, and
for a single setting its key behind them.
-/
namespace ClusterLink

namespace Document

def Section.name (part : Section) : List String := part.path ++ [part.key]

/-- A section without the settings that are gone. -/
def Section.without (gone : List String → Bool) (part : Section) : Section :=
  { part with body := part.body.filter fun a => !gone (part.name ++ a.path ++ [a.key]) }

/-- A document without the sections and settings that are gone. A section takes the settings under
its own heading with it, and no section further down. -/
def without (gone : List String → Bool) (document : Document) : Document where
  preamble := document.preamble.filter fun a => !gone (a.path ++ [a.key])
  sections := (document.sections.filter fun part => !gone part.name).map (Section.without gone)

end Document

/-- A setting, or its standard where it is gone by itself or with its section. -/
def settingOr {α : Type} (gone : List String → Bool) (name : List String) (key : String)
    (standard value : α) : α :=
  if gone name || gone (name ++ [key]) then standard else value

def GeneralSettings.reset (gone : List String → Bool) (settings : GeneralSettings) :
    GeneralSettings where
  verbose := settingOr gone ["general"] "verbose" standard.verbose settings.verbose
  join := settingOr gone ["general"] "join" standard.join settings.join

def NetworkSettings.reset (gone : List String → Bool) (settings : NetworkSettings) :
    NetworkSettings where
  host := settingOr gone ["network"] "host" standard.host settings.host
  port := settingOr gone ["network"] "port" standard.port settings.port
  connectTimeout :=
    settingOr gone ["network"] "connect_timeout_ms" standard.connectTimeout settings.connectTimeout

/-- The policy is a section of its own, and whole. -/
def GateSettings.reset (gone : List String → Bool) (settings : GateSettings) : GateSettings where
  mapChange := settingOr gone ["gate"] "map_change" standard.mapChange settings.mapChange
  policy := if gone ["gate", "policy"] then standard.policy else settings.policy

def RuntimeSettings.reset (gone : List String → Bool) (settings : RuntimeSettings) :
    RuntimeSettings where
  tickRate := settingOr gone ["runtime"] "tick_rate_hz" standard.tickRate settings.tickRate
  bootTicks := settingOr gone ["runtime"] "boot_ticks" standard.bootTicks settings.bootTicks
  commandTimeout :=
    settingOr gone ["runtime"] "command_timeout_ms" standard.commandTimeout settings.commandTimeout

/-- The standard in place of every setting that is gone. -/
def Settings.reset (gone : List String → Bool) (settings : Settings) : Settings where
  general := settings.general.reset gone
  network := settings.network.reset gone
  gate := settings.gate.reset gone
  runtime := settings.runtime.reset gone

end ClusterLink
