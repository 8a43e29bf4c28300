import ClusterLink.Envelope.Basic
/-!
The game runtime on the other side of a session, as far as the session calls it, and a runtime that
does nothing but keep a log of those calls.
-/
namespace ClusterLink

class GameRuntime (ρ : Type) where
  /-- Whether servers can be handed over yet. -/
  ingestionReady : ρ → Bool
  injectServer : ρ → ServerEntry → ρ
  /-- Runs a console command. -/
  execute : ρ → String → ρ

inductive RuntimeCall where
  | server (entry : ServerEntry)
  | execute (command : String)
  deriving DecidableEq, Repr

structure CallLog where
  ready : Bool
  calls : List RuntimeCall

namespace CallLog

def new (ready : Bool) : CallLog := ⟨ready, []⟩

def record (log : CallLog) (call : RuntimeCall) : CallLog :=
  { log with calls := log.calls ++ [call] }

instance : GameRuntime CallLog where
  ingestionReady := CallLog.ready
  injectServer log entry := log.record (.server entry)
  execute log command := log.record (.execute command)

end CallLog
end ClusterLink
