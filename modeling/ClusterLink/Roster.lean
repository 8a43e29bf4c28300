import ClusterLink.GameRuntime
/-!
Batches of discovered servers on their way into the runtime. While the runtime takes none, the
newest batch is kept and replaces an older one; it goes in first once the runtime is ready.
-/
namespace ClusterLink

inductive Injection where
  | delivered (count : Nat)
  | cached (count : Nat)
  deriving DecidableEq, Repr

structure Roster where
  cached : Option (List ServerEntry)
  deriving DecidableEq, Repr

namespace Roster

variable {ρ : Type} [GameRuntime ρ]

def new : Roster := ⟨none⟩

/-- The command that sorts the server browser after a batch. -/
def sortCommand : String := "sortservers"

def deliver (runtime : ρ) (entries : List ServerEntry) : ρ :=
  GameRuntime.execute (entries.foldl GameRuntime.injectServer runtime) sortCommand

/-- Hands over the batch that is kept, if there is one and the runtime is ready. -/
def replay (roster : Roster) (runtime : ρ) : Option Nat × Roster × ρ :=
  if GameRuntime.ingestionReady runtime then
    match roster.cached with
    | some entries => (some entries.length, ⟨none⟩, deliver runtime entries)
    | none => (none, roster, runtime)
  else (none, roster, runtime)

/-- Hands a batch over now, or keeps it until the runtime is ready. -/
def inject (roster : Roster) (runtime : ρ) (entries : List ServerEntry) :
    Injection × Roster × ρ :=
  if GameRuntime.ingestionReady runtime then
    let (_, roster, runtime) := roster.replay runtime
    (.delivered entries.length, roster, deliver runtime entries)
  else (.cached entries.length, ⟨some entries⟩, runtime)

end Roster
end ClusterLink
