import ClusterLink.Session.Headless
import ClusterLink.Session.Schedule
/-!
Runs of a session with the headless runtime in which it is drained by any means between its ticks.
-/
namespace ClusterLink

inductive BrowsingStep where
  | drain (step : DrainStep)
  | tick
  deriving DecidableEq, Repr

namespace Session

def browse (session : Session Headless) : BrowsingStep → Session Headless
  | .drain step => (session.step step.toStep).2
  | .tick => session.tick

def browseAll (session : Session Headless) (steps : List BrowsingStep) : Session Headless :=
  steps.foldl browse session

theorem browseAll_snoc (session : Session Headless) (steps : List BrowsingStep)
    (last : BrowsingStep) :
    session.browseAll (steps ++ [last]) = (session.browseAll steps).browse last := by
  rw [browseAll, browseAll, List.foldl_append, List.foldl_cons, List.foldl_nil]

end Session
end ClusterLink
