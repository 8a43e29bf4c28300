import ClusterLink.Session.Headless
import ClusterLink.Session.Run
/-!
Runs of a session with the headless runtime: events arrive, some of them are handled between the
ticks, and the runtime ticks.
-/
namespace ClusterLink

inductive HeadlessStep where
  | deliver (event : ConnectionEvent)
  | pump
  | processNext
  | tick
  deriving DecidableEq, Repr

namespace Session

def advance (session : Session Headless) : HeadlessStep → Session Headless
  | .deliver event => session.deliver event
  | .pump => session.pump.2
  | .processNext => session.processNext.2
  | .tick => session.tick

def course (session : Session Headless) (steps : List HeadlessStep) : Session Headless :=
  steps.foldl advance session

theorem course_snoc (session : Session Headless) (steps : List HeadlessStep)
    (last : HeadlessStep) :
    session.course (steps ++ [last]) = (session.course steps).advance last := by
  rw [course, course, List.foldl_append, List.foldl_cons, List.foldl_nil]

/-- The frames that each tick of a course polls, in order. -/
def tickFrames (session : Session Headless) : List HeadlessStep → List (List Octets)
  | [] => []
  | .tick :: rest => session.beginTick.drain.1 :: session.tick.tickFrames rest
  | step :: rest => (session.advance step).tickFrames rest

end Session
end ClusterLink
