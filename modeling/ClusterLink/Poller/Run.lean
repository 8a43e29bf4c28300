import ClusterLink.Poller
/-!
Runs of a poller together with the gate that it takes envelopes from. The frames that it gave out
are kept in order.
-/
namespace ClusterLink

inductive PollStep where
  | placePacket (envelope : Envelope)
  | place (envelope : Envelope)
  | worldReady
  | poll
  deriving DecidableEq, Repr

structure PollDesk where
  gate : Gate
  poller : Poller
  /-- Every frame that was polled. -/
  frames : List Octets

namespace PollDesk

def new (mapChange : PacketKind) (policy : DeferralPolicy) : PollDesk :=
  ⟨.new mapChange policy, .new, []⟩

def step (desk : PollDesk) : PollStep → PollDesk
  | .placePacket envelope => { desk with gate := (desk.gate.placePacket envelope).2 }
  | .place envelope => { desk with gate := (desk.gate.place envelope).2 }
  | .worldReady => { desk with gate := desk.gate.worldReady.2 }
  | .poll =>
    let (frame, poller, gate) := desk.poller.poll desk.gate
    ⟨gate, poller, desk.frames ++ frame.toList⟩

def course (desk : PollDesk) (steps : List PollStep) : PollDesk := steps.foldl step desk

theorem course_snoc (desk : PollDesk) (steps : List PollStep) (last : PollStep) :
    desk.course (steps ++ [last]) = (desk.course steps).step last := by
  rw [course, List.foldl_append]
  rfl

end PollDesk
end ClusterLink
