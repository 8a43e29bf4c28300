/-!
A channel between two owners. What is sent is received in order, for as long as the receiving end
is held.
-/
namespace ClusterLink

structure Channel (α : Type) where
  queue : List α
  /-- Whether the sending end is still held. -/
  sending : Bool
  /-- Whether the receiving end is still held. -/
  receiving : Bool
  deriving DecidableEq, Repr

namespace Channel

variable {α : Type}

def new : Channel α := ⟨[], true, true⟩

def send? (channel : Channel α) (a : α) : Option (Channel α) :=
  if channel.receiving then some { channel with queue := channel.queue ++ [a] } else none

def dropSender (channel : Channel α) : Channel α := { channel with sending := false }

def dropReceiver (channel : Channel α) : Channel α :=
  { channel with queue := [], receiving := false }

/-- Everything sent and not yet received. -/
def takeAll (channel : Channel α) : List α × Channel α :=
  (channel.queue, { channel with queue := [] })

end Channel
end ClusterLink
