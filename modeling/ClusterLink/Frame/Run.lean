import ClusterLink.Envelope.Body
import ClusterLink.Frame
import ClusterLink.Steps
/-!
Both ends of a stream of frames: items are framed in turn onto one buffer, and what arrives in
chunks is fed to a splitter.
-/
namespace ClusterLink

/-- What is framed: an envelope, or a body that is encoded already. -/
inductive FrameItem where
  | message (envelope : Envelope)
  | raw (body : Octets)
  deriving DecidableEq, Repr

namespace FrameItem

def encode : FrameItem → Except CodecError Octets
  | .message envelope => envelope.encode
  | .raw body => .ok body

/-- Appends the frame of an item to a buffer. An item without a frame appends nothing. -/
def frameOnto (item : FrameItem) (buffer : Octets) : Except CodecError Unit × Octets :=
  match item.encode with
  | .error e => (.error e, buffer)
  | .ok body =>
    match Frame.write body with
    | .error e => (.error e, buffer)
    | .ok frame => (.ok (), buffer ++ frame)

end FrameItem

namespace Frame

/-- Frames one item more. The answer is the size of the buffer behind it. -/
def frameNext (buffer : Octets) (item : FrameItem) : Except CodecError Nat × Octets :=
  let (outcome, buffer) := item.frameOnto buffer
  (outcome.map fun _ => buffer.length, buffer)

/-- Frames items in turn. -/
def frameAll (buffer : Octets) (items : List FrameItem) :
    List (Except CodecError Nat) × Octets :=
  runSteps frameNext buffer items

end Frame

namespace Splitter

/-- Lets a chunk arrive and takes every body that is then complete. -/
def feed (s : Splitter) (chunk : Octets) : Drained := (s.push chunk).drain

def feedAll (s : Splitter) : List Octets → List Drained
  | [] => []
  | chunk :: rest =>
    let drained := s.feed chunk
    drained :: drained.splitter.feedAll rest

end Splitter
end ClusterLink
