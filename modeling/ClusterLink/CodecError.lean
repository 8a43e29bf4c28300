import ClusterLink.Envelope.Basic
/-!
Why a body or a frame is refused, with the wording of each cause. Only a bad frame costs the
stream: a bad body costs no more than itself.
-/
namespace ClusterLink

/-- The largest body that a frame may hold. -/
def maxBodySize : Nat := 10 * 1024 * 1024

/-- What the value of a tag is required to be. -/
inductive Requirement where
  | text
  | bool
  | integer
  | inRange
  | bytes
  | array
  | arrayOfMaps
  deriving DecidableEq, Repr

def Requirement.phrase : Requirement → String
  | .text => "text"
  | .bool => "a bool"
  | .integer => "an integer"
  | .inRange => "in range"
  | .bytes => "bytes"
  | .array => "an array"
  | .arrayOfMaps => "an array of maps"

inductive Malformed where
  /-- No item can be read at the front. What the reader says about it is left out. -/
  | invalidCbor
  | notMap
  | missingOperation
  | unknownOperation (code : Int)
  | missingTag (op : Operation) (tag : String)
  | wrongTag (op : Operation) (tag : String) (required : Requirement)
  | commandId (id : Nat)
  | entryLength (length available : Nat)
  | packetLength (length available : Nat)
  deriving DecidableEq, Repr

def Malformed.message : Malformed → String
  | .invalidCbor => "invalid CBOR"
  | .notMap => "body is not a map"
  | .missingOperation => "missing integer Op tag"
  | .unknownOperation code => s!"unknown Op {code}"
  | .missingTag op tag => s!"{op.name} is missing required tag {tag}"
  | .wrongTag op tag required => s!"{op.name} tag {tag} is not {required.phrase}"
  | .commandId id => s!"command id {id} out of range"
  | .entryLength length available => s!"server entry length {length} exceeds {available} info bytes"
  | .packetLength length available => s!"packet length {length} exceeds {available} data bytes"

inductive CodecError where
  | invalidMagic
  | messageTooLarge (size : Nat)
  | malformed (cause : Malformed)
  /-- A packet's length exceeds its data. -/
  | unencodable (length available : Nat)
  deriving DecidableEq, Repr

namespace CodecError

def message : CodecError → String
  | .invalidMagic => "Invalid magic bytes"
  | .messageTooLarge size => s!"Message too large: {size} bytes (max: {maxBodySize})"
  | .malformed cause => s!"Malformed envelope: {cause.message}"
  | .unencodable length available =>
    s!"Encoding failed: packet length {length} exceeds {available} data bytes"

/-- Whether the stream can no longer be trusted. -/
def fatal : CodecError → Bool
  | .invalidMagic => true
  | .messageTooLarge _ => true
  | .malformed _ => false
  | .unencodable _ _ => false

end CodecError
end ClusterLink
