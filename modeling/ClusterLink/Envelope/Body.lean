import ClusterLink.Cbor.Reader
import ClusterLink.Cbor.Writer
import ClusterLink.CodecError
/-!
The body of an envelope: one map from short text tags to values. Reading takes the first value of
a tag, takes the first integer under `Op` for the operation, and ignores every other entry and
whatever follows the map.
-/
namespace ClusterLink

open Cbor (Item)

/-- The entries of a map that is read for an operation. -/
structure Fields where
  operation : Operation
  entries : List (Item × Item)

namespace Fields

/-- The first value under a tag. -/
def get? (fields : Fields) (tag : String) : Option Item :=
  fields.entries.findSome? fun (key, value) => if key = .text tag then some value else none

def get (fields : Fields) (tag : String) : Except Malformed Item :=
  match fields.get? tag with
  | some value => .ok value
  | none => .error (.missingTag fields.operation tag)

def wrong {α : Type} (fields : Fields) (tag : String) (required : Requirement) :
    Except Malformed α :=
  .error (.wrongTag fields.operation tag required)

def text (fields : Fields) (tag : String) : Except Malformed String := do
  match ← fields.get tag with
  | .text value => .ok value
  | _ => fields.wrong tag .text

def bool (fields : Fields) (tag : String) : Except Malformed Bool := do
  match ← fields.get tag with
  | .bool value => .ok value
  | _ => fields.wrong tag .bool

def bytes (fields : Fields) (tag : String) : Except Malformed Octets := do
  match ← fields.get tag with
  | .bytes value => .ok value
  | _ => fields.wrong tag .bytes

/-- A number below `bound`. -/
def number (fields : Fields) (tag : String) (bound : Nat) : Except Malformed Nat := do
  match ← fields.get tag with
  | .unsigned n => if n.toNat < bound then .ok n.toNat else fields.wrong tag .inRange
  | .negative _ => fields.wrong tag .inRange
  | _ => fields.wrong tag .integer

def word (fields : Fields) (tag : String) : Except Malformed UInt16 := do
  let n ← fields.number tag UInt16.size
  .ok (UInt16.ofNat n)

def commandId (fields : Fields) : Except Malformed UInt16 := do
  let id ← fields.word "Id"
  if id.toNat < commandIdSpace then .ok id else .error (.commandId id.toNat)

/-- An item of the server list under a tag. Its information is cut to the stated length. -/
def server (fields : Fields) (tag : String) : Item → Except Malformed ServerEntry
  | .map entries => do
    let entry : Fields := ⟨fields.operation, entries⟩
    let info ← entry.bytes "Info"
    let length ← entry.number "Length" UInt64.size
    if info.length < length then .error (.entryLength length info.length)
    else do
      let host ← entry.text "Host"
      let port ← entry.word "Port"
      .ok ⟨host, port, info.take length⟩
  | _ => fields.wrong tag .arrayOfMaps

/-- The server list under a tag, empty when it is absent or null. -/
def servers (fields : Fields) (tag : String) : Except Malformed (List ServerEntry) :=
  match fields.get? tag with
  | none => .ok []
  | some .null => .ok []
  | some (.array items) => items.mapM (fields.server tag)
  | some _ => fields.wrong tag .array

/-- Every entry under a text tag other than the operation's. -/
def rest (fields : Fields) : List (String × Item) :=
  fields.entries.filterMap fun
    | (.text tag, value) => if tag = "Op" then none else some (tag, value)
    | _ => none

def envelope (fields : Fields) : Except Malformed Envelope :=
  match fields.operation with
  | .info => do
    let cluster ← fields.servers "Cluster"
    let master ← fields.servers "Master"
    .ok (.info cluster master)
  | .serverConnected => do
    let server ← fields.text "Server"
    let internal ← fields.bool "Internal"
    let owned ← fields.bool "Owned"
    .ok (.serverConnected server internal owned)
  | .serverDisconnected => do
    let reason ← fields.word "Reason"
    let message := match fields.get? "Message" with
      | some (.text message) => some message
      | _ => none
    .ok (.serverDisconnected reason message)
  | .serverResponse => do
    let id ← fields.commandId
    let payload ← fields.text "Response"
    let success ← fields.bool "Success"
    .ok (.serverResponse id payload success)
  | .connect => do
    let target ← fields.text "Target"
    .ok (.connect target)
  | .disconnect => .ok .disconnect
  | .command => do
    let id ← fields.commandId
    let text ← fields.text "Command"
    .ok (.command text id)
  | .packet => do
    let data ← fields.bytes "Data"
    let length ← fields.number "Length" UInt32.size
    if data.length < length then .error (.packetLength length data.length)
    else do
      let channel ← fields.word "Channel"
      .ok (.packet channel data (UInt32.ofNat length))
  | .chat => do
    let message ← fields.text "Message"
    .ok (.chat message)
  | .auth kind => .ok (.auth kind fields.rest)

end Fields

namespace Envelope

/-- The operation code: the first integer under `Op`. -/
def operationCode? (entries : List (Item × Item)) : Option Int :=
  entries.findSome? fun (key, value) => if key = .text "Op" then value.int? else none

def ofItem : Item → Except Malformed Envelope
  | .map entries => do
    match operationCode? entries with
    | none => .error .missingOperation
    | some code =>
      match Operation.ofCode? code with
      | none => .error (.unknownOperation code)
      | some operation => Fields.envelope ⟨operation, entries⟩
  | _ => .error .notMap

/-- Reads an envelope from the front of a body. -/
def decode (body : Octets) : Except CodecError Envelope :=
  match Item.read? body with
  | none => .error (.malformed .invalidCbor)
  | some (item, _) => (ofItem item).mapError .malformed

def serverItem (entry : ServerEntry) : Item :=
  .map [(.text "Host", .text entry.host), (.text "Port", .unsigned entry.port.toUInt64),
    (.text "Info", .bytes entry.info),
    (.text "Length", .unsigned (UInt64.ofNat entry.info.length))]

/-- The tags of an envelope behind its operation. Those of a packet hold only the octets that it
means. -/
def tags : Envelope → List (String × Item)
  | .info cluster master =>
    [("Cluster", .array (cluster.map serverItem)), ("Master", .array (master.map serverItem))]
  | .connect target => [("Target", .text target)]
  | .disconnect => []
  | .serverConnected server internal owned =>
    [("Server", .text server), ("Internal", .bool internal), ("Owned", .bool owned)]
  | .serverDisconnected reason message =>
    ("Reason", .unsigned reason.toUInt64) :: (message.map fun m => ("Message", .text m)).toList
  | .serverResponse id payload success =>
    [("Id", .unsigned id.toUInt64), ("Response", .text payload), ("Success", .bool success)]
  | .command text id => [("Command", .text text), ("Id", .unsigned id.toUInt64)]
  | .packet channel data length =>
    [("Channel", .unsigned channel.toUInt64), ("Data", .bytes (data.take length.toNat)),
      ("Length", .unsigned length.toUInt64)]
  | .chat message => [("Message", .text message)]
  | .auth _ fields => fields

def toItem (envelope : Envelope) : Item :=
  .map ((.text "Op", .unsigned (UInt64.ofNat envelope.operation.code)) ::
    envelope.tags.map fun (tag, value) => (.text tag, value))

/-- The body of an envelope. A packet whose length exceeds its data has none. -/
def encode (envelope : Envelope) : Except CodecError Octets :=
  match envelope with
  | .packet _ data length =>
    if data.length < length.toNat then .error (.unencodable length.toNat data.length)
    else .ok envelope.toItem.write
  | _ => .ok envelope.toItem.write

end Envelope
end ClusterLink
