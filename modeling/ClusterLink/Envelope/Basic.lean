import ClusterLink.Cbor.Item
/-!
Envelopes: every message exchanged with the cluster. The operation of an envelope is fixed by its
form and has a code on the wire. A packet means only the first `length` octets of its data, and
its kind is read from the front of those.
-/
namespace ClusterLink

/-- How a sign-in goes: a code from the identity provider and its two answers. -/
inductive AuthKind where
  | discordCode
  | succeeded
  | failed
  deriving DecidableEq, Repr

inductive Operation where
  | info
  | serverConnected
  | serverDisconnected
  | serverResponse
  | connect
  | disconnect
  | command
  | packet
  | auth (kind : AuthKind)
  | chat
  deriving DecidableEq, Repr

namespace Operation

def code : Operation → Nat
  | .info => 0
  | .serverConnected => 1
  | .serverDisconnected => 2
  | .serverResponse => 3
  | .connect => 4
  | .disconnect => 5
  | .command => 6
  | .packet => 7
  | .auth .discordCode => 8
  | .auth .succeeded => 9
  | .auth .failed => 10
  | .chat => 11

def ofCode? (code : Int) : Option Operation :=
  match code with
  | 0 => some .info
  | 1 => some .serverConnected
  | 2 => some .serverDisconnected
  | 3 => some .serverResponse
  | 4 => some .connect
  | 5 => some .disconnect
  | 6 => some .command
  | 7 => some .packet
  | 8 => some (.auth .discordCode)
  | 9 => some (.auth .succeeded)
  | 10 => some (.auth .failed)
  | 11 => some .chat
  | _ => none

def isAuth : Operation → Bool
  | .auth _ => true
  | _ => false

def name : Operation → String
  | .info => "Info"
  | .serverConnected => "ServerConnected"
  | .serverDisconnected => "ServerDisconnected"
  | .serverResponse => "ServerResponse"
  | .connect => "Connect"
  | .disconnect => "Disconnect"
  | .command => "Command"
  | .packet => "Packet"
  | .auth .discordCode => "DiscordCode"
  | .auth .succeeded => "AuthSucceeded"
  | .auth .failed => "AuthFailed"
  | .chat => "Chat"

@[simp] theorem ofCode?_code (op : Operation) : ofCode? op.code = some op := by
  rcases op with _ | _ | _ | _ | _ | _ | _ | _ | (_ | _ | _) | _ <;> rfl

end Operation

/-- The kind of a game message. -/
structure PacketKind where
  code : Int32
  deriving DecidableEq, Repr

namespace PacketKind

def spawn : PacketKind := ⟨18⟩
def mapChange : PacketKind := ⟨22⟩
def itemList : PacketKind := ⟨36⟩

def ofInt (n : Int) : PacketKind := ⟨Int32.ofInt n⟩
def toInt (kind : PacketKind) : Int := kind.code.toInt

theorem toInt_inj {a b : PacketKind} : a.toInt = b.toInt ↔ a = b := by
  obtain ⟨a⟩ := a
  obtain ⟨b⟩ := b
  rw [toInt, toInt, Int32.toInt_inj, mk.injEq]

def name (kind : PacketKind) : String :=
  if kind = spawn then "N_SPAWN"
  else if kind = mapChange then "N_MAPCHANGE"
  else if kind = itemList then "N_ITEMLIST"
  else s!"kind {kind.toInt}"

/-- The compact integer at the front of a game message: one signed octet, of which `-128` announces
two octets and `-127` four, least significant first. -/
def read? : Octets → Option PacketKind
  | [] => none
  | first :: rest =>
    let signed (width : Nat) (s : Octets) : PacketKind :=
      ofInt (Int.bmod (Octets.toNatLE s) (Octets.capacity width))
    if first = 128 then (Octets.split? 2 rest).map fun (front, _) => signed 2 front
    else if first = 129 then (Octets.split? 4 rest).map fun (front, _) => signed 4 front
    else some (signed 1 [first])

end PacketKind

/-- A game server that the cluster or the master server advertises. -/
structure ServerEntry where
  host : String
  port : UInt16
  info : Octets
  deriving DecidableEq, Repr

/-- How many command ids there are. -/
def commandIdSpace : Nat := 2048

inductive Envelope where
  | info (cluster master : List ServerEntry)
  /-- Asks the cluster to join a server. -/
  | connect (target : String)
  | disconnect
  | serverConnected (server : String) (internal owned : Bool)
  | serverDisconnected (reason : UInt16) (message : Option String)
  | serverResponse (id : UInt16) (payload : String) (success : Bool)
  | command (text : String) (id : UInt16)
  | packet (channel : UInt16) (data : Octets) (length : UInt32)
  | chat (message : String)
  /-- Sign-in traffic: every tag but the operation, in order. -/
  | auth (kind : AuthKind) (fields : List (String × Cbor.Item))
  deriving DecidableEq, Repr

namespace Envelope

/-- A packet that means all of its data. -/
def wholePacket (channel : UInt16) (data : Octets) : Envelope :=
  .packet channel data (UInt32.ofNat data.length)

def operation : Envelope → Operation
  | .info .. => .info
  | .connect .. => .connect
  | .disconnect => .disconnect
  | .serverConnected .. => .serverConnected
  | .serverDisconnected .. => .serverDisconnected
  | .serverResponse .. => .serverResponse
  | .command .. => .command
  | .packet .. => .packet
  | .chat .. => .chat
  | .auth kind _ => .auth kind

/-- The octets that a packet means, if its length is within its data. -/
def payload? : Envelope → Option Octets
  | .packet _ data length => (Octets.split? length.toNat data).map (·.1)
  | _ => none

def kind? (envelope : Envelope) : Option PacketKind := envelope.payload?.bind PacketKind.read?

/-- The envelope without the octets behind a packet's length. -/
def trimmed : Envelope → Envelope
  | .packet channel data length => .packet channel (data.take length.toNat) length
  | envelope => envelope

/-- Equality up to a relation on float bits. -/
def alike (floats : UInt64 → UInt64 → Bool) : Envelope → Envelope → Bool
  | .auth kind fields, .auth kind' fields' =>
    kind == kind' && fields.map (·.1) == fields'.map (·.1) &&
      Cbor.Item.alikeAll floats (fields.map (·.2)) (fields'.map (·.2))
  | a, b => a == b

end Envelope
end ClusterLink
