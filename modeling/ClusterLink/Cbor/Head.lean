import ClusterLink.Octets
/-!
The head of an item: a major type from 0 to 7 and an argument, in the initial octet and up to
eight more. Heads are written in the shortest form and read in any.
-/
namespace ClusterLink.Cbor

inductive Argument where
  /-- A number, and how many octets after the initial one hold it. -/
  | sized (width value : Nat)
  /-- No length is known: items follow up to a break. -/
  | streamed
  deriving DecidableEq, Repr

structure Head where
  major : Nat
  argument : Argument
  deriving DecidableEq, Repr

namespace Head

/-- The octet that ends a streamed item. -/
def breakOctet : UInt8 := 255

def write (major n : Nat) : Octets :=
  if n < 24 then [UInt8.ofNat (32 * major + n)]
  else if n < UInt8.size then UInt8.ofNat (32 * major + 24) :: Octets.ofNatBE 1 n
  else if n < UInt16.size then UInt8.ofNat (32 * major + 25) :: Octets.ofNatBE 2 n
  else if n < UInt32.size then UInt8.ofNat (32 * major + 26) :: Octets.ofNatBE 4 n
  else UInt8.ofNat (32 * major + 27) :: Octets.ofNatBE 8 n

def read? : Octets → Option (Head × Octets)
  | [] => none
  | initial :: rest =>
    let major := initial.toNat / 32
    let low := initial.toNat % 32
    if low < 24 then some (⟨major, .sized 0 low⟩, rest)
    else if low < 28 then
      (Octets.split? (1 <<< (low - 24)) rest).map fun (front, rest) =>
        (⟨major, .sized front.length (Octets.toNatBE front)⟩, rest)
    else if low = 31 then some (⟨major, .streamed⟩, rest)
    else none

end Head
end ClusterLink.Cbor
