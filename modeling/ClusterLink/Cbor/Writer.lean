import ClusterLink.Cbor.FloatWidth
import ClusterLink.Cbor.Head
import ClusterLink.Cbor.Item
/-!
The written form of an item: every length is stated, every head and every float is as short as
its value allows.
-/
namespace ClusterLink.Cbor

/-- A float in the narrowest width that widens back to its bits. -/
def writeFloat (bits : UInt64) : Octets :=
  match FloatWidth.half.narrow? bits.toNat with
  | some narrow => UInt8.ofNat 0xF9 :: Octets.ofNatBE 2 narrow
  | none =>
    match FloatWidth.single.narrow? bits.toNat with
    | some narrow => UInt8.ofNat 0xFA :: Octets.ofNatBE 4 narrow
    | none => UInt8.ofNat 0xFB :: Octets.ofNatBE 8 bits.toNat

namespace Item

mutual

def write : Item → Octets
  | .null => Head.write 7 22
  | .bool false => Head.write 7 20
  | .bool true => Head.write 7 21
  | .unsigned n => Head.write 0 n.toNat
  | .negative n => Head.write 1 n.toNat
  | .float bits => writeFloat bits
  | .text value => Head.write 3 (Octets.ofText value).length ++ Octets.ofText value
  | .bytes value => Head.write 2 value.length ++ value
  | .array items => Head.write 4 items.length ++ writeAll items
  | .map entries => Head.write 5 entries.length ++ writeEntries entries
  | .tag number content => Head.write 6 number.toNat ++ content.write

def writeAll : List Item → Octets
  | [] => []
  | item :: rest => item.write ++ writeAll rest

def writeEntries : List (Item × Item) → Octets
  | [] => []
  | (key, value) :: rest => key.write ++ (value.write ++ writeEntries rest)

end

end Item
end ClusterLink.Cbor
