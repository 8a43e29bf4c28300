import ClusterLink.Octets
/-!
The data model of CBOR: an item is a number, a text, an octet string, a list, a list of entries
or a tagged item. Entries keep their order and repeats. Integers are the two halves of the range
from `-2 ^ 64` to `2 ^ 64 - 1`, and floats are the bits of a binary64.
-/
namespace ClusterLink.Cbor

inductive Item where
  | null
  | bool (value : Bool)
  | unsigned (value : UInt64)
  /-- The integer `-1 - value`. -/
  | negative (value : UInt64)
  | float (bits : UInt64)
  | text (value : String)
  | bytes (value : Octets)
  | array (items : List Item)
  | map (entries : List (Item × Item))
  | tag (number : UInt64) (content : Item)
  deriving Inhabited, Repr

namespace Item

def int? : Item → Option Int
  | .unsigned n => some n.toNat
  | .negative n => some (-1 - n.toNat)
  | _ => none

def ofInt (n : Int) : Item :=
  match n with
  | .ofNat n => .unsigned (UInt64.ofNat n)
  | .negSucc n => .negative (UInt64.ofNat n)

theorem int?_ofInt {n : Int} (low : -UInt64.size ≤ n) (high : n < UInt64.size) :
    (ofInt n).int? = some n := by
  cases n with
  | ofNat n =>
    have h : n < UInt64.size := Int.ofNat_lt.1 high
    simp only [ofInt, int?, UInt64.toNat_ofNat', Nat.mod_eq_of_lt h]
    rfl
  | negSucc n =>
    have h : n < UInt64.size := by omega
    simp only [ofInt, int?, UInt64.toNat_ofNat', Option.some.injEq, Nat.mod_eq_of_lt h]
    omega

mutual

/-- Equality up to a relation on float bits. -/
def alike (floats : UInt64 → UInt64 → Bool) : Item → Item → Bool
  | .null, .null => true
  | .bool a, .bool b => a == b
  | .unsigned a, .unsigned b => a == b
  | .negative a, .negative b => a == b
  | .float a, .float b => floats a b
  | .text a, .text b => a == b
  | .bytes a, .bytes b => a == b
  | .array a, .array b => alikeAll floats a b
  | .map a, .map b => alikeEntries floats a b
  | .tag m a, .tag n b => m == n && alike floats a b
  | _, _ => false

def alikeAll (floats : UInt64 → UInt64 → Bool) : List Item → List Item → Bool
  | [], [] => true
  | a :: as, b :: bs => alike floats a b && alikeAll floats as bs
  | _, _ => false

def alikeEntries (floats : UInt64 → UInt64 → Bool) :
    List (Item × Item) → List (Item × Item) → Bool
  | [], [] => true
  | (k, a) :: as, (l, b) :: bs =>
    alike floats k l && (alike floats a b && alikeEntries floats as bs)
  | _, _ => false

end

mutual

theorem alike_beq_iff (a b : Item) : alike (· == ·) a b = true ↔ a = b := by
  cases a <;> cases b <;> simp [alike, alikeAll_beq_iff, alikeEntries_beq_iff, alike_beq_iff]

theorem alikeAll_beq_iff (a b : List Item) : alikeAll (· == ·) a b = true ↔ a = b := by
  cases a <;> cases b <;> simp [alikeAll, alike_beq_iff, alikeAll_beq_iff]

theorem alikeEntries_beq_iff (a b : List (Item × Item)) :
    alikeEntries (· == ·) a b = true ↔ a = b := by
  match a, b with
  | [], [] => simp [alikeEntries]
  | [], _ :: _ => simp [alikeEntries]
  | _ :: _, [] => simp [alikeEntries]
  | (k, a) :: as, (l, b) :: bs =>
    simp [alikeEntries, alike_beq_iff, alikeEntries_beq_iff, and_assoc]

end

instance : DecidableEq Item := fun a b => decidable_of_iff _ (alike_beq_iff a b)

end Item
end ClusterLink.Cbor
