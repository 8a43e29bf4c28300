/-!
Octet strings and the fixed-width integers written in them. Reading inverts writing for every
number that fits the width, in either byte order.
-/
namespace ClusterLink

abbrev Octets := List UInt8

namespace Octets

/-- The low `width` octets of `n`, least significant first. -/
def ofNatLE : Nat → Nat → Octets
  | 0, _ => []
  | width + 1, n => UInt8.ofNat n :: ofNatLE width (n / 256)

def ofNatBE (width n : Nat) : Octets := (ofNatLE width n).reverse

/-- How many numbers `width` octets can hold. -/
def capacity : Nat → Nat
  | 0 => 1
  | width + 1 => 256 * capacity width

def toNatLE : Octets → Nat
  | [] => 0
  | b :: rest => b.toNat + 256 * toNatLE rest

def toNatBE (s : Octets) : Nat := s.foldl (fun n b => 256 * n + b.toNat) 0

/-- The first `n` octets and what follows them, if there are so many. -/
def split? (n : Nat) (s : Octets) : Option (Octets × Octets) :=
  let front := s.take n
  if front.length = n then some (front, s.drop n) else none

def ofText (text : String) : Octets := text.toByteArray.data.toList

/-- The text that `s` encodes in UTF-8, if it does. -/
def text? (s : Octets) : Option String := String.fromUTF8? ⟨s.toArray⟩

@[simp] theorem length_ofNatLE (width n : Nat) : (ofNatLE width n).length = width := by
  induction width generalizing n with
  | zero => rfl
  | succ width ih => simp [ofNatLE, ih]

@[simp] theorem length_ofNatBE (width n : Nat) : (ofNatBE width n).length = width := by
  simp [ofNatBE]

theorem toNatLE_ofNatLE (width n : Nat) (h : n < capacity width) :
    toNatLE (ofNatLE width n) = n := by
  induction width generalizing n with
  | zero => simp [ofNatLE, toNatLE, capacity] at *; omega
  | succ width ih =>
    have hn : n / 256 < capacity width := Nat.div_lt_of_lt_mul h
    simp only [ofNatLE, toNatLE, ih _ hn, UInt8.toNat_ofNat']
    omega

theorem toNatBE_reverse (s : Octets) : toNatBE s.reverse = toNatLE s := by
  induction s with
  | nil => rfl
  | cons b rest ih =>
    simp only [toNatBE, List.reverse_cons, List.foldl_append, List.foldl_cons, List.foldl_nil] at *
    rw [ih, toNatLE]
    omega

theorem toNatBE_ofNatBE (width n : Nat) (h : n < capacity width) :
    toNatBE (ofNatBE width n) = n := by
  rw [ofNatBE, toNatBE_reverse, toNatLE_ofNatLE width n h]

@[simp] theorem split?_append (s rest : Octets) : split? s.length (s ++ rest) = some (s, rest) := by
  simp [split?]

theorem split?_eq_some {n : Nat} {s front rest : Octets} (h : split? n s = some (front, rest)) :
    s = front ++ rest ∧ front.length = n := by
  simp only [split?] at h
  split at h
  · rename_i hn
    simp only [Option.some.injEq, Prod.mk.injEq] at h
    obtain ⟨rfl, rfl⟩ := h
    exact ⟨(List.take_append_drop n s).symm, hn⟩
  · contradiction

@[simp] theorem text?_ofText (text : String) : text? (ofText text) = some text := by
  have h : (⟨(ofText text).toArray⟩ : ByteArray) = text.toByteArray := by simp [ofText]
  rw [text?, h, String.fromUTF8?]
  simp [text.isValidUTF8]
  rfl

end Octets
end ClusterLink
