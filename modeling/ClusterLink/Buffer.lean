import ClusterLink.Octets
/-!
A receive buffer: octets arrive in chunks at the back and leave from the front. Its meaning is the
one octet string `toOctets`. Chunks are joined only when something is taken, so that a long body
costs no more than its length.
-/
namespace ClusterLink

structure Buffer where
  front : Octets
  /-- The chunks behind `front`, newest first. -/
  back : List Octets
  size : Nat
  size_eq : size = (front ++ back.reverse.flatten).length

namespace Buffer

def ofOctets (s : Octets) : Buffer := ⟨s, [], s.length, by simp⟩

def empty : Buffer := ofOctets []

def toOctets (b : Buffer) : Octets :=
  match b.back with
  | [] => b.front
  | back => b.front ++ back.reverse.flatten

def append (b : Buffer) (chunk : Octets) : Buffer :=
  ⟨b.front, chunk :: b.back, b.size + chunk.length, by
    rw [b.size_eq]; simp [Nat.add_assoc]⟩

/-- The first `n` octets and the buffer behind them, if there are so many. -/
def take? (b : Buffer) (n : Nat) : Option (Octets × Buffer) :=
  if n ≤ b.size then
    (Octets.split? n b.toOctets).map fun (front, rest) =>
      (front, ⟨rest, [], rest.length, by simp⟩)
  else none

theorem toOctets_eq (b : Buffer) : b.toOctets = b.front ++ b.back.reverse.flatten := by
  unfold toOctets
  split <;> simp_all

@[simp] theorem toOctets_ofOctets (s : Octets) : (ofOctets s).toOctets = s := rfl

@[simp] theorem toOctets_empty : empty.toOctets = [] := rfl

@[simp] theorem length_toOctets (b : Buffer) : b.toOctets.length = b.size := by
  rw [toOctets_eq, b.size_eq]

@[simp] theorem toOctets_append (b : Buffer) (chunk : Octets) :
    (b.append chunk).toOctets = b.toOctets ++ chunk := by
  simp [toOctets_eq, append]

theorem size_ofOctets (s : Octets) : (ofOctets s).size = s.length := rfl

/-- Taking from the buffer is taking from its octets. -/
theorem take?_eq (b : Buffer) (n : Nat) :
    b.take? n = (Octets.split? n b.toOctets).map fun (front, rest) => (front, ofOctets rest) := by
  unfold take?
  split
  · rfl
  · rename_i h
    have : Octets.split? n b.toOctets = none := by
      simp only [Octets.split?, List.length_take, length_toOctets]
      rw [if_neg]
      omega
    simp [this]

theorem take?_eq_some {b rest : Buffer} {n : Nat} {front : Octets}
    (h : b.take? n = some (front, rest)) :
    b.toOctets = front ++ rest.toOctets ∧ front.length = n ∧ b.size = n + rest.size := by
  rw [take?_eq] at h
  obtain ⟨⟨first, second⟩, hs, heq⟩ := Option.map_eq_some_iff.1 h
  simp only [Prod.mk.injEq] at heq
  obtain ⟨rfl, rfl⟩ := heq
  obtain ⟨hb, hn⟩ := Octets.split?_eq_some hs
  have hsize := congrArg List.length hb
  simp only [length_toOctets, List.length_append] at hsize
  exact ⟨hb, hn, by simp only [size_ofOctets]; omega⟩

end Buffer
end ClusterLink
