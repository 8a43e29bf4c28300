import ClusterLink.Buffer
import ClusterLink.CodecError
/-!
Frames on the stream: a body behind a header of four magic octets and the size of the body, most
significant octet first. A splitter takes the bodies out of what has arrived. An accepted header
leaves the buffer at once; a refused one stays, so that it is refused again.
-/
namespace ClusterLink
namespace Frame

def magic : Octets := [0x53, 0x4F, 0x55, 0x52]

def headerSize : Nat := 8

def header (size : Nat) : Octets := magic ++ Octets.ofNatBE 4 size

/-- The frame around a body, unless the body is too large. -/
def write (body : Octets) : Except CodecError Octets :=
  let size := body.length
  if maxBodySize < size then .error (.messageTooLarge size) else .ok (header size ++ body)

/-- The size of the body behind a header. -/
def bodySize (header : Octets) : Except CodecError Nat :=
  if header.take 4 ≠ magic then .error .invalidMagic
  else
    let size := Octets.toNatBE (header.drop 4)
    if maxBodySize < size then .error (.messageTooLarge size) else .ok size

end Frame

structure Splitter where
  /-- The size of the body whose header has been taken. -/
  awaited : Option Nat
  buffer : Buffer

namespace Splitter

def new : Splitter := ⟨none, .empty⟩

def push (s : Splitter) (chunk : Octets) : Splitter := { s with buffer := s.buffer.append chunk }

def takeBody (size : Nat) (buffer : Buffer) : Option Octets × Splitter :=
  match buffer.take? size with
  | none => (none, ⟨some size, buffer⟩)
  | some (body, rest) => (some body, ⟨none, rest⟩)

/-- The next body, if it is complete. -/
def next (s : Splitter) : Except CodecError (Option Octets) × Splitter :=
  match s.awaited with
  | some size => let (body, s) := takeBody size s.buffer; (.ok body, s)
  | none =>
    match s.buffer.take? Frame.headerSize with
    | none => (.ok none, s)
    | some (header, rest) =>
      match Frame.bodySize header with
      | .error e => (.error e, s)
      | .ok size => let (body, s) := takeBody size rest; (.ok body, s)

/-- What bounds the number of bodies still to come out of the buffer. -/
def weight (s : Splitter) : Nat := s.buffer.size + if s.awaited.isSome then 1 else 0

theorem push_weight (s : Splitter) (chunk : Octets) :
    (s.push chunk).weight = s.weight + chunk.length :=
  Nat.add_right_comm _ _ _

theorem takeBody_weight {size : Nat} {buffer : Buffer} {body : Octets} {s : Splitter}
    (h : takeBody size buffer = (some body, s)) : s.weight ≤ buffer.size := by
  unfold takeBody at h
  split at h
  · simp at h
  · rename_i hb
    simp only [Prod.mk.injEq, Option.some.injEq] at h
    obtain ⟨rfl, rfl⟩ := h
    have := (Buffer.take?_eq_some hb).2.2
    simp [weight]
    omega

theorem next_weight {s t : Splitter} {body : Octets} (h : s.next = (.ok (some body), t)) :
    t.weight < s.weight := by
  unfold next at h
  split at h
  · rename_i size hs
    simp only [Prod.mk.injEq, Except.ok.injEq] at h
    have := takeBody_weight (Prod.ext h.1 h.2)
    simp [weight, hs] at *
    omega
  · rename_i hs
    split at h
    · simp at h
    · rename_i hb
      split at h
      · simp at h
      · simp only [Prod.mk.injEq, Except.ok.injEq] at h
        have := takeBody_weight (Prod.ext h.1 h.2)
        have := (Buffer.take?_eq_some hb).2.2
        simp [weight, hs, Frame.headerSize] at *
        omega

theorem takeBody_weight_le (size : Nat) (buffer : Buffer) :
    (takeBody size buffer).2.weight ≤ buffer.size + 1 := by
  cases h : takeBody size buffer with
  | mk body s =>
    cases body with
    | some body => exact Nat.le_succ_of_le (takeBody_weight h)
    | none =>
      unfold takeBody at h
      split at h
      · cases h
        simp [weight]
      · cases h

theorem next_weight_le (s : Splitter) : s.next.2.weight ≤ s.weight := by
  unfold next
  split
  case h_1 size hs =>
    have := takeBody_weight_le size s.buffer
    simpa [weight, hs] using this
  case h_2 hs =>
    split
    · exact Nat.le_refl _
    case h_2 header rest hheader =>
      split
      · exact Nat.le_refl _
      case h_2 size hsize =>
        have hbody := takeBody_weight_le size rest
        have hbuffer := (Buffer.take?_eq_some hheader).2.2
        simp only [weight, hs, Frame.headerSize] at *
        omega

structure Drained where
  bodies : List Octets
  error : Option CodecError
  splitter : Splitter

/-- Takes bodies until none is complete or a header is refused. -/
def drain (s : Splitter) : Drained :=
  match h : s.next with
  | (.ok (some body), t) =>
    have := next_weight h
    let rest := drain t
    { rest with bodies := body :: rest.bodies }
  | (.ok none, t) => ⟨[], none, t⟩
  | (.error e, t) => ⟨[], some e, t⟩
termination_by s.weight

end Splitter
end ClusterLink
