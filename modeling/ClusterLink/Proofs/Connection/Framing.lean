import ClusterLink.Frame
/-!
A splitter takes whole frames off the front of the stream and keeps the rest: what it holds, the
header of an awaited body included, is always what has arrived behind the frames that it took.
-/
namespace ClusterLink

namespace Octets

theorem ofNatLE_toNatLE (s : Octets) : ofNatLE s.length (toNatLE s) = s := by
  induction s with
  | nil => rfl
  | cons b rest ih =>
    have hb : b.toNat < 256 := b.toNat_lt
    have hlow : UInt8.ofNat (b.toNat + 256 * toNatLE rest) = b := by
      apply UInt8.toNat_inj.1
      rw [UInt8.toNat_ofNat']
      omega
    have hhigh : (b.toNat + 256 * toNatLE rest) / 256 = toNatLE rest := by omega
    rw [toNatLE, List.length_cons, ofNatLE, hlow, hhigh, ih]

theorem ofNatBE_toNatBE (s : Octets) : ofNatBE s.length (toNatBE s) = s := by
  have h := ofNatLE_toNatLE s.reverse
  rw [← toNatBE_reverse, List.reverse_reverse, List.length_reverse] at h
  rw [ofNatBE, h, List.reverse_reverse]

end Octets

namespace Frame

/-- The frame around a body, whatever its size. -/
def around (body : Octets) : Octets := header body.length ++ body

/-- Bodies framed one after another. -/
def frames (bodies : List Octets) : Octets := bodies.flatMap around

/-- No whole frame stands at the front. -/
def IsPartial (rest : Octets) : Prop :=
  ∀ body tail, body.length ≤ maxBodySize → rest ≠ around body ++ tail

/-- The header at the front is refused. -/
def Refuses (rest : Octets) (e : CodecError) : Prop :=
  headerSize ≤ rest.length ∧ bodySize (rest.take headerSize) = .error e

/-- A stream of whole frames. -/
def IsFrames (stream : Octets) : Prop :=
  ∃ bodies, (∀ body ∈ bodies, body.length ≤ maxBodySize) ∧ stream = frames bodies

/-- A stream that ends right behind the header of a body that is not empty. -/
def EndsBehindHeader (stream : Octets) : Prop :=
  ∃ bodies size, (∀ body ∈ bodies, body.length ≤ maxBodySize) ∧ 0 < size ∧ size ≤ maxBodySize ∧
    stream = frames bodies ++ header size

/-- No header behind whole frames is refused. -/
def IsLawful (stream : Octets) : Prop :=
  ∀ bodies rest e, (∀ body ∈ bodies, body.length ≤ maxBodySize) →
    stream = frames bodies ++ rest → ¬ Refuses rest e

theorem write_eq {body : Octets} (h : body.length ≤ maxBodySize) :
    write body = .ok (around body) := by
  rw [write, if_neg (Nat.not_lt.2 h), around]

@[simp] theorem length_header (size : Nat) : (header size).length = headerSize := by
  simp [header, magic, headerSize]

theorem bodySize_header {size : Nat} (h : size ≤ maxBodySize) :
    bodySize (header size) = .ok size := by
  have htake : (header size).take 4 = magic := rfl
  have hdrop : (header size).drop 4 = Octets.ofNatBE 4 size := rfl
  have hsize : Octets.toNatBE (Octets.ofNatBE 4 size) = size := by
    apply Octets.toNatBE_ofNatBE
    simp only [Octets.capacity, maxBodySize] at h ⊢
    omega
  rw [bodySize, htake, hdrop, hsize]
  simp [Nat.not_lt.2 h]

theorem bodySize_eq_ok {octets : Octets} {size : Nat} (hlength : octets.length = headerSize)
    (h : bodySize octets = .ok size) : octets = header size ∧ size ≤ maxBodySize := by
  unfold bodySize at h
  split at h
  · cases h
  case isFalse hmagic =>
    rw [Decidable.not_not] at hmagic
    dsimp only at h
    split at h
    · cases h
    case isFalse hsize =>
      cases h
      have hfour : (octets.drop 4).length = 4 := by simp [hlength, headerSize]
      refine ⟨?_, by omega⟩
      have hback := Octets.ofNatBE_toNatBE (octets.drop 4)
      rw [hfour] at hback
      rw [header, hback, ← hmagic, List.take_append_drop]

theorem frames_cons (body : Octets) (bodies : List Octets) :
    frames (body :: bodies) = around body ++ frames bodies := List.flatMap_cons

theorem frames_append (first second : List Octets) :
    frames (first ++ second) = frames first ++ frames second := List.flatMap_append

theorem Refuses.append {rest : Octets} {e : CodecError} (h : Refuses rest e) (more : Octets) :
    Refuses (rest ++ more) e := by
  obtain ⟨hlength, hsize⟩ := h
  refine ⟨?_, ?_⟩
  · rw [List.length_append]
    omega
  · rw [List.take_append_of_le_length hlength, hsize]

/-- The header at the front of a stream tells the size of its first body. -/
theorem take_around_append (body tail : Octets) :
    (around body ++ tail).take headerSize = header body.length := by
  rw [around, List.append_assoc, ← length_header body.length, List.take_left]

theorem header_inj {size size' : Nat} (hsize : size ≤ maxBodySize) (hsize' : size' ≤ maxBodySize)
    (h : header size = header size') : size = size' := by
  have hread := bodySize_header hsize
  rw [h, bodySize_header hsize'] at hread
  exact (Except.ok.inj hread).symm

theorem around_append_inj {first second tail tail' : Octets}
    (hfirst : first.length ≤ maxBodySize) (hsecond : second.length ≤ maxBodySize)
    (h : around first ++ tail = around second ++ tail') : first = second ∧ tail = tail' := by
  have hheader : header first.length = header second.length := by
    rw [← take_around_append first tail, h, take_around_append]
  have hlength : first.length = second.length := header_inj hfirst hsecond hheader
  rw [around, around, hheader, List.append_assoc, List.append_assoc,
    List.append_cancel_left_eq] at h
  exact List.append_inj h hlength

/-- A stream falls into frames and a partial rest in one way only. -/
theorem frames_append_inj {first second : List Octets} {rest rest' : Octets}
    (hfirst : ∀ body ∈ first, body.length ≤ maxBodySize)
    (hsecond : ∀ body ∈ second, body.length ≤ maxBodySize)
    (hrest : IsPartial rest) (hrest' : IsPartial rest')
    (h : frames first ++ rest = frames second ++ rest') : first = second ∧ rest = rest' := by
  induction first generalizing second with
  | nil =>
    cases second with
    | nil => exact ⟨rfl, h⟩
    | cons body bodies =>
      rw [frames_cons, List.append_assoc] at h
      exact absurd h (hrest body _ (hsecond body List.mem_cons_self))
  | cons body bodies ih =>
    cases second with
    | nil =>
      rw [frames_cons, List.append_assoc] at h
      exact absurd h.symm (hrest' body _ (hfirst body List.mem_cons_self))
    | cons body' bodies' =>
      rw [frames_cons, frames_cons, List.append_assoc, List.append_assoc] at h
      obtain ⟨rfl, htail⟩ := around_append_inj (hfirst body List.mem_cons_self)
        (hsecond body' List.mem_cons_self) h
      obtain ⟨rfl, rfl⟩ := ih (fun b hb => hfirst b (List.mem_cons_of_mem _ hb))
        (fun b hb => hsecond b (List.mem_cons_of_mem _ hb)) htail
      exact ⟨rfl, rfl⟩

/-! ### Partial frames -/

theorem isPartial_of_length_lt {rest : Octets} (h : rest.length < headerSize) : IsPartial rest := by
  intro body tail hsize hrest
  rw [hrest, List.length_append, around, List.length_append, length_header] at h
  omega

theorem isPartial_of_refuses {rest : Octets} {e : CodecError} (h : Refuses rest e) :
    IsPartial rest := by
  intro body tail hsize hrest
  have hrefused := h.2
  rw [hrest, take_around_append, bodySize_header hsize] at hrefused
  cases hrefused

theorem isPartial_header_append {size : Nat} {front : Octets} (hsize : size ≤ maxBodySize)
    (hfront : front.length < size) : IsPartial (header size ++ front) := by
  intro body tail hbody hrest
  have hheader : header size = header body.length := by
    rw [← take_around_append body tail, ← hrest, ← length_header size, List.take_left]
  have hlength : size = body.length := header_inj hsize hbody hheader
  rw [around, hheader, List.append_assoc, List.append_cancel_left_eq] at hrest
  rw [hrest, List.length_append] at hfront
  omega

theorem isPartial_header {size : Nat} (hpos : 0 < size) (hsize : size ≤ maxBodySize) :
    IsPartial (header size) := by
  have h : IsPartial (header size ++ []) := isPartial_header_append hsize hpos
  rwa [List.append_nil] at h

section Rest

variable {bodies : List Octets} {rest : Octets}

/-- A stream is whole frames exactly if no partial frame is left at its end. -/
theorem isFrames_append_iff (hbodies : ∀ body ∈ bodies, body.length ≤ maxBodySize)
    (hrest : IsPartial rest) : IsFrames (frames bodies ++ rest) ↔ rest = [] := by
  constructor
  · rintro ⟨whole, hwhole, hstream⟩
    rw [← List.append_nil (frames whole)] at hstream
    have hnil : IsPartial [] := isPartial_of_length_lt (by decide)
    exact (frames_append_inj hbodies hwhole hrest hnil hstream).2
  · rintro rfl
    exact ⟨bodies, hbodies, List.append_nil _⟩

theorem endsBehindHeader_append_iff (hbodies : ∀ body ∈ bodies, body.length ≤ maxBodySize)
    (hrest : IsPartial rest) : EndsBehindHeader (frames bodies ++ rest) ↔
      ∃ size, 0 < size ∧ size ≤ maxBodySize ∧ rest = header size := by
  constructor
  · rintro ⟨whole, size, hwhole, hpos, hsize, hstream⟩
    have hheader := isPartial_header hpos hsize
    exact ⟨size, hpos, hsize, (frames_append_inj hbodies hwhole hrest hheader hstream).2⟩
  · rintro ⟨size, hpos, hsize, rfl⟩
    exact ⟨bodies, size, hbodies, hpos, hsize, rfl⟩

end Rest

theorem not_isFrames_of_endsBehindHeader {stream : Octets} (h : EndsBehindHeader stream) :
    ¬ IsFrames stream := by
  obtain ⟨bodies, size, hbodies, hpos, hsize, rfl⟩ := h
  rw [isFrames_append_iff hbodies (isPartial_header hpos hsize)]
  intro hempty
  have hlength := length_header size
  rw [hempty] at hlength
  cases hlength

/-! ### Lawful streams -/

theorem isLawful_of_length_lt {stream : Octets} (h : stream.length < headerSize) :
    IsLawful stream := by
  rintro bodies rest e - rfl ⟨hlength, -⟩
  rw [List.length_append] at h
  omega

theorem isLawful_header {size : Nat} (hsize : size ≤ maxBodySize) : IsLawful (header size) := by
  rintro bodies rest e - hstream ⟨hlength, hrefused⟩
  have hsum := congrArg List.length hstream
  rw [length_header, List.length_append] at hsum
  have hnil : frames bodies = [] := List.eq_nil_of_length_eq_zero (by omega)
  rw [hnil, List.nil_append] at hstream
  rw [← hstream, ← length_header size, List.take_length, bodySize_header hsize] at hrefused
  cases hrefused

end Frame

theorem Buffer.take?_eq_none_iff {b : Buffer} {n : Nat} : b.take? n = none ↔ b.size < n := by
  rw [Buffer.take?_eq, Option.map_eq_none_iff, Octets.split?]
  simp only [List.length_take, Buffer.length_toOctets]
  split <;> simp <;> omega

namespace Splitter

variable {s t : Splitter} {body : Octets}

/-- What a splitter still holds of the stream. -/
def rest (s : Splitter) : Octets := s.awaited.elim [] Frame.header ++ s.buffer.toOctets

/-- An awaited body is not too large. -/
def Sound (s : Splitter) : Prop := ∀ size ∈ s.awaited, size ≤ maxBodySize

/-- More has to arrive before the next header or body is whole. -/
def Waits (s : Splitter) : Prop := s.buffer.size < s.awaited.getD Frame.headerSize

theorem rest_push (s : Splitter) (chunk : Octets) : (s.push chunk).rest = s.rest ++ chunk := by
  simp [rest, push]

theorem takeBody_some {size : Nat} {buffer : Buffer} (h : takeBody size buffer = (some body, s)) :
    buffer.toOctets = body ++ s.rest ∧ body.length = size ∧ s.awaited = none := by
  unfold takeBody at h
  split at h
  · cases h
  case h_2 hbody =>
    cases h
    obtain ⟨hbuffer, hlength, -⟩ := Buffer.take?_eq_some hbody
    exact ⟨hbuffer, hlength, rfl⟩

theorem takeBody_none {size : Nat} {buffer : Buffer} (h : takeBody size buffer = (none, s)) :
    s = ⟨some size, buffer⟩ ∧ s.Waits := by
  unfold takeBody at h
  split at h
  case h_1 hnone =>
    cases h
    exact ⟨rfl, Buffer.take?_eq_none_iff.1 hnone⟩
  · cases h

/-- A splitter refuses a header, waits for one, or tries for the body behind one. -/
theorem next_cases (hsound : s.Sound) :
    (∃ e, Frame.Refuses s.rest e ∧ s.next = (.error e, s)) ∨
    (s.Waits ∧ s.next = (.ok none, s)) ∨
    ∃ size buffer, size ≤ maxBodySize ∧ s.rest = Frame.header size ++ buffer.toOctets ∧
      s.next = (.ok (takeBody size buffer).1, (takeBody size buffer).2) := by
  cases hs : s.awaited with
  | some size =>
    refine .inr (.inr ⟨size, s.buffer, hsound size hs, by rw [rest, hs, Option.elim_some], ?_⟩)
    simp [next, hs]
  | none =>
    have hrest : s.rest = s.buffer.toOctets := by rw [rest, hs, Option.elim_none, List.nil_append]
    cases htake : s.buffer.take? Frame.headerSize with
    | none =>
      refine .inr (.inl ⟨?_, by simp [next, hs, htake]⟩)
      rw [Waits, hs]
      exact Buffer.take?_eq_none_iff.1 htake
    | some taken =>
      obtain ⟨header, buffer⟩ := taken
      obtain ⟨hbuffer, hlength, hbig⟩ := Buffer.take?_eq_some htake
      cases hsize : Frame.bodySize header with
      | error e =>
        refine .inl ⟨e, ⟨?_, ?_⟩, by simp [next, hs, htake, hsize]⟩
        · rw [hrest, Buffer.length_toOctets, hbig]
          omega
        · rw [hrest, hbuffer, ← hlength, List.take_left, hsize]
      | ok size =>
        obtain ⟨rfl, hle⟩ := Frame.bodySize_eq_ok hlength hsize
        exact .inr (.inr ⟨size, buffer, hle, by rw [hrest, hbuffer],
          by simp [next, hs, htake, hsize]⟩)

theorem next_some (hsound : s.Sound) (h : s.next = (.ok (some body), t)) :
    s.rest = Frame.around body ++ t.rest ∧ body.length ≤ maxBodySize ∧ t.Sound := by
  obtain ⟨e, -, hnext⟩ | ⟨-, hnext⟩ | ⟨size, buffer, hle, hrest, hnext⟩ := next_cases hsound
  · cases hnext.symm.trans h
  · cases hnext.symm.trans h
  · obtain ⟨hbody, ht⟩ := Prod.mk.inj (hnext.symm.trans h)
    obtain ⟨hbuffer, rfl, hnone⟩ := takeBody_some (Prod.ext (Except.ok.inj hbody) ht)
    refine ⟨?_, hle, by simp [Sound, hnone]⟩
    rw [hrest, hbuffer, Frame.around, List.append_assoc]

theorem next_none (hsound : s.Sound) (h : s.next = (.ok none, t)) :
    t.rest = s.rest ∧ t.Sound ∧ t.Waits := by
  obtain ⟨e, -, hnext⟩ | ⟨hwaits, hnext⟩ | ⟨size, buffer, hle, hrest, hnext⟩ :=
    next_cases hsound
  · cases hnext.symm.trans h
  · cases hnext.symm.trans h
    exact ⟨rfl, hsound, hwaits⟩
  · obtain ⟨hbody, ht⟩ := Prod.mk.inj (hnext.symm.trans h)
    obtain ⟨rfl, hwaits⟩ := takeBody_none (Prod.ext (Except.ok.inj hbody) ht)
    exact ⟨hrest.symm, by simpa [Sound] using hle, hwaits⟩

theorem next_error (hsound : s.Sound) {e : CodecError} (h : s.next = (.error e, t)) :
    t = s ∧ Frame.Refuses s.rest e := by
  obtain ⟨e', hrefuses, hnext⟩ | ⟨-, hnext⟩ | ⟨size, buffer, -, -, hnext⟩ :=
    next_cases hsound
  · cases hnext.symm.trans h
    exact ⟨rfl, hrefuses⟩
  · cases hnext.symm.trans h
  · cases hnext.symm.trans h

theorem Waits.isPartial (h : s.Waits) (hsound : s.Sound) : Frame.IsPartial s.rest := by
  unfold Waits at h
  cases hs : s.awaited with
  | none =>
    rw [hs, Option.getD_none, ← Buffer.length_toOctets] at h
    rw [rest, hs, Option.elim_none, List.nil_append]
    exact Frame.isPartial_of_length_lt h
  | some size =>
    rw [hs, Option.getD_some, ← Buffer.length_toOctets] at h
    rw [rest, hs, Option.elim_some]
    exact Frame.isPartial_header_append (hsound size hs) h

theorem rest_of_empty (h : s.Waits) (hsound : s.Sound) (hempty : s.buffer.size = 0) :
    s.rest = [] ∨ ∃ size, 0 < size ∧ size ≤ maxBodySize ∧ s.rest = Frame.header size := by
  have hbuffer : s.buffer.toOctets = [] := by
    rw [← List.length_eq_zero_iff, Buffer.length_toOctets, hempty]
  unfold Waits at h
  cases hs : s.awaited with
  | none =>
    left
    rw [rest, hs, hbuffer]
    rfl
  | some size =>
    right
    rw [hs, hempty, Option.getD_some] at h
    exact ⟨size, h, hsound size hs, by rw [rest, hs, hbuffer, Option.elim_some, List.append_nil]⟩

theorem rest_of_not_empty (h : s.Waits) (hleft : s.buffer.size ≠ 0) :
    s.rest ≠ [] ∧ ∀ size, s.rest ≠ Frame.header size := by
  have hlength : s.rest.length ≠ 0 ∧ s.rest.length ≠ Frame.headerSize := by
    unfold Waits at h
    cases hs : s.awaited with
    | none =>
      rw [hs, Option.getD_none] at h
      rw [rest, hs, Option.elim_none, List.nil_append, Buffer.length_toOctets]
      omega
    | some size =>
      rw [rest, hs, Option.elim_some, List.length_append, Frame.length_header,
        Buffer.length_toOctets]
      omega
  constructor
  · intro hnil
    exact hlength.1 (by rw [hnil]; rfl)
  · intro size hheader
    exact hlength.2 (by rw [hheader, Frame.length_header])

end Splitter
end ClusterLink
