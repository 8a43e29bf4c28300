import ClusterLink.Proofs.Frame.Arrival
/-!
A splitter on any stream at all. What it takes, what it keeps and where it stops depend on the
octets that have arrived and not on the chunks in which they came, nothing is lost or made up, and
a refused header stays refused. Main statement: `feedAll_any_stream`.
-/
namespace ClusterLink

namespace Frame

/-- The header at the front is refused, and why: its magic is wrong, or else it announces a body
that is too large. -/
inductive Rejects (left : Octets) : CodecError → Prop where
  | wrongMagic (hlength : headerSize ≤ left.length) (hwrong : left.take 4 ≠ magic) :
    Rejects left .invalidMagic
  | tooLarge {size : Nat} (hlength : headerSize ≤ left.length) (hright : left.take 4 = magic)
    (hsize : Octets.toNatBE ((left.drop 4).take 4) = size) (hlarge : maxBodySize < size) :
    Rejects left (.messageTooLarge size)

theorem refuses_iff_rejects {left : Octets} {e : CodecError} : Refuses left e ↔ Rejects left e := by
  have hmagic : (left.take headerSize).take 4 = left.take 4 := by
    rw [List.take_take]
    rfl
  have hsize : (left.take headerSize).drop 4 = (left.drop 4).take 4 := List.drop_take ..
  rw [Refuses, bodySize, hmagic, hsize]
  constructor
  · rintro ⟨hlength, hrefused⟩
    split at hrefused
    case isTrue hwrong =>
      cases hrefused
      exact .wrongMagic hlength hwrong
    case isFalse hright =>
      dsimp only at hrefused
      split at hrefused
      case isTrue hlarge =>
        cases hrefused
        exact .tooLarge hlength (Decidable.not_not.1 hright) rfl hlarge
      case isFalse => cases hrefused
  · rintro (⟨hlength, hwrong⟩ | ⟨hlength, hright, rfl, hlarge⟩)
    · exact ⟨hlength, if_pos hwrong⟩
    · exact ⟨hlength, by simp [hright, hlarge]⟩

end Frame

open ClusterLink.Frame

namespace Splitter

/-- What has arrived and was not taken. -/
def left (s : Splitter) : Octets := s.buffer.toOctets

theorem left_push (s : Splitter) (chunk : Octets) : (s.push chunk).left = s.left ++ chunk :=
  Buffer.toOctets_append ..

theorem rest_eq (s : Splitter) : s.rest = s.awaited.elim [] header ++ s.left := rfl

/-! ### Where draining stops -/

/-- Nothing more can be taken: a header is refused, or the next header or body is not whole. -/
structure Drained.Stops (drained : Drained) : Prop where
  sound : drained.splitter.Sound
  error_iff : ∀ e, drained.error = some e ↔
    drained.splitter.awaited = none ∧ Rejects drained.splitter.left e
  waits : drained.error = none →
    drained.splitter.left.length < drained.splitter.awaited.getD headerSize

variable {s t : Splitter} {drained other : Drained} {e : CodecError}

theorem awaited_of_next_error (h : s.next = (.error e, t)) : s.awaited = none := by
  cases hs : s.awaited with
  | none => rfl
  | some size => simp [next, hs] at h

theorem drain_stops (hsound : s.Sound) : s.drain.Stops := by
  fun_induction drain s with
  | case1 s body t hnext hless rest ih =>
    obtain ⟨hlast, herror, hwaits⟩ := ih (next_some hsound hnext).2.2
    exact ⟨hlast, herror, hwaits⟩
  | case2 s t hnext =>
    obtain ⟨-, hlast, hwaits⟩ := next_none hsound hnext
    rw [Waits, ← Buffer.length_toOctets] at hwaits
    refine ⟨hlast, fun e => ⟨by simp, ?_⟩, fun _ => hwaits⟩
    rintro ⟨hnone, hrejects⟩
    have hlength : headerSize ≤ t.left.length := (refuses_iff_rejects.2 hrejects).1
    rw [hnone] at hwaits
    exact absurd hwaits (Nat.not_lt.2 hlength)
  | case3 s e t hnext =>
    have hnone := awaited_of_next_error hnext
    obtain ⟨rfl, hrefuses⟩ := next_error hsound hnext
    rw [rest_eq, hnone, Option.elim_none, List.nil_append] at hrefuses
    refine ⟨hsound, fun e' => ?_, by simp⟩
    rw [← refuses_iff_rejects, Option.some_inj]
    constructor
    · rintro rfl
      exact ⟨hnone, hrefuses⟩
    · rintro ⟨-, hrefuses'⟩
      exact Except.error.inj (hrefuses.2.symm.trans hrefuses'.2)

theorem Drained.Stops.isPartial (h : drained.Stops) : IsPartial drained.splitter.rest := by
  cases herror : drained.error with
  | none =>
    apply Waits.isPartial _ h.sound
    rw [Waits, ← Buffer.length_toOctets]
    exact h.waits herror
  | some e =>
    obtain ⟨hnone, hrejects⟩ := (h.error_iff e).1 herror
    rw [rest_eq, hnone, Option.elim_none, List.nil_append]
    exact isPartial_of_refuses (refuses_iff_rejects.2 hrejects)

/-- A header that is accepted is not left where draining stops. -/
theorem Drained.Stops.left_ne (h : drained.Stops) (hnone : drained.splitter.awaited = none)
    {size : Nat} (hsize : size ≤ maxBodySize) (more : Octets) :
    drained.splitter.left ≠ header size ++ more := by
  intro hleft
  cases herror : drained.error with
  | none =>
    have hlength := h.waits herror
    rw [hnone, hleft, List.length_append, length_header, Option.getD_none] at hlength
    omega
  | some e =>
    have hrefused := (refuses_iff_rejects.2 ((h.error_iff e).1 herror).2).2
    rw [hleft, ← length_header size, List.take_left, bodySize_header hsize] at hrefused
    cases hrefused

/-- Where draining stops, what is held of the stream tells the state and the error. -/
theorem Drained.Stops.eq_of_rest (h : drained.Stops) (h' : other.Stops)
    (hrest : drained.splitter.rest = other.splitter.rest) :
    drained.splitter.awaited = other.splitter.awaited ∧
      drained.splitter.left = other.splitter.left ∧ drained.error = other.error := by
  have hstate : drained.splitter.awaited = other.splitter.awaited ∧
      drained.splitter.left = other.splitter.left := by
    rw [rest_eq, rest_eq] at hrest
    cases hd : drained.splitter.awaited with
    | none =>
      cases ho : other.splitter.awaited with
      | none => simpa [hd, ho] using hrest
      | some size =>
        simp only [hd, ho, Option.elim_none, Option.elim_some, List.nil_append] at hrest
        exact absurd hrest (h.left_ne hd (h'.sound size ho) _)
    | some size =>
      cases ho : other.splitter.awaited with
      | none =>
        simp only [hd, ho, Option.elim_none, Option.elim_some, List.nil_append] at hrest
        exact absurd hrest.symm (h'.left_ne ho (h.sound size hd) _)
      | some size' =>
        simp only [hd, ho, Option.elim_some] at hrest
        obtain ⟨hheader, hleft⟩ := List.append_inj hrest (by simp)
        exact ⟨congrArg some (header_inj (h.sound size hd) (h'.sound size' ho) hheader), hleft⟩
  obtain ⟨hawaited, hleft⟩ := hstate
  refine ⟨hawaited, hleft, Option.ext fun e => ?_⟩
  rw [h.error_iff, h'.error_iff, hawaited, hleft]

/-! ### Feeding on -/

theorem next_of_refuses (hnone : s.awaited = none) (h : Refuses s.left e) :
    s.next = (.error e, s) := by
  have hsound : s.Sound := by simp [Sound, hnone]
  have hrest : s.rest = s.left := by rw [rest_eq, hnone, Option.elim_none, List.nil_append]
  obtain ⟨e', hrefuses, hnext⟩ | ⟨hwaits, -⟩ | ⟨size, buffer, hsize, hheader, -⟩ :=
    next_cases hsound
  · rw [hrest] at hrefuses
    rw [hnext, Except.error.inj (h.2.symm.trans hrefuses.2)]
  · have hlength := h.1
    rw [left, Buffer.length_toOctets] at hlength
    rw [Waits, hnone, Option.getD_none] at hwaits
    omega
  · have hrefused := h.2
    rw [← hrest, hheader, ← length_header size, List.take_left, bodySize_header hsize] at hrefused
    cases hrefused

theorem drain_of_next_error (h : s.next = (.error e, t)) : s.drain = ⟨[], some e, t⟩ := by
  unfold drain
  split
  · next hnext => cases hnext.symm.trans h
  · next hnext => cases hnext.symm.trans h
  · next hnext =>
    cases hnext.symm.trans h
    rfl

/-- A refused header is refused again, whatever arrives behind it. -/
theorem Drained.Stops.feed_of_error (h : drained.Stops) (herror : drained.error = some e)
    (chunk : Octets) :
    drained.splitter.feed chunk = ⟨[], some e, drained.splitter.push chunk⟩ := by
  obtain ⟨hnone, hrejects⟩ := (h.error_iff e).1 herror
  have hrefuses : Refuses (drained.splitter.push chunk).left e := by
    rw [left_push]
    exact (refuses_iff_rejects.2 hrejects).append chunk
  exact drain_of_next_error (next_of_refuses hnone hrefuses)

theorem feed_stops (hsound : s.Sound) (chunk : Octets) : (s.feed chunk).Stops :=
  drain_stops hsound

theorem feedAll_stops {chunks : List Octets} (hsound : s.Sound) :
    ∀ drained ∈ s.feedAll chunks, drained.Stops := by
  induction chunks generalizing s with
  | nil => exact List.forall_mem_nil _
  | cons chunk chunks ih =>
    have hfirst := feed_stops hsound chunk
    exact List.forall_mem_cons.2 ⟨hfirst, ih hfirst.sound⟩

/-- Behind each drain, a run goes on from where that drain stopped. -/
theorem drop_feedAll {chunks : List Octets} {i : Nat} (h : (s.feedAll chunks)[i]? = some drained) :
    (s.feedAll chunks).drop (i + 1) = drained.splitter.feedAll (chunks.drop (i + 1)) := by
  induction chunks generalizing s i with
  | nil => cases h
  | cons chunk chunks ih =>
    cases i with
    | zero =>
      cases h
      rfl
    | succ i => exact ih h

/-- A run loses nothing and makes nothing up: what was held and what arrived is the frames of the
bodies that were taken, and then what is held. -/
theorem feedAll_conserves {chunks : List Octets} (hsound : s.Sound)
    (h : (s.feedAll chunks).getLast? = some drained) :
    s.rest ++ chunks.flatten =
        frames ((s.feedAll chunks).flatMap (·.bodies)) ++ drained.splitter.rest ∧
      ∀ body ∈ (s.feedAll chunks).flatMap (·.bodies), body.length ≤ maxBodySize := by
  induction chunks generalizing s with
  | nil => cases h
  | cons chunk chunks ih =>
    obtain ⟨hheld, hsizes, hnext, -⟩ := feed_spec hsound chunk
    rw [feedAll, List.flatMap_cons, List.flatten_cons, ← List.append_assoc, hheld,
      List.append_assoc, frames_append, List.append_assoc]
    cases chunks with
    | nil =>
      cases h
      simpa [feedAll, frames] using hsizes
    | cons second chunks =>
      obtain ⟨hrest, hlater⟩ := ih hnext h
      exact ⟨congrArg _ hrest, List.forall_mem_append.2 ⟨hsizes, hlater⟩⟩

/-- Behind a refused header, every drain gives the same error and no body, and adds what arrives
to what is left. -/
theorem Drained.Stops.feedAll_of_error (h : drained.Stops) (herror : drained.error = some e)
    {chunks : List Octets} {j : Nat} (hlater : (drained.splitter.feedAll chunks)[j]? = some other) :
    other.error = some e ∧ other.bodies = [] ∧
      other.splitter.left = drained.splitter.left ++ (chunks.take (j + 1)).flatten := by
  induction chunks generalizing drained j with
  | nil => cases hlater
  | cons chunk chunks ih =>
    have hfeed := h.feed_of_error herror chunk
    have hstops := feed_stops h.sound chunk
    rw [hfeed] at hstops
    rw [feedAll, hfeed] at hlater
    cases j with
    | zero =>
      cases hlater
      exact ⟨rfl, rfl, by simp [left_push]⟩
    | succ j =>
      obtain ⟨hsame, hnothing, hleft⟩ := ih hstops rfl hlater
      refine ⟨hsame, hnothing, ?_⟩
      rw [hleft, left_push, List.take_succ_cons, List.flatten_cons, List.append_assoc]

/-- Any stream, cut into chunks in any way, each of which is drained as it arrives. The bodies
taken, the octets left, the header taken for an awaited body and the last error are those of the
stream in one chunk. Framed again, the bodies, that header and the octets left are the stream, and
no body is too large. A drain ends with an error exactly if no body is awaited and the header that
is left is refused, and otherwise where more has to arrive. Behind an error every drain gives that
error and no body, and keeps what arrives. -/
theorem feedAll_any_stream (first : Octets) (more : List Octets) :
    let chunks := first :: more
    let drained := new.feedAll chunks
    let bodies := drained.flatMap (·.bodies)
    let whole := new.feed chunks.flatten
    (∃ last, drained.getLast? = some last ∧
      bodies = whole.bodies ∧ last.splitter.left = whole.splitter.left ∧
      last.splitter.awaited = whole.splitter.awaited ∧ last.error = whole.error ∧
      chunks.flatten = frames bodies ++ last.splitter.awaited.elim [] header ++
        last.splitter.left) ∧
    (∀ body ∈ bodies, body.length ≤ maxBodySize) ∧
    (∀ d ∈ drained,
      (∀ e, d.error = some e ↔ d.splitter.awaited = none ∧ Rejects d.splitter.left e) ∧
      (d.error = none → d.splitter.left.length < d.splitter.awaited.getD headerSize)) ∧
    ∀ i d e, drained[i]? = some d → d.error = some e →
      ∀ j later, drained[i + 1 + j]? = some later →
        later.error = some e ∧ later.bodies = [] ∧
        later.splitter.left =
          d.splitter.left ++ ((chunks.drop (i + 1)).take (j + 1)).flatten := by
  intro chunks drained bodies whole
  have hstops : ∀ d ∈ drained, d.Stops := feedAll_stops new_sound
  have hwhole : whole.Stops := feed_stops new_sound _
  have hnonempty : drained ≠ [] := List.cons_ne_nil _ _
  have hlast : drained.getLast? = some (drained.getLast hnonempty) :=
    List.getLast?_eq_some_getLast hnonempty
  have hlastStops := hstops _ (List.getLast_mem hnonempty)
  obtain ⟨hstream, hsizes⟩ := feedAll_conserves new_sound hlast
  obtain ⟨hone, honeSizes, -⟩ := feed_spec new_sound chunks.flatten
  rw [rest_new, List.nil_append] at hstream hone
  refine ⟨?_, hsizes, fun d hd => ⟨(hstops d hd).error_iff, (hstops d hd).waits⟩, ?_⟩
  · obtain ⟨hbodies, hrest⟩ := frames_append_inj hsizes honeSizes hlastStops.isPartial
      hwhole.isPartial (hstream.symm.trans hone)
    obtain ⟨hawaited, hleft, herror⟩ := hlastStops.eq_of_rest hwhole hrest
    refine ⟨_, hlast, hbodies, hleft, hawaited, herror, ?_⟩
    rw [hstream, rest_eq, List.append_assoc]
  · intro i d e hd herror j later hlater
    rw [← List.getElem?_drop, drop_feedAll hd] at hlater
    exact (hstops d (List.mem_of_getElem? hd)).feedAll_of_error herror hlater

end Splitter
end ClusterLink
