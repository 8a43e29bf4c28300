import ClusterLink.Proofs.Connection.Reception
/-!
When the end of the stream passes for a clean one: behind whole frames, and also right behind the
header of a body that never comes, because only the receive buffer is looked at and the header has
left it by then.
-/
namespace ClusterLink
namespace Connection

open ClusterLink.Frame

variable {d : Connection} {answer : Received}

/-- What the last answer says of the rest of the stream. -/
theorem Answers.rest (hsound : d.splitter.Sound) (h : Answers [] d (.data []) answer) :
    IsPartial d.rest ∧
    ((answer = .ended ∧
        (d.rest = [] ∨ ∃ size, 0 < size ∧ size ≤ maxBodySize ∧ d.rest = header size)) ∨
      (answer = .failed .closed ∧ d.rest ≠ [] ∧ ∀ size, d.rest ≠ header size) ∨
      ∃ e, answer = .failed (.protocol e) ∧ Refuses d.rest e) := by
  cases answer with
  | envelope envelope => cases h.1
  | pending => cases h.2.2.2
  | ended =>
    obtain ⟨-, hspent, -, hempty⟩ := h
    refine ⟨hspent.isPartial hsound, .inl ⟨rfl, ?_⟩⟩
    rw [hspent.rest]
    exact Splitter.rest_of_empty hspent.2 hsound hempty
  | failed e =>
    cases e with
    | io cause => cases h.2.2
    | protocol e => exact ⟨isPartial_of_refuses h.2, .inr (.inr ⟨e, rfl, h.2⟩)⟩
    | closed =>
      obtain ⟨-, hspent, -, hleft⟩ := h
      refine ⟨hspent.isPartial hsound, .inr (.inl ⟨rfl, ?_⟩)⟩
      rw [hspent.rest]
      exact Splitter.rest_of_not_empty hspent.2 hleft

/-- Receiving from a stream without refused headers ends with the end of the stream. -/
theorem receiveAll_answer {chunks : List Octets} (hchunks : [] ∉ chunks)
    (hlawful : IsLawful chunks.flatten) :
    let answer := (receiveAll (.new (.finished chunks))).answer
    (answer = .ended ∧ (IsFrames chunks.flatten ∨ EndsBehindHeader chunks.flatten)) ∨
      (answer = .failed .closed ∧ ¬ IsFrames chunks.flatten ∧
        ¬ EndsBehindHeader chunks.flatten) := by
  obtain ⟨bodies, hadvances, hlast, -, hanswers⟩ :=
    receiveAll_spec (new_sound (.finished chunks)) (Transport.finished_brings hchunks)
  have hstream : chunks.flatten =
      frames bodies ++ (receiveAll (.new (.finished chunks))).connection.rest := by
    rw [← hadvances.rest, rest_new, Transport.unread_finished]
  obtain ⟨hpartial, hcases⟩ := hanswers.rest hlast
  rw [hstream, isFrames_append_iff hadvances.sizes hpartial,
    endsBehindHeader_append_iff hadvances.sizes hpartial]
  obtain ⟨hended, hrest⟩ | ⟨hclosed, hne, hheader⟩ | ⟨e, -, hrefuses⟩ := hcases
  · exact .inl ⟨hended, hrest⟩
  · refine .inr ⟨hclosed, hne, ?_⟩
    rintro ⟨size, -, -, heq⟩
    exact hheader size heq
  · exact absurd hrefuses (hlawful bodies _ e hadvances.sizes hstream)

/-- At the end of a stream without refused headers, a clean close is reported exactly if whole
frames came in, and a close inside a frame otherwise, unless the stream ends right behind the
header of a body that is not empty: that passes for a clean close. -/
theorem clean_close_iff_isFrames (chunks : List Octets) (hchunks : [] ∉ chunks)
    (hlawful : IsLawful chunks.flatten) :
    let answer := (receiveAll (.new (.finished chunks))).answer
    (¬ EndsBehindHeader chunks.flatten →
      (answer = .ended ↔ IsFrames chunks.flatten) ∧
        (¬ IsFrames chunks.flatten → answer = .failed .closed)) ∧
    (EndsBehindHeader chunks.flatten → ¬ IsFrames chunks.flatten ∧ answer = .ended) := by
  obtain ⟨hended, hstream⟩ | ⟨hclosed, hframes, hheader⟩ := receiveAll_answer hchunks hlawful
  · constructor
    · intro hnot
      have hframes := hstream.resolve_right hnot
      exact ⟨by simp [hended, hframes], fun hpartial => absurd hframes hpartial⟩
    · intro hbehind
      exact ⟨not_isFrames_of_endsBehindHeader hbehind, hended⟩
  · constructor
    · intro _
      exact ⟨by simp [hclosed, hframes], fun _ => hclosed⟩
    · intro hbehind
      exact absurd hbehind hheader

/-- A stream that is cut inside the magic octets of a header. -/
def cutMagic : List Octets := [[0x53, 0x4F], [0x55]]

theorem clean_close_cutMagic :
    [] ∉ cutMagic ∧ IsLawful cutMagic.flatten ∧
      (receiveAll (.new (.finished cutMagic))).answer = .failed .closed := by
  have hchunks : [] ∉ cutMagic := by decide
  have hlawful : IsLawful cutMagic.flatten := isLawful_of_length_lt (by decide)
  have hpartial : IsPartial cutMagic.flatten := isPartial_of_length_lt (by decide)
  have hbodies : ∀ body ∈ ([] : List Octets), body.length ≤ maxBodySize := List.forall_mem_nil _
  have hframes : ¬ IsFrames cutMagic.flatten :=
    fun h => nomatch (isFrames_append_iff hbodies hpartial).1 h
  have hbehind : ¬ EndsBehindHeader cutMagic.flatten := by
    intro h
    obtain ⟨size, -, -, hheader⟩ := (endsBehindHeader_append_iff hbodies hpartial).1 h
    cases congrArg List.length hheader
  have h := clean_close_iff_isFrames cutMagic hchunks hlawful
  exact ⟨hchunks, hlawful, (h.1 hbehind).2 hframes⟩

/-- The header of a body of one octet, and then the end: no frame, but a clean close. -/
theorem clean_close_behindHeader :
    [] ∉ [header 1] ∧ IsLawful [header 1].flatten ∧ ¬ IsFrames [header 1].flatten ∧
      (receiveAll (.new (.finished [header 1]))).answer = .ended := by
  have hchunks : [] ∉ [header 1] := by decide
  have hlawful : IsLawful [header 1].flatten := isLawful_header (by decide)
  have hbehind : EndsBehindHeader [header 1].flatten :=
    ⟨[], 1, List.forall_mem_nil _, by decide, by decide, rfl⟩
  refine ⟨hchunks, hlawful, not_isFrames_of_endsBehindHeader hbehind, ?_⟩
  obtain ⟨hended, -⟩ | ⟨-, -, hheader⟩ := receiveAll_answer hchunks hlawful
  · exact hended
  · exact absurd hbehind hheader

end Connection
end ClusterLink
