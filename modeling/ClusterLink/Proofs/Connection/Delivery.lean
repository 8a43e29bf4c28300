import ClusterLink.Proofs.Connection.CleanClose
import Mathlib.Tactic
/-!
Whole frames are received in full: every body that holds an envelope brings it, every other body is
dropped and counted, and neither costs its neighbours anything.
-/
namespace ClusterLink
namespace Connection

open ClusterLink.Frame Envelope

variable {bodies : List Octets} {chunks : List Octets}

theorem length_frames (bodies : List Octets) :
    (frames bodies).length = (bodies.map fun body => headerSize + body.length).sum := by
  induction bodies with
  | nil => rfl
  | cons body bodies ih =>
    rw [frames_cons, List.length_append, ih, around, List.length_append, length_header,
      List.map_cons, List.sum_cons]

/-- The bodies without an envelope are those that are left over. -/
theorem length_filterMap_add_countP (bodies : List Octets) :
    (bodies.filterMap decode?).length + bodies.countP (fun body => (decode? body).isNone) =
      bodies.length := by
  induction bodies with
  | nil => rfl
  | cons body bodies ih =>
    cases h : decode? body <;> simp [h] <;> omega

/-- However whole frames are cut into reads, receiving brings the envelopes of their bodies in
order, each once, and then a clean end. The traffic counts every body as received or as dropped and
every octet, and no body costs the stream. -/
theorem receiveAll_frames (bodies chunks : List Octets)
    (hbodies : ∀ body ∈ bodies, body.length ≤ maxBodySize) (hchunks : [] ∉ chunks)
    (hstream : chunks.flatten = frames bodies) :
    let reception := receiveAll (.new (.finished chunks))
    let traffic := reception.connection.traffic
    reception.envelopes = bodies.filterMap decode? ∧ reception.answer = .ended ∧
      traffic.messagesReceived = (bodies.filterMap decode?).length ∧
      traffic.messagesDropped = bodies.countP (fun body => (decode? body).isNone) ∧
      traffic.bytesReceived = (bodies.map fun body => headerSize + body.length).sum ∧
      ∀ (body : Octets) (e : CodecError), decode body = .error e → e.fatal = false := by
  obtain ⟨taken, hadvances, hlast, henvelopes, hanswers⟩ :=
    receiveAll_spec (new_sound (.finished chunks)) (Transport.finished_brings hchunks)
  obtain ⟨hpartial, hcases⟩ := hanswers.rest hlast
  have hrest : frames bodies ++ [] =
      frames taken ++ (receiveAll (.new (.finished chunks))).connection.rest := by
    rw [List.append_nil, ← hstream, ← hadvances.rest, rest_new, Transport.unread_finished]
  have hnil : IsPartial [] := isPartial_of_length_lt (by decide)
  obtain ⟨rfl, hempty⟩ := frames_append_inj hbodies hadvances.sizes hnil hpartial hrest
  have hread : (receiveAll (.new (.finished chunks))).connection.transport.unread = [] := by
    rw [Connection.rest] at hempty
    exact (List.append_eq_nil_iff.1 hempty.symm).2
  refine ⟨henvelopes.symm, ?_, ?_, ?_, ?_, fun _ _ => decode_error_not_fatal⟩
  · obtain ⟨hended, -⟩ | ⟨-, hne, -⟩ | ⟨e, -, hrefuses⟩ := hcases
    · exact hended
    · exact absurd hempty.symm hne
    · rw [← hempty] at hrefuses
      exact absurd hrefuses.1 (by decide)
  · simpa [new] using hadvances.received
  · have hnone : (new (.finished chunks)).traffic.messagesDropped = 0 := rfl
    have hdropped := hadvances.dropped
    have hsplit := length_filterMap_add_countP bodies
    omega
  · have hbytes := hadvances.read
    rw [hread] at hbytes
    simpa [new, hstream, length_frames] using hbytes

/-- An octet that begins no map, no octets at all, and an envelope behind them. -/
def mixedBodies : List Octets := [[0xFF], [], [0xA1, 0x62, 0x4F, 0x70, 0x05]]

/-- The frames of these bodies, cut inside the first header, and everything else at once. -/
def mixedChunks : List Octets := [(frames mixedBodies).take 3, (frames mixedBodies).drop 3]

theorem receiveAll_mixedBodies :
    let reception := receiveAll (.new (.finished mixedChunks))
    (∀ body ∈ mixedBodies, body.length ≤ maxBodySize) ∧ [] ∉ mixedChunks ∧
      mixedChunks.flatten = frames mixedBodies ∧
      reception.envelopes = [.disconnect] ∧ reception.answer = .ended ∧
      reception.connection.traffic.messagesReceived = 1 ∧
      reception.connection.traffic.messagesDropped = 2 ∧
      reception.connection.traffic.bytesReceived = 30 := by
  have hbodies : ∀ body ∈ mixedBodies, body.length ≤ maxBodySize := by decide
  have hchunks : [] ∉ mixedChunks := by decide
  have hstream : mixedChunks.flatten = frames mixedBodies := by simp [mixedChunks]
  have hdecoded : mixedBodies.filterMap decode? = [.disconnect] := by decide +kernel
  have hdropped : mixedBodies.countP (fun body => (decode? body).isNone) = 2 := by decide +kernel
  have h := receiveAll_frames mixedBodies mixedChunks hbodies hchunks hstream
  rw [hdecoded, hdropped] at h
  obtain ⟨henvelopes, hended, hreceived, hmalformed, hread, -⟩ := h
  exact ⟨hbodies, hchunks, hstream, henvelopes, hended, hreceived, hmalformed, hread⟩

end Connection
end ClusterLink
