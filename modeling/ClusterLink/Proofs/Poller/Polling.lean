import ClusterLink.Proofs.Poller.Frames
/-!
One poll, whatever the region holds from earlier ones. Main statement: `poll_reads_back`, a poll
skips what has no frame, and the runtime reads in the frame of the next envelope what that envelope
tells it.
-/
namespace ClusterLink

/-- The kind of game message that an event brings. -/
def RuntimeEvent.kind? : RuntimeEvent → Option PacketKind
  | .receive _ data => PacketKind.read? data
  | _ => none

namespace Envelope

/-- What an envelope about the game connection tells the runtime. A packet tells only the octets
that its length covers, and nothing if that exceeds its data. -/
inductive Tells : Envelope → RuntimeEvent → Prop
  | connect {server internal owned} : Tells (.serverConnected server internal owned) .connect
  | disconnect {reason message} : Tells (.serverDisconnected reason message) (.disconnect reason)
  | receive {channel data length} (within : length.toNat ≤ data.length) :
    Tells (.packet channel data length) (.receive channel (data.take length.toNat))

theorem payload?_eq_some_iff {channel : UInt16} {data payload : Octets} {length : UInt32} :
    (packet channel data length).payload? = some payload ↔
      length.toNat ≤ data.length ∧ payload = data.take length.toNat := by
  have hfits : (data.take length.toNat).length = length.toNat ↔ length.toNat ≤ data.length := by
    rw [List.length_take]
    omega
  unfold payload? Octets.split?
  dsimp only
  split
  case isTrue hlength => simp [hfits.1 hlength, eq_comm]
  case isFalse hlength => simp [mt hfits.2 hlength]

theorem tells_iff {envelope : Envelope} {event : RuntimeEvent} :
    envelope.Tells event ↔ RuntimeEvent.of? envelope = some event := by
  constructor
  · intro h
    cases h with
    | connect => rfl
    | disconnect => rfl
    | receive within =>
      rw [RuntimeEvent.of?, payload?_eq_some_iff.2 ⟨within, rfl⟩, Option.map_some]
  · intro h
    cases envelope with
    | serverConnected => cases h; exact .connect
    | serverDisconnected => cases h; exact .disconnect
    | packet channel data length =>
      obtain ⟨payload, hpayload, rfl⟩ := Option.map_eq_some_iff.1 h
      obtain ⟨within, rfl⟩ := payload?_eq_some_iff.1 hpayload
      exact .receive within
    | _ => cases h

/-- An envelope without a frame tells the runtime nothing. -/
theorem size?_eq_none_iff {envelope : Envelope} :
    RuntimeFrame.size? envelope = none ↔ ∀ event, ¬ envelope.Tells event := by
  have hframe := RuntimeFrame.size?_isSome envelope
  constructor
  · intro hsize event htells
    rw [hsize, tells_iff.1 htells] at hframe
    cases hframe
  · intro hsilent
    rw [← Option.isNone_iff_eq_none, ← Option.isSome_eq_false_iff, hframe,
      Option.isSome_eq_false_iff, Option.isNone_iff_eq_none, Option.eq_none_iff_forall_ne_some]
    intro event hevent
    exact hsilent event (tells_iff.2 hevent)

/-- The runtime and the gate read the same kind. -/
theorem Tells.kind?_eq {envelope : Envelope} {event : RuntimeEvent} (h : envelope.Tells event) :
    event.kind? = envelope.kind? := by
  cases h with
  | connect => rfl
  | disconnect => rfl
  | receive within => rw [kind?, payload?_eq_some_iff.2 ⟨within, rfl⟩]; rfl

end Envelope

namespace Region

/-- The region after a frame was written into it. -/
def hold (region : Region) (frame : Octets) : Region :=
  (region.reserve frame.length).overwrite frame

theorem hold_octets (region : Region) (frame : Octets) : (region.hold frame).octets =
    frame ++ (region.reserve frame.length).octets.drop frame.length := rfl

end Region

namespace Poller

variable {poller : Poller} {envelope : Envelope} {passed queue : List Envelope}

/-- The poller after it skipped some envelopes. -/
def skipping (poller : Poller) (count : Nat) : Poller :=
  { poller with skipped := poller.skipped + count }

/-- The poller after it gave out a frame. -/
def giving (poller : Poller) (frame : Octets) : Poller :=
  { poller with region := poller.region.hold frame, delivered := poller.delivered + 1 }

theorem deliver_eq {size : Nat} (hsize : RuntimeFrame.size? envelope = some size) :
    poller.deliver envelope size =
      (RuntimeFrame.write envelope, poller.giving (RuntimeFrame.write envelope)) := by
  refine Prod.ext (poller.deliver_fst hsize) ?_
  rw [giving, Region.hold, RuntimeFrame.length_write hsize]
  rfl

theorem pollQueue_cons_of_framed {size : Nat} (hsize : RuntimeFrame.size? envelope = some size) :
    poller.pollQueue (envelope :: queue) =
      (some (RuntimeFrame.write envelope), poller.giving (RuntimeFrame.write envelope), queue) := by
  simp only [pollQueue, hsize, deliver_eq hsize]

theorem pollQueue_append (hpassed : ∀ envelope ∈ passed, RuntimeFrame.size? envelope = none) :
    poller.pollQueue (passed ++ queue) = (poller.skipping passed.length).pollQueue queue := by
  induction passed generalizing poller with
  | nil => rfl
  | cons envelope passed ih =>
    rw [List.forall_mem_cons] at hpassed
    have hskip : poller.skip.skipping passed.length = poller.skipping (passed.length + 1) := by
      simp only [skip, skipping, Nat.add_assoc, Nat.add_comm 1]
    rw [List.cons_append, pollQueue, hpassed.1, ih hpassed.2, hskip, List.length_cons]

/-- A queue is all without frames, or there is a first envelope with one. -/
theorem exists_first_framed (queue : List Envelope) :
    ∃ passed, (∀ envelope ∈ passed, RuntimeFrame.size? envelope = none) ∧
      (queue = passed ∨ ∃ envelope rest size, queue = passed ++ envelope :: rest ∧
        RuntimeFrame.size? envelope = some size) := by
  induction queue with
  | nil => exact ⟨[], by simp, .inl rfl⟩
  | cons first queue ih =>
    cases hsize : RuntimeFrame.size? first with
    | some size => exact ⟨[], by simp, .inr ⟨first, queue, size, rfl, hsize⟩⟩
    | none =>
      obtain ⟨passed, hpassed, hqueue⟩ := ih
      refine ⟨first :: passed, List.forall_mem_cons.2 ⟨hsize, hpassed⟩, ?_⟩
      rcases hqueue with rfl | ⟨envelope, rest, size, rfl, hframed⟩
      · exact .inl rfl
      · exact .inr ⟨envelope, rest, size, rfl, hframed⟩

/-- All that a poll can do. -/
theorem poll_cases (poller : Poller) (gate : Gate) :
    ∃ passed, (∀ envelope ∈ passed, RuntimeFrame.size? envelope = none) ∧
      (gate.ready = passed ∧
          poller.poll gate = (none, poller.skipping passed.length, { gate with ready := [] }) ∨
        ∃ envelope rest, gate.ready = passed ++ envelope :: rest ∧
          RuntimeFrame.size? envelope = some (RuntimeFrame.write envelope).length ∧
          poller.poll gate = (some (RuntimeFrame.write envelope),
            (poller.skipping passed.length).giving (RuntimeFrame.write envelope),
            { gate with ready := rest })) := by
  obtain ⟨passed, hpassed, hqueue⟩ := exists_first_framed gate.ready
  refine ⟨passed, hpassed, ?_⟩
  rcases hqueue with hall | ⟨envelope, rest, size, hqueue, hframed⟩
  · have hpoll : poller.pollQueue gate.ready = (none, poller.skipping passed.length, []) := by
      rw [hall, ← List.append_nil passed, pollQueue_append hpassed, List.append_nil]
      rfl
    refine .inl ⟨hall, ?_⟩
    simp only [poll, hpoll]
  · have hpoll : poller.pollQueue gate.ready = (some (RuntimeFrame.write envelope),
        (poller.skipping passed.length).giving (RuntimeFrame.write envelope), rest) := by
      rw [hqueue, pollQueue_append hpassed, pollQueue_cons_of_framed hframed]
    refine .inr ⟨envelope, rest, hqueue, ?_, ?_⟩
    · rw [RuntimeFrame.length_write hframed, hframed]
    · simp only [poll, hpoll]

/-- Whatever a region was used for, a poll skips the envelopes that tell the runtime nothing, counts
them, and takes the first that tells it something. Its frame holds that envelope and nothing else,
in as many octets as were reserved; what lies behind them in the region is not written to. The
runtime reads in it what the envelope tells, and a packet's kind as the gate does. Only when no
envelope tells anything is there no frame, and then nothing stays ready and the region is as it
was. -/
theorem poll_reads_back (poller : Poller) (gate : Gate) :
    let (frame, next, left) := poller.poll gate
    ∃ passed, (∀ envelope ∈ passed, ∀ event, ¬ envelope.Tells event) ∧
      next.skipped = poller.skipped + passed.length ∧
      left = { gate with ready := left.ready } ∧
      (frame = none ↔ ∀ envelope ∈ gate.ready, ∀ event, ¬ envelope.Tells event) ∧
      match frame with
      | none => gate.ready = passed ∧ left.ready = [] ∧ next.region = poller.region ∧
          next.delivered = poller.delivered
      | some octets => ∃ envelope event, gate.ready = passed ++ envelope :: left.ready ∧
          envelope.Tells event ∧ octets = RuntimeFrame.write envelope ∧
          RuntimeFrame.size? envelope = some octets.length ∧
          next.region.octets =
            octets ++ (poller.region.reserve octets.length).octets.drop octets.length ∧
          RuntimeEvent.read? octets = some event ∧ event.kind? = envelope.kind? ∧
          next.delivered = poller.delivered + 1 := by
  obtain ⟨passed, hpassed, hpoll⟩ := poller.poll_cases gate
  have hsilent : ∀ envelope ∈ passed, ∀ event, ¬ envelope.Tells event := fun envelope hmem =>
    Envelope.size?_eq_none_iff.1 (hpassed envelope hmem)
  rcases hpoll with ⟨hready, hpoll⟩ | ⟨envelope, rest, hready, hsize, hpoll⟩
  · rw [hpoll]
    refine ⟨passed, hsilent, rfl, rfl, ?_, hready, rfl, rfl, rfl⟩
    rw [hready]
    exact iff_of_true rfl hsilent
  · have hframed : (RuntimeFrame.size? envelope).isSome := hsize ▸ rfl
    obtain ⟨event, hevent⟩ : ∃ event, RuntimeEvent.of? envelope = some event :=
      Option.isSome_iff_exists.1 (RuntimeFrame.size?_isSome envelope ▸ hframed)
    have htells : envelope.Tells event := Envelope.tells_iff.2 hevent
    have hread : RuntimeEvent.read? (RuntimeFrame.write envelope) = some event := by
      rw [RuntimeFrame.read?_write hframed, hevent]
    rw [hpoll]
    refine ⟨passed, hsilent, rfl, rfl, ?_, envelope, event, hready, htells, rfl, hsize,
      Region.hold_octets _ _, hread, htells.kind?_eq, rfl⟩
    rw [hready]
    refine iff_of_false (by simp) fun hnone => ?_
    exact hnone envelope (by simp) event htells

end Poller
end ClusterLink
