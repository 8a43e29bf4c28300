import ClusterLink.Connection.TaskRun
import ClusterLink.Proofs.Connection.Reception
/-!
What a connection has taken of a stream that still grows: the envelopes of the frames it took, and
behind them the rest. Each answer of a receiving call leaves that account in order, and an answer
that ends the reception leaves a rest that no further octets turn into a frame.
-/
namespace ClusterLink

open ClusterLink.Frame

namespace Transport

variable {t u : Transport} {octets : Octets} {cause : String}

/-- As long as the stream is not over, nothing but octets has arrived. -/
def Steady (t : Transport) : Prop :=
  ∃ last, t.Brings last ∧ (t.ended = false → last = .pending)

theorem new_steady : new.Steady := ⟨.pending, rfl, fun _ => rfl⟩

theorem Lead.append {arrivals : List Arrival} (h : Lead false .pending arrivals)
    (hne : octets ≠ []) : Lead false .pending (arrivals ++ [.data octets]) := by
  induction arrivals with
  | nil => exact ⟨hne, rfl⟩
  | cons arrival rest ih =>
    cases arrival with
    | data first => exact ⟨h.1, ih h.2⟩
    | failure cause => cases h.2

theorem Lead.hangUp {arrivals : List Arrival} (h : Lead false .pending arrivals) :
    Lead true (.data []) arrivals := by
  induction arrivals with
  | nil => rfl
  | cons arrival rest ih =>
    cases arrival with
    | data first => exact ⟨h.1, ih h.2⟩
    | failure cause => cases h.2

theorem Lead.breakOff {arrivals : List Arrival} (h : Lead false .pending arrivals)
    (cause : String) : Lead true (.failed cause) (arrivals ++ [.failure cause]) := by
  induction arrivals with
  | nil => exact ⟨rfl, rfl⟩
  | cons arrival rest ih =>
    cases arrival with
    | data first => exact ⟨h.1, ih h.2⟩
    | failure cause => cases h.2

theorem Steady.lead (h : t.Steady) (hended : t.ended = false) :
    Lead false .pending t.arrivals := by
  obtain ⟨last, hbrings, hlast⟩ := h
  rwa [Brings, hended, hlast hended] at hbrings

theorem Steady.feed (h : t.Steady) (octets : Octets) : (t.feed octets).Steady := by
  unfold Transport.feed
  split
  · exact h
  case isFalse hopen =>
    rw [not_or, Bool.not_eq_true] at hopen
    obtain ⟨hended, hne⟩ := hopen
    refine ⟨.pending, ?_, fun _ => rfl⟩
    rw [Brings, arrive, hended]
    exact (h.lead hended).append hne

theorem unread_feed (t : Transport) (octets : Octets) :
    (t.feed octets).unread = t.unread ++ if t.ended then [] else octets := by
  unfold Transport.feed
  cases hended : t.ended with
  | true => simp
  | false =>
    by_cases hempty : octets = []
    · simp [hempty]
    · simp [hempty, arrive, unread]

theorem Steady.hangUp (h : t.Steady) : t.hangUp.Steady := by
  cases hended : t.ended with
  | true =>
    obtain ⟨last, hbrings, -⟩ := h
    rw [Brings, hended] at hbrings
    exact ⟨last, hbrings, fun hopen => nomatch hopen⟩
  | false => exact ⟨.data [], (h.lead hended).hangUp, fun hopen => nomatch hopen⟩

theorem Steady.breakOff (h : t.Steady) (cause : String) : (t.breakOff cause).Steady := by
  unfold Transport.breakOff
  split
  · exact h
  case isFalse hopen =>
    rw [Bool.not_eq_true] at hopen
    exact ⟨.failed cause, (h.lead hopen).breakOff cause, fun hended => nomatch hended⟩

theorem unread_breakOff (t : Transport) (cause : String) :
    (t.breakOff cause).unread = t.unread := by
  unfold Transport.breakOff
  split
  · rfl
  · simp [arrive, Transport.hangUp, unread]

end Transport

namespace Frame

/-- Nothing that may still come turns the rest of a stream into a frame. -/
def IsFinal (ended : Bool) (rest : Octets) : Prop :=
  (ended = true ∧ IsPartial rest) ∨ ∃ e, Refuses rest e

theorem IsFinal.isPartial {ended : Bool} {rest : Octets} (h : IsFinal ended rest) :
    IsPartial rest := by
  obtain ⟨-, hpartial⟩ | ⟨e, hrefuses⟩ := h
  · exact hpartial
  · exact isPartial_of_refuses hrefuses

theorem IsFinal.append {ended ended' : Bool} {rest more : Octets} (h : IsFinal ended rest)
    (hended : ended = true → ended' = true ∧ more = []) : IsFinal ended' (rest ++ more) := by
  obtain ⟨hover, hpartial⟩ | ⟨e, hrefuses⟩ := h
  · obtain ⟨hover, rfl⟩ := hended hover
    exact .inl ⟨hover, by rwa [List.append_nil]⟩
  · exact .inr ⟨e, hrefuses.append more⟩

/-- Every stream falls into whole frames and a partial rest. -/
theorem exists_frames_append (stream : Octets) :
    ∃ bodies rest, (∀ body ∈ bodies, body.length ≤ maxBodySize) ∧
      stream = frames bodies ++ rest ∧ IsPartial rest := by
  induction hlength : stream.length using Nat.strongRecOn generalizing stream with
  | _ length ih =>
    by_cases hpartial : IsPartial stream
    · exact ⟨[], stream, List.forall_mem_nil _, rfl, hpartial⟩
    · simp only [IsPartial, not_forall, Decidable.not_not] at hpartial
      obtain ⟨body, tail, hsize, rfl⟩ := hpartial
      have hless : tail.length < length := by
        rw [← hlength, List.length_append, around, List.length_append, length_header, headerSize]
        omega
      obtain ⟨bodies, rest, hsizes, rfl, hrest⟩ := ih _ hless tail rfl
      refine ⟨body :: bodies, rest, List.forall_mem_cons.2 ⟨hsize, hsizes⟩, ?_, hrest⟩
      rw [frames_cons, List.append_assoc]

end Frame

namespace Connection

open Envelope

variable {c d : Connection} {stream rest more : Octets} {envelopes : List Envelope}

/-- Whole frames with these envelopes were taken off a stream, and the rest is left. -/
def Taken (stream : Octets) (envelopes : List Envelope) (rest : Octets) : Prop :=
  ∃ bodies, (∀ body ∈ bodies, body.length ≤ maxBodySize) ∧ stream = frames bodies ++ rest ∧
    bodies.filterMap decode? = envelopes

theorem Taken.append (h : Taken stream envelopes rest) (more : Octets) :
    Taken (stream ++ more) envelopes (rest ++ more) := by
  obtain ⟨bodies, hsizes, rfl, henvelopes⟩ := h
  exact ⟨bodies, hsizes, List.append_assoc _ _ _, henvelopes⟩

/-- Whatever happens outside, what is left grows with the stream. -/
theorem Taken.onTransport {transport : Transport} (h : Taken stream envelopes c.rest)
    (hunread : transport.unread = c.transport.unread ++ more) :
    Taken (stream ++ more) envelopes { c with transport }.rest := by
  have htaken := h.append more
  rwa [Connection.rest, List.append_assoc, ← hunread] at htaken

theorem Taken.advances {bodies : List Octets} (h : Taken stream envelopes c.rest)
    (hadvances : Advances c bodies d) :
    Taken stream (envelopes ++ bodies.filterMap decode?) d.rest := by
  obtain ⟨before, hsizes, hstream, henvelopes⟩ := h
  refine ⟨before ++ bodies, List.forall_mem_append.2 ⟨hsizes, hadvances.sizes⟩, ?_, ?_⟩
  · rw [hstream, hadvances.rest, frames_append, List.append_assoc]
  · rw [List.filterMap_append, henvelopes]

/-- What was taken comes first among the envelopes of the whole stream. -/
theorem Taken.isPrefix {bodies : List Octets} {tail : Octets} (h : Taken stream envelopes rest)
    (hsizes : ∀ body ∈ bodies, body.length ≤ maxBodySize) (hstream : stream = frames bodies ++ tail)
    (htail : IsPartial tail) : envelopes <+: bodies.filterMap decode? := by
  obtain ⟨taken, htaken, hsplit, rfl⟩ := h
  obtain ⟨more, last, hmore, rfl, hlast⟩ := exists_frames_append rest
  rw [← List.append_assoc, ← frames_append, hstream] at hsplit
  obtain ⟨rfl, -⟩ := frames_append_inj hsizes (List.forall_mem_append.2 ⟨htaken, hmore⟩) htail
    hlast hsplit
  exact ⟨more.filterMap decode?, List.filterMap_append.symm⟩

/-- With a partial rest, all envelopes of the stream were taken. -/
theorem Taken.eq {bodies : List Octets} {tail : Octets} (h : Taken stream envelopes rest)
    (hrest : IsPartial rest) (hsizes : ∀ body ∈ bodies, body.length ≤ maxBodySize)
    (hstream : stream = frames bodies ++ tail) (htail : IsPartial tail) :
    envelopes = bodies.filterMap decode? := by
  obtain ⟨taken, htaken, hsplit, rfl⟩ := h
  obtain ⟨rfl, -⟩ := frames_append_inj hsizes htaken htail hrest (hstream.symm.trans hsplit)
  rfl

/-- A connection that has taken these envelopes off the stream and can take more. -/
structure Hears (stream : Octets) (envelopes : List Envelope) (c : Connection) : Prop where
  taken : Taken stream envelopes c.rest
  sound : c.splitter.Sound
  steady : c.transport.Steady

/-- Receiving neither ends the stream nor writes to it. -/
theorem recv_keeps (c : Connection) :
    c.recv.2.transport.ended = c.transport.ended ∧
      c.recv.2.transport.written = c.transport.written := by
  fun_induction recv c with
  | case1 c envelope d hscan | case2 c e d hscan =>
    have h := scan_transport c
    rw [hscan] at h
    exact h ▸ ⟨rfl, rfl⟩
  | case3 c d hscan transport hread | case4 c d hscan cause transport hread
  | case5 c d hscan transport hread =>
    have h := scan_transport c
    have hrest := Transport.read_keeps d.transport
    rw [hscan] at h
    rw [hread] at hrest
    exact h ▸ hrest
  | case6 c d hscan octets transport hread filled hless ih =>
    have h := scan_transport c
    have hrest := Transport.read_keeps d.transport
    rw [hscan] at h
    rw [hread] at hrest
    exact ⟨ih.1.trans (h ▸ hrest.1), ih.2.trans (h ▸ hrest.2)⟩

/-- The stream is over for the connection, and all envelopes ahead of its end were taken. -/
def Over (stream : Octets) (envelopes : List Envelope) (c : Connection) : Prop :=
  Taken stream envelopes c.rest ∧ IsFinal c.transport.ended c.rest

theorem Over.onTransport {transport : Transport} (h : Over stream envelopes c)
    (hunread : transport.unread = c.transport.unread ++ more)
    (hended : c.transport.ended = true → transport.ended = true ∧ more = []) :
    Over (stream ++ more) envelopes { c with transport } := by
  have hfinal := h.2.append hended
  rw [Connection.rest, List.append_assoc, ← hunread] at hfinal
  exact ⟨h.1.onTransport hunread, hfinal⟩

/-- An answer that ends the reception found no envelope, and no octets behind what was taken or a
header that is refused. -/
theorem Answers.nothing_left {last : ReadOutcome} {answer : Received}
    (h : Answers envelopes d last answer) (hanswer : answer = .ended ∨ ∃ e, answer = .failed e) :
    envelopes = [] ∧ (d.Spent ∧ last ≠ .pending ∨ ∃ e, Refuses d.rest e) := by
  obtain rfl | ⟨e, rfl⟩ := hanswer
  · obtain ⟨hnone, hspent, rfl, -⟩ := h
    exact ⟨hnone, .inl ⟨hspent, nofun⟩⟩
  · cases e with
    | io cause =>
      obtain ⟨hnone, hspent, rfl⟩ := h
      exact ⟨hnone, .inl ⟨hspent, nofun⟩⟩
    | closed =>
      obtain ⟨hnone, hspent, rfl, -⟩ := h
      exact ⟨hnone, .inl ⟨hspent, nofun⟩⟩
    | protocol e =>
      obtain ⟨hnone, hrefuses⟩ := h
      exact ⟨hnone, .inr ⟨e, hrefuses⟩⟩

namespace Hears

theorem onTransport {transport : Transport} (h : Hears stream envelopes c)
    (hunread : transport.unread = c.transport.unread ++ more) (hsteady : transport.Steady) :
    Hears (stream ++ more) envelopes { c with transport } :=
  ⟨h.taken.onTransport hunread, h.sound, hsteady⟩

theorem recv (h : Hears stream envelopes c) : ∃ taken last,
    Taken stream (envelopes ++ taken) c.recv.2.rest ∧ c.recv.2.splitter.Sound ∧
      Answers taken c.recv.2 last c.recv.1 ∧ (c.transport.ended = false → last = .pending) := by
  obtain ⟨last, hbrings, hopen⟩ := h.steady
  obtain ⟨bodies, hadvances, hsound, hanswers⟩ := recv_spec h.sound hbrings
  exact ⟨_, last, h.taken.advances hadvances, hsound, hanswers, hopen⟩

theorem recv_envelope {envelope : Envelope} (h : Hears stream envelopes c)
    (hrecv : c.recv = (.envelope envelope, d)) : Hears stream (envelopes ++ [envelope]) d := by
  obtain ⟨taken, last, htaken, hsound, hanswers, hopen⟩ := h.recv
  have hended := (recv_keeps c).1
  rw [hrecv] at htaken hsound hanswers hended
  obtain ⟨rfl, hbrings⟩ := hanswers
  exact ⟨htaken, hsound, last, hbrings, hended ▸ hopen⟩

/-- A receiving call that waits has taken all that has arrived. -/
theorem recv_pending (h : Hears stream envelopes c) (hrecv : c.recv = (.pending, d)) :
    Hears stream envelopes d ∧ d.Spent := by
  obtain ⟨taken, last, htaken, hsound, hanswers, -⟩ := h.recv
  rw [hrecv] at htaken hsound hanswers
  obtain ⟨rfl, hbrings, hspent, rfl⟩ := hanswers
  rw [List.append_nil] at htaken
  exact ⟨⟨htaken, hsound, .pending, hbrings, fun _ => rfl⟩, hspent⟩

theorem recv_over {answer : Received} (h : Hears stream envelopes c)
    (hrecv : c.recv = (answer, d)) (hanswer : answer = .ended ∨ ∃ e, answer = .failed e) :
    Over stream envelopes d := by
  obtain ⟨taken, last, htaken, hsound, hanswers, hopen⟩ := h.recv
  have hended := (recv_keeps c).1
  rw [hrecv] at htaken hsound hanswers hended
  rw [← hended] at hopen
  obtain ⟨rfl, hfinal⟩ := hanswers.nothing_left hanswer
  rw [List.append_nil] at htaken
  refine ⟨htaken, ?_⟩
  obtain ⟨hspent, hlast⟩ | ⟨e, hrefuses⟩ := hfinal
  · exact .inl ⟨Bool.of_not_eq_false fun hfalse => hlast (hopen hfalse), hspent.isPartial hsound⟩
  · exact .inr ⟨e, hrefuses⟩

end Hears

end Connection
end ClusterLink
