import ClusterLink.Connection.Run
import ClusterLink.Proofs.Connection.Framing
import Mathlib.Data.List.Basic
/-!
What a connection makes of its stream: the envelopes in the frames, in order, and then an answer
that depends on the partial frame behind them and on what the stream brings last, however it is cut
into reads.
-/
namespace ClusterLink

namespace Transport

variable {t u : Transport}

/-- The octets that are still to be read. -/
def unread (t : Transport) : Octets :=
  t.arrivals.flatMap fun
    | .data octets => octets
    | .failure _ => []

@[simp] theorem unread_finished (chunks : List Octets) :
    (finished chunks).unread = chunks.flatten := by
  simp [unread, finished, List.flatMap_map, List.flatMap_id']

/-- Chunks of octets arrive, and `last` is what a read finds behind them. -/
def Lead (ended : Bool) (last : ReadOutcome) : List Arrival → Prop
  | [] => last = if ended then .data [] else .pending
  | .data octets :: rest => octets ≠ [] ∧ Lead ended last rest
  | .failure cause :: rest => rest = [] ∧ last = .failed cause

/-- Reads bring octets and then `last`. -/
def Brings (t : Transport) (last : ReadOutcome) : Prop := Lead t.ended last t.arrivals

/-- Behind all octets there is nothing but the end to be read. -/
theorem Brings.of_data {octets : Octets} (h : t.Brings (.data octets)) :
    octets = [] ∧ t.ended = true := by
  unfold Brings at h
  generalize t.arrivals = arrivals at h
  induction arrivals with
  | nil =>
    unfold Lead at h
    split at h
    case isTrue hended => exact ⟨by simpa using h, hended⟩
    case isFalse => cases h
  | cons arrival rest ih =>
    cases arrival with
    | data octets => exact ih h.2
    | failure cause => cases h.2

theorem finished_brings {chunks : List Octets} (h : [] ∉ chunks) :
    (finished chunks).Brings (.data []) := by
  unfold Brings finished
  induction chunks with
  | nil => rfl
  | cons octets chunks ih =>
    rw [List.mem_cons, not_or] at h
    exact ⟨Ne.symm h.1, ih h.2⟩

/-- A read brings octets as long as there are any, and then what is behind them. -/
theorem Brings.read {last : ReadOutcome} (h : t.Brings last) :
    (t.unread = [] ∧ t.read.1 = last ∧ t.read.2.unread = []) ∨
      ∃ octets u, octets ≠ [] ∧ t.read = (.data octets, u) ∧ t.unread = octets ++ u.unread ∧
        u.Brings last := by
  unfold Brings at h
  cases harrivals : t.arrivals with
  | nil =>
    rw [harrivals] at h
    refine .inl ⟨by simp [unread, harrivals], ?_, by simp [Transport.read, unread, harrivals]⟩
    simp [Transport.read, harrivals, Eq.symm h]
  | cons arrival rest =>
    rw [harrivals] at h
    cases arrival with
    | failure cause =>
      obtain ⟨rfl, rfl⟩ := h
      exact .inl ⟨by simp [unread, harrivals], by simp [Transport.read, harrivals],
        by simp [Transport.read, unread, harrivals]⟩
    | data octets =>
      obtain ⟨hne, hrest⟩ := h
      have htake : octets.take readLimit ≠ [] := by
        cases octets with
        | nil => exact absurd rfl hne
        | cons octet octets => simp [readLimit]
      have hunread : t.unread = octets.take readLimit ++
          (octets.drop readLimit ++ unread { t with arrivals := rest }) := by
        rw [← List.append_assoc, List.take_append_drop, unread, harrivals, List.flatMap_cons]
        rfl
      by_cases hleft : octets.drop readLimit = []
      · refine .inr ⟨octets.take readLimit, { t with arrivals := rest }, htake, ?_, ?_, hrest⟩
        · simp [Transport.read, harrivals, hleft]
        · rw [hunread, hleft, List.nil_append]
      · refine .inr ⟨octets.take readLimit,
          { t with arrivals := .data (octets.drop readLimit) :: rest }, htake, ?_, hunread,
          hleft, hrest⟩
        simp [Transport.read, harrivals, hleft]

theorem read_pending (h : t.read = (.pending, u)) : u = t := by
  unfold Transport.read at h
  split at h
  · cases h
  · cases h
  · exact (Prod.mk.inj h).2.symm

/-- Reading neither ends the stream nor writes to it. -/
theorem read_keeps (t : Transport) :
    t.read.2.ended = t.ended ∧ t.read.2.written = t.written := by
  unfold Transport.read
  split <;> exact ⟨rfl, rfl⟩

end Transport
namespace Envelope

/-- The envelope in a body, if it holds one. -/
def decode? (body : Octets) : Option Envelope := (decode body).toOption

/-- A body that holds no envelope costs no more than itself. -/
theorem decode_error_not_fatal {body : Octets} {e : CodecError} (h : decode body = .error e) :
    e.fatal = false := by
  unfold decode at h
  split at h
  · cases h
    rfl
  case h_2 item tail hread =>
    cases hitem : ofItem item with
    | ok envelope =>
      rw [hitem] at h
      cases h
    | error cause =>
      rw [hitem] at h
      cases h
      rfl

end Envelope

namespace Connection

open ClusterLink.Frame Envelope

variable {b c d : Connection} {bodies more : List Octets}

/-- What is left of the stream, taken from it or not. -/
def rest (c : Connection) : Octets := c.splitter.rest ++ c.transport.unread

@[simp] theorem rest_new (transport : Transport) : (new transport).rest = transport.unread := by
  simp [Connection.rest, new, Splitter.new, Splitter.rest]

theorem new_sound (transport : Transport) : (new transport).splitter.Sound := by
  simp [new, Splitter.new, Splitter.Sound]

/-- The way from one state of a connection to a later one takes frames off the stream, and counts
the octets that it reads, the envelopes among the bodies and the bodies that hold none. -/
structure Advances (c : Connection) (bodies : List Octets) (d : Connection) : Prop where
  rest : c.rest = frames bodies ++ d.rest
  sizes : ∀ body ∈ bodies, body.length ≤ maxBodySize
  received : d.traffic.messagesReceived =
    c.traffic.messagesReceived + (bodies.filterMap decode?).length
  dropped : d.traffic.messagesDropped + (bodies.filterMap decode?).length =
    c.traffic.messagesDropped + bodies.length
  read : d.traffic.bytesReceived + d.transport.unread.length =
    c.traffic.bytesReceived + c.transport.unread.length

namespace Advances

theorem trans (h : Advances b bodies c) (h' : Advances c more d) :
    Advances b (bodies ++ more) d where
  rest := by rw [h.rest, h'.rest, frames_append, List.append_assoc]
  sizes := List.forall_mem_append.2 ⟨h.sizes, h'.sizes⟩
  received := by
    rw [h'.received, h.received, List.filterMap_append, List.length_append, Nat.add_assoc]
  dropped := by
    have hfirst := h.dropped
    have hsecond := h'.dropped
    rw [List.filterMap_append, List.length_append, List.length_append]
    omega
  read := h'.read.trans h.read

/-- Moving on in the splitter without taking a body. -/
theorem of_splitter {splitter : Splitter} (h : splitter.rest = c.splitter.rest) :
    Advances c [] { c with splitter } := by
  refine ⟨?_, by simp, rfl, rfl, rfl⟩
  rw [Connection.rest, Connection.rest, h]
  rfl

theorem of_accept {transport : Transport} {octets : Octets}
    (h : c.transport.unread = octets ++ transport.unread) :
    Advances c [] (c.accept transport octets) where
  rest := by
    rw [Connection.rest, Connection.rest, accept, Splitter.rest_push, h, List.append_assoc]
    rfl
  sizes := by simp
  received := rfl
  dropped := rfl
  read := by
    rw [h, List.length_append]
    exact Nat.add_assoc _ _ _

/-- Taking a body and counting it as what it is. -/
theorem of_body {splitter : Splitter} {traffic : Traffic} {body : Octets}
    (hrest : c.splitter.rest = around body ++ splitter.rest) (hsize : body.length ≤ maxBodySize)
    (hreceived : traffic.messagesReceived =
      c.traffic.messagesReceived + ([body].filterMap decode?).length)
    (hdropped : traffic.messagesDropped + ([body].filterMap decode?).length =
      c.traffic.messagesDropped + 1)
    (hread : traffic.bytesReceived = c.traffic.bytesReceived) :
    Advances c [body] { c with splitter, traffic } where
  rest := by
    rw [Connection.rest, hrest, List.append_assoc]
    simp [frames, Connection.rest]
  sizes := by simpa using hsize
  received := hreceived
  dropped := hdropped
  read := by rw [hread]

end Advances

/-- What a scan makes of the envelopes that it met, and how it leaves the splitter. -/
def Scanned (envelopes : List Envelope) (splitter : Splitter) :
    Option (Except CodecError Envelope) → Prop
  | none => envelopes = [] ∧ splitter.Waits
  | some (.ok envelope) => envelopes = [envelope]
  | some (.error e) => envelopes = [] ∧ Refuses splitter.rest e

theorem scan_spec (hsound : c.splitter.Sound) :
    ∃ bodies, Advances c bodies c.scan.2 ∧ c.scan.2.splitter.Sound ∧
      Scanned (bodies.filterMap decode?) c.scan.2.splitter c.scan.1 := by
  fun_induction scan c with
  | case1 c e splitter hnext =>
    obtain ⟨rfl, hrefuses⟩ := Splitter.next_error hsound hnext
    exact ⟨[], .of_splitter rfl, hsound, rfl, hrefuses⟩
  | case2 c splitter hnext =>
    obtain ⟨hrest, hsound, hwaits⟩ := Splitter.next_none hsound hnext
    exact ⟨[], .of_splitter hrest, hsound, rfl, hwaits⟩
  | case3 c body splitter hnext hless envelope hdecode =>
    obtain ⟨hrest, hsize, hsound⟩ := Splitter.next_some hsound hnext
    have htaken : [body].filterMap decode? = [envelope] := by
      simp [decode?, hdecode, Except.toOption]
    exact ⟨[body], .of_body hrest hsize (by rw [htaken]; rfl) (by rw [htaken]; rfl) rfl,
      hsound, htaken⟩
  | case4 c body splitter hnext hless e hdecode hfatal =>
    rw [decode_error_not_fatal hdecode] at hfatal
    cases hfatal
  | case5 c body splitter hnext hless e hdecode hfatal ih =>
    obtain ⟨hrest, hsize, hsound⟩ := Splitter.next_some hsound hnext
    obtain ⟨bodies, hadvances, hlast, hscanned⟩ := ih hsound
    have hskipped : [body].filterMap decode? = [] := by
      simp [decode?, hdecode, Except.toOption]
    have hfirst : Advances c [body] { c with
        splitter
        traffic := { c.traffic with messagesDropped := c.traffic.messagesDropped + 1 } } :=
      .of_body hrest hsize (by rw [hskipped]; rfl) (by rw [hskipped]; rfl) rfl
    refine ⟨[body] ++ bodies, hfirst.trans hadvances, hlast, ?_⟩
    rwa [List.filterMap_append, hskipped]

/-- All that has arrived is taken, up to a partial frame. -/
def Spent (d : Connection) : Prop := d.transport.unread = [] ∧ d.splitter.Waits

theorem Spent.rest (h : d.Spent) : d.rest = d.splitter.rest := by
  rw [Connection.rest, h.1, List.append_nil]

theorem Spent.isPartial (h : d.Spent) (hsound : d.splitter.Sound) : IsPartial d.rest := by
  rw [h.rest]
  exact h.2.isPartial hsound

/-- What an answer says of the envelopes that were met, of the connection behind it and of what the
stream brings last. -/
def Answers (envelopes : List Envelope) (d : Connection) (last : ReadOutcome) : Received → Prop
  | .envelope envelope => envelopes = [envelope] ∧ d.transport.Brings last
  | .pending => envelopes = [] ∧ d.transport.Brings last ∧ d.Spent ∧ last = .pending
  | .ended => envelopes = [] ∧ d.Spent ∧ last = .data [] ∧ d.splitter.buffer.size = 0
  | .failed .closed => envelopes = [] ∧ d.Spent ∧ last = .data [] ∧ d.splitter.buffer.size ≠ 0
  | .failed (.io cause) => envelopes = [] ∧ d.Spent ∧ last = .failed cause
  | .failed (.protocol e) => envelopes = [] ∧ Refuses d.rest e

section Recv

variable {last : ReadOutcome}

/-- A scan that finds no envelope leaves the connection to its next read. -/
theorem scan_none (hsound : c.splitter.Sound) (hbrings : c.transport.Brings last)
    (h : c.scan = (none, d)) :
    ∃ bodies, Advances c bodies d ∧ d.splitter.Sound ∧ d.transport.Brings last ∧
      bodies.filterMap decode? = [] ∧ d.splitter.Waits := by
  have htransport := scan_transport c
  obtain ⟨bodies, hadvances, hlast, hnone, hwaits⟩ := h ▸ scan_spec hsound
  rw [h] at htransport
  exact ⟨bodies, hadvances, hlast, htransport ▸ hbrings, hnone, hwaits⟩

/-- Moving on in the stream without bringing octets. -/
theorem Advances.of_transport {transport : Transport} (h : transport.unread = c.transport.unread) :
    Advances c [] { c with transport } where
  rest := by simp [Connection.rest, h, frames]
  sizes := by simp
  received := rfl
  dropped := rfl
  read := by rw [h]

theorem recv_spec (hsound : c.splitter.Sound) (hbrings : c.transport.Brings last) :
    ∃ bodies, Advances c bodies c.recv.2 ∧ c.recv.2.splitter.Sound ∧
      Answers (bodies.filterMap decode?) c.recv.2 last c.recv.1 := by
  fun_induction recv c with
  | case1 c envelope d hscan =>
    have htransport := scan_transport c
    have hspec := scan_spec hsound
    rw [hscan] at hspec htransport
    obtain ⟨bodies, hadvances, hlast, htaken⟩ := hspec
    exact ⟨bodies, hadvances, hlast, htaken, htransport ▸ hbrings⟩
  | case2 c e d hscan =>
    obtain ⟨bodies, hadvances, hlast, hnone, hrefuses⟩ := hscan ▸ scan_spec hsound
    exact ⟨bodies, hadvances, hlast, hnone, hrefuses.append _⟩
  | case3 c d hscan transport hread =>
    obtain ⟨bodies, hadvances, hnext, hmore, hnone, hwaits⟩ := scan_none hsound hbrings hscan
    obtain rfl := Transport.read_pending hread
    obtain ⟨hunread, hend, -⟩ | ⟨octets, u, -, hdata, -⟩ := hmore.read
    · rw [hread] at hend
      exact ⟨bodies, hadvances, hnext, hnone, hmore, ⟨hunread, hwaits⟩, hend.symm⟩
    · cases hread.symm.trans hdata
  | case4 c d hscan cause transport hread =>
    obtain ⟨bodies, hadvances, hnext, hmore, hnone, hwaits⟩ := scan_none hsound hbrings hscan
    obtain ⟨hunread, hend, hempty⟩ | ⟨octets, u, -, hdata, -⟩ := hmore.read
    · rw [hread] at hend hempty
      have hstep : Advances d [] { d with transport } := .of_transport (hempty.trans hunread.symm)
      exact ⟨bodies ++ [], hadvances.trans hstep, hnext, by simpa using hnone, ⟨hempty, hwaits⟩,
        hend.symm⟩
    · cases hread.symm.trans hdata
  | case5 c d hscan transport hread =>
    obtain ⟨bodies, hadvances, hnext, hmore, hnone, hwaits⟩ := scan_none hsound hbrings hscan
    obtain ⟨hunread, hend, hempty⟩ | ⟨octets, u, hne, hdata, -⟩ := hmore.read
    · rw [hread] at hend hempty
      have hstep : Advances d [] { d with transport } := .of_transport (hempty.trans hunread.symm)
      refine ⟨bodies ++ [], hadvances.trans hstep, hnext, ?_⟩
      rw [List.append_nil, hnone]
      split
      case isTrue hsize => exact ⟨rfl, ⟨hempty, hwaits⟩, hend.symm, hsize⟩
      case isFalse hsize => exact ⟨rfl, ⟨hempty, hwaits⟩, hend.symm, hsize⟩
    · cases hread.symm.trans hdata
      exact absurd rfl hne
  | case6 c d hscan octets transport hread filled hless ih =>
    obtain ⟨bodies, hadvances, hnext, hmore, hnone, -⟩ := scan_none hsound hbrings hscan
    obtain ⟨-, rfl, -⟩ | ⟨octets, u, -, hdata, hunread, hbehind⟩ := hmore.read
    · rw [hread] at hmore
      exact absurd hmore.of_data.1 filled
    · cases hread.symm.trans hdata
      obtain ⟨more, hlater, hlast, hanswers⟩ := ih hnext hbehind
      refine ⟨bodies ++ ([] ++ more), hadvances.trans ((Advances.of_accept hunread).trans hlater),
        hlast, ?_⟩
      rwa [List.nil_append, List.filterMap_append, hnone]

/-- A row of receiving calls takes the envelopes of whole frames, and stops at what is no frame. -/
theorem receiveAll_spec (hsound : c.splitter.Sound) (hbrings : c.transport.Brings last) :
    ∃ bodies, Advances c bodies c.receiveAll.connection ∧
      c.receiveAll.connection.splitter.Sound ∧
      bodies.filterMap decode? = c.receiveAll.envelopes ∧
      Answers [] c.receiveAll.connection last c.receiveAll.answer := by
  fun_induction receiveAll c with
  | case1 c envelope d hrecv hless rest ih =>
    obtain ⟨bodies, hadvances, hnext, hfirst, hmore⟩ := hrecv ▸ recv_spec hsound hbrings
    obtain ⟨more, hmore, hlast, henvelopes, hanswers⟩ := ih hnext hmore
    refine ⟨bodies ++ more, hadvances.trans hmore, hlast, ?_, hanswers⟩
    rw [List.filterMap_append, henvelopes, hfirst]
    rfl
  | case2 c answer d hnot hrecv =>
    obtain ⟨bodies, hadvances, hlast, hanswers⟩ := hrecv ▸ recv_spec hsound hbrings
    have hnone : bodies.filterMap decode? = [] := by
      cases answer with
      | envelope envelope => exact absurd rfl (hnot envelope)
      | ended => exact hanswers.1
      | pending => exact hanswers.1
      | failed e => cases e <;> exact hanswers.1
    exact ⟨bodies, hadvances, hlast, hnone, hnone ▸ hanswers⟩

end Recv

end Connection
end ClusterLink
