import ClusterLink.Connection.Task
import ClusterLink.Proofs.Connection.Rounds
import ClusterLink.Proofs.Envelope.RoundTrip
import ClusterLink.Proofs.Session.Closing
/-!
What a session sends when it accepts a call. Main statement: `run_sends`, the body of the caller's
own envelope is queued, and reading it gives that envelope. The queue does not look at the size of a
body, the connection does: it writes a body within the limit as one frame and ends over a larger
one.
-/
namespace ClusterLink

open Cbor (Item)

/-! ### Calls -/

section

variable {ρ : Type}

/-- A call was accepted, and this envelope is what the caller asked to send. A command has the id
that it was issued with; the lobby has the empty name. -/
inductive SessionStep.Accepted : SessionStep ρ → SessionAnswer → Envelope → Prop
  | issue (text : String) (issued : Issued) :
    Accepted (.issue text) (.issued (.ok issued)) (.command text issued.id)
  | createGame (preset mode : String) (issued : Issued) :
    Accepted (.createGame preset mode) (.issued (.ok issued))
      (.command s!"creategame {preset} {mode}" issued.id)
  | connectTo (name : String) :
    Accepted (.connectTo name) (.sent (.ok ())) (.connect (if name.isEmpty then "lobby" else name))
  | sendPacket (channel : UInt16) (data : Octets) :
    Accepted (.sendPacket channel data) (.sent (.ok ()))
      (.packet channel data (UInt32.ofNat data.length))
  | disconnect : Accepted .disconnect (.sent (.ok ())) .disconnect
  | sendAuth (kind : AuthKind) (fields : List (String × Item)) :
    Accepted (.sendAuth kind fields) (.sent (.ok ())) (.auth kind fields)

/-- The arguments of a call are within the ranges of an envelope: the octets of a packet are counted
by 32 bits and those of a text by 64, and sign-in fields are well-formed. -/
def SessionStep.InRange : SessionStep ρ → Prop
  | .issue text => (Octets.ofText text).length < UInt64.size
  | .createGame preset mode =>
    (Octets.ofText s!"creategame {preset} {mode}").length < UInt64.size
  | .connectTo name => (Octets.ofText name).length < UInt64.size
  | .sendPacket _ data => data.length < UInt32.size
  | .sendAuth kind fields => (Envelope.auth kind fields).WellFormed
  | _ => True

end

/-! ### Queueing -/

namespace Outbox

variable {outbox : Outbox} {envelope : Envelope} {body : Octets}

/-- The bodies that are queued: first those on the wire, then those that wait for the opening. -/
def queued (outbox : Outbox) : List Octets := outbox.wire.queue ++ outbox.waiting

theorem queued_accept (h : ¬ outbox.Refuses) (body : Octets) :
    (outbox.accept body).queued = outbox.queued ++ [body] := by
  cases hstate : outbox.state with
  | connecting pending => simp [queued, waiting, accept, hstate]
  | opened => simp [queued, waiting, accept, hstate]
  | closed => exact absurd (.inl hstate) h

/-- An envelope is accepted as one body, behind those that are queued. -/
theorem queued_send (h : (outbox.send envelope).1 = .ok ()) : ∃ body,
    envelope.encode = .ok body ∧ (outbox.send envelope).2.queued = outbox.queued ++ [body] := by
  cases hbody : envelope.encode with
  | error cause =>
    rw [send_of_error hbody] at h
    cases h
  | ok body =>
    by_cases hrefuses : outbox.Refuses
    · rw [send_of_refuses hbody hrefuses] at h
      cases h
    · refine ⟨body, rfl, ?_⟩
      rw [send_of_not_refuses hbody hrefuses]
      exact queued_accept hrefuses body

end Outbox

/-- An id that is issued comes from the source. -/
theorem CommandTable.exists_draw_of_issue? {table next : CommandTable} {text : String}
    {issued : Issued} (h : table.issue? text = some (issued, next)) :
    ∃ n, issued.id = table.ids.stream n := by
  unfold issue? at h
  split at h
  · cases h
  · obtain ⟨⟨id, ids⟩, hfresh, hissued⟩ := Option.map_eq_some_iff.1 h
    cases hissued
    obtain ⟨count, -, hid, -⟩ := IdSource.fresh?_first hfresh
    exact ⟨_, hid⟩

namespace Session

variable {ρ : Type} {session : Session ρ}

/-- The body of an envelope is queued, and nothing else, and its command id was drawn. -/
structure Queues (session next : Session ρ) (envelope : Envelope) : Prop where
  drawn : ∀ id ∈ envelope.commandId?, ∃ n, id = session.commands.ids.stream n
  body : ∃ body, envelope.encode = .ok body ∧
    next.outbox.queued = session.outbox.queued ++ [body]

theorem Queues.of_send (envelope : Envelope) (hid : envelope.commandId? = none)
    (h : (session.send envelope).1 = .ok ()) :
    Queues session (session.send envelope).2 envelope where
  drawn := by simp [hid]
  body := Outbox.queued_send h

theorem Queues.of_issue {text : String} {issued : Issued}
    (h : (session.issue text).1 = .ok issued) :
    Queues session (session.issue text).2 (.command text issued.id) := by
  cases hissue : session.commands.issue? text with
  | none =>
    rw [issue_of_none hissue] at h
    cases h
  | some found =>
    obtain ⟨found, commands⟩ := found
    obtain ⟨body, hbody⟩ := hasBody hissue
    by_cases hrefuses : session.outbox.Refuses
    · rw [issue_of_refuses hissue hbody hrefuses] at h
      cases h
    · rw [issue_of_accepting hissue hbody hrefuses] at h ⊢
      cases h
      obtain ⟨-, -, -, henvelope, -⟩ := CommandTable.issue?_eq_some hissue
      refine ⟨?_, body, henvelope ▸ hbody, Outbox.queued_accept hrefuses body⟩
      rintro _ ⟨⟩
      exact CommandTable.exists_draw_of_issue? hissue

variable [GameRuntime ρ]

theorem Queues.of_step {step : SessionStep ρ} {envelope : Envelope}
    (h : step.Accepted (session.step step).1 envelope) :
    Queues session (session.step step).2 envelope := by
  generalize hanswer : (session.step step).1 = answer at h
  cases h with
  | issue text issued => exact .of_issue (SessionAnswer.issued.inj hanswer)
  | createGame preset mode issued => exact .of_issue (SessionAnswer.issued.inj hanswer)
  | connectTo name => exact .of_send (.connect _) rfl (SessionAnswer.sent.inj hanswer)
  | sendPacket channel data => exact .of_send (.packet ..) rfl (SessionAnswer.sent.inj hanswer)
  | disconnect => exact .of_send .disconnect rfl (SessionAnswer.sent.inj hanswer)
  | sendAuth kind fields => exact .of_send (.auth ..) rfl (SessionAnswer.sent.inj hanswer)

end Session

/-! ### Reading back -/

namespace Envelope

/-- An envelope without sign-in fields is well-formed if its command id and its lengths are. -/
theorem wellFormed_of_authFields {envelope : Envelope} (hfields : envelope.authFields = [])
    (hid : ∀ id ∈ envelope.commandId?, id.toNat < commandIdSpace)
    (hlengths : ∀ field ∈ envelope.tags, (Item.text field.1).every Item.lengthFits = true ∧
      field.2.every Item.lengthFits = true) : envelope.WellFormed where
  commandId := hid
  tags := by simp [hfields]
  nesting := by simp [hfields]
  ordinary := by simp [hfields]
  lengths := lengthFits_toItem (by rw [hfields]; decide) hlengths

theorem wellFormed_command {text : String} {id : UInt16} (hid : id.toNat < commandIdSpace)
    (htext : (Octets.ofText text).length < UInt64.size) : (command text id).WellFormed := by
  refine wellFormed_of_authFields rfl (by rintro _ ⟨⟩; exact hid) ?_
  simp only [tags, List.forall_mem_cons]
  exact ⟨⟨rfl, decide_eq_true htext⟩, ⟨rfl, rfl⟩, by simp⟩

/-- The body of a packet is longer than the data that it means. -/
theorem lt_length_write_packet (channel : UInt16) (data : Octets) (length : UInt32) :
    (data.take length.toNat).length <
      (packet channel data length).toItem.write.length := by
  have hhead := Cbor.Head.length_write_pos 2 (data.take length.toNat).length
  simp only [toItem, tags, Item.write, Item.writeEntries, List.map_cons,
    List.length_append]
  omega

end Envelope

/-- What was accepted within range can be carried by a body, as a whole. -/
theorem SessionStep.Accepted.wellFormed {ρ : Type} {step : SessionStep ρ} {answer : SessionAnswer}
    {envelope : Envelope} (h : step.Accepted answer envelope) (hrange : step.InRange)
    (hid : ∀ id ∈ envelope.commandId?, id.toNat < commandIdSpace) :
    envelope.WellFormed ∧ envelope.isOverlong = false ∧ envelope.trimmed = envelope := by
  cases h with
  | issue text issued =>
    exact ⟨Envelope.wellFormed_command (hid _ rfl) hrange, rfl, rfl⟩
  | createGame preset mode issued =>
    exact ⟨Envelope.wellFormed_command (hid _ rfl) hrange, rfl, rfl⟩
  | connectTo name =>
    refine ⟨Envelope.wellFormed_of_authFields rfl hid ?_, rfl, rfl⟩
    simp only [Envelope.tags, List.forall_mem_cons]
    refine ⟨⟨rfl, ?_⟩, by simp⟩
    split
    · rfl
    · exact decide_eq_true hrange
  | sendPacket channel data =>
    have hnat : (UInt32.ofNat data.length).toNat = data.length := UInt32.toNat_ofNat_of_lt' hrange
    have hsize : data.length < UInt64.size := Nat.lt_trans hrange (by decide)
    refine ⟨Envelope.wellFormed_of_authFields rfl hid ?_, ?_, ?_⟩
    · simp only [Envelope.tags, hnat, List.take_length, List.forall_mem_cons]
      exact ⟨⟨rfl, rfl⟩, ⟨rfl, decide_eq_true hsize⟩, ⟨rfl, rfl⟩, by simp⟩
    · simp [Envelope.isOverlong, hnat]
    · simp [Envelope.trimmed, hnat]
  | disconnect =>
    exact ⟨Envelope.wellFormed_of_authFields rfl hid (by simp [Envelope.tags]), rfl, rfl⟩
  | sendAuth kind fields => exact ⟨hrange, rfl, rfl⟩

/-! ### Writing -/

namespace ConnectionTask

variable {task : ConnectionTask} {body : Octets} {rest : List Octets}

/-- A body within the limit is written as one frame, if the stream takes it, and the task goes
on. -/
theorem takeOutbound_of_small (hqueue : task.outbound.queue = body :: rest)
    (hstream : task.connection.transport.writeFailure = none)
    (hsize : body.length ≤ maxBodySize) :
    ∃ connection, task.connection.Sent body connection ∧
      task.takeOutbound = (true, { task with connection, outbound.queue := rest }) := by
  obtain ⟨d, hok, hsent⟩ | ⟨e, hfailed⟩ := task.connection.sendBody_cases body
  · refine ⟨d, hsent, ?_⟩
    simp only [takeOutbound, hqueue, hok]
  · rw [Connection.sendBody, Frame.write_eq hsize] at hfailed
    simp [Transport.write, hstream] at hfailed

/-- The task ends over a body beyond the limit. -/
theorem takeOutbound_of_large (hqueue : task.outbound.queue = body :: rest)
    (hsize : maxBodySize < body.length) :
    let error := ConnectionError.protocol (.messageTooLarge body.length)
    task.takeOutbound = (true,
      stop { task with outbound.queue := rest } s!"Send error: {error.message}") := by
  simp only [takeOutbound, hqueue, Connection.sendBody, Frame.write, if_pos hsize]

end ConnectionTask

namespace Session

variable {ρ : Type} [GameRuntime ρ]

/-- A packet is accepted whatever its size, with a body that is larger still. -/
theorem sendPacket_of_not_refuses {session : Session ρ} (h : ¬ session.outbox.Refuses)
    (channel : UInt16) {data : Octets} (hsize : data.length < UInt32.size) :
    ∃ body, session.step (.sendPacket channel data) =
        (.sent (.ok ()), { session with outbox := session.outbox.accept body }) ∧
      data.length < body.length := by
  have hnat : (UInt32.ofNat data.length).toNat = data.length := UInt32.toNat_ofNat_of_lt' hsize
  have hwithin : (Envelope.wholePacket channel data).isOverlong = false := by
    simp [Envelope.wholePacket, Envelope.isOverlong, hnat]
  have hbody := Envelope.encode_of_not_isOverlong hwithin
  refine ⟨(Envelope.wholePacket channel data).toItem.write, ?_, ?_⟩
  · simp only [step, sendPacket, send, Outbox.send_of_not_refuses hbody h]
    rfl
  · have hlength := Envelope.lt_length_write_packet channel data (UInt32.ofNat data.length)
    rwa [hnat, List.take_length] at hlength

/-- After every run of a session whose ids come from the id space, an accepted call queues one body,
behind those that are queued already: that of the envelope with the caller's own arguments. If these
are in range, the envelope is read from the body. A frame can hold the body exactly if it is within
the limit. Then the connection writes it as one frame, if the stream takes it, and goes on; over a
larger body it ends, although the call was accepted. -/
theorem run_sends (runtime : ρ) (mapChange : PacketKind) (policy : DeferralPolicy)
    (ids : IdSource) (hids : ∀ n, (ids.stream n).toNat < commandIdSpace)
    (steps : List (SessionStep ρ)) (step : SessionStep ρ) (envelope : Envelope) :
    let session := ((Session.new runtime mapChange policy ids).run steps).2
    let (answer, next) := session.step step
    step.Accepted answer envelope →
    ∃ body, envelope.encode = .ok body ∧
      next.outbox.queued = session.outbox.queued ++ [body] ∧
      (step.InRange → Envelope.decode body = .ok envelope) ∧
      ((∃ frame, Frame.write body = .ok frame) ↔ body.length ≤ maxBodySize) ∧
      ∀ task : ConnectionTask, ∀ rest, task.outbound.queue = body :: rest →
        (body.length ≤ maxBodySize → task.connection.transport.writeFailure = none →
          ∃ connection, task.connection.Sent body connection ∧
            task.takeOutbound = (true, { task with connection, outbound.queue := rest })) ∧
        (maxBodySize < body.length →
          let error := ConnectionError.protocol (.messageTooLarge body.length)
          task.takeOutbound = (true,
            ConnectionTask.stop { task with outbound.queue := rest }
              s!"Send error: {error.message}")) := by
  intro session haccepted
  have hstart : (Session.new runtime mapChange policy ids).commands.Consistent :=
    CommandTable.new_consistent ids
  have hstream : session.commands.ids.stream = ids.stream := (run_keeps hstart steps).stream
  obtain ⟨hid, body, hbody, hqueued⟩ := Queues.of_step haccepted
  refine ⟨body, hbody, hqueued, ?_, ?_, ?_⟩
  · intro hrange
    have hbound : ∀ id ∈ envelope.commandId?, id.toNat < commandIdSpace := by
      intro id hmem
      obtain ⟨n, rfl⟩ := hid id hmem
      rw [hstream]
      exact hids n
    obtain ⟨hformed, hwithin, hwhole⟩ := haccepted.wellFormed hrange hbound
    have hread := hformed.legible.decode_write hwithin
    rw [Envelope.encode_of_not_isOverlong hwithin] at hbody
    rwa [Except.ok.inj hbody, hwhole] at hread
  · constructor
    · rintro ⟨frame, hframe⟩
      by_contra hlarge
      rw [Frame.write, if_pos (Nat.lt_of_not_le hlarge)] at hframe
      cases hframe
    · exact fun hsize => ⟨_, Frame.write_eq hsize⟩
  · intro task rest hqueue
    exact ⟨fun hsize hstream => ConnectionTask.takeOutbound_of_small hqueue hstream hsize,
      ConnectionTask.takeOutbound_of_large hqueue⟩

/-- A packet sent behind a joining of the lobby, once the connection is open. -/
theorem run_sends_packet :
    let start := Session.new (CallLog.new true) .mapChange .standard (.ofScript [])
    let session := (start.run [.connectTo "", .handle .opened]).2
    let (answer, next) := session.step (.sendPacket 7 [1, 2, 3])
    answer = .sent (.ok ()) ∧ ∃ body,
      next.outbox.queued = session.outbox.queued ++ [body] ∧
        Envelope.decode body = .ok (.packet 7 [1, 2, 3] 3) := by
  intro start session
  have hids : ∀ n, ((IdSource.ofScript []).stream n).toNat < commandIdSpace := by
    intro n
    simp only [IdSource.ofScript, IdSource.scripted, List.getD_nil, UInt16.toNat_ofNat']
    exact (Nat.mod_le _ _).trans_lt (Nat.mod_lt _ (by decide))
  obtain ⟨body, -, hqueued, hread, -⟩ := run_sends (CallLog.new true) .mapChange .standard
    (.ofScript []) hids [.connectTo "", .handle .opened] (.sendPacket 7 [1, 2, 3])
    (.packet 7 [1, 2, 3] 3) (.sendPacket 7 [1, 2, 3])
  have hrange : [1, 2, 3].length < UInt32.size := by decide
  exact ⟨rfl, body, hqueued, hread hrange⟩

/-- Data of the largest size that a body may have is accepted, but no frame can hold the body. -/
theorem sendPacket_largest :
    ∃ body next, (Session.new (CallLog.new true) .mapChange .standard (.ofScript [])).step
        (.sendPacket 0 (List.replicate maxBodySize 0)) = (.sent (.ok ()), next) ∧
      next.outbox.queued = [body] ∧ Frame.write body = .error (.messageTooLarge body.length) := by
  generalize hsession : Session.new (CallLog.new true) .mapChange .standard (.ofScript []) = session
  have haccepting : ¬ session.outbox.Refuses := by
    rw [← hsession]
    rintro (hclosed | ⟨hopened, -⟩)
    · cases hclosed
    · cases hopened
  have hqueued : session.outbox.queued = [] := by rw [← hsession]; rfl
  have hsize : (List.replicate maxBodySize (0 : UInt8)).length = maxBodySize :=
    List.length_replicate
  obtain ⟨body, hstep, hlarge⟩ := sendPacket_of_not_refuses haccepting 0
    (hsize.trans_lt (by decide))
  rw [hsize] at hlarge
  refine ⟨body, _, hstep, ?_, ?_⟩
  · show (session.outbox.accept body).queued = [body]
    rw [Outbox.queued_accept haccepting, hqueued]
    rfl
  · rw [Frame.write, if_pos hlarge]

end Session
end ClusterLink
