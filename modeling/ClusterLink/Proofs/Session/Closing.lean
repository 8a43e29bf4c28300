import ClusterLink.Proofs.Outbox.Delivery
import ClusterLink.Proofs.Session.Independence
import ClusterLink.Proofs.Session.Responses
/-!
Closing is final for the outbox of a session, and for nothing else: responses still settle their
commands, and frames can still be polled. Main statement: `closed_for_good`.
-/
namespace ClusterLink

/-! ### The outbox -/

namespace Outbox

variable {outbox : Outbox}

/-- What a session does in its outbox with an event. -/
def heed (outbox : Outbox) : ConnectionEvent → Outbox
  | .opened => outbox.connect.2
  | .closed _ => outbox.close
  | .message _ => outbox

theorem close_of_closed (h : outbox.state = .closed) : outbox.close = outbox := by
  rw [close, ← h]

theorem heed_of_closed (h : outbox.state = .closed) (event : ConnectionEvent) :
    outbox.heed event = outbox := by
  cases event with
  | opened => rw [heed, connect_of_closed h]
  | message envelope => rfl
  | closed reason => exact close_of_closed h

/-- No event opens a closed outbox. -/
theorem foldl_heed_of_closed (h : outbox.state = .closed) (events : List ConnectionEvent) :
    events.foldl heed outbox = outbox := by
  induction events with
  | nil => rfl
  | cons event events ih => rw [List.foldl_cons, heed_of_closed h, ih]

theorem foldl_heed_closes {events : List ConnectionEvent} {reason : String}
    (h : .closed reason ∈ events) : (events.foldl heed outbox).state = .closed := by
  induction events generalizing outbox with
  | nil => cases h
  | cons event events ih =>
    rw [List.foldl_cons]
    rcases List.mem_cons.1 h with rfl | hlater
    · have hclosed : (outbox.heed (.closed reason)).state = .closed := rfl
      rw [foldl_heed_of_closed hclosed, hclosed]
    · exact ih hlater

theorem send_of_closed (h : outbox.state = .closed) (envelope : Envelope) :
    (outbox.send envelope).2 = outbox := by
  cases hbody : envelope.encode with
  | error cause => rw [send_of_error hbody]
  | ok body => rw [send_of_refuses hbody (.inl h), close_of_closed h]

/-- A closed outbox takes no envelope that has a body. -/
theorem send_outcome_of_closed (h : outbox.state = .closed) {envelope : Envelope}
    (hbody : ∃ body, envelope.encode = .ok body) :
    (outbox.send envelope).1 = .error .connectionClosed := by
  obtain ⟨body, hbody⟩ := hbody
  rw [send_of_refuses hbody (.inl h)]

end Outbox

/-- When the table is given up, the tickets without a result get one, and no others do. -/
theorem CommandTable.abandon_result? (table : CommandTable) {ticket : Ticket}
    (h : ticket < table.results.length) : table.abandon.result? ticket =
      some ((table.result? ticket).getD (.error .connectionClosed)) := by
  have hget : table.results[ticket]? = some table.results[ticket] := List.getElem?_eq_getElem h
  rw [result?, result?, abandon, List.getElem?_map, hget]
  cases table.results[ticket] with
  | none => rfl
  | some result => rfl

theorem Envelope.encode_wholePacket (channel : UInt16) (data : Octets) :
    ∃ body, (wholePacket channel data).encode = .ok body := by
  have hlength : ¬ data.length < (UInt32.ofNat data.length).toNat := by
    rw [Nat.not_lt, UInt32.toNat_ofNat']
    exact Nat.mod_le _ _
  exact ⟨_, if_neg hlength⟩

namespace Session

variable {ρ : Type} {session : Session ρ}

theorem issue_outbox_of_closed (h : session.outbox.state = .closed) (text : String) :
    (session.issue text).2.outbox = session.outbox := by
  unfold issue
  split
  · rfl
  · next issued commands _ =>
    have hsend := Outbox.send_of_closed h issued.envelope
    rcases hoffer : session.outbox.send issued.envelope with ⟨_ | _, outbox⟩
    · rw [hoffer] at hsend
      exact hsend
    · rw [hoffer] at hsend
      exact hsend

section

variable [GameRuntime ρ]

theorem handle_outbox (session : Session ρ) (event : ConnectionEvent) :
    (session.handle event).outbox = session.outbox.heed event := by
  cases event with
  | message envelope => cases envelope <;> rfl
  | opened | closed => rfl

theorem foldl_handle_outbox (session : Session ρ) (events : List ConnectionEvent) :
    (events.foldl handle session).outbox = events.foldl Outbox.heed session.outbox :=
  (List.foldl_hom Session.outbox fun session event => (session.handle_outbox event).symm).symm

theorem pump_outbox (session : Session ρ) :
    session.pump.2.outbox = session.inbox.queue.foldl Outbox.heed session.outbox :=
  foldl_handle_outbox _ _

theorem processNext_outbox (session : Session ρ) :
    session.processNext.2.outbox =
      (session.inbox.queue.take 1).foldl Outbox.heed session.outbox := by
  rw [processNext_eq, foldl_handle_outbox]

/-- A step that hears a closing closes the outbox. -/
theorem step_closes {step : SessionStep ρ} {reason : String}
    (h : .closed reason ∈ session.heard step) : (session.step step).2.outbox.state = .closed := by
  cases step with
  | handle event =>
    have hevent : ConnectionEvent.closed reason = event := List.mem_singleton.1 h
    rw [← hevent]
    rfl
  | pump | poll =>
    show session.pump.2.outbox.state = .closed
    rw [pump_outbox]
    exact Outbox.foldl_heed_closes h
  | processNext =>
    show session.processNext.2.outbox.state = .closed
    rw [processNext_outbox]
    exact Outbox.foldl_heed_closes h
  | _ => cases h

/-- A step leaves a closed outbox as it is, but for what is on the wire already. -/
theorem step_of_closed (h : session.outbox.state = .closed) (step : SessionStep ρ) :
    (session.step step).2.outbox.state = .closed ∧
      (session.step step).2.outbox.writtenSince session.outbox = [] := by
  -- only the two steps at the other end of the outbox touch it, and they take from it
  have hsame {next : Session ρ} (hnext : next.outbox = session.outbox) :
      next.outbox.state = .closed ∧ next.outbox.writtenSince session.outbox = [] := by
    rw [hnext]
    exact ⟨h, Outbox.writtenSince_eq (List.append_nil _).symm⟩
  cases step with
  | collect => exact ⟨h, Outbox.writtenSince_of_empty rfl⟩
  | dropReceiver => exact ⟨h, Outbox.writtenSince_of_empty rfl⟩
  | handle event =>
    apply hsame
    exact (session.handle_outbox event).trans (Outbox.heed_of_closed h event)
  | pump | poll =>
    apply hsame
    exact session.pump_outbox.trans (Outbox.foldl_heed_of_closed h _)
  | processNext =>
    apply hsame
    exact session.processNext_outbox.trans (Outbox.foldl_heed_of_closed h _)
  | issue text => exact hsame (issue_outbox_of_closed h text)
  | createGame preset mode => exact hsame (issue_outbox_of_closed h _)
  | connectTo name =>
    exact hsame (Outbox.send_of_closed h (.connect (if name.isEmpty then "lobby" else name)))
  | sendPacket channel data => exact hsame (Outbox.send_of_closed h (.wholePacket channel data))
  | disconnect => exact hsame (Outbox.send_of_closed h .disconnect)
  | sendAuth kind fields => exact hsame (Outbox.send_of_closed h (.auth kind fields))
  | _ => exact hsame rfl

theorem run_of_closed (h : session.outbox.state = .closed) (steps : List (SessionStep ρ)) :
    (session.run steps).2.outbox.state = .closed ∧ session.writtenAll steps = [] := by
  induction steps generalizing session with
  | nil => exact ⟨h, rfl⟩
  | cons step rest ih =>
    obtain ⟨hstate, hnothing⟩ := step_of_closed h step
    obtain ⟨hlast, hwritten⟩ := ih hstate
    refine ⟨hlast, ?_⟩
    rw [writtenAll, hnothing, hwritten]
    rfl

theorem run_closes {steps : List (SessionStep ρ)} {reason : String}
    (h : .closed reason ∈ session.heardAll steps) :
    (session.run steps).2.outbox.state = .closed := by
  induction steps generalizing session with
  | nil => cases h
  | cons step rest ih =>
    rcases List.mem_append.1 h with hnow | hlater
    · exact (run_of_closed (step_closes hnow) rest).1
    · exact ih hlater

/-! ### The reason -/

theorem foldl_handle_closeReason (session : Session ρ) (events : List ConnectionEvent) :
    (events.foldl handle session).closeReason =
      (events.filterMap ConnectionEvent.closing?).getLast?.or session.closeReason := by
  rw [foldl_handle]
  rfl

theorem step_closeReason (session : Session ρ) (step : SessionStep ρ) :
    (session.step step).2.closeReason =
      ((session.heard step).filterMap ConnectionEvent.closing?).getLast?.or
        session.closeReason := by
  cases step with
  | handle event => exact foldl_handle_closeReason session [event]
  | pump | poll => exact foldl_handle_closeReason _ _
  | processNext =>
    show session.processNext.2.closeReason = _
    rw [processNext_eq, foldl_handle_closeReason]
    rfl
  | issue text =>
    obtain ⟨commands, outbox, hissue⟩ := session.issue_rest text
    show (session.issue text).2.closeReason = _
    rw [hissue]
    rfl
  | createGame preset mode =>
    obtain ⟨commands, outbox, hissue⟩ := session.issue_rest s!"creategame {preset} {mode}"
    show (session.issue s!"creategame {preset} {mode}").2.closeReason = _
    rw [hissue]
    rfl
  | _ => rfl

/-- The reason is that of the last closing that was heard. -/
theorem run_closeReason (session : Session ρ) (steps : List (SessionStep ρ)) :
    (session.run steps).2.closeReason =
      ((session.heardAll steps).filterMap ConnectionEvent.closing?).getLast?.or
        session.closeReason := by
  induction steps generalizing session with
  | nil => rfl
  | cons step rest ih =>
    rw [run_cons, ih, step_closeReason, heardAll, List.filterMap_append, List.getLast?_append,
      Option.or_assoc]

/-! ### The game -/

/-- If no event is gone, the whole run remains. -/
theorem remaining_of_none_gone (session : Session ρ) (steps : List (SessionStep ρ)) :
    session.remaining (fun _ => false) steps = steps := by
  induction steps generalizing session with
  | nil => rfl
  | cons step rest ih =>
    have hkept : session.bears (fun _ => false) step = false := by
      cases step with
      | processNext =>
        show session.inbox.queue.head?.any (fun _ => false) = false
        cases session.inbox.queue.head? <;> rfl
      | _ => rfl
    rw [remaining_cons_kept hkept, ih]

/-- Whatever comes behind a closing, the game goes on as if it had not been. -/
theorem run_closing_game (session : Session ρ) (reason : String) (steps : List (SessionStep ρ)) :
    let (answers, final) := session.run steps
    let (answers', final') := (session.handle (.closed reason)).run steps
    answers'.filter (·.isPolled) = answers.filter (·.isPolled) ∧
      final'.gate = final.gate ∧ final'.poller = final.poller := by
  -- a closing changes nothing that the game reads: this is the agreement of two runs with none of
  -- the events gone
  have agreement : Agreement (fun _ => false)
      (GameAgrees (fun _ => false) : Session ρ → Session ρ → Prop) := gameAgreement nofun
  have hinbox : session.inbox.without (fun _ => false) = session.inbox := by
    simp [Channel.without]
  have hstart : GameAgrees (fun _ => false) session (session.handle (.closed reason)) :=
    ⟨hinbox.symm, rfl, rfl⟩
  obtain ⟨hfinal, hanswers, -⟩ := run_remaining agreement rfl (fun _ => rfl)
    (fun step h hkept => h.matches_step agreement step hkept) hstart steps
  rw [remaining_of_none_gone] at hfinal hanswers
  exact ⟨hanswers, hfinal.gate, hfinal.poller⟩

/-! ### All of it -/

omit [GameRuntime ρ] in
/-- What an issue comes to once the outbox is closed. -/
theorem issue_outcome_of_closed (hc : session.commands.Consistent)
    (h : session.outbox.state = .closed) (text : String) (hstalls : ¬ session.commands.Stalls) :
    (session.issue text).1 =
      if session.commands.outstanding.length = commandIdSpace then
        .error (.exhausted commandIdSpace)
      else .error .connectionClosed := by
  rcases issue_cases hc text with ⟨hnone, hissue⟩ | ⟨hroom, ⟨-, next, hissue, -⟩ |
    ⟨issued, next, -, hissues⟩⟩
  · have hfull : session.commands.outstanding.length = commandIdSpace :=
      Nat.le_antisymm hc.room (hnone.resolve_right hstalls)
    rw [hissue, hfull, if_pos rfl]
  · rw [hissue, if_neg (Nat.ne_of_lt hroom)]
  · exact absurd (.inl h) hissues.accepting

/-- Once a closing was heard, a session stays closed, with the reason of the last one heard; nothing
waits any more and nothing is written again, whatever is done and whatever arrives; every send
fails, and so does every issue that comes back, as every issue does with a fair source of ids. A
closing leaves commands and the game as they are: behind it a response still settles its command,
and polls give what they would have given. When the table is given up, exactly the commands without
a result get one, that the connection was closed. -/
theorem closed_for_good (runtime : ρ) (mapChange : PacketKind) (policy : DeferralPolicy)
    (ids : IdSource) (steps : List (SessionStep ρ)) (reason : String)
    (h : .closed reason ∈ (Session.new runtime mapChange policy ids).heardAll steps) :
    let start := Session.new runtime mapChange policy ids
    let session := (start.run steps).2
    (session.isClosed = true ∧ session.closeReason =
      ((start.heardAll steps).filterMap ConnectionEvent.closing?).getLast?) ∧
    (session.outbox.waiting = [] ∧ ∀ more,
      (session.run more).2.outbox.state = .closed ∧ session.writtenAll more = []) ∧
    ((∀ name, (session.connectTo name).1 = .error .connectionClosed) ∧
      (∀ channel data, (session.sendPacket channel data).1 = .error .connectionClosed) ∧
      session.disconnect.1 = .error .connectionClosed ∧
      (∀ kind fields, (session.sendAuth kind fields).1 = .error .connectionClosed) ∧
      (∀ text, ¬ session.commands.Stalls → (session.issue text).1 =
        if session.commands.outstanding.length = commandIdSpace then
          .error (.exhausted commandIdSpace)
        else .error .connectionClosed) ∧
      (ids.Fair → ¬ session.commands.Stalls)) ∧
    (∀ id ticket, (id, ticket) ∈ session.commands.outstanding → ∀ more,
      (session.run more).2.commands.result? ticket =
        (session.heardAll more).findSome? (·.result? id)) ∧
    (∀ ticket < session.commands.results.length, session.commands.abandon.result? ticket =
      some ((session.commands.result? ticket).getD (.error .connectionClosed))) ∧
    ∀ (any : Session ρ) cause, (any.handle (.closed cause)).commands = any.commands ∧ ∀ more,
      let (answers, final) := any.run more
      let (answers', final') := (any.handle (.closed cause)).run more
      answers'.filter (·.isPolled) = answers.filter (·.isPolled) ∧
        final'.gate = final.gate ∧ final'.poller = final.poller := by
  intro start session
  have hstart : start.commands.Consistent := CommandTable.new_consistent ids
  have hconsistent : session.commands.Consistent := (run_keeps hstart steps).consistent
  have hclosed : session.outbox.state = .closed := run_closes h
  have hreason : session.closeReason =
      ((start.heardAll steps).filterMap ConnectionEvent.closing?).getLast? :=
    (start.run_closeReason steps).trans (Option.or_none)
  have hsend {envelope : Envelope} (hbody : ∃ body, envelope.encode = .ok body) :
      (session.send envelope).1 = .error .connectionClosed :=
    Outbox.send_outcome_of_closed hclosed hbody
  refine ⟨⟨?_, hreason⟩, ⟨?_, run_of_closed hclosed⟩, ⟨?_, ?_, ?_, ?_, ?_, ?_⟩,
    ?_, ?_, ?_⟩
  · have hmem : reason ∈ (start.heardAll steps).filterMap ConnectionEvent.closing? :=
      List.mem_filterMap.2 ⟨_, h, rfl⟩
    rw [isClosed, hreason, List.getLast?_isSome]
    exact List.ne_nil_of_mem hmem
  · rw [Outbox.waiting, hclosed]
  · intro name
    exact hsend ⟨_, rfl⟩
  · intro channel data
    exact hsend (Envelope.encode_wholePacket channel data)
  · exact hsend ⟨_, rfl⟩
  · intro kind fields
    exact hsend ⟨_, rfl⟩
  · intro text hstalls
    exact issue_outcome_of_closed hconsistent hclosed text hstalls
  · intro hfair
    exact run_not_stalls hstart hfair steps
  · intro id ticket hmem more
    exact run_result? hconsistent hmem more
  · intro ticket hticket
    exact session.commands.abandon_result? hticket
  · intro any cause
    exact ⟨rfl, any.run_closing_game cause⟩

/-- An opening that comes behind the closing does not write what waited. -/
theorem closed_for_good_reopened :
    let start := Session.new (CallLog.new true) .mapChange .standard (.ofScript [])
    let steps : List (SessionStep CallLog) := [.disconnect, .deliver (.closed "gone"), .pump]
    let session := (start.run steps).2
    .closed "gone" ∈ start.heardAll steps ∧ session.isClosed = true ∧
      session.writtenAll [.handle .opened, .disconnect] = [] ∧
      (session.connectTo "arena").1 = .error .connectionClosed ∧
      (session.issue "status").1 = .error .connectionClosed := by
  intro start steps session
  have hheard : .closed "gone" ∈ start.heardAll steps := List.mem_cons_self
  obtain ⟨⟨hclosed, -⟩, ⟨-, hwritten⟩, ⟨hconnect, -, -, -, hissue, hstalls⟩, -⟩ :=
    closed_for_good (CallLog.new true) .mapChange .standard (.ofScript []) steps "gone" hheard
  have hroom : session.commands.outstanding.length ≠ commandIdSpace := by decide
  have hissue := hissue "status" (hstalls (IdSource.scripted_fair [] 0))
  exact ⟨hheard, hclosed, (hwritten _).2, hconnect "arena", hissue.trans (if_neg hroom)⟩

end

end Session
end ClusterLink
