import ClusterLink.Proofs.Session.Handling
import ClusterLink.Session.Inquiry
/-!
An inquiry whose response has been handled may still be lost: as long as its rounds take events
first, it handles what lies behind the response, and an end of the connection there overtakes the
response. The rounds decide, and nothing else does.
-/
namespace ClusterLink

namespace Session

variable {ρ : Type} [GameRuntime ρ]

/-- The table of a session in which one command was issued, with the first id of its source. -/
def firstIssue (ids : IdSource) : CommandTable :=
  ⟨ids.advance 1, [(ids.stream ids.draws, 0)], [none]⟩

omit [GameRuntime ρ] in
/-- A new session sends its first command. -/
theorem issue_new (runtime : ρ) (mapChange : PacketKind) (policy : DeferralPolicy)
    (ids : IdSource) (text : String) :
    ∃ session, (new runtime mapChange policy ids).issue text =
        (.ok ⟨ids.stream ids.draws, 0, .command text (ids.stream ids.draws)⟩, session) ∧
      session.commands = firstIssue ids ∧ session.closeReason = none := by
  have hissue : (CommandTable.new ids).issue? text =
      some (⟨ids.stream ids.draws, 0, .command text (ids.stream ids.draws)⟩, firstIssue ids) := by
    have hroom : 0 < commandIdSpace := by decide
    refine CommandTable.issue?_of_first text 0 hroom ?_ rfl List.not_mem_nil
    exact fun k hk => absurd hk (Nat.not_lt_zero k)
  unfold issue
  simp only [new, hissue]
  exact ⟨_, rfl, rfl, rfl⟩

end Session

namespace Inquiry

open CommandTable

variable {ρ : Type} [GameRuntime ρ] {inquiry : Inquiry ρ} {ticket : Ticket}
  {events before after more : List ConnectionEvent} {event : ConnectionEvent} {sending : Bool}
  {table : CommandTable} {choices : List Awaited} {result : CommandResult}

/-- How many events can be handled before the one at which the connection is found closed, and the
reason that is then known. Without a sender this is behind the last event. -/
def closing? (sending : Bool) : List ConnectionEvent → Option (Nat × Option String)
  | [] => if sending then none else some (0, none)
  | event :: rest =>
    match event.closing? with
    | some reason => some (0, some reason)
    | none => (closing? sending rest).map fun (count, reason) => (count + 1, reason)

/-- An inquiry that still runs, with these events before it. -/
structure Stands (inquiry : Inquiry ρ) (ticket : Ticket) (events : List ConnectionEvent)
    (sending : Bool) (table : CommandTable) : Prop where
  ticket : inquiry.ticket = ticket
  inbox : inquiry.session.inbox = ⟨events, sending, true⟩
  opened : inquiry.session.closeReason = none
  commands : inquiry.session.commands = table

namespace Stands

omit [GameRuntime ρ] in
theorem takeResponse (h : inquiry.Stands ticket events sending table) :
    inquiry.takeResponse = (table.result? ticket).map .answered := by
  rw [Inquiry.takeResponse, h.ticket, h.commands]

theorem takeEvent_nil (h : inquiry.Stands ticket [] sending table) :
    inquiry.takeEvent = if sending then none else some (.inl (.lost none)) := by
  unfold Inquiry.takeEvent Session.processNext
  cases sending <;> simp [h.inbox, h.opened]

/-- The next event is handled, and the inquiry goes on with the others or is lost. -/
theorem takeEvent_cons (h : inquiry.Stands ticket (event :: more) sending table) :
    match event.closing? with
    | some reason => inquiry.takeEvent = some (.inl (.lost (some reason)))
    | none => ∃ next : Inquiry ρ, inquiry.takeEvent = some (.inr next) ∧
        next.Stands ticket more sending (table.heed event) := by
  have hqueue : inquiry.session.inbox.queue = event :: more := by rw [h.inbox]
  generalize hsession : Session.handle { inquiry.session with
    inbox := { inquiry.session.inbox with queue := more } } event = session
  have hreason : session.closeReason = event.closing? := by
    rw [← hsession, Session.handle_closeReason, h.opened, Option.or_none]
  have hinbox : session.inbox = ⟨more, sending, true⟩ := by
    rw [← hsession, Session.handle_inbox, h.inbox]
  have hcommands : session.commands = table.heed event := by
    rw [← hsession, Session.handle_commands, h.commands]
  have htaken : inquiry.takeEvent =
      if session.isClosed then some (.inl (.lost session.closeReason))
      else some (.inr { inquiry with session }) := by
    simp only [Inquiry.takeEvent, Session.processNext, hqueue, hsession]
  rw [htaken, Session.isClosed, hreason]
  cases hclosing : event.closing? with
  | some reason => rfl
  | none => exact ⟨_, rfl, h.ticket, hinbox, hreason.trans hclosing, hcommands⟩

end Stands

/-! ### Runs -/

/-- Without its response an inquiry handles the next event, whatever the round takes first. -/
theorem run_event (h : inquiry.Stands ticket (event :: more) sending table)
    (hopen : table.result? ticket = none) (hclosing : event.closing? = none) (first : Awaited)
    (rest : List Awaited) :
    ∃ next : Inquiry ρ, next.Stands ticket more sending (table.heed event) ∧
      inquiry.run (first :: rest) = next.run rest := by
  have hevent := h.takeEvent_cons
  rw [hclosing] at hevent
  obtain ⟨next, htaken, hnext⟩ := hevent
  have hstep : inquiry.step first = some (.inr next) := by
    cases first <;> simp [step, h.takeResponse, hopen, htaken]
  exact ⟨next, hnext, by rw [run, hstep]⟩

/-- Events that are no response to it only take up rounds of an inquiry. -/
theorem run_waiting (h : inquiry.Stands ticket (before ++ more) sending table)
    (hopen : table.result? ticket = none)
    (hbefore : ∀ event ∈ before, event.closing? = none ∧ table.heed event = table)
    (henough : before.length ≤ choices.length) :
    ∃ next : Inquiry ρ, next.Stands ticket more sending table ∧
      inquiry.run choices = next.run (choices.drop before.length) := by
  induction before generalizing inquiry choices with
  | nil => exact ⟨inquiry, h, rfl⟩
  | cons event before ih =>
    match choices, henough with
    | first :: rest, henough =>
      obtain ⟨⟨hclosing, hheed⟩, hothers⟩ := List.forall_mem_cons.1 hbefore
      obtain ⟨next, hnext, hrun⟩ := run_event h hopen hclosing first rest
      rw [hheed] at hnext
      obtain ⟨last, hlast, hothers⟩ := ih hnext hothers (Nat.le_of_succ_le_succ henough)
      exact ⟨last, hlast, hrun.trans hothers⟩

/-- The end of an inquiry whose result is there, if the connection is found closed after this many
further events: it is lost exactly if all rounds up to there take events first. -/
def endOf (result : CommandResult) (closing : Option (Nat × Option String))
    (choices : List Awaited) : InquiryEnd :=
  match closing with
  | some (count, reason) =>
    if choices.take (count + 1) = List.replicate (count + 1) .event then .lost reason
    else .answered result
  | none => .answered result

theorem endOf_response (result : CommandResult) (closing : Option (Nat × Option String))
    (rest : List Awaited) : endOf result closing (.response :: rest) = .answered result := by
  cases closing with
  | none => rfl
  | some found =>
    obtain ⟨count, reason⟩ := found
    simp [endOf, List.replicate_succ]

theorem endOf_event (result : CommandResult) (closing : Option (Nat × Option String))
    (rest : List Awaited) :
    endOf result (closing.map fun (count, reason) => (count + 1, reason)) (.event :: rest) =
      endOf result closing rest := by
  cases closing with
  | none => rfl
  | some found => simp [endOf, List.replicate_succ]

/-- With its response handled, an inquiry ends by what its further rounds take first. -/
theorem run_settled (h : inquiry.Stands ticket after sending table)
    (hresult : table.result? ticket = some result)
    (hafter : ∀ event ∈ after, table.heed event = table)
    (henough : after.length < choices.length) :
    inquiry.run choices = .inl (endOf result (closing? sending after) choices) := by
  have htaken : inquiry.takeResponse = some (.answered result) := by
    rw [h.takeResponse, hresult, Option.map_some]
  induction after generalizing inquiry choices with
  | nil =>
    match choices, henough with
    | .response :: rest, _ => rw [endOf_response, run, step, htaken]
    | .event :: rest, _ =>
      rw [run, step, h.takeEvent_nil, htaken]
      cases sending <;> rfl
  | cons event after ih =>
    match choices, henough with
    | .response :: rest, _ => rw [endOf_response, run, step, htaken]
    | .event :: rest, henough =>
      have hevent := h.takeEvent_cons
      rw [hafter event List.mem_cons_self] at hevent
      rw [run, step, closing?]
      cases hclosing : event.closing? with
      | some reason =>
        rw [hclosing] at hevent
        rw [hevent]
        rfl
      | none =>
        rw [hclosing] at hevent
        obtain ⟨next, hnext, hstands⟩ := hevent
        rw [hnext, endOf_event]
        refine ih hstands (List.forall_mem_cons.1 hafter).2 (Nat.lt_of_succ_lt_succ henough) ?_
        rw [hstands.takeResponse, hresult, Option.map_some]

/-! ### The first command of a session -/

theorem heed_firstIssue (ids : IdSource) (payload : String) (success : Bool) :
    (Session.firstIssue ids).heed
      (.message (.serverResponse (ids.stream ids.draws) payload success)) =
      ⟨ids.advance 1, [], [some (responseResult payload success)]⟩ := by
  cases success <;>
    simp [CommandTable.heed, Session.firstIssue, resolve, settle?, responseResult]

/-- The inquiry about the first command, with the response to it among the events. -/
theorem run_firstIssue (ids : IdSource) (payload : String) (success : Bool)
    (h : inquiry.Stands 0 (before ++ .message (.serverResponse (ids.stream ids.draws) payload
      success) :: after) sending (Session.firstIssue ids))
    (hbefore : ∀ event ∈ before,
      event.closing? = none ∧ event.answers (ids.stream ids.draws) = false)
    (henough : before.length + after.length + 1 < choices.length) :
    inquiry.run choices = .inl (endOf (responseResult payload success) (closing? sending after)
      (choices.drop (before.length + 1))) := by
  have hopen : (Session.firstIssue ids).result? 0 = none := rfl
  have hothers : ∀ event ∈ before, event.closing? = none ∧
      (Session.firstIssue ids).heed event = Session.firstIssue ids := by
    intro event hevent
    obtain ⟨hclosing, hanswers⟩ := hbefore event hevent
    refine ⟨hclosing, heed_eq_self ?_⟩
    simpa [outstandingIds, Session.firstIssue] using hanswers
  have hrounds : before.length ≤ choices.length := by omega
  obtain ⟨next, hnext, hwaiting⟩ := run_waiting h hopen hothers hrounds
  obtain ⟨last, hlast, hresponse⟩ := run_event hnext hopen rfl choices[before.length]
    (choices.drop (before.length + 1))
  rw [heed_firstIssue] at hlast
  rw [hwaiting, List.drop_eq_getElem_cons (by omega), hresponse]
  refine run_settled hlast rfl (fun event _ => heed_eq_self (by simp [outstandingIds])) ?_
  rw [List.length_drop]
  omega

/-- The first command of a session is sent, and when its response comes before anything closes the
connection, its inquiry ends with the response, or it is lost although it was answered: that is
exactly if its rounds take events first from the one behind the response up to the end of the
connection. -/
theorem first_command_end (runtime : ρ) (mapChange : PacketKind) (policy : DeferralPolicy)
    (ids : IdSource) (text payload : String) (success sending : Bool)
    (before after : List ConnectionEvent) (choices : List Awaited)
    (hbefore : ∀ event ∈ before,
      event.closing? = none ∧ event.answers (ids.stream ids.draws) = false)
    (henough : before.length + after.length + 1 < choices.length) :
    ∃ issued session, (Session.new runtime mapChange policy ids).issue text =
        (.ok issued, session) ∧
      issued.id = ids.stream ids.draws ∧ issued.envelope = .command text issued.id ∧
      let response := ConnectionEvent.message (.serverResponse issued.id payload success)
      let inbox := ⟨before ++ response :: after, sending, true⟩
      run ⟨{ session with inbox }, issued.ticket⟩ choices =
        .inl (endOf (responseResult payload success) (closing? sending after)
          (choices.drop (before.length + 1))) := by
  obtain ⟨session, hissue, hcommands, hopened⟩ :=
    Session.issue_new runtime mapChange policy ids text
  exact ⟨_, session, hissue, rfl, rfl,
    run_firstIssue ids payload success ⟨rfl, rfl, hopened, hcommands⟩ hbefore henough⟩

/-- The choice behind the response is for it. -/
theorem first_command_answered :
    ∃ issued session, (Session.new (CallLog.new true) .mapChange .standard (.ofScript [7])).issue
        "ping" = (.ok issued, session) ∧ issued.id = 7 ∧
      let response := ConnectionEvent.message (.serverResponse issued.id "pong" true)
      let inbox := ⟨[.opened, response, .closed "bye"], false, true⟩
      run ⟨{ session with inbox }, issued.ticket⟩ [.event, .event, .response, .event] =
        .inl (.answered (.ok "pong")) := by
  obtain ⟨issued, session, hissue, hid, -, hrun⟩ := first_command_end (CallLog.new true) .mapChange
    .standard (.ofScript [7]) "ping" "pong" true false [.opened] [.closed "bye"]
    [.event, .event, .response, .event] (by decide) (by decide)
  exact ⟨issued, session, hissue, hid, hrun⟩

/-- The response is handled first, and the inquiry is lost. -/
theorem first_command_lost :
    ∃ issued session, (Session.new (CallLog.new true) .mapChange .standard (.ofScript [7])).issue
        "ping" = (.ok issued, session) ∧
      let response := ConnectionEvent.message (.serverResponse issued.id "pong" true)
      let inbox := ⟨[response, .closed "bye"], false, true⟩
      run ⟨{ session with inbox }, issued.ticket⟩ [.event, .event, .event] =
        .inl (.lost (some "bye")) := by
  obtain ⟨session, hissue, hcommands, hopened⟩ :=
    Session.issue_new (CallLog.new true) .mapChange .standard (.ofScript [7]) "ping"
  refine ⟨_, session, hissue, ?_⟩
  intro response inbox
  have hstands : Stands ⟨{ session with inbox }, 0⟩ 0 ([] ++ response :: [.closed "bye"]) false
      (Session.firstIssue (.ofScript [7])) := ⟨rfl, rfl, hopened, hcommands⟩
  exact run_firstIssue (.ofScript [7]) "pong" true hstands (List.forall_mem_nil _) (by decide)

end Inquiry
end ClusterLink
