import ClusterLink.Proofs.Session.Dispatch
import ClusterLink.Session.Run
/-!
Events can be left out of a run without any effect on the parts of the session that they do not
concern: what does not concern the gate is not seen in the game, and what concerns nothing but the
gate is only seen there.
-/
namespace ClusterLink

namespace ConnectionEvent

/-- The kinds of events that do not concern the gate. -/
def avoidsGate : ConnectionEvent → Bool
  | .message (.info ..) | .message (.serverResponse ..) | .message (.auth ..)
  | .message (.chat ..) | .opened | .closed _ => true
  | _ => false

/-- The kinds of events that concern nothing but the gate. -/
def gateOnly : ConnectionEvent → Bool
  | .message (.packet ..) | .message (.serverDisconnected ..) | .message (.connect ..)
  | .message .disconnect | .message (.command ..) => true
  | _ => false

theorem gateStep?_of_avoidsGate {event : ConnectionEvent} (h : event.avoidsGate = true) :
    event.gateStep? = none := by
  cases event with
  | message envelope =>
    cases envelope with
    | info | serverResponse | auth | chat => rfl
    | _ => cases h
  | opened | closed => rfl

/-- An event that concerns nothing but the gate. -/
structure Spares (event : ConnectionEvent) : Prop where
  outbox : event.outboxStep? = none
  commands : event.commandStep? = none
  batch : event.batch? = none
  observation : event.observation? = none
  closing : event.closing? = none

theorem spares_of_gateOnly {event : ConnectionEvent} (h : event.gateOnly = true) :
    event.Spares := by
  cases event with
  | message envelope =>
    cases envelope with
    | packet | serverDisconnected | connect | disconnect | command =>
      exact ⟨rfl, rfl, rfl, rfl, rfl⟩
    | _ => cases h
  | opened | closed => cases h

end ConnectionEvent

/-- A frame was asked for. -/
def SessionAnswer.isPolled : SessionAnswer → Bool
  | .polled _ => true
  | _ => false

/-- Something was done outside the game. -/
def SessionAnswer.isControl : SessionAnswer → Bool
  | .collected _ | .replayed _ | .issued _ | .sent _ => true
  | _ => false

/-- An inbox without the events that are gone. -/
def Channel.without (gone : ConnectionEvent → Bool) (inbox : Channel ConnectionEvent) :
    Channel ConnectionEvent :=
  { inbox with queue := inbox.queue.filter fun event => !gone event }

theorem filterMap_without {β : Type} {gone : ConnectionEvent → Bool}
    {f : ConnectionEvent → Option β} (h : ∀ event, gone event = true → f event = none)
    (events : List ConnectionEvent) :
    (events.filter fun event => !gone event).filterMap f = events.filterMap f := by
  rw [List.filterMap_filter]
  apply List.filterMap_congr
  intro event _
  cases hgone : gone event with
  | true => exact (h event hgone).symm
  | false => rfl

/-! ### Agreement -/

namespace Session

variable {ρ : Type} {gone : ConnectionEvent → Bool} {session other : Session ρ}

def without (gone : ConnectionEvent → Bool) (session : Session ρ) : Session ρ :=
  { session with inbox := session.inbox.without gone }

/-- Two sessions agree on the game, and on the events to come that are not gone. -/
structure GameAgrees (gone : ConnectionEvent → Bool) (session other : Session ρ) : Prop where
  inbox : other.inbox = session.inbox.without gone
  gate : other.gate = session.gate
  poller : other.poller = session.poller

/-- Two sessions agree on all but the game, and on the events to come that are not gone. -/
structure RestAgrees (gone : ConnectionEvent → Bool) (session other : Session ρ) : Prop where
  inbox : other.inbox = session.inbox.without gone
  outbox : other.outbox = session.outbox
  commands : other.commands = session.commands
  roster : other.roster = session.roster
  runtime : other.runtime = session.runtime
  observed : other.observed = session.observed
  closeReason : other.closeReason = session.closeReason

theorem issue_rest (session : Session ρ) (text : String) :
    ∃ commands outbox, (session.issue text).2 = { session with commands, outbox } := by
  unfold issue
  split
  · exact ⟨session.commands, session.outbox, rfl⟩
  · split
    · exact ⟨_, _, rfl⟩
    · exact ⟨_, _, rfl⟩

theorem GameAgrees.issue (h : GameAgrees gone session other) (text : String) :
    GameAgrees gone (session.issue text).2 (other.issue text).2 := by
  obtain ⟨commands, outbox, hissue⟩ := session.issue_rest text
  obtain ⟨commands', outbox', hissue'⟩ := other.issue_rest text
  rw [hissue, hissue']
  exact ⟨h.inbox, h.gate, h.poller⟩

/-- An issue only uses the command table and the outbox. -/
theorem RestAgrees.issue (h : RestAgrees gone session other) (text : String) :
    (other.issue text).1 = (session.issue text).1 ∧
      RestAgrees gone (session.issue text).2 (other.issue text).2 := by
  unfold Session.issue
  rw [h.commands, h.outbox]
  cases session.commands.issue? text with
  | none => exact ⟨rfl, h⟩
  | some found =>
    obtain ⟨issued, commands⟩ := found
    dsimp only
    rcases session.outbox.send issued.envelope with ⟨cause | sent, outbox⟩
    · exact ⟨rfl, h.inbox, rfl, rfl, h.roster, h.runtime, h.observed, h.closeReason⟩
    · exact ⟨rfl, h.inbox, rfl, rfl, h.roster, h.runtime, h.observed, h.closeReason⟩

/-- A send only uses the outbox. -/
theorem RestAgrees.send (h : RestAgrees gone session other) (envelope : Envelope) :
    (other.send envelope).1 = (session.send envelope).1 ∧
      RestAgrees gone (session.send envelope).2 (other.send envelope).2 := by
  have hsend : other.outbox.send envelope = session.outbox.send envelope := by rw [h.outbox]
  refine ⟨?_, h.inbox, ?_, h.commands, h.roster, h.runtime, h.observed, h.closeReason⟩
  · exact congrArg (·.1) hsend
  · exact congrArg (·.2) hsend

/-- Two sessions go on to agree, with answers that are the same or are not seen. -/
structure Matches (seen : SessionAnswer → Bool) (Agrees : Session ρ → Session ρ → Prop)
    (result result' : SessionAnswer × Session ρ) : Prop where
  next : Agrees result.2 result'.2
  answer : result'.1 = result.1 ∨ seen result.1 = false ∧ seen result'.1 = false

theorem RestAgrees.matches_issue (h : RestAgrees gone session other) (text : String) :
    Matches SessionAnswer.isControl (RestAgrees gone) ((session.issue text).map .issued id)
      ((other.issue text).map .issued id) :=
  ⟨(h.issue text).2, .inl (congrArg SessionAnswer.issued (h.issue text).1)⟩

theorem RestAgrees.matches_send (h : RestAgrees gone session other) (envelope : Envelope) :
    Matches SessionAnswer.isControl (RestAgrees gone) ((session.send envelope).map .sent id)
      ((other.send envelope).map .sent id) :=
  ⟨(h.send envelope).2, .inl (congrArg SessionAnswer.sent (h.send envelope).1)⟩

/-! ### What remains of a run -/

section

variable {step : SessionStep ρ}

/-- Whether a step only delivers or handles an event that is gone. -/
def bears (gone : ConnectionEvent → Bool) (session : Session ρ) : SessionStep ρ → Bool
  | .deliver event | .handle event => gone event
  | .processNext => session.inbox.queue.head?.any gone
  | _ => false

theorem heard_gone (hbears : session.bears gone step = true) :
    (session.heard step).filter (fun event => !gone event) = [] := by
  cases step with
  | deliver event => rfl
  | handle event => simpa [heard, bears] using hbears
  | processNext =>
    cases hqueue : session.inbox.queue with
    | nil => simp [heard, hqueue]
    | cons event rest => simpa [heard, bears, hqueue] using hbears
  | _ => cases hbears

theorem heard_kept (hinbox : other.inbox = session.inbox.without gone)
    (hkept : session.bears gone step = false) :
    other.heard step = (session.heard step).filter fun event => !gone event := by
  cases step with
  | handle event =>
    have hevent : gone event = false := hkept
    simp [heard, hevent]
  | pump | poll =>
    show other.inbox.queue = _
    rw [hinbox]
    rfl
  | processNext =>
    cases hqueue : session.inbox.queue with
    | nil => simp [heard, hinbox, Channel.without, hqueue]
    | cons event rest =>
      have hevent : gone event = false := by simpa [bears, hqueue] using hkept
      simp [heard, hinbox, Channel.without, hqueue, hevent]
  | _ => rfl

end

section

variable [GameRuntime ρ] {step : SessionStep ρ} {event : ConnectionEvent}

/-- The steps of a run that remain when events are left out. -/
def remaining (gone : ConnectionEvent → Bool) (session : Session ρ) :
    List (SessionStep ρ) → List (SessionStep ρ)
  | [] => []
  | step :: rest =>
    let later := (session.step step).2.remaining gone rest
    if session.bears gone step then later else step :: later

theorem remaining_cons_gone (hbears : session.bears gone step = true)
    (rest : List (SessionStep ρ)) :
    session.remaining gone (step :: rest) = (session.step step).2.remaining gone rest := by
  simp only [remaining, hbears, if_true]

theorem remaining_cons_kept (hkept : session.bears gone step = false)
    (rest : List (SessionStep ρ)) :
    session.remaining gone (step :: rest) = step :: (session.step step).2.remaining gone rest := by
  simp only [remaining, hkept, Bool.false_eq_true, if_false]

/-! ### Agreement that does not depend on what is gone -/

/-- A relation between two sessions that does not depend on the events that are gone. -/
structure Agreement (gone : ConnectionEvent → Bool) (Agrees : Session ρ → Session ρ → Prop) :
    Prop where
  inbox : ∀ {session other}, Agrees session other → other.inbox = session.inbox.without gone
  setInbox : ∀ {session other}, Agrees session other → ∀ inbox,
    Agrees { session with inbox } { other with inbox := inbox.without gone }
  runtimeReady : ∀ {session other}, Agrees session other →
    Agrees session.runtimeReady.2 other.runtimeReady.2
  routed : ∀ {session other}, Agrees session other → ∀ events,
    Agrees (session.routed events) (other.routed (events.filter fun event => !gone event))

namespace Agreement

variable {Agrees : Session ρ → Session ρ → Prop}

theorem deliver_gone (agreement : Agreement gone Agrees) (h : Agrees session other)
    (hgone : gone event = true) : Agrees (session.deliver event) other := by
  have hsame : ((session.inbox.send? event).getD session.inbox).without gone =
      session.inbox.without gone := by
    unfold Channel.send?
    split
    · simp [Channel.without, hgone]
    · rfl
  have hset := agreement.setInbox h ((session.inbox.send? event).getD session.inbox)
  rwa [hsame, ← agreement.inbox h] at hset

theorem deliver_kept (agreement : Agreement gone Agrees) (h : Agrees session other)
    (hkept : gone event = false) : Agrees (session.deliver event) (other.deliver event) := by
  have hsame : ((session.inbox.send? event).getD session.inbox).without gone =
      (other.inbox.send? event).getD other.inbox := by
    rw [agreement.inbox h]
    cases hreceiving : session.inbox.receiving <;>
      simp [Channel.send?, Channel.without, hreceiving, hkept]
  have hset := agreement.setInbox h ((session.inbox.send? event).getD session.inbox)
  rwa [hsame] at hset

theorem handle_gone (agreement : Agreement gone Agrees) (h : Agrees session other)
    (hgone : gone event = true) : Agrees (session.handle event) other := by
  have hrouted := agreement.routed h [event]
  rwa [List.filter_cons_of_neg (by simp [hgone]), List.filter_nil, routed_nil,
    ← handle_eq_routed] at hrouted

theorem handle_kept (agreement : Agreement gone Agrees) (h : Agrees session other)
    (hkept : gone event = false) : Agrees (session.handle event) (other.handle event) := by
  have hrouted := agreement.routed h [event]
  rwa [List.filter_cons_of_pos (by simp [hkept]), List.filter_nil, ← handle_eq_routed,
    ← handle_eq_routed] at hrouted

theorem pump (agreement : Agreement gone Agrees) (h : Agrees session other) :
    Agrees session.pump.2 other.pump.2 := by
  have hempty : other.inbox.takeAll.2 = session.inbox.takeAll.2.without gone := by
    rw [agreement.inbox h]
    rfl
  have hqueue : other.inbox.queue = session.inbox.queue.filter fun event => !gone event := by
    rw [agreement.inbox h]
    rfl
  have hset := agreement.setInbox (agreement.runtimeReady h) session.inbox.takeAll.2
  rw [← hempty] at hset
  have hrouted := agreement.routed hset session.inbox.queue
  rw [← hqueue, ← foldl_handle, ← foldl_handle] at hrouted
  exact hrouted

theorem processNext_gone (agreement : Agreement gone Agrees) (h : Agrees session other)
    (hgone : session.bears gone .processNext = true) :
    Agrees session.processNext.2 other := by
  unfold processNext
  cases hqueue : session.inbox.queue with
  | nil => simp [bears, hqueue] at hgone
  | cons event rest =>
    have hevent : gone event = true := by simpa [bears, hqueue] using hgone
    have hset := agreement.setInbox h { session.inbox with queue := rest }
    have hsame : Channel.without gone { session.inbox with queue := rest } =
        session.inbox.without gone := by
      simp [Channel.without, hqueue, hevent]
    rw [hsame, ← agreement.inbox h] at hset
    exact agreement.handle_gone hset hevent

theorem processNext_kept (agreement : Agreement gone Agrees) (h : Agrees session other)
    (hkept : session.bears gone .processNext = false) :
    Agrees session.processNext.2 other.processNext.2 := by
  have hinbox := agreement.inbox h
  unfold Session.processNext
  cases hqueue : session.inbox.queue with
  | nil =>
    have hother : other.inbox.queue = [] := by simp [hinbox, Channel.without, hqueue]
    rw [hother]
    exact h
  | cons event rest =>
    have hevent : gone event = false := by simpa [bears, hqueue] using hkept
    have hother : other.inbox.queue = event :: rest.filter fun event => !gone event := by
      simp [hinbox, Channel.without, hqueue, hevent]
    have hset := agreement.setInbox h { session.inbox with queue := rest }
    rw [hother]
    show Agrees (Session.handle _ event) (Session.handle _ event)
    apply agreement.handle_kept _ hevent
    rw [hinbox]
    exact hset

/-- A step that bears only what is gone does not disturb the agreement. -/
theorem bears (agreement : Agreement gone Agrees) (h : Agrees session other)
    (hbears : session.bears gone step = true) : Agrees (session.step step).2 other := by
  cases step with
  | deliver event => exact agreement.deliver_gone h hbears
  | handle event => exact agreement.handle_gone h hbears
  | processNext => exact agreement.processNext_gone h hbears
  | _ => cases hbears

end Agreement

/-- A run and what remains of it agree, if every step that remains goes on to agree. -/
theorem run_remaining {Agrees : Session ρ → Session ρ → Prop} {seen : SessionAnswer → Bool}
    (agreement : Agreement gone Agrees)
    (hdone : seen .done = false) (hprogressed : ∀ progress, seen (.progressed progress) = false)
    (hkept : ∀ {session other} step, Agrees session other → session.bears gone step = false →
      Matches seen Agrees (session.step step) (other.step step))
    (h : Agrees session other) (steps : List (SessionStep ρ)) :
    Agrees (session.run steps).2 (other.run (session.remaining gone steps)).2 ∧
      (other.run (session.remaining gone steps)).1.filter seen =
        (session.run steps).1.filter seen ∧
      other.heardAll (session.remaining gone steps) =
        (session.heardAll steps).filter fun event => !gone event := by
  induction steps generalizing session other with
  | nil => exact ⟨h, rfl, rfl⟩
  | cons step rest ih =>
    cases hbears : session.bears gone step with
    | true =>
      have hunseen : seen (session.step step).1 = false := by
        cases step with
        | deliver | handle => exact hdone
        | processNext => exact hprogressed _
        | _ => cases hbears
      rw [remaining_cons_gone hbears, run_cons, List.filter_cons_of_neg (by simp [hunseen]),
        heardAll, List.filter_append, heard_gone hbears, List.nil_append]
      exact ih (agreement.bears h hbears)
    | false =>
      obtain ⟨hnext, hanswer⟩ := hkept step h hbears
      obtain ⟨hagrees, hanswers, hheard⟩ := ih hnext
      rw [remaining_cons_kept hbears, run_cons, run_cons, heardAll, heardAll, List.filter_append,
        heard_kept (agreement.inbox h) hbears, hheard]
      refine ⟨hagrees, ?_, rfl⟩
      rcases hanswer with heq | ⟨hunseen, hunseen'⟩
      · rw [heq, List.filter_cons, List.filter_cons, hanswers]
      · rw [List.filter_cons_of_neg (by simp [hunseen']),
          List.filter_cons_of_neg (by simp [hunseen]), hanswers]

/-! ### The game -/

theorem gameAgreement (hgone : ∀ event, gone event = true → event.avoidsGate = true) :
    Agreement gone (GameAgrees gone : Session ρ → Session ρ → Prop) where
  inbox h := h.inbox
  setInbox h _ := ⟨rfl, h.gate, h.poller⟩
  runtimeReady h := ⟨h.inbox, h.gate, h.poller⟩
  routed {session other} h events := by
    refine ⟨h.inbox, ?_, h.poller⟩
    show (other.gate.run _).2 = (session.gate.run _).2
    rw [h.gate, filterMap_without fun event hevent =>
      ConnectionEvent.gateStep?_of_avoidsGate (hgone event hevent)]

namespace GameAgrees

theorem poll (h : GameAgrees gone session other)
    (agreement : Agreement gone (GameAgrees gone : Session ρ → Session ρ → Prop)) :
    GameAgrees gone session.poll.2 other.poll.2 ∧ other.poll.1 = session.poll.1 := by
  have hpump := agreement.pump h
  have hpoll : other.pump.2.poller.poll other.pump.2.gate =
      session.pump.2.poller.poll session.pump.2.gate := by
    rw [hpump.gate, hpump.poller]
  refine ⟨⟨hpump.inbox, ?_, ?_⟩, ?_⟩
  · exact congrArg (·.2.2) hpoll
  · exact congrArg (·.2.1) hpoll
  · exact congrArg (·.1) hpoll

theorem matches_step (h : GameAgrees gone session other)
    (agreement : Agreement gone (GameAgrees gone : Session ρ → Session ρ → Prop))
    (step : SessionStep ρ)
    (hkept : session.bears gone step = false) :
    Matches SessionAnswer.isPolled (GameAgrees gone) (session.step step) (other.step step) := by
  cases step with
  | deliver event => exact ⟨agreement.deliver_kept h hkept, .inl rfl⟩
  | dropSender => exact ⟨⟨congrArg Channel.dropSender h.inbox, h.gate, h.poller⟩, .inl rfl⟩
  | handle event => exact ⟨agreement.handle_kept h hkept, .inl rfl⟩
  | pump => exact ⟨agreement.pump h, .inr ⟨rfl, rfl⟩⟩
  | processNext => exact ⟨agreement.processNext_kept h hkept, .inr ⟨rfl, rfl⟩⟩
  | poll =>
    obtain ⟨hnext, hframe⟩ := h.poll agreement
    exact ⟨hnext, .inl (congrArg SessionAnswer.polled hframe)⟩
  | worldReady => exact ⟨⟨h.inbox, congrArg (·.worldReady.2) h.gate, h.poller⟩, .inr ⟨rfl, rfl⟩⟩
  | issue text => exact ⟨h.issue text, .inr ⟨rfl, rfl⟩⟩
  | createGame preset mode => exact ⟨h.issue _, .inr ⟨rfl, rfl⟩⟩
  | _ => exact ⟨⟨h.inbox, h.gate, h.poller⟩, .inr ⟨rfl, rfl⟩⟩

end GameAgrees

/-! ### All but the game -/

theorem restAgreement (hgone : ∀ event, gone event = true → event.gateOnly = true) :
    Agreement gone (RestAgrees gone : Session ρ → Session ρ → Prop) where
  inbox h := h.inbox
  setInbox h _ := ⟨rfl, h.outbox, h.commands, h.roster, h.runtime, h.observed, h.closeReason⟩
  runtimeReady {session other} h := by
    have hreplay : other.roster.replay other.runtime = session.roster.replay session.runtime := by
      rw [h.roster, h.runtime]
    exact ⟨h.inbox, h.outbox, h.commands, congrArg (·.2.1) hreplay, congrArg (·.2.2) hreplay,
      h.observed, h.closeReason⟩
  routed {session other} h events := by
    have hspares event hevent := ConnectionEvent.spares_of_gateOnly (hgone event hevent)
    have hbatches : Roster.injectAll (other.roster, other.runtime)
          ((events.filter fun event => !gone event).filterMap ConnectionEvent.batch?) =
        Roster.injectAll (session.roster, session.runtime)
          (events.filterMap ConnectionEvent.batch?) := by
      rw [h.roster, h.runtime, filterMap_without fun event hevent => (hspares event hevent).batch]
    refine ⟨h.inbox, ?_, ?_, congrArg Prod.fst hbatches, congrArg Prod.snd hbatches, ?_, ?_⟩
    · show (other.outbox.run _).2 = (session.outbox.run _).2
      rw [h.outbox, filterMap_without fun event hevent => (hspares event hevent).outbox]
    · show (CommandDesk.run ⟨other.commands, []⟩ _).2.table =
        (CommandDesk.run ⟨session.commands, []⟩ _).2.table
      rw [h.commands, filterMap_without fun event hevent => (hspares event hevent).commands]
    · show other.observed ++ _ = session.observed ++ _
      rw [h.observed, filterMap_without fun event hevent => (hspares event hevent).observation]
    · show (List.getLast? _).or other.closeReason = (List.getLast? _).or session.closeReason
      rw [h.closeReason, filterMap_without fun event hevent => (hspares event hevent).closing]

namespace RestAgrees

theorem matches_step (h : RestAgrees gone session other)
    (agreement : Agreement gone (RestAgrees gone : Session ρ → Session ρ → Prop))
    (step : SessionStep ρ)
    (hkept : session.bears gone step = false) :
    Matches SessionAnswer.isControl (RestAgrees gone) (session.step step) (other.step step) := by
  cases step with
  | deliver event => exact ⟨agreement.deliver_kept h hkept, .inl rfl⟩
  | dropSender =>
    exact ⟨⟨congrArg Channel.dropSender h.inbox, h.outbox, h.commands, h.roster, h.runtime,
      h.observed, h.closeReason⟩, .inl rfl⟩
  | collect =>
    have hcollect : other.outbox.collect = session.outbox.collect := by rw [h.outbox]
    refine ⟨⟨h.inbox, ?_, h.commands, h.roster, h.runtime, h.observed, h.closeReason⟩, .inl ?_⟩
    · exact congrArg (·.2) hcollect
    · exact congrArg (fun taken => SessionAnswer.collected taken.1) hcollect
  | dropReceiver =>
    exact ⟨⟨h.inbox, congrArg Outbox.dropReceiver h.outbox, h.commands, h.roster, h.runtime,
      h.observed, h.closeReason⟩, .inl rfl⟩
  | handle event => exact ⟨agreement.handle_kept h hkept, .inl rfl⟩
  | pump => exact ⟨agreement.pump h, .inr ⟨rfl, rfl⟩⟩
  | processNext => exact ⟨agreement.processNext_kept h hkept, .inr ⟨rfl, rfl⟩⟩
  | poll =>
    have hpump := agreement.pump h
    exact ⟨⟨hpump.inbox, hpump.outbox, hpump.commands, hpump.roster, hpump.runtime,
      hpump.observed, hpump.closeReason⟩, .inr ⟨rfl, rfl⟩⟩
  | worldReady =>
    exact ⟨⟨h.inbox, h.outbox, h.commands, h.roster, h.runtime, h.observed, h.closeReason⟩,
      .inr ⟨rfl, rfl⟩⟩
  | runtimeReady =>
    have hreplay : other.roster.replay other.runtime = session.roster.replay session.runtime := by
      rw [h.roster, h.runtime]
    refine ⟨agreement.runtimeReady h, .inl ?_⟩
    exact congrArg (fun replay => SessionAnswer.replayed replay.1) hreplay
  | useRuntime use =>
    exact ⟨⟨h.inbox, h.outbox, h.commands, h.roster, congrArg use h.runtime, h.observed,
      h.closeReason⟩, .inl rfl⟩
  | issue text => exact h.matches_issue text
  | createGame preset mode => exact h.matches_issue s!"creategame {preset} {mode}"
  | connectTo name => exact h.matches_send (.connect (if name.isEmpty then "lobby" else name))
  | sendPacket channel data => exact h.matches_send (.wholePacket channel data)
  | disconnect => exact h.matches_send .disconnect
  | sendAuth kind fields => exact h.matches_send (.auth kind fields)

end RestAgrees

/-- Every part of a session takes its own share of the events that are handled. So events that do
not concern the gate can be left out, handled or still to come, and every frame that is polled, the
gate and the poller are the same; and events that concern nothing but the gate can be left out, and
every command, everything observed, the runtime, the outbox and every other answer are the same. -/
theorem events_are_routed (session : Session ρ) :
    (∀ events : List ConnectionEvent, events.foldl handle session = session.routed events) ∧
    (∀ gone steps, (∀ event : ConnectionEvent, gone event = true → event.avoidsGate = true) →
      let (answers, final) := session.run steps
      let (answers', final') := (session.without gone).run (session.remaining gone steps)
      (session.without gone).heardAll (session.remaining gone steps) =
          ((session.heardAll steps).filter fun event => !gone event) ∧
        answers'.filter (·.isPolled) = answers.filter (·.isPolled) ∧
        final'.gate = final.gate ∧ final'.poller = final.poller) ∧
    (∀ gone steps, (∀ event : ConnectionEvent, gone event = true → event.gateOnly = true) →
      let (answers, final) := session.run steps
      let (answers', final') := (session.without gone).run (session.remaining gone steps)
      (session.without gone).heardAll (session.remaining gone steps) =
          ((session.heardAll steps).filter fun event => !gone event) ∧
        answers'.filter (·.isControl) = answers.filter (·.isControl) ∧
        final'.commands = final.commands ∧ final'.observed = final.observed ∧
        final'.roster = final.roster ∧ final'.runtime = final.runtime ∧
        final'.outbox = final.outbox ∧ final'.closeReason = final.closeReason) := by
  refine ⟨fun events => session.foldl_handle events, ?_, ?_⟩
  · intro gone steps hgone
    have agreement : Agreement gone (GameAgrees gone : Session ρ → Session ρ → Prop) :=
      gameAgreement hgone
    have hstart : GameAgrees gone session (session.without gone) := ⟨rfl, rfl, rfl⟩
    obtain ⟨hfinal, hanswers, hheard⟩ := run_remaining agreement rfl (fun _ => rfl)
      (fun step h hkept => h.matches_step agreement step hkept) hstart steps
    exact ⟨hheard, hanswers, hfinal.gate, hfinal.poller⟩
  · intro gone steps hgone
    have agreement : Agreement gone (RestAgrees gone : Session ρ → Session ρ → Prop) :=
      restAgreement hgone
    have hstart : RestAgrees gone session (session.without gone) :=
      ⟨rfl, rfl, rfl, rfl, rfl, rfl, rfl⟩
    obtain ⟨hfinal, hanswers, hheard⟩ := run_remaining agreement rfl (fun _ => rfl)
      (fun step h hkept => h.matches_step agreement step hkept) hstart steps
    exact ⟨hheard, hanswers, hfinal.commands, hfinal.observed, hfinal.roster, hfinal.runtime,
      hfinal.outbox, hfinal.closeReason⟩

end

end Session
end ClusterLink
