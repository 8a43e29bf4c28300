import ClusterLink.Proofs.Outbox.Acceptance
import ClusterLink.Proofs.Session.Handling
import ClusterLink.Session.Run
/-!
A command is issued as a whole or not at all: either its body is accepted and its id becomes
outstanding, or neither is so. After every run, an id is outstanding exactly while one command that
was issued under it has not been answered.
-/
namespace ClusterLink

namespace IdSource

/-- A source that comes back to every id again and again. -/
def Fair (source : IdSource) : Prop :=
  ∀ id : UInt16, id.toNat < commandIdSpace → ∀ n, ∃ k, source.stream (n + k) = id

/-- A walk through the id space is fair, whatever script it begins with. -/
theorem scripted_fair (script : List UInt16) (start : Nat) : (scripted script start).Fair := by
  intro id hid n
  obtain ⟨k, -, hstream⟩ := scripted_reaches script start hid n
  exact ⟨k, hstream⟩

end IdSource

namespace CommandTable

variable {table next : CommandTable} {id : UInt16}

/-- An issue does not come back: there is an id left, and the source only draws others. -/
def Stalls (table : CommandTable) : Prop :=
  table.outstanding.length < commandIdSpace ∧
    ∀ k, table.ids.stream (table.ids.draws + k) ∈ table.outstandingIds

/-- With a fair source every issue comes back. -/
theorem not_stalls_of_fair (hfair : table.ids.Fair) : ¬ table.Stalls := by
  rintro ⟨hroom, hstalls⟩
  obtain ⟨id, hid, hfree⟩ := exists_free hroom
  obtain ⟨k, rfl⟩ := hfair id hid table.ids.draws
  exact hfree (hstalls k)

theorem issue?_stream {text : String} {issued : Issued}
    (h : table.issue? text = some (issued, next)) : next.ids.stream = table.ids.stream := by
  unfold issue? at h
  split at h
  · cases h
  · obtain ⟨⟨id, ids⟩, hfresh, hissued⟩ := Option.map_eq_some_iff.1 h
    cases hissued
    obtain ⟨count, -, -, -, rfl⟩ := IdSource.fresh?_first hfresh
    rfl

/-- Taking a fresh id back closes its ticket and leaves all else as it was. -/
theorem forget_withIssued (h : table.Consistent) (hfree : id ∉ table.outstandingIds)
    (hroom : table.outstanding.length < commandIdSpace) (ids : IdSource) :
    (table.withIssued id ids).forget id =
      ⟨ids, table.outstanding, table.results ++ [some (.error .connectionClosed)]⟩ := by
  have hmem : (id, table.results.length) ∈ (table.withIssued id ids).outstanding :=
    List.mem_cons_self
  show (table.withIssued id ids).settled id (.error .connectionClosed) = _
  rw [settled_of_mem (h.withIssued hfree hroom ids) hmem]
  simp [withIssued, filter_of_notMem hfree]

/-! ### Hearing -/

theorem settled_ids (table : CommandTable) (id : UInt16) (result : CommandResult) :
    (table.settled id result).ids = table.ids := by
  unfold settled settle?
  cases table.outstanding.find? (·.1 == id) with
  | none => rfl
  | some entry => rfl

theorem heed_ids (table : CommandTable) (event : ConnectionEvent) :
    (table.heed event).ids = table.ids := by
  unfold heed
  split
  · rw [resolve_table, settled_ids]
  · rfl

theorem Consistent.heed (h : table.Consistent) (event : ConnectionEvent) :
    (table.heed event).Consistent := by
  unfold CommandTable.heed
  split
  · rw [resolve_table]
    exact h.settled
  · exact h

/-- An event frees the id that it answers, and no other. -/
theorem mem_outstandingIds_heed (h : table.Consistent) (event : ConnectionEvent) :
    id ∈ (table.heed event).outstandingIds ↔
      id ∈ table.outstandingIds ∧ event.answers id = false := by
  unfold CommandTable.heed
  split
  case h_1 named payload success =>
    rw [resolve_table, mem_outstandingIds, settled_outstanding h, mem_outstandingIds]
    simp only [List.mem_filter, ConnectionEvent.answers, bne_iff_ne, beq_eq_false_iff_ne]
    constructor
    · rintro ⟨ticket, hmem, hne⟩
      exact ⟨⟨ticket, hmem⟩, hne.symm⟩
    · rintro ⟨⟨ticket, hmem⟩, hne⟩
      exact ⟨ticket, hmem, hne.symm⟩
  case h_2 hother =>
    have hanswers : event.answers id = false := by
      unfold ConnectionEvent.answers
      split
      case h_1 named payload success => exact absurd rfl (hother named payload success)
      case h_2 => rfl
    rw [hanswers]
    exact (and_iff_left rfl).symm

theorem foldl_heed (h : table.Consistent) (events : List ConnectionEvent) :
    (events.foldl heed table).Consistent ∧ (events.foldl heed table).ids = table.ids ∧
      ∀ id, id ∈ (events.foldl heed table).outstandingIds ↔
        id ∈ table.outstandingIds ∧ ∀ event ∈ events, event.answers id = false := by
  induction events generalizing table with
  | nil => exact ⟨h, rfl, by simp⟩
  | cons event events ih =>
    obtain ⟨hconsistent, hids, hmem⟩ := ih (h.heed event)
    rw [List.foldl_cons]
    refine ⟨hconsistent, hids.trans (heed_ids table event), ?_⟩
    intro id
    rw [hmem, mem_outstandingIds_heed h, List.forall_mem_cons, and_assoc]

end CommandTable

/-- The command that a step issues. -/
def SessionStep.text? {ρ : Type} : SessionStep ρ → Option String
  | .issue text => some text
  | .createGame preset mode => some s!"creategame {preset} {mode}"
  | _ => none

namespace Session

variable {ρ : Type} {session next : Session ρ} {text : String} {issued : Issued}

/-- A command was issued: its body was accepted, and its id is outstanding. -/
structure Issues (session next : Session ρ) (text : String) (issued : Issued) : Prop where
  envelope : issued.envelope = .command text issued.id
  accepting : ¬ session.outbox.Refuses
  body : ∃ body, issued.envelope.encode = .ok body ∧ next.outbox = session.outbox.accept body
  fresh : issued.id ∉ session.commands.outstandingIds
  ticket : issued.ticket = session.commands.results.length
  outstanding : next.commands.outstanding =
    (issued.id, issued.ticket) :: session.commands.outstanding
  results : ∀ ticket, next.commands.result? ticket = session.commands.result? ticket
  rest : next = { session with commands := next.commands, outbox := next.outbox }

/-- No command was issued: what was outstanding, answered, waiting or written is as before. -/
structure TakesBack (session next : Session ρ) : Prop where
  outstanding : next.commands.outstanding = session.commands.outstanding
  results : ∀ ticket < session.commands.results.length,
    next.commands.result? ticket = session.commands.result? ticket
  waiting : next.outbox.waiting = session.outbox.waiting
  wire : next.outbox.wire = session.outbox.wire
  rest : next = { session with commands := next.commands, outbox := next.outbox }

theorem TakesBack.refl (session : Session ρ) : TakesBack session session :=
  ⟨rfl, fun _ _ => rfl, rfl, rfl, rfl⟩

/-! ### The three ways in which an issue ends -/

section

variable {commands : CommandTable} {body : Octets}

/-- Every command has a body. -/
theorem hasBody (h : session.commands.issue? text = some (issued, commands)) :
    ∃ body, issued.envelope.encode = .ok body := by
  obtain ⟨-, -, -, henvelope, -⟩ := CommandTable.issue?_eq_some h
  rw [henvelope]
  exact ⟨_, rfl⟩

theorem issue_of_none (h : session.commands.issue? text = none) :
    session.issue text =
      (.error (.exhausted session.commands.outstanding.length), session) := by
  simp only [issue, h]

theorem issue_of_refuses (h : session.commands.issue? text = some (issued, commands))
    (hbody : issued.envelope.encode = .ok body) (hrefuses : session.outbox.Refuses) :
    session.issue text = (.error .connectionClosed,
      { session with commands := commands.forget issued.id, outbox := session.outbox.close }) := by
  simp only [issue, h, Outbox.send_of_refuses hbody hrefuses]

theorem issue_of_accepting (h : session.commands.issue? text = some (issued, commands))
    (hbody : issued.envelope.encode = .ok body) (haccepting : ¬ session.outbox.Refuses) :
    session.issue text =
      (.ok issued, { session with commands, outbox := session.outbox.accept body }) := by
  simp only [issue, h, Outbox.send_of_not_refuses hbody haccepting]

theorem TakesBack.of_refuses (hconsistent : session.commands.Consistent)
    (h : session.commands.issue? text = some (issued, commands))
    (hrefuses : session.outbox.Refuses) :
    TakesBack session
      { session with commands := commands.forget issued.id, outbox := session.outbox.close } := by
  obtain ⟨hroom, hfree, -, -, ids, rfl⟩ := CommandTable.issue?_eq_some h
  rw [CommandTable.forget_withIssued hconsistent hfree hroom]
  refine ⟨rfl, ?_, ?_, rfl, rfl⟩
  · intro ticket hticket
    simp only [CommandTable.result?]
    rw [List.getElem?_append_left hticket]
  · -- nothing waits in an outbox that refuses, closed or open
    rcases hrefuses with hclosed | ⟨hopened, -⟩
    · simp [Outbox.waiting, Outbox.close, hclosed]
    · simp [Outbox.waiting, Outbox.close, hopened]

theorem Issues.of_accepting (h : session.commands.issue? text = some (issued, commands))
    (hbody : issued.envelope.encode = .ok body) (haccepting : ¬ session.outbox.Refuses) :
    Issues session { session with commands, outbox := session.outbox.accept body } text
      issued := by
  obtain ⟨-, hfree, hticket, henvelope, ids, rfl⟩ := CommandTable.issue?_eq_some h
  refine ⟨henvelope, haccepting, ⟨body, hbody, rfl⟩, hfree, hticket, ?_, ?_, rfl⟩
  · rw [hticket]
    rfl
  · intro ticket
    simp only [CommandTable.result?, CommandTable.withIssued]
    by_cases hlt : ticket < session.commands.results.length
    · rw [List.getElem?_append_left hlt]
    · rw [Nat.not_lt] at hlt
      rw [List.getElem?_append_right hlt, List.getElem?_eq_none hlt, List.getElem?_singleton]
      split <;> rfl

end

/-- An issue fails for want of an id, or else for want of a listener, or it succeeds. -/
theorem issue_cases (hconsistent : session.commands.Consistent) (text : String) :
    ((commandIdSpace ≤ session.commands.outstanding.length ∨ session.commands.Stalls) ∧
      session.issue text =
        (.error (.exhausted session.commands.outstanding.length), session)) ∨
    session.commands.outstanding.length < commandIdSpace ∧
      ((session.outbox.Refuses ∧ ∃ next,
        session.issue text = (.error .connectionClosed, next) ∧ TakesBack session next) ∨
      ∃ issued next, session.issue text = (.ok issued, next) ∧
        Issues session next text issued) := by
  cases hissue : session.commands.issue? text with
  | none =>
    refine .inl ⟨?_, issue_of_none hissue⟩
    by_cases hroom : session.commands.outstanding.length < commandIdSpace
    · rcases CommandTable.issue?_eq_none_iff.1 hissue with hfull | hstalls
      · exact .inl hfull
      · exact .inr ⟨hroom, hstalls⟩
    · exact .inl (by omega)
  | some found =>
    obtain ⟨issued, commands⟩ := found
    obtain ⟨hroom, -⟩ := CommandTable.issue?_eq_some hissue
    obtain ⟨body, hbody⟩ := hasBody hissue
    refine .inr ⟨hroom, ?_⟩
    by_cases hrefuses : session.outbox.Refuses
    · exact .inl ⟨hrefuses, _, issue_of_refuses hissue hbody hrefuses,
        .of_refuses hconsistent hissue hrefuses⟩
    · exact .inr ⟨issued, _, issue_of_accepting hissue hbody hrefuses,
        .of_accepting hissue hbody hrefuses⟩

/-! ### Steps -/

/-- What is kept by every step: the table is consistent, and draws from the same stream of ids. -/
structure Keeps (session next : Session ρ) : Prop where
  consistent : next.commands.Consistent
  stream : next.commands.ids.stream = session.commands.ids.stream

theorem issue_keeps (h : session.commands.Consistent) (text : String) :
    Keeps session (session.issue text).2 := by
  cases hissue : session.commands.issue? text with
  | none =>
    rw [issue_of_none hissue]
    exact ⟨h, rfl⟩
  | some found =>
    obtain ⟨issued, commands⟩ := found
    obtain ⟨hroom, hfree, -, -, ids, rfl⟩ := CommandTable.issue?_eq_some hissue
    have hissued := h.withIssued hfree hroom ids
    have hstream := CommandTable.issue?_stream hissue
    obtain ⟨body, hbody⟩ := hasBody hissue
    by_cases hrefuses : session.outbox.Refuses
    · rw [issue_of_refuses hissue hbody hrefuses]
      exact ⟨hissued.settled,
        (congrArg IdSource.stream (CommandTable.settled_ids ..)).trans hstream⟩
    · rw [issue_of_accepting hissue hbody hrefuses]
      exact ⟨hissued, hstream⟩

section

variable [GameRuntime ρ] {step : SessionStep ρ}

theorem step_of_text (session : Session ρ) (h : step.text? = some text) :
    session.heard step = [] ∧ session.step step = (session.issue text).map .issued id := by
  cases step with
  | issue text' =>
    cases h
    exact ⟨rfl, rfl⟩
  | createGame preset mode =>
    cases h
    exact ⟨rfl, rfl⟩
  | _ => cases h

/-- All other steps only hear. -/
theorem step_commands (h : step.text? = none) :
    (session.step step).2.commands =
      (session.heard step).foldl CommandTable.heed session.commands := by
  cases step with
  | issue text => cases h
  | createGame preset mode => cases h
  | handle event => exact session.handle_commands event
  | pump => exact session.pump_commands
  | poll => exact session.pump_commands
  | processNext => exact session.processNext_commands
  | _ => rfl

theorem step_keeps (h : session.commands.Consistent) (step : SessionStep ρ) :
    Keeps session (session.step step).2 := by
  cases htext : step.text? with
  | none =>
    obtain ⟨hconsistent, hids, -⟩ := CommandTable.foldl_heed h (session.heard step)
    rw [← step_commands htext] at hconsistent hids
    exact ⟨hconsistent, congrArg IdSource.stream hids⟩
  | some text =>
    rw [(step_of_text session htext).2]
    exact issue_keeps h text

/-- A step issues a command with this id. -/
def Accepts (session : Session ρ) (step : SessionStep ρ) (id : UInt16) : Prop :=
  ∃ text issued, step.text? = some text ∧ (session.step step).1 = .issued (.ok issued) ∧
    issued.id = id ∧ Issues session (session.step step).2 text issued

theorem accepts_iff (h : step.text? = some text) {id : UInt16} :
    session.Accepts step id ↔ ∃ issued, (session.issue text).1 = .ok issued ∧ issued.id = id ∧
      Issues session (session.issue text).2 text issued := by
  rw [Accepts, (step_of_text session h).2]
  constructor
  · rintro ⟨text', issued, htext, hanswer, hid, hissues⟩
    cases h.symm.trans htext
    exact ⟨issued, SessionAnswer.issued.inj hanswer, hid, hissues⟩
  · rintro ⟨issued, hok, hid, hissues⟩
    exact ⟨text, issued, h, congrArg SessionAnswer.issued hok, hid, hissues⟩

/-- An id is outstanding after a step if it was so before and was not answered, or if the step
issues a command with it. -/
theorem step_outstandingIds (h : session.commands.Consistent) (step : SessionStep ρ)
    (id : UInt16) :
    id ∈ (session.step step).2.commands.outstandingIds ↔
      (id ∈ session.commands.outstandingIds ∧
        ∀ event ∈ session.heard step, event.answers id = false) ∨ session.Accepts step id := by
  cases htext : step.text? with
  | none =>
    rw [step_commands htext, (CommandTable.foldl_heed h _).2.2]
    simp [Accepts, htext]
  | some text =>
    obtain ⟨hheard, hstep⟩ := step_of_text session htext
    rw [accepts_iff htext, hheard, hstep]
    rcases issue_cases h text with ⟨-, hissue⟩ | ⟨-, ⟨-, next, hissue, hback⟩ |
      ⟨issued, next, hissue, hissues⟩⟩
    · rw [hissue]
      simp
    · have hids : next.commands.outstandingIds = session.commands.outstandingIds :=
        congrArg (List.map Prod.fst) hback.outstanding
      rw [hissue]
      simp [hids]
    · have hids : next.commands.outstandingIds = issued.id :: session.commands.outstandingIds :=
        congrArg (List.map Prod.fst) hissues.outstanding
      rw [hissue]
      show id ∈ next.commands.outstandingIds ↔ _
      rw [hids, List.mem_cons]
      constructor
      · rintro (rfl | hmem)
        · exact .inr ⟨issued, rfl, rfl, hissues⟩
        · exact .inl ⟨hmem, List.forall_mem_nil _⟩
      · rintro (⟨hmem, -⟩ | ⟨_, hok, rfl, -⟩)
        · exact .inr hmem
        · cases hok
          exact .inl rfl

/-! ### Runs -/

/-- The step at an index of a run issues a command with this id, and no event that is handled after
it answers the id. -/
def Awaits (session : Session ρ) : List (SessionStep ρ) → UInt16 → Nat → Prop
  | [], _, _ => False
  | step :: rest, id, 0 => session.Accepts step id ∧
      ∀ event ∈ (session.step step).2.heardAll rest, event.answers id = false
  | step :: rest, id, index + 1 => (session.step step).2.Awaits rest id index

theorem run_keeps (h : session.commands.Consistent) (steps : List (SessionStep ρ)) :
    Keeps session (session.run steps).2 := by
  induction steps generalizing session with
  | nil => exact ⟨h, rfl⟩
  | cons step rest ih =>
    have hstep := step_keeps h step
    have hrest := ih hstep.consistent
    exact ⟨hrest.consistent, hrest.stream.trans hstep.stream⟩

/-- With a fair source no run leads to where an issue does not come back. -/
theorem run_not_stalls (h : session.commands.Consistent) (hfair : session.commands.ids.Fair)
    (steps : List (SessionStep ρ)) : ¬ (session.run steps).2.commands.Stalls := by
  apply CommandTable.not_stalls_of_fair
  rw [IdSource.Fair, (run_keeps h steps).stream]
  exact hfair

/-- An id is outstanding after a run if it was so before and was not answered, or if a command that
was issued with it is awaited. -/
theorem run_outstandingIds (h : session.commands.Consistent) (steps : List (SessionStep ρ))
    (id : UInt16) :
    id ∈ (session.run steps).2.commands.outstandingIds ↔
      (id ∈ session.commands.outstandingIds ∧
        ∀ event ∈ session.heardAll steps, event.answers id = false) ∨
      ∃ index, session.Awaits steps id index := by
  induction steps generalizing session with
  | nil => simp [run, heardAll, Awaits]
  | cons step rest ih =>
    rw [run_cons, ih (step_keeps h step).consistent, step_outstandingIds h, heardAll,
      List.forall_mem_append]
    constructor
    · rintro (⟨⟨hmem, hstep⟩ | haccepts, hrest⟩ | ⟨index, hawaits⟩)
      · exact .inl ⟨hmem, hstep, hrest⟩
      · exact .inr ⟨0, haccepts, hrest⟩
      · exact .inr ⟨index + 1, hawaits⟩
    · rintro (⟨hmem, hstep, hrest⟩ | ⟨index, hawaits⟩)
      · exact .inl ⟨.inl ⟨hmem, hstep⟩, hrest⟩
      · cases index with
        | zero => exact .inl ⟨.inr hawaits.1, hawaits.2⟩
        | succ index => exact .inr ⟨index, hawaits⟩

/-- While an id stays outstanding, it is not issued again. -/
theorem not_awaits_of_outstanding (h : session.commands.Consistent) {steps : List (SessionStep ρ)}
    {id : UInt16} (hmem : id ∈ session.commands.outstandingIds)
    (hheard : ∀ event ∈ session.heardAll steps, event.answers id = false) (index : Nat) :
    ¬ session.Awaits steps id index := by
  induction steps generalizing session index with
  | nil => exact not_false
  | cons step rest ih =>
    rw [heardAll, List.forall_mem_append] at hheard
    cases index with
    | zero =>
      rintro ⟨⟨text, issued, -, -, rfl, hissues⟩, -⟩
      exact hissues.fresh hmem
    | succ index =>
      have hnext := (step_outstandingIds h step id).2 (.inl ⟨hmem, hheard.1⟩)
      exact ih (step_keeps h step).consistent hnext hheard.2 index

theorem awaits_unique (h : session.commands.Consistent) {steps : List (SessionStep ρ)}
    {id : UInt16} {i j : Nat} (hi : session.Awaits steps id i) (hj : session.Awaits steps id j) :
    i = j := by
  induction steps generalizing session i j with
  | nil => exact hi.elim
  | cons step rest ih =>
    have hnext := (step_keeps h step).consistent
    have hlast : ∀ k, session.Awaits (step :: rest) id 0 →
        ¬ (session.step step).2.Awaits rest id k := by
      intro k hzero
      have hmem := (step_outstandingIds h step id).2 (.inr hzero.1)
      exact not_awaits_of_outstanding hnext hmem hzero.2 k
    cases i with
    | zero =>
      cases j with
      | zero => rfl
      | succ j => exact absurd hj (hlast j hi)
    | succ i =>
      cases j with
      | zero => exact absurd hi (hlast i hj)
      | succ j => exact congrArg (· + 1) (ih hnext hi hj)

/-- After every run, an issue that comes back fails exactly if all ids are outstanding, or else if
the outbox refuses bodies. If it fails, everything that was outstanding, answered, waiting or
written is as before. If it succeeds, then exactly the body of the command is added to what waits
or was written, and its id, which is fresh, to what is outstanding. With a fair source of ids every
issue comes back. An id is outstanding exactly if it was issued for a command, whose body was
accepted, that has not been answered since; and there is only one such command. -/
theorem run_issues (runtime : ρ) (mapChange : PacketKind) (policy : DeferralPolicy)
    (ids : IdSource) (steps : List (SessionStep ρ)) :
    let start := Session.new runtime mapChange policy ids
    let session := (start.run steps).2
    (∀ text, ¬ session.commands.Stalls →
      let (outcome, next) := session.issue text
      (outcome = .error (.exhausted commandIdSpace) ↔
        session.commands.outstanding.length = commandIdSpace) ∧
      (outcome = .error .connectionClosed ↔
        session.commands.outstanding.length < commandIdSpace ∧ session.outbox.Refuses) ∧
      match outcome with
      | .ok issued => Issues session next text issued
      | .error error =>
        (error = .exhausted commandIdSpace ∨ error = .connectionClosed) ∧
          TakesBack session next) ∧
    (∀ preset mode, session.createGame preset mode =
      session.issue s!"creategame {preset} {mode}") ∧
    (ids.Fair → ¬ session.commands.Stalls) ∧
    ∀ id, id ∈ session.commands.outstandingIds ↔ ∃! index, start.Awaits steps id index := by
  intro start session
  have hstart : start.commands.Consistent := CommandTable.new_consistent ids
  have hconsistent : session.commands.Consistent := (run_keeps hstart steps).consistent
  refine ⟨?_, fun _ _ => rfl, fun hfair => run_not_stalls hstart hfair steps, ?_⟩
  · intro text hstalls
    have hroom := hconsistent.room
    rcases issue_cases hconsistent text with ⟨hnone, hissue⟩ |
      ⟨hlt, ⟨hrefuses, next, hissue, hback⟩ | ⟨issued, next, hissue, hissues⟩⟩
    · have hfull : session.commands.outstanding.length = commandIdSpace :=
        Nat.le_antisymm hroom (hnone.resolve_right hstalls)
      rw [hissue, hfull]
      exact ⟨by simp, by simp, .inl rfl, .refl session⟩
    · rw [hissue]
      exact ⟨by simpa using Nat.ne_of_lt hlt, by simp [hlt, hrefuses], .inr rfl, hback⟩
    · rw [hissue]
      exact ⟨by simpa using Nat.ne_of_lt hlt, by simp [hissues.accepting], hissues⟩
  · intro id
    rw [run_outstandingIds hstart steps id]
    constructor
    · rintro (⟨hmem, -⟩ | ⟨index, hawaits⟩)
      · cases hmem
      · exact ⟨index, hawaits, fun other hother => awaits_unique hstart hother hawaits⟩
    · rintro ⟨index, hawaits, -⟩
      exact .inr ⟨index, hawaits⟩

/-- An open session issues a command, which is then the only one that is awaited under its id. -/
theorem run_issues_opened :
    let start := Session.new (CallLog.new true) .mapChange .standard (.ofScript [7, 7])
    let session := (start.run [.handle .opened]).2
    ∃ issued next, session.issue "status" = (.ok issued, next) ∧
      Issues session next "status" issued ∧ ¬ next.commands.Stalls ∧
      ∃! index, start.Awaits [.handle .opened, .issue "status"] issued.id index := by
  intro start session
  have hfair : (IdSource.ofScript [7, 7]).Fair := IdSource.scripted_fair [7, 7] 0
  obtain ⟨hissue, -, hstalls, -⟩ :=
    run_issues (CallLog.new true) .mapChange .standard (.ofScript [7, 7]) [.handle .opened]
  obtain ⟨-, -, hstalls', hawaits⟩ := run_issues (CallLog.new true) .mapChange .standard
    (.ofScript [7, 7]) [.handle .opened, .issue "status"]
  have hroom : session.commands.outstanding.length ≠ commandIdSpace := by decide
  have hopen : ¬ session.outbox.Refuses := by
    rintro (hclosed | ⟨-, hdropped⟩)
    · cases hclosed
    · cases hdropped
  have h := hissue "status" (hstalls hfair)
  rcases houtcome : session.issue "status" with ⟨outcome, next⟩
  have hlast : next = (start.run [.handle .opened, .issue "status"]).2 :=
    (congrArg Prod.snd houtcome).symm
  simp only [session, start] at houtcome
  rw [houtcome] at h
  obtain ⟨hexhausted, hclosed, hend⟩ := h
  cases outcome with
  | error error =>
    rcases hend.1 with rfl | rfl
    · exact absurd (hexhausted.1 rfl) hroom
    · exact absurd (hclosed.1 rfl).2 hopen
  | ok issued =>
    have hissues : Issues session next "status" issued := hend
    have hmem : issued.id ∈ next.commands.outstandingIds := by
      rw [CommandTable.outstandingIds, hissues.outstanding]
      exact List.mem_cons_self
    rw [hlast] at hmem
    refine ⟨issued, next, rfl, hissues, ?_, (hawaits issued.id).1 hmem⟩
    rw [hlast]
    exact hstalls' hfair

end

end Session
end ClusterLink
