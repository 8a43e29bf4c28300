import ClusterLink.Command.Run
import ClusterLink.Proofs.Command.Table
/-!
Every issued command keeps the first result that a later step gives to its id, whatever happens to
other ids and however often its own is used again. Tickets carry the proof: an id may be
outstanding for one ticket only, and an outstanding ticket is open.
-/
namespace ClusterLink

open CommandTable

namespace CommandStep

/-- The id that a step settles, and the result that it gives. -/
def settlement? : CommandStep → Option (UInt16 × CommandResult)
  | .resolve id payload success => some (id, responseResult payload success)
  | .forget id => some (id, .error .connectionClosed)
  | _ => none

def settles? (id : UInt16) (step : CommandStep) : Option CommandResult :=
  match step.settlement? with
  | some (named, result) => if named = id then some result else none
  | none => none

def expires? (ticket : Ticket) : CommandStep → Option CommandResult
  | .expire named deadline => if named = ticket then some (.error (.timeout deadline)) else none
  | _ => none

/-- The result that a step shows the holder of a command, unless it has one. -/
def decides? (issued : Issued) (step : CommandStep) : Option CommandResult :=
  (step.settles? issued.id).or (step.expires? issued.ticket)

end CommandStep

/-- What the steps after an issue give to its id: the first result counts. -/
def firstResult (id : UInt16) (later : List CommandStep) : Option CommandResult :=
  later.findSome? (·.settles? id)

/-- What the steps after an issue show its holder: the first result or deadline counts. -/
def outcome (issued : Issued) (later : List CommandStep) : Option CommandResult :=
  later.findSome? (·.decides? issued)

theorem firstResult_snoc (id : UInt16) (later : List CommandStep) (last : CommandStep) :
    firstResult id (later ++ [last]) = (firstResult id later).or (last.settles? id) := by
  simp [firstResult]

theorem firstResult_snoc_of_none (id : UInt16) (later : List CommandStep) {last : CommandStep}
    (h : last.settlement? = none) :
    firstResult id (later ++ [last]) = firstResult id later := by
  rw [firstResult_snoc, CommandStep.settles?, h, Option.or_none]

theorem outcome_snoc (issued : Issued) (later : List CommandStep) (last : CommandStep) :
    outcome issued (later ++ [last]) = (outcome issued later).or (last.decides? issued) := by
  simp [outcome]

/-- A handle fits the steps that came after its command was issued. -/
def CommandHandle.Fits (issued : Issued) (later : List CommandStep) : CommandHandle → Prop
  | .waiting ticket => ticket = issued.ticket ∧ outcome issued later = firstResult issued.id later
  | .answered result => outcome issued later = some result
  | .dropped => CommandStep.dropHandle issued.ticket ∈ later

namespace CommandHandle.Fits

variable {issued : Issued} {later : List CommandStep} {handle : CommandHandle} {step : CommandStep}

/-- A step that neither drops the handle nor runs into its deadline leaves it as it is. -/
theorem keep (h : handle.Fits issued later) (hexpires : step.expires? issued.ticket = none) :
    handle.Fits issued (later ++ [step]) := by
  have hdecides : step.decides? issued = step.settles? issued.id := by
    rw [CommandStep.decides?, hexpires, Option.or_none]
  cases handle with
  | waiting ticket =>
    obtain ⟨hticket, houtcome⟩ := h
    refine ⟨hticket, ?_⟩
    rw [outcome_snoc, firstResult_snoc, houtcome, hdecides]
  | answered shown =>
    have houtcome : outcome issued later = some shown := h
    show outcome issued (later ++ [step]) = some shown
    rw [outcome_snoc, houtcome, Option.some_or]
  | dropped => exact List.mem_append_left _ h

/-- At its deadline a handle takes the result that its ticket has, or the timeout. -/
theorem wait (h : handle.Fits issued later) {table : CommandTable}
    (hresult : table.result? issued.ticket = firstResult issued.id later)
    (deadline : Milliseconds) :
    (handle.wait table deadline).Fits issued (later ++ [.expire issued.ticket deadline]) := by
  have hdecides : CommandStep.decides? issued (.expire issued.ticket deadline) =
      some (.error (.timeout deadline)) := by
    simp [CommandStep.decides?, CommandStep.settles?, CommandStep.settlement?,
      CommandStep.expires?]
  cases handle with
  | waiting ticket =>
    obtain ⟨rfl, houtcome⟩ := h
    show outcome issued _ = some ((table.result? issued.ticket).getD (.error (.timeout deadline)))
    rw [outcome_snoc, hdecides, houtcome, hresult]
    cases firstResult issued.id later with
    | none => rfl
    | some result => rfl
  | answered shown =>
    have houtcome : outcome issued later = some shown := h
    show outcome issued _ = some shown
    rw [outcome_snoc, houtcome, Option.some_or]
  | dropped => exact List.mem_append_left _ h

/-- What the holder sees, as long as it holds on to the handle. An open ticket may be given a
result of last resort. -/
theorem look (h : handle.Fits issued later) {table : CommandTable}
    {lastResort : Option CommandResult}
    (hresult : table.result? issued.ticket = (firstResult issued.id later).or lastResort)
    (hheld : CommandStep.dropHandle issued.ticket ∉ later) :
    (handle.look table).1 = (outcome issued later).or lastResort := by
  cases handle with
  | waiting ticket =>
    obtain ⟨rfl, houtcome⟩ := h
    rw [houtcome, ← hresult]
    unfold CommandHandle.look
    dsimp only
    cases table.result? issued.ticket with
    | none => rfl
    | some result => rfl
  | answered shown =>
    have houtcome : outcome issued later = some shown := h
    rw [houtcome, CommandHandle.look, Option.some_or]
  | dropped => exact absurd h hheld

end CommandHandle.Fits

namespace CommandDesk

variable {desk : CommandDesk} {issued : Issued} {later : List CommandStep}

/-- An issued command fits the steps that came after it. -/
structure Follows (desk : CommandDesk) (issued : Issued) (later : List CommandStep) : Prop where
  outstanding :
    (issued.id, issued.ticket) ∈ desk.table.outstanding ↔ firstResult issued.id later = none
  result : desk.table.results[issued.ticket]? = some (firstResult issued.id later)
  handle : ∃ handle, desk.handles[issued.ticket]? = some handle ∧ handle.Fits issued later

theorem Follows.result?_eq (h : Follows desk issued later) :
    desk.table.result? issued.ticket = firstResult issued.id later := by
  rw [CommandTable.result?, h.result, Option.join_some]

theorem Follows.result?_abandon (h : Follows desk issued later) :
    desk.table.abandon.result? issued.ticket =
      (firstResult issued.id later).or (some (.error .connectionClosed)) := by
  rw [CommandTable.result?, abandon, List.getElem?_map, h.result]
  cases firstResult issued.id later with
  | none => rfl
  | some result => rfl

/-- What the holder of a command sees of it, while the table lives and once it is given up. -/
theorem Follows.look (h : Follows desk issued later) :
    ∃ handle, desk.handles[issued.ticket]? = some handle ∧
      (CommandStep.dropHandle issued.ticket ∉ later →
        (handle.look desk.table).1 = outcome issued later ∧
        (handle.look desk.table.abandon).1 =
          some ((outcome issued later).getD (.error .connectionClosed))) := by
  obtain ⟨handle, hget, hfits⟩ := h.handle
  refine ⟨handle, hget, ?_⟩
  intro hheld
  constructor
  · rw [hfits.look (by rw [h.result?_eq, Option.or_none]) hheld, Option.or_none]
  · rw [hfits.look h.result?_abandon hheld, Option.or_some]

/-! ### A step that settles an id -/

theorem step_of_settlement {step : CommandStep} {id : UInt16} {result : CommandResult}
    (hstep : step.settlement? = some (id, result)) :
    (desk.step step).2 = { desk with table := desk.table.settled id result } := by
  cases step with
  | resolve named payload success =>
    cases hstep
    simp [CommandDesk.step, resolve_table]
  | forget named =>
    cases hstep
    rfl
  | _ => cases hstep

/-- Settling an id is settling a ticket exactly if that ticket holds the id. -/
theorem Follows.settled_iff (h : Follows desk issued later) (hc : desk.table.Consistent)
    {id : UInt16} : (id, issued.ticket) ∈ desk.table.outstanding ↔
      id = issued.id ∧ firstResult issued.id later = none := by
  constructor
  · intro hmem
    have hnone : firstResult issued.id later = none := by
      have hopened := hc.opened _ hmem
      rw [h.result] at hopened
      exact Option.some.inj hopened
    have heq := List.inj_on_of_nodup_map hc.tickets hmem (h.outstanding.2 hnone) rfl
    exact ⟨congrArg Prod.fst heq, hnone⟩
  · rintro ⟨rfl, hnone⟩
    exact h.outstanding.2 hnone

theorem Follows.settlement (h : Follows desk issued later) (hc : desk.table.Consistent)
    {step : CommandStep} {id : UInt16} {result : CommandResult}
    (hstep : step.settlement? = some (id, result)) :
    Follows (desk.step step).2 issued (later ++ [step]) := by
  have hsettles : step.settles? issued.id = if id = issued.id then some result else none := by
    simp [CommandStep.settles?, hstep]
  rw [step_of_settlement hstep]
  constructor
  · rw [settled_outstanding hc, List.mem_filter, h.outstanding, firstResult_snoc, hsettles]
    by_cases hid : id = issued.id
    · simp [hid]
    · simp [hid, Ne.symm hid]
  · rw [firstResult_snoc, hsettles]
    by_cases hmem : (id, issued.ticket) ∈ desk.table.outstanding
    · obtain ⟨hid, hnone⟩ := (h.settled_iff hc).1 hmem
      rw [settled_results_of_mem hc hmem, hnone, if_pos hid, Option.none_or]
    · rw [settled_results_of_notMem hc hmem, h.result]
      by_cases hid : id = issued.id
      · have hne : firstResult issued.id later ≠ none :=
          fun hnone => hmem ((h.settled_iff hc).2 ⟨hid, hnone⟩)
        obtain ⟨first, hfirst⟩ := Option.ne_none_iff_exists'.1 hne
        rw [hfirst, Option.some_or]
      · rw [if_neg hid, Option.or_none]
  · obtain ⟨handle, hget, hfits⟩ := h.handle
    refine ⟨handle, hget, hfits.keep ?_⟩
    cases step with
    | expire ticket deadline => cases hstep
    | _ => rfl

/-! ### The other steps -/

/-- An issue is refused, or brings a fresh id and the next ticket. -/
theorem step_issue (desk : CommandDesk) (text : String) :
    desk.step (.issue text) = (.refused, desk) ∨
      ∃ issued ids, desk.table.outstanding.length < commandIdSpace ∧
        issued.id ∉ desk.table.outstandingIds ∧ issued.ticket = desk.table.results.length ∧
        issued.envelope = .command text issued.id ∧
        desk.step (.issue text) = (.issued issued,
          ⟨desk.table.withIssued issued.id ids, desk.handles ++ [.waiting issued.ticket]⟩) := by
  cases hissue : desk.table.issue? text with
  | none => exact .inl (by simp [step, hissue])
  | some found =>
    obtain ⟨issued, table⟩ := found
    obtain ⟨hroom, hfree, hticket, henvelope, ids, rfl⟩ := issue?_eq_some hissue
    exact .inr ⟨issued, ids, hroom, hfree, hticket, henvelope, by simp [step, hissue]⟩

theorem step_issued {text : String} {next : CommandDesk}
    (h : desk.step (.issue text) = (.issued issued, next)) :
    issued.id ∉ desk.table.outstandingIds ∧ issued.envelope = .command text issued.id ∧
      next.table.outstanding = (issued.id, issued.ticket) :: desk.table.outstanding := by
  obtain hrefused | ⟨fresh, ids, -, hfree, hticket, henvelope, hissued⟩ := step_issue desk text
  · rw [hrefused] at h
    cases h
  · rw [hissued] at h
    cases h
    refine ⟨hfree, henvelope, ?_⟩
    rw [hticket]
    rfl

theorem Follows.issue_other (h : Follows desk issued later) (text : String) :
    Follows (desk.step (.issue text)).2 issued (later ++ [.issue text]) := by
  have hsettles : firstResult issued.id (later ++ [.issue text]) = firstResult issued.id later :=
    firstResult_snoc_of_none issued.id later rfl
  obtain ⟨handle, hget, hfits⟩ := h.handle
  have hkeep : handle.Fits issued (later ++ [.issue text]) := hfits.keep rfl
  obtain hstep | ⟨fresh, ids, -, -, hticket, -, hstep⟩ := step_issue desk text
  · rw [hstep]
    exact ⟨by rw [hsettles, h.outstanding], by rw [hsettles, h.result], handle, hget, hkeep⟩
  · rw [hstep]
    have hlt : issued.ticket < desk.table.results.length :=
      (List.getElem?_eq_some_iff.1 h.result).1
    refine ⟨?_, ?_, handle, ?_, hkeep⟩
    · rw [hsettles, ← h.outstanding, withIssued, List.mem_cons, or_iff_right]
      intro heq
      exact absurd (congrArg Prod.snd heq) (Nat.ne_of_lt hlt)
    · rw [hsettles, withIssued, List.getElem?_append_left hlt, h.result]
    · rw [List.getElem?_append_left (List.getElem?_eq_some_iff.1 hget).1, hget]

theorem Follows.issue_self (hhandles : desk.handles.length = desk.table.results.length)
    {text : String} {next : CommandDesk}
    (hstep : desk.step (.issue text) = (.issued issued, next)) : Follows next issued [] := by
  obtain hrefused | ⟨fresh, ids, -, -, hticket, -, hissued⟩ := step_issue desk text
  · rw [hrefused] at hstep
    cases hstep
  · rw [hissued] at hstep
    cases hstep
    refine ⟨?_, ?_, .waiting issued.ticket, ?_, rfl, rfl⟩
    · simp [withIssued, hticket, firstResult]
    · simp [withIssued, hticket, firstResult]
    · simp [hticket, ← hhandles]

theorem Follows.dropHandle (h : Follows desk issued later) (ticket : Ticket) :
    Follows (desk.step (.dropHandle ticket)).2 issued (later ++ [.dropHandle ticket]) := by
  have hsettles : firstResult issued.id (later ++ [.dropHandle ticket]) =
      firstResult issued.id later := firstResult_snoc_of_none issued.id later rfl
  obtain ⟨handle, hget, hfits⟩ := h.handle
  refine ⟨by rw [hsettles, ← h.outstanding]; rfl, by rw [hsettles, ← h.result]; rfl, ?_⟩
  by_cases hticket : ticket = issued.ticket
  · subst hticket
    refine ⟨.dropped, ?_, ?_⟩
    · exact List.getElem?_set_self (List.getElem?_eq_some_iff.1 hget).1
    · exact List.mem_append_right _ List.mem_cons_self
  · refine ⟨handle, ?_, hfits.keep rfl⟩
    rw [← hget]
    exact List.getElem?_set_ne hticket

theorem Follows.expire (h : Follows desk issued later) (ticket : Ticket)
    (deadline : Milliseconds) :
    Follows (desk.step (.expire ticket deadline)).2 issued
      (later ++ [.expire ticket deadline]) := by
  have hsettles : firstResult issued.id (later ++ [.expire ticket deadline]) =
      firstResult issued.id later := firstResult_snoc_of_none issued.id later rfl
  obtain ⟨handle, hget, hfits⟩ := h.handle
  refine ⟨by rw [hsettles, ← h.outstanding]; rfl, by rw [hsettles, ← h.result]; rfl, ?_⟩
  by_cases hticket : ticket = issued.ticket
  · subst hticket
    refine ⟨handle.wait desk.table deadline, ?_, hfits.wait ?_ deadline⟩
    · show (desk.handles.modify issued.ticket _)[issued.ticket]? = _
      rw [List.getElem?_modify_eq, hget]
      rfl
    · exact h.result?_eq
  · refine ⟨handle, ?_, hfits.keep ?_⟩
    · show (desk.handles.modify ticket _)[issued.ticket]? = _
      rw [List.getElem?_modify_ne _ _ hticket, hget]
    · simp [CommandStep.expires?, hticket]

/-! ### What a step preserves -/

theorem step_consistent (hc : desk.table.Consistent) (last : CommandStep) :
    (desk.step last).2.table.Consistent := by
  cases last with
  | issue text =>
    obtain hstep | ⟨fresh, ids, hroom, hfree, -, -, hstep⟩ := step_issue desk text
    · rw [hstep]
      exact hc
    · rw [hstep]
      exact hc.withIssued hfree hroom ids
  | resolve id payload success =>
    rw [step_of_settlement rfl]
    exact hc.settled
  | forget id =>
    rw [step_of_settlement rfl]
    exact hc.settled
  | dropHandle ticket => exact hc
  | expire ticket deadline => exact hc

theorem step_handles (hhandles : desk.handles.length = desk.table.results.length)
    (last : CommandStep) :
    (desk.step last).2.handles.length = (desk.step last).2.table.results.length := by
  cases last with
  | issue text =>
    obtain hstep | ⟨fresh, ids, -, -, -, -, hstep⟩ := step_issue desk text
    · rw [hstep, hhandles]
    · rw [hstep]
      simp [withIssued, hhandles]
  | resolve id payload success =>
    rw [step_of_settlement rfl, settled_length, hhandles]
  | forget id =>
    rw [step_of_settlement rfl, settled_length, hhandles]
  | dropHandle ticket => exact (List.length_set ..).trans hhandles
  | expire ticket deadline => exact (List.length_modify ..).trans hhandles

theorem Follows.step (h : Follows desk issued later) (hc : desk.table.Consistent)
    (last : CommandStep) : Follows (desk.step last).2 issued (later ++ [last]) := by
  cases last with
  | issue text => exact h.issue_other text
  | resolve id payload success => exact h.settlement hc rfl
  | forget id => exact h.settlement hc rfl
  | dropHandle ticket => exact h.dropHandle ticket
  | expire ticket deadline => exact h.expire ticket deadline

theorem step_follows (hhandles : desk.handles.length = desk.table.results.length)
    {last : CommandStep} (hanswer : (desk.step last).1 = .issued issued) :
    Follows (desk.step last).2 issued [] := by
  cases last with
  | issue text => exact .issue_self hhandles (Prod.ext hanswer rfl)
  | _ => cases hanswer

theorem step_origin (hc : desk.table.Consistent) (last : CommandStep)
    {entry : UInt16 × Ticket} (hentry : entry ∈ (desk.step last).2.table.outstanding) :
    entry ∈ desk.table.outstanding ∨ ∃ issued,
      (desk.step last).1 = .issued issued ∧ (issued.id, issued.ticket) = entry := by
  cases last with
  | issue text =>
    obtain hstep | ⟨fresh, ids, -, -, hticket, -, hstep⟩ := step_issue desk text
    · rw [hstep] at hentry
      exact .inl hentry
    · rw [hstep] at hentry ⊢
      rcases List.mem_cons.1 hentry with rfl | hentry
      · exact .inr ⟨fresh, rfl, by rw [hticket]⟩
      · exact .inl hentry
  | resolve id payload success =>
    rw [step_of_settlement rfl, settled_outstanding hc] at hentry
    exact .inl (List.mem_filter.1 hentry).1
  | forget id =>
    rw [step_of_settlement rfl, settled_outstanding hc] at hentry
    exact .inl (List.mem_filter.1 hentry).1
  | dropHandle ticket => exact .inl hentry
  | expire ticket deadline => exact .inl hentry

/-! ### Runs -/

/-- What a run makes true of its answers and of the desk that it leads to. -/
structure Routes (steps : List CommandStep) (answers : List CommandAnswer) (desk : CommandDesk) :
    Prop where
  length : answers.length = steps.length
  table : desk.table.Consistent
  handles : desk.handles.length = desk.table.results.length
  follows : ∀ (index : Nat) issued, answers[index]? = some (CommandAnswer.issued issued) →
    Follows desk issued (steps.drop (index + 1))
  origin : ∀ entry ∈ desk.table.outstanding, ∃ (index : Nat) (issued : Issued),
    answers[index]? = some (CommandAnswer.issued issued) ∧ (issued.id, issued.ticket) = entry

namespace Routes

variable {steps : List CommandStep} {answers : List CommandAnswer}

theorem start (ids : IdSource) : Routes [] [] (new ids) where
  length := rfl
  table := new_consistent ids
  handles := rfl
  follows := by simp
  origin := by simp [new, CommandTable.new]

theorem step (h : Routes steps answers desk) (last : CommandStep) :
    Routes (steps ++ [last]) (answers ++ [(desk.step last).1]) (desk.step last).2 where
  length := by simp [h.length]
  table := step_consistent h.table last
  handles := step_handles h.handles last
  follows := by
    intro index issued hanswer
    by_cases hlt : index < answers.length
    · rw [List.getElem?_append_left hlt] at hanswer
      rw [List.drop_append_of_le_length (by rw [← h.length]; omega)]
      exact (h.follows index issued hanswer).step h.table last
    · rw [List.getElem?_append_right (by omega), List.getElem?_singleton] at hanswer
      split at hanswer
      case isFalse => cases hanswer
      case isTrue hindex =>
        rw [List.drop_of_length_le (by simp [← h.length]; omega)]
        exact step_follows h.handles (Option.some.inj hanswer)
  origin := by
    intro entry hentry
    rcases step_origin h.table last hentry with hentry | ⟨issued, hanswer, rfl⟩
    · obtain ⟨index, issued, hanswer, rfl⟩ := h.origin entry hentry
      have hlt := (List.getElem?_eq_some_iff.1 hanswer).1
      exact ⟨index, issued, by rw [List.getElem?_append_left hlt, hanswer], rfl⟩
    · exact ⟨answers.length, issued, by simp [hanswer], rfl⟩

theorem outstanding_iff (h : Routes steps answers desk) {id : UInt16} {ticket : Ticket} :
    (id, ticket) ∈ desk.table.outstanding ↔
      ∃ (index : Nat) (issued : Issued), answers[index]? = some (.issued issued) ∧
        issued.id = id ∧ issued.ticket = ticket ∧
          firstResult id (steps.drop (index + 1)) = none := by
  constructor
  · intro hmem
    obtain ⟨index, issued, hanswer, heq⟩ := h.origin _ hmem
    obtain ⟨rfl, rfl⟩ := Prod.mk.inj heq
    exact ⟨index, issued, hanswer, rfl, rfl, (h.follows index issued hanswer).outstanding.1 hmem⟩
  · rintro ⟨index, issued, hanswer, rfl, rfl, hnone⟩
    exact (h.follows index issued hanswer).outstanding.2 hnone

end Routes

/-- A run keeps the routes, one step after the other. -/
theorem run_routes (ids : IdSource) (steps : List CommandStep) :
    Routes steps ((new ids).run steps).1 ((new ids).run steps).2 := by
  refine runSteps_induction CommandDesk.step (.start ids) ?_ steps
  exact fun steps answers desk last h => h.step last

/-- After every run, the ids of outstanding commands are distinct and at most as many as there are
ids. An id is outstanding exactly while an issue of it has no result, and an issue brings an id
that is not. Every command keeps the first result that a step after its issue gives to its id, and
its holder sees that, or the timeout if the deadline came first; nothing else happens to it until
the table is given up. A response is unmatched exactly if its id is not outstanding, and then
changes nothing; otherwise it frees that id alone. -/
theorem run_routes_responses (ids : IdSource) (steps : List CommandStep) :
    let (answers, desk) := (new ids).run steps
    (desk.table.outstandingIds.Nodup ∧ desk.table.outstanding.length ≤ commandIdSpace ∧
      (∀ id ticket, (id, ticket) ∈ desk.table.outstanding ↔
        ∃ (index : Nat) (issued : Issued), answers[index]? = some (.issued issued) ∧
          issued.id = id ∧ issued.ticket = ticket ∧
            firstResult id (steps.drop (index + 1)) = none) ∧
      ∀ text issued next, desk.step (.issue text) = (.issued issued, next) →
        issued.id ∉ desk.table.outstandingIds ∧ issued.envelope = .command text issued.id ∧
          next.table.outstanding = (issued.id, issued.ticket) :: desk.table.outstanding) ∧
    (∀ (index : Nat) (issued : Issued), answers[index]? = some (.issued issued) →
      let later := steps.drop (index + 1)
      desk.table.result? issued.ticket = firstResult issued.id later ∧
      ∃ handle, desk.handles[issued.ticket]? = some handle ∧
        (CommandStep.dropHandle issued.ticket ∉ later →
          (handle.look desk.table).1 = outcome issued later ∧
          (handle.look desk.table.abandon).1 =
            some ((outcome issued later).getD (.error .connectionClosed)))) ∧
    (∀ id payload success,
      let (resolution, next) := desk.table.resolve id payload success
      (resolution = .unmatched ↔ id ∉ desk.table.outstandingIds) ∧
      (resolution = .unmatched → next = desk.table) ∧
      (resolution ≠ .unmatched → resolution = if success then .fulfilled else .rejected) ∧
      next.outstanding = desk.table.outstanding.filter (·.1 != id) ∧
      ∀ ticket, (id, ticket) ∉ desk.table.outstanding →
        next.result? ticket = desk.table.result? ticket) := by
  have h := run_routes ids steps
  refine ⟨⟨h.table.ids, h.table.room, fun id ticket => h.outstanding_iff, ?_⟩, ?_, ?_⟩
  · intro text issued next hstep
    exact step_issued hstep
  · intro index issued hanswer
    have hfollows := h.follows index issued hanswer
    exact ⟨hfollows.result?_eq, hfollows.look⟩
  · intro id payload success
    exact resolve_spec h.table id payload success

/-- The second command draws past the id of the first, and keeps the first of its responses. -/
theorem run_routes_responses_twice :
    let steps := [.issue "status", .issue "map", .resolve 9 "lobby" true, .resolve 9 "late" false]
    let (answers, desk) := (new (.ofScript [7, 7, 9])).run steps
    answers = [.issued ⟨7, 0, .command "status" 7⟩, .issued ⟨9, 1, .command "map" 9⟩,
        .resolved .fulfilled, .resolved .unmatched] ∧
      desk.table.outstandingIds = [7] ∧ desk.table.result? 0 = none ∧
      desk.table.result? 1 = some (.ok "lobby") := by
  intro steps
  let ids : IdSource := .ofScript [7, 7, 9]
  have hfirst : (new ids).step (.issue "status") = (.issued ⟨7, 0, .command "status" 7⟩,
      ⟨⟨ids.advance 1, [(7, 0)], [none]⟩, [.waiting 0]⟩) := by
    rw [step, issue?_of_first "status" 0 (by decide) (by decide) rfl (by decide)]
    rfl
  have hsecond : step ⟨⟨ids.advance 1, [(7, 0)], [none]⟩, [.waiting 0]⟩ (.issue "map") =
      (.issued ⟨9, 1, .command "map" 9⟩,
        ⟨⟨ids.advance 3, [(9, 1), (7, 0)], [none, none]⟩, [.waiting 0, .waiting 1]⟩) := by
    rw [step, issue?_of_first "map" 1 (by decide) (by decide) rfl (by decide)]
    rfl
  have hrun : (new ids).run steps = ([.issued ⟨7, 0, .command "status" 7⟩,
      .issued ⟨9, 1, .command "map" 9⟩, .resolved .fulfilled, .resolved .unmatched],
      ⟨⟨ids.advance 3, [(7, 0)], [none, some (.ok "lobby")]⟩, [.waiting 0, .waiting 1]⟩) := by
    rw [run_cons, hfirst, run_cons, hsecond]
    rfl
  have h := run_routes_responses ids steps
  rw [hrun] at h ⊢
  obtain ⟨-, hresults, -⟩ := h
  exact ⟨rfl, rfl, (hresults 0 _ rfl).1, (hresults 1 _ rfl).1⟩

end CommandDesk
end ClusterLink
