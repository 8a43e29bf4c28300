import ClusterLink.Proofs.Session.Issuing
/-!
Every outstanding command keeps the first result that a later event of its session brings for its
id, whatever else the session does. Main statement: `run_result?`.
-/
namespace ClusterLink

open CommandTable

/-- The result that an event brings for an id. -/
def ConnectionEvent.result? (id : UInt16) : ConnectionEvent → Option CommandResult
  | .message (.serverResponse named payload success) =>
    if named = id then some (responseResult payload success) else none
  | _ => none

namespace CommandTable

variable {table : CommandTable} {id : UInt16} {ticket : Ticket} {result : Option CommandResult}

/-- A ticket has this result, and is outstanding under its id as long as it has none. -/
structure Holds (table : CommandTable) (id : UInt16) (ticket : Ticket)
    (result : Option CommandResult) : Prop where
  told : table.result? ticket = result
  outstanding : result = none → (id, ticket) ∈ table.outstanding

theorem Consistent.result?_eq_none (hc : table.Consistent)
    (hmem : (id, ticket) ∈ table.outstanding) : table.result? ticket = none := by
  rw [CommandTable.result?, hc.opened _ hmem]
  rfl

theorem Holds.of_mem (hc : table.Consistent) (hmem : (id, ticket) ∈ table.outstanding) :
    table.Holds id ticket none :=
  ⟨hc.result?_eq_none hmem, fun _ => hmem⟩

theorem Holds.lt_length (hc : table.Consistent) (h : table.Holds id ticket result) :
    ticket < table.results.length := by
  by_contra hlate
  have hpast : table.results[ticket]? = none := List.getElem?_eq_none (Nat.le_of_not_lt hlate)
  have hnone : result = none := by
    rw [← h.told, CommandTable.result?, hpast]
    rfl
  have hopened := hc.opened _ (h.outstanding hnone)
  rw [hpast] at hopened
  cases hopened

/-- A response settles the ticket of its id, if that is still open, and no other. -/
theorem Holds.settled (hc : table.Consistent) (h : table.Holds id ticket result) (named : UInt16)
    (response : CommandResult) : (table.settled named response).Holds id ticket
      (result.or (if named = id then some response else none)) := by
  -- a ticket stands under one id, so the response is for it exactly if that id is named
  by_cases hmem : (named, ticket) ∈ table.outstanding
  · have hnone : result = none := h.told.symm.trans (hc.result?_eq_none hmem)
    have hid : named = id := by
      have hsame := List.inj_on_of_nodup_map hc.tickets hmem (h.outstanding hnone) rfl
      exact congrArg Prod.fst hsame
    rw [hnone, if_pos hid]
    refine ⟨?_, by simp⟩
    rw [CommandTable.result?, settled_results_of_mem hc hmem]
    rfl
  · have hkept : (table.settled named response).result? ticket = result := by
      rw [← h.told, CommandTable.result?, settled_results_of_notMem hc hmem, CommandTable.result?]
    cases result with
    | some shown => exact ⟨hkept, by simp⟩
    | none =>
      have houtstanding := h.outstanding rfl
      have hid : named ≠ id := by
        rintro rfl
        exact hmem houtstanding
      rw [if_neg hid]
      refine ⟨hkept, ?_⟩
      intro _
      rw [settled_outstanding hc, List.mem_filter]
      exact ⟨houtstanding, by simpa using hid.symm⟩

theorem Holds.heed (hc : table.Consistent) (h : table.Holds id ticket result)
    (event : ConnectionEvent) :
    (table.heed event).Holds id ticket (result.or (event.result? id)) := by
  unfold CommandTable.heed
  split
  case h_1 named payload success =>
    rw [resolve_table]
    exact h.settled hc named (responseResult payload success)
  case h_2 hother =>
    have hnone : event.result? id = none := by
      unfold ConnectionEvent.result?
      split
      case h_1 named payload success => exact absurd rfl (hother named payload success)
      case h_2 => rfl
    rwa [hnone, Option.or_none]

/-- The first event that brings a result for the id counts. -/
theorem Holds.foldl_heed (hc : table.Consistent) (h : table.Holds id ticket result)
    (events : List ConnectionEvent) :
    (events.foldl CommandTable.heed table).Holds id ticket
      (result.or (events.findSome? (·.result? id))) := by
  induction events generalizing table result with
  | nil => rwa [List.findSome?_nil, Option.or_none]
  | cons event events ih =>
    have hrest := ih (hc.heed event) (h.heed hc event)
    rw [Option.or_assoc] at hrest
    rw [List.foldl_cons, List.findSome?_cons]
    cases hresult : event.result? id with
    | none => rwa [hresult, Option.none_or] at hrest
    | some response => rwa [hresult, Option.some_or] at hrest

end CommandTable

namespace Session

variable {ρ : Type} {session : Session ρ} {id : UInt16} {ticket : Ticket}
  {result : Option CommandResult}

/-- An issue leaves the tickets of other commands as they are. -/
theorem issue_holds (hc : session.commands.Consistent)
    (h : session.commands.Holds id ticket result) (text : String) :
    (session.issue text).2.commands.Holds id ticket result := by
  rcases issue_cases hc text with ⟨-, hissue⟩ | ⟨-, ⟨-, next, hissue, hback⟩ |
    ⟨issued, next, hissue, hissues⟩⟩
  · rw [hissue]
    exact h
  · rw [hissue]
    refine ⟨?_, ?_⟩
    · rw [hback.results ticket (h.lt_length hc)]
      exact h.told
    · intro hnone
      show (id, ticket) ∈ next.commands.outstanding
      rw [hback.outstanding]
      exact h.outstanding hnone
  · rw [hissue]
    refine ⟨(hissues.results ticket).trans h.told, ?_⟩
    intro hnone
    show (id, ticket) ∈ next.commands.outstanding
    rw [hissues.outstanding]
    exact List.mem_cons_of_mem _ (h.outstanding hnone)

section

variable [GameRuntime ρ]

theorem step_holds (hc : session.commands.Consistent)
    (h : session.commands.Holds id ticket result) (step : SessionStep ρ) :
    (session.step step).2.commands.Holds id ticket
      (result.or ((session.heard step).findSome? (·.result? id))) := by
  cases htext : step.text? with
  | none =>
    rw [step_commands htext]
    exact h.foldl_heed hc _
  | some text =>
    obtain ⟨hheard, hstep⟩ := step_of_text session htext
    rw [hheard, hstep, List.findSome?_nil, Option.or_none]
    exact issue_holds hc h text

theorem run_holds (hc : session.commands.Consistent)
    (h : session.commands.Holds id ticket result) (steps : List (SessionStep ρ)) :
    (session.run steps).2.commands.Holds id ticket
      (result.or ((session.heardAll steps).findSome? (·.result? id))) := by
  induction steps generalizing session result with
  | nil => rwa [heardAll, List.findSome?_nil, Option.or_none]
  | cons step rest ih =>
    have hrest := ih (step_keeps hc step).consistent (step_holds hc h step)
    rw [Option.or_assoc] at hrest
    rwa [run_cons, heardAll, List.findSome?_append]

/-- An outstanding command keeps the first result that is heard for its id. -/
theorem run_result? (hc : session.commands.Consistent)
    (hmem : (id, ticket) ∈ session.commands.outstanding) (steps : List (SessionStep ρ)) :
    (session.run steps).2.commands.result? ticket =
      (session.heardAll steps).findSome? (·.result? id) :=
  (run_holds hc (.of_mem hc hmem) steps).told

end

end Session
end ClusterLink
