import ClusterLink.Command.Table
import ClusterLink.Proofs.Command.IdSource
import Mathlib.Data.List.Nodup
import Mathlib.Data.List.Perm.Subperm
/-!
What the command table keeps true of itself: the ids and the tickets of outstanding commands are
distinct, there are no more of them than ids, and their tickets are open.
-/
namespace ClusterLink
namespace CommandTable

variable {table next : CommandTable} {id : UInt16} {ticket : Ticket} {result : CommandResult}

/-- The ids of outstanding commands. -/
def outstandingIds (table : CommandTable) : List UInt16 := table.outstanding.map Prod.fst

structure Consistent (table : CommandTable) : Prop where
  ids : table.outstandingIds.Nodup
  tickets : (table.outstanding.map Prod.snd).Nodup
  opened : ∀ entry ∈ table.outstanding, table.results[entry.2]? = some none
  room : table.outstanding.length ≤ commandIdSpace

theorem mem_outstandingIds :
    id ∈ table.outstandingIds ↔ ∃ ticket, (id, ticket) ∈ table.outstanding := by
  simp [outstandingIds]

@[simp] theorem isOutstanding_iff : table.isOutstanding id = true ↔ id ∈ table.outstandingIds := by
  simp [isOutstanding, outstandingIds]

theorem new_consistent (ids : IdSource) : (new ids).Consistent :=
  ⟨List.nodup_nil, List.nodup_nil, by simp [new], by simp [new]⟩

/-! ### Issue -/

/-- The table after a command was issued. -/
def withIssued (table : CommandTable) (id : UInt16) (ids : IdSource) : CommandTable :=
  ⟨ids, (id, table.results.length) :: table.outstanding, table.results ++ [none]⟩

theorem issue?_eq_some {text : String} {issued : Issued}
    (h : table.issue? text = some (issued, next)) :
    table.outstanding.length < commandIdSpace ∧ issued.id ∉ table.outstandingIds ∧
      issued.ticket = table.results.length ∧ issued.envelope = .command text issued.id ∧
      ∃ ids, next = table.withIssued issued.id ids := by
  unfold issue? at h
  split at h
  · cases h
  case isFalse hroom =>
    obtain ⟨⟨id, ids⟩, hfresh, hissued⟩ := Option.map_eq_some_iff.1 h
    cases hissued
    obtain ⟨count, -, -, hfree, -⟩ := IdSource.fresh?_first hfresh
    refine ⟨by omega, ?_, rfl, rfl, ids, rfl⟩
    rwa [Bool.eq_false_iff, ne_eq, isOutstanding_iff] at hfree

/-- The first id drawn that is not outstanding is issued. -/
theorem issue?_of_first (text : String) (count : Nat)
    (hroom : table.outstanding.length < commandIdSpace)
    (hbefore : ∀ k < count, table.ids.stream (table.ids.draws + k) ∈ table.outstandingIds)
    (hid : table.ids.stream (table.ids.draws + count) = id) (hfree : id ∉ table.outstandingIds) :
    table.issue? text = some (⟨id, table.results.length, .command text id⟩,
      table.withIssued id (table.ids.advance (count + 1))) := by
  have hfresh : table.ids.fresh? table.isOutstanding =
      some (id, table.ids.advance (count + 1)) := by
    subst hid
    refine IdSource.fresh?_of_first count (fun k hk => isOutstanding_iff.2 (hbefore k hk)) ?_
    rwa [← Bool.not_eq_true, isOutstanding_iff]
  rw [issue?, if_neg (Nat.not_le.2 hroom), hfresh]
  rfl

/-- A command is refused if every id is outstanding, or every id that is drawn for it. -/
theorem issue?_eq_none_iff {text : String} :
    table.issue? text = none ↔ commandIdSpace ≤ table.outstanding.length ∨
      ∀ k, table.ids.stream (table.ids.draws + k) ∈ table.outstandingIds := by
  unfold issue?
  split
  case isTrue hfull => simp [hfull]
  case isFalse hroom =>
    rw [Option.map_eq_none_iff, IdSource.fresh?_eq_none_iff]
    simp [hroom]

/-- While there is room, some id of the id space is free. -/
theorem exists_free (hroom : table.outstanding.length < commandIdSpace) :
    ∃ id : UInt16, id.toNat < commandIdSpace ∧ id ∉ table.outstandingIds := by
  by_contra hnone
  push Not at hnone
  have hnat : ∀ n < commandIdSpace, (UInt16.ofNat n).toNat = n := by
    intro n hn
    exact UInt16.toNat_ofNat_of_lt' (Nat.lt_trans hn (by decide))
  have htaken : (List.range commandIdSpace).map UInt16.ofNat ⊆ table.outstandingIds := by
    intro id hid
    obtain ⟨n, hn, rfl⟩ := List.mem_map.1 hid
    rw [List.mem_range] at hn
    apply hnone
    rwa [hnat n hn]
  have hdistinct : ((List.range commandIdSpace).map UInt16.ofNat).Nodup := by
    apply List.Nodup.map_on _ List.nodup_range
    intro m hm n hn heq
    rw [← hnat m (List.mem_range.1 hm), heq, hnat n (List.mem_range.1 hn)]
  have hlength := (hdistinct.subperm htaken).length_le
  rw [List.length_map, List.length_range, outstandingIds, List.length_map] at hlength
  omega

theorem Consistent.withIssued (h : table.Consistent) (hfree : id ∉ table.outstandingIds)
    (hroom : table.outstanding.length < commandIdSpace) (ids : IdSource) :
    (table.withIssued id ids).Consistent where
  ids := List.nodup_cons.2 ⟨hfree, h.ids⟩
  tickets := by
    refine List.nodup_cons.2 ⟨?_, h.tickets⟩
    intro hmem
    obtain ⟨entry, hentry, hticket⟩ := List.mem_map.1 hmem
    obtain ⟨hlt, -⟩ := List.getElem?_eq_some_iff.1 (h.opened entry hentry)
    exact absurd hticket (Nat.ne_of_lt hlt)
  opened := by
    intro entry hentry
    simp only [CommandTable.withIssued] at hentry ⊢
    rcases List.mem_cons.1 hentry with rfl | hentry
    · simp
    · have hopened := h.opened entry hentry
      obtain ⟨hlt, -⟩ := List.getElem?_eq_some_iff.1 hopened
      rwa [List.getElem?_append_left hlt]
  room := hroom

/-! ### Settlement -/

/-- The table after a result was given to an id, if that is outstanding. -/
def settled (table : CommandTable) (id : UInt16) (result : CommandResult) : CommandTable :=
  (table.settle? id result).getD table

theorem settle?_eq_none_iff : table.settle? id result = none ↔ id ∉ table.outstandingIds := by
  unfold settle?
  rw [Option.map_eq_none_iff, List.find?_eq_none, mem_outstandingIds]
  constructor
  · rintro hnone ⟨ticket, hmem⟩
    exact hnone (id, ticket) hmem (beq_self_eq_true id)
  · intro hnone entry hentry hid
    exact hnone ⟨entry.2, by rwa [← eq_of_beq hid]⟩

theorem settle?_of_mem (h : table.Consistent) (hmem : (id, ticket) ∈ table.outstanding) :
    table.settle? id result = some { table with
      outstanding := table.outstanding.filter (·.1 != id)
      results := table.results.set ticket (some result) } := by
  have hfind : table.outstanding.find? (·.1 == id) = some (id, ticket) := by
    cases hfound : table.outstanding.find? (·.1 == id) with
    | none => simpa using List.find?_eq_none.1 hfound _ hmem
    | some entry =>
      have hid : entry.1 = id := by simpa using List.find?_some hfound
      have hentry := List.mem_of_find?_eq_some hfound
      rw [List.inj_on_of_nodup_map h.ids hentry hmem hid]
  simp [settle?, hfind]

theorem filter_of_notMem (hid : id ∉ table.outstandingIds) :
    table.outstanding.filter (·.1 != id) = table.outstanding := by
  rw [List.filter_eq_self]
  intro entry hentry
  have hne : entry.1 ≠ id := fun heq => hid (heq ▸ List.mem_map_of_mem hentry)
  simpa using hne

theorem settled_of_notMem (hid : id ∉ table.outstandingIds) : table.settled id result = table := by
  rw [settled, settle?_eq_none_iff.2 hid, Option.getD_none]

theorem settled_of_mem (h : table.Consistent) (hmem : (id, ticket) ∈ table.outstanding) :
    table.settled id result = { table with
      outstanding := table.outstanding.filter (·.1 != id)
      results := table.results.set ticket (some result) } := by
  rw [settled, settle?_of_mem h hmem, Option.getD_some]

theorem settled_outstanding (h : table.Consistent) :
    (table.settled id result).outstanding = table.outstanding.filter (·.1 != id) := by
  by_cases hid : id ∈ table.outstandingIds
  · obtain ⟨ticket, hmem⟩ := mem_outstandingIds.1 hid
    rw [settled_of_mem h hmem]
  · rw [settled_of_notMem hid, filter_of_notMem hid]

theorem settled_results_of_mem (h : table.Consistent) (hmem : (id, ticket) ∈ table.outstanding) :
    (table.settled id result).results[ticket]? = some (some result) := by
  obtain ⟨hlt, -⟩ := List.getElem?_eq_some_iff.1 (h.opened _ hmem)
  rw [settled_of_mem h hmem, List.getElem?_set_self hlt]

theorem settled_results_of_notMem (h : table.Consistent)
    (hmem : (id, ticket) ∉ table.outstanding) :
    (table.settled id result).results[ticket]? = table.results[ticket]? := by
  by_cases hid : id ∈ table.outstandingIds
  · obtain ⟨other, hother⟩ := mem_outstandingIds.1 hid
    have hne : other ≠ ticket := fun heq => hmem (heq ▸ hother)
    rw [settled_of_mem h hother, List.getElem?_set_ne hne]
  · rw [settled_of_notMem hid]

theorem settled_length (table : CommandTable) (id : UInt16) (result : CommandResult) :
    (table.settled id result).results.length = table.results.length := by
  unfold settled settle?
  cases table.outstanding.find? (·.1 == id) with
  | none => rfl
  | some entry => simp

theorem Consistent.settled (h : table.Consistent) : (table.settled id result).Consistent where
  ids := by
    rw [outstandingIds, settled_outstanding h]
    exact h.ids.sublist (List.filter_sublist.map _)
  tickets := by
    rw [settled_outstanding h]
    exact h.tickets.sublist (List.filter_sublist.map _)
  opened := by
    intro entry hentry
    rw [settled_outstanding h, List.mem_filter] at hentry
    obtain ⟨hentry, hid⟩ := hentry
    rw [settled_results_of_notMem h, h.opened entry hentry]
    intro hmem
    have heq := List.inj_on_of_nodup_map h.tickets hmem hentry rfl
    rw [← heq, bne_self_eq_false] at hid
    cases hid
  room := by
    rw [settled_outstanding h]
    exact Nat.le_trans (List.length_filter_le _ _) h.room

/-! ### The two ways to settle -/

/-- The result that a response stands for. -/
def responseResult (payload : String) (success : Bool) : CommandResult :=
  if success then .ok payload else .error (.failed payload)

theorem resolve_of_notMem (payload : String) (success : Bool) (hid : id ∉ table.outstandingIds) :
    table.resolve id payload success = (.unmatched, table) := by
  unfold resolve
  simp only [settle?_eq_none_iff.2 hid]

theorem resolve_of_mem (payload : String) (success : Bool) (hid : id ∈ table.outstandingIds) :
    table.resolve id payload success =
      (if success then .fulfilled else .rejected,
        table.settled id (responseResult payload success)) := by
  unfold resolve settled responseResult
  dsimp only
  split
  case h_1 hnone => exact absurd hid (settle?_eq_none_iff.1 hnone)
  case h_2 next hsome => rw [hsome, Option.getD_some]

/-- A response changes nothing unless its id is outstanding, and then frees that id alone. -/
theorem resolve_spec (h : table.Consistent) (id : UInt16) (payload : String) (success : Bool) :
    let (resolution, next) := table.resolve id payload success
    (resolution = .unmatched ↔ id ∉ table.outstandingIds) ∧
    (resolution = .unmatched → next = table) ∧
    (resolution ≠ .unmatched → resolution = if success then .fulfilled else .rejected) ∧
    next.outstanding = table.outstanding.filter (·.1 != id) ∧
    ∀ ticket, (id, ticket) ∉ table.outstanding → next.result? ticket = table.result? ticket := by
  by_cases hid : id ∈ table.outstandingIds
  · rw [resolve_of_mem payload success hid]
    have hmatched : (if success then Resolution.fulfilled else .rejected) ≠ .unmatched := by
      cases success <;> decide
    refine ⟨by simp [hid, hmatched], fun hun => absurd hun hmatched, fun _ => rfl,
      settled_outstanding h, ?_⟩
    intro ticket hticket
    rw [result?, settled_results_of_notMem h hticket, result?]
  · rw [resolve_of_notMem payload success hid]
    exact ⟨by simp [hid], fun _ => rfl, by simp, (filter_of_notMem hid).symm, fun _ _ => rfl⟩

theorem resolve_table (payload : String) (success : Bool) :
    (table.resolve id payload success).2 = table.settled id (responseResult payload success) := by
  by_cases hid : id ∈ table.outstandingIds
  · rw [resolve_of_mem payload success hid]
  · rw [resolve_of_notMem payload success hid, settled_of_notMem hid]

end CommandTable
end ClusterLink
