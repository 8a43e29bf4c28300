import ClusterLink.Command.Run
import ClusterLink.Proofs.Command.Table
import ClusterLink.Session.Basic
/-!
Drawing an id ends. Ids come from a script and then from a walk through the id space, and while
fewer commands are outstanding than there are ids, the walk meets a free one within a round. Main
statement: `issue_ends`; from an empty table as many commands can be issued as there are ids, and no
more.
-/
namespace ClusterLink

namespace CommandTable

variable {script : List UInt16} {start drawn : Nat} {table : CommandTable}

/-- With room in the table, the first free id of the stream is issued, within what is left of the
script and one round of the walk. -/
theorem issue?_of_room (hids : table.ids = (IdSource.scripted script start).advance drawn)
    (hroom : table.outstanding.length < commandIdSpace) (text : String) :
    ∃ count < script.length - drawn + commandIdSpace, ∃ issued,
      table.issue? text = some (issued, table.withIssued issued.id
        ((IdSource.scripted script start).advance (drawn + (count + 1)))) ∧
      (∀ k < count, (IdSource.scripted script start).stream (drawn + k) ∈ table.outstandingIds) ∧
      issued.id = (IdSource.scripted script start).stream (drawn + count) ∧
      issued.id ∉ table.outstandingIds ∧ issued.envelope = .command text issued.id := by
  obtain ⟨id, hid, hfree⟩ := exists_free hroom
  rw [← isOutstanding_iff, Bool.not_eq_true] at hfree
  obtain ⟨count, hcount, htaken, hfirst, hfresh⟩ :=
    IdSource.fresh?_scripted script start drawn hid hfree
  refine ⟨count, hcount, ⟨_, table.results.length, .command text _⟩, ?_, ?_, rfl, ?_, rfl⟩
  · rw [issue?, if_neg (Nat.not_le.2 hroom), hids, hfresh]
    rfl
  · intro k hk
    exact isOutstanding_iff.1 (htaken k hk)
  · rwa [← isOutstanding_iff, Bool.not_eq_true]

theorem issue?_of_full (hfull : commandIdSpace ≤ table.outstanding.length) (text : String) :
    table.issue? text = none := if_pos hfull

end CommandTable

namespace CommandDesk

variable {script : List UInt16} {start drawn : Nat} {desk : CommandDesk}

/-- As many commands can be issued one after the other as there is room for, under different ids. -/
theorem run_issues_of_room (texts : List String)
    (hids : desk.table.ids = (IdSource.scripted script start).advance drawn)
    (hroom : texts.length + desk.table.outstanding.length ≤ commandIdSpace) :
    ∃ issued : List Issued,
      (desk.run (texts.map .issue)).1 = issued.map .issued ∧ issued.length = texts.length ∧
      (issued.map (·.id)).Nodup ∧ (∀ command ∈ issued, command.id ∉ desk.table.outstandingIds) ∧
      (desk.run (texts.map .issue)).2.table.outstanding.length =
        texts.length + desk.table.outstanding.length := by
  induction texts generalizing desk drawn with
  | nil => exact ⟨[], rfl, rfl, List.nodup_nil, by simp, (Nat.zero_add _).symm⟩
  | cons text texts ih =>
    rw [List.length_cons] at hroom
    obtain ⟨count, -, first, hissue, -, -, hfree, -⟩ :=
      CommandTable.issue?_of_room hids (by omega) text
    let ids := (IdSource.scripted script start).advance (drawn + (count + 1))
    let next : CommandDesk :=
      ⟨desk.table.withIssued first.id ids, desk.handles ++ [.waiting first.ticket]⟩
    have hstep : desk.step (.issue text) = (.issued first, next) := by
      rw [step, hissue]
    have hlength : next.table.outstanding.length = desk.table.outstanding.length + 1 := rfl
    obtain ⟨issued, hanswers, hcount, hnodup, hnew, houtstanding⟩ :=
      @ih (drawn + (count + 1)) next rfl (by omega)
    have hothers : ∀ command ∈ issued, command.id ≠ first.id ∧
        command.id ∉ desk.table.outstandingIds := fun command hcommand =>
      not_or.1 fun h => hnew command hcommand (List.mem_cons.2 h)
    rw [List.map_cons, run_cons, hstep]
    refine ⟨first :: issued, ?_, ?_, ?_, ?_, ?_⟩
    · rw [hanswers, List.map_cons]
    · rw [List.length_cons, List.length_cons, hcount]
    · rw [List.map_cons, List.nodup_cons]
      refine ⟨?_, hnodup⟩
      intro hmem
      obtain ⟨command, hcommand, hid⟩ := List.mem_map.1 hmem
      exact (hothers command hcommand).1 hid
    · rw [List.forall_mem_cons]
      exact ⟨hfree, fun command hcommand => (hothers command hcommand).2⟩
    · rw [houtstanding, hlength, List.length_cons]
      omega

/-- Drawing an id ends, wherever the source is in its script or its walk, and whatever ids are
outstanding. With room for one more, the first id drawn that is not outstanding is issued; it is the
last one drawn, and no more are drawn than are left of the script and make one round of the walk.
With every id outstanding nothing is drawn and nothing changes. So an empty table has room for as
many commands as there are ids, all under different ones, and for no more. -/
theorem issue_ends (script : List UInt16) (start drawn : Nat)
    (outstanding : List (UInt16 × Ticket)) (results : List (Option CommandResult)) :
    let source := IdSource.scripted script start
    let table : CommandTable := ⟨source.advance drawn, outstanding, results⟩
    (outstanding.length < commandIdSpace → ∀ text, ∃ count issued,
      table.issue? text =
        some (issued, table.withIssued issued.id (source.advance (drawn + (count + 1)))) ∧
      count + 1 ≤ script.length - drawn + commandIdSpace ∧
      (∀ k < count, source.stream (drawn + k) ∈ table.outstandingIds) ∧
      issued.id = source.stream (drawn + count) ∧ issued.id ∉ table.outstandingIds ∧
      issued.envelope = .command text issued.id) ∧
    (outstanding.length = commandIdSpace → ∀ (text : String) {ρ : Type} [GameRuntime ρ]
      (session : Session ρ), session.commands = table →
        session.issue text = (.error (.exhausted commandIdSpace), session)) ∧
    ∀ texts : List String, texts.length = commandIdSpace →
      ∃ (issued : List Issued) (desk : CommandDesk),
      (new (source.advance drawn)).run (texts.map .issue) = (issued.map .issued, desk) ∧
      issued.length = commandIdSpace ∧ (issued.map (·.id)).Nodup ∧
      ∀ text, desk.step (.issue text) = (.refused, desk) := by
  intro source table
  refine ⟨?_, ?_, ?_⟩
  · intro hroom text
    obtain ⟨count, hcount, issued, hissue, htaken, hid, hfree, henvelope⟩ :=
      table.issue?_of_room rfl hroom text
    exact ⟨count, issued, hissue, hcount, htaken, hid, hfree, henvelope⟩
  · intro hfull text ρ _ session hcommands
    have hrefused : session.commands.issue? text = none :=
      CommandTable.issue?_of_full (hcommands ▸ Nat.le_of_eq hfull.symm) text
    have hlength : session.commands.outstanding.length = commandIdSpace := hcommands ▸ hfull
    rw [Session.issue, hrefused, hlength]
  · intro texts htexts
    obtain ⟨issued, hanswers, hcount, hnodup, -, houtstanding⟩ :=
      (new (source.advance drawn)).run_issues_of_room texts rfl (Nat.le_of_eq htexts)
    refine ⟨issued, _, Prod.ext hanswers rfl, hcount.trans htexts, hnodup, ?_⟩
    intro text
    rw [step, CommandTable.issue?_of_full (Nat.le_of_eq (houtstanding.trans htexts).symm)]

end CommandDesk
end ClusterLink
