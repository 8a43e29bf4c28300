import ClusterLink.Proofs.Roster.Calls
import ClusterLink.Roster.Run
import Mathlib.Data.List.Find
import Mathlib.Data.List.Induction
/-!
What becomes of every batch that the roster is given, read off a list of steps alone. Main
statement: `run_hands_over`, the runtime gets each batch at most once, whole and in order, and one
that it does not get is still kept or was superseded before the runtime could take it.
-/
namespace ClusterLink

namespace RosterStep

/-- The batch that a step brings. -/
def batch? : RosterStep → Option (List ServerEntry)
  | .inject batch => some batch
  | _ => none

/-- The readiness that a step gives to the runtime. -/
def readiness? : RosterStep → Option Bool
  | .setReady ready => some ready
  | _ => none

end RosterStep

/-- A batch given to the roster, and at which step. -/
abbrev Intake := Indexed (List ServerEntry)

/-- What became of a batch. -/
inductive Fate where
  /-- The step at this point handed it over. -/
  | handed (point : Nat)
  | kept
  /-- The step at this point brought another batch in its place. -/
  | superseded (point : Nat)
  deriving DecidableEq, Repr

def Fate.isHanded : Fate → Bool
  | .handed _ => true
  | _ => false

section

variable (ready : Bool) (steps : List RosterStep)

/-- Whether the runtime is ready for the step at `index`, if it is at first as `ready` says. -/
def readyAt (index : Nat) : Bool :=
  ((steps.take index).filterMap (·.readiness?)).getLast?.getD ready

/-- Whether the step at `index` leaves no older batch behind: it brings another one, or it asks for
what is kept while the runtime is ready. -/
def clears (index : Nat) : Bool :=
  match steps[index]? with
  | some (.inject _) => true
  | some .replay => readyAt ready steps index
  | _ => false

/-- What the step at `point` makes of a batch that it takes up. -/
def fateAt (point : Nat) : Fate :=
  if readyAt ready steps point then .handed point else .superseded point

/-- What becomes of a batch that the step at `index` brings: a runtime that is ready gets it at
once, and else the next step that clears decides. -/
def fate (index : Nat) : Fate :=
  if readyAt ready steps index then .handed index
  else
    match (List.range steps.length).find? fun later =>
        decide (index < later) && clears ready steps later with
    | some later => fateAt ready steps later
    | none => .kept

/-- The batches whose fate is chosen, in the order in which they came. -/
def select (choice : Fate → Bool) : List Intake :=
  (carried RosterStep.batch? steps).filter fun intake => choice (fate ready steps intake.index)

/-- The batches that were handed over. -/
def handed : List Intake := select ready steps Fate.isHanded

/-- The batches that the step at `point` handed over. -/
def handedBy (point : Nat) : List Intake := select ready steps (· = .handed point)

/-- The batches that are still kept. -/
def kept : List Intake := select ready steps (· = .kept)

end

variable {ready : Bool} {steps : List RosterStep} {last : RosterStep}

theorem step_of_mem_carried {intake : Intake}
    (h : intake ∈ carried RosterStep.batch? steps) :
    steps[intake.index]? = some (.inject intake.content) := by
  obtain ⟨step, hstep, hbatch⟩ := Option.bind_eq_some_iff.1 (mem_carried.1 h)
  cases step with
  | inject batch => rw [hstep, Option.some.inj hbatch]
  | _ => cases hbatch

/-! ### One more step -/

theorem readyAt_snoc (last : RosterStep) {index : Nat} (h : index ≤ steps.length) :
    readyAt ready (steps ++ [last]) index = readyAt ready steps index := by
  rw [readyAt, List.take_append_of_le_length h, readyAt]

theorem readyAt_last (ready : Bool) (steps : List RosterStep) (last : RosterStep) :
    readyAt ready (steps ++ [last]) (steps.length + 1) =
      last.readiness?.getD (readyAt ready steps steps.length) := by
  have hall : (steps ++ [last]).take (steps.length + 1) = steps ++ [last] :=
    List.take_of_length_le (by simp)
  rw [readyAt, hall, List.filterMap_append, List.getLast?_append, readyAt, List.take_length]
  cases h : last.readiness? <;> simp [h]

theorem clears_snoc (last : RosterStep) {index : Nat} (h : index < steps.length) :
    clears ready (steps ++ [last]) index = clears ready steps index := by
  rw [clears, List.getElem?_append_left h, readyAt_snoc last (Nat.le_of_lt h), clears]

theorem clears_last (ready : Bool) (steps : List RosterStep) (last : RosterStep) :
    clears ready (steps ++ [last]) steps.length =
      match last with
      | .inject _ => true
      | .replay => readyAt ready steps steps.length
      | .setReady _ => false := by
  rw [clears, List.getElem?_concat_length, readyAt_snoc last (Nat.le_refl _)]
  cases last <;> rfl

theorem fateAt_ne_kept (ready : Bool) (steps : List RosterStep) (point : Nat) :
    fateAt ready steps point ≠ .kept := by
  unfold fateAt
  split <;> nofun

/-- One more step decides about a batch only if it is still kept. -/
theorem fate_snoc (last : RosterStep) {index : Nat} (h : index < steps.length) :
    fate ready (steps ++ [last]) index =
      if fate ready steps index = .kept ∧ clears ready (steps ++ [last]) steps.length then
        fateAt ready steps steps.length
      else fate ready steps index := by
  have hold : (List.range steps.length).find? (fun later =>
        decide (index < later) && clears ready (steps ++ [last]) later) =
      (List.range steps.length).find? fun later =>
        decide (index < later) && clears ready steps later := by
    apply List.find?_congr
    intro later hlater
    rw [clears_snoc last (List.mem_range.1 hlater)]
  have hpoint : ∀ later ≤ steps.length,
      fateAt ready (steps ++ [last]) later = fateAt ready steps later := by
    intro later hlater
    rw [fateAt, readyAt_snoc last hlater, fateAt]
  rw [fate, readyAt_snoc last (Nat.le_of_lt h), List.length_append, List.length_singleton,
    List.range_succ, List.find?_append, hold, fate]
  -- a batch that is not handed over at once waits for the first step that clears, and the new
  -- step can be that one only if none before it is
  by_cases hready : readyAt ready steps index = true
  · simp [hready]
  · simp only [hready, Bool.false_eq_true, if_false]
    cases hfind : (List.range steps.length).find? fun later =>
        decide (index < later) && clears ready steps later with
    | some later =>
      have hlater := List.mem_range.1 (List.mem_of_find?_eq_some hfind)
      simp [fateAt_ne_kept, hpoint later (Nat.le_of_lt hlater)]
    | none =>
      cases hclears : clears ready (steps ++ [last]) steps.length with
      | true => simp [h, hclears, hpoint steps.length (Nat.le_refl _)]
      | false => simp [hclears]

theorem fate_last (ready : Bool) (steps : List RosterStep) (last : RosterStep) :
    fate ready (steps ++ [last]) steps.length =
      if readyAt ready steps steps.length then .handed steps.length else .kept := by
  have hnone : (List.range (steps ++ [last]).length).find? (fun later =>
      decide (steps.length < later) && clears ready (steps ++ [last]) later) = none := by
    rw [List.find?_eq_none]
    intro later hlater
    rw [List.mem_range, List.length_append, List.length_singleton] at hlater
    simp [show ¬ steps.length < later by omega]
  rw [fate, readyAt_snoc last (Nat.le_refl _), hnone]

/-- A choice among the batches once one more step is taken: those that came before it, by what the
step makes of them, and then its own. -/
theorem select_snoc (ready : Bool) (steps : List RosterStep) (last : RosterStep)
    (choice : Fate → Bool) :
    select ready (steps ++ [last]) choice =
      ((carried RosterStep.batch? steps).filter fun intake => choice
        (if fate ready steps intake.index = .kept ∧
            clears ready (steps ++ [last]) steps.length then
          fateAt ready steps steps.length
        else fate ready steps intake.index)) ++
      if choice (if readyAt ready steps steps.length then .handed steps.length else .kept) then
        (last.batch?.map (⟨steps.length, ·⟩)).toList
      else [] := by
  rw [select, carried_snoc, List.filter_append]
  congr 1
  · apply List.filter_congr
    intro intake hintake
    rw [fate_snoc last (index_lt_of_mem_carried hintake)]
  · cases last.batch? with
    | none => simp
    | some batch => simp [List.filter_cons, fate_last]

/-- Only a step that clears brings a batch. -/
theorem batch?_of_not_clears (h : clears ready (steps ++ [last]) steps.length = false) :
    last.batch? = none := by
  rw [clears_last] at h
  cases last with
  | inject batch => cases h
  | replay => rfl
  | setReady ready => rfl

theorem select_of_not_clears (h : clears ready (steps ++ [last]) steps.length = false)
    (choice : Fate → Bool) :
    select ready (steps ++ [last]) choice = select ready steps choice := by
  rw [select_snoc]
  simp [h, batch?_of_not_clears h, select]

/-- A step that clears decides about all that came before it. -/
theorem fate_of_clears (h : clears ready (steps ++ [last]) steps.length = true)
    {intake : Intake} (hintake : intake ∈ carried RosterStep.batch? steps) :
    fate ready (steps ++ [last]) intake.index ≠ .kept := by
  rw [fate_snoc last (index_lt_of_mem_carried hintake), h]
  split
  case isTrue => exact fateAt_ne_kept ready steps steps.length
  case isFalse hdecided => exact fun hkept => hdecided ⟨hkept, rfl⟩

theorem filter_kept_of_clears (h : clears ready (steps ++ [last]) steps.length = true) :
    (carried RosterStep.batch? steps).filter (fun intake =>
      decide (fate ready (steps ++ [last]) intake.index = .kept)) = [] := by
  rw [List.filter_eq_nil_iff]
  intro intake hintake hkept
  exact fate_of_clears h hintake (of_decide_eq_true hkept)

/-- Only the batches that came last are still kept. -/
theorem carried_batches (ready : Bool) (steps : List RosterStep) :
    carried RosterStep.batch? steps = select ready steps (· ≠ .kept) ++ kept ready steps := by
  induction steps using List.reverseRecOn with
  | nil => rfl
  | append_singleton steps last ih =>
    cases hclears : clears ready (steps ++ [last]) steps.length with
    | false =>
      rw [kept, select_of_not_clears hclears, select_of_not_clears hclears, carried_snoc,
        batch?_of_not_clears hclears]
      simpa [kept] using ih
    | true =>
      -- nothing older survives such a step, so what is kept can only be its own batch
      have hdecided : (carried RosterStep.batch? steps).filter (fun intake =>
          decide (fate ready (steps ++ [last]) intake.index ≠ .kept)) =
        carried RosterStep.batch? steps :=
        List.filter_eq_self.2 fun intake h => decide_eq_true (fate_of_clears hclears h)
      rw [kept, select, select, carried_snoc, List.filter_append, List.filter_append, hdecided,
        filter_kept_of_clears hclears]
      cases last.batch? with
      | none => simp
      | some batch => cases h : readyAt ready steps steps.length <;> simp [fate_last, h]

theorem kept_of_clears (h : clears ready (steps ++ [last]) steps.length = true) :
    kept ready (steps ++ [last]) =
      if readyAt ready steps steps.length then []
      else (last.batch?.map (⟨steps.length, ·⟩)).toList := by
  rw [kept, select, carried_snoc, List.filter_append, filter_kept_of_clears h]
  cases last.batch? with
  | none => simp
  | some batch => cases h : readyAt ready steps steps.length <;> simp [fate_last, h]

/-- A step that clears decides about what was kept, and behind it comes what the step brings. -/
theorem select_of_clears (h : clears ready (steps ++ [last]) steps.length = true)
    (choice : Fate → Bool) (hkept : choice .kept = false) :
    select ready (steps ++ [last]) choice = select ready steps choice ++
      if readyAt ready steps steps.length then
        if choice (.handed steps.length) then
          kept ready steps ++ (last.batch?.map (⟨steps.length, ·⟩)).toList
        else []
      else if choice (.superseded steps.length) then kept ready steps else [] := by
  have hdecided : (select ready steps (· ≠ .kept)).filter (fun intake => choice
        (if fate ready steps intake.index = .kept then fateAt ready steps steps.length
        else fate ready steps intake.index)) = select ready steps choice := by
    rw [select, List.filter_filter, select]
    apply List.filter_congr
    intro intake _
    by_cases hfate : fate ready steps intake.index = .kept <;> simp [hfate, hkept]
  have hpending : (kept ready steps).filter (fun intake => choice
        (if fate ready steps intake.index = .kept then fateAt ready steps steps.length
        else fate ready steps intake.index)) =
      (kept ready steps).filter fun _ => choice (fateAt ready steps steps.length) := by
    apply List.filter_congr
    intro intake hintake
    have hfate : fate ready steps intake.index = .kept := by
      simpa using (List.mem_filter.1 hintake).2
    rw [if_pos hfate]
  rw [select_snoc, h]
  simp only [and_true]
  rw [carried_batches ready steps, List.filter_append, hdecided, hpending, fateAt,
    List.append_assoc]
  congr 1
  cases readyAt ready steps steps.length with
  | true => cases h : choice (.handed steps.length) <;> simp [h]
  | false => cases h : choice (.superseded steps.length) <;> simp [h, hkept]

/-- What a step hands over: what was kept, and behind it what the step itself brings. -/
def handover (ready : Bool) (steps : List RosterStep) (last : RosterStep) : List Intake :=
  if readyAt ready steps steps.length && clears ready (steps ++ [last]) steps.length then
    kept ready steps ++ (last.batch?.map (⟨steps.length, ·⟩)).toList
  else []

theorem handed_snoc (ready : Bool) (steps : List RosterStep) (last : RosterStep) :
    handed ready (steps ++ [last]) = handed ready steps ++ handover ready steps last := by
  rw [handed, handed, handover]
  cases hclears : clears ready (steps ++ [last]) steps.length with
  | false => simp [select_of_not_clears hclears]
  | true => simp [select_of_clears hclears Fate.isHanded rfl, Fate.isHanded]

theorem handedBy_snoc (last : RosterStep) {point : Nat} (h : point < steps.length) :
    handedBy ready (steps ++ [last]) point = handedBy ready steps point := by
  rw [handedBy, handedBy]
  cases hclears : clears ready (steps ++ [last]) steps.length with
  | false => exact select_of_not_clears hclears _
  | true =>
    have hne : steps.length ≠ point := Nat.ne_of_gt h
    rw [select_of_clears hclears _ (by simp)]
    simp [hne]

/-- Every step that has handed something over is among those that were taken. -/
theorem point_lt_of_handed {index point : Nat} (hindex : index < steps.length)
    (h : fate ready steps index = .handed point) : point < steps.length := by
  unfold fate at h
  split at h
  · cases h
    exact hindex
  · split at h
    case h_1 later hfind =>
      unfold fateAt at h
      split at h
      · cases h
        exact List.mem_range.1 (List.mem_of_find?_eq_some hfind)
      · cases h
    case h_2 => cases h

theorem handedBy_last (ready : Bool) (steps : List RosterStep) (last : RosterStep) :
    handedBy ready (steps ++ [last]) steps.length = handover ready steps last := by
  have hnone : handedBy ready steps steps.length = [] := by
    rw [handedBy, select, List.filter_eq_nil_iff]
    intro intake hintake hpoint
    have hlt := point_lt_of_handed (index_lt_of_mem_carried hintake) (of_decide_eq_true hpoint)
    exact Nat.lt_irrefl _ hlt
  rw [handedBy] at hnone ⊢
  rw [handover]
  cases hclears : clears ready (steps ++ [last]) steps.length with
  | false => simp [select_of_not_clears hclears, hnone]
  | true =>
    rw [select_of_clears hclears _ (by simp), hnone]
    simp

/-! ### Runs -/

namespace RosterDesk

/-- The batches that the runtime gets in a step. -/
def taken (desk : RosterDesk) (step : RosterStep) : List (List ServerEntry) :=
  if desk.runtime.ready then
    match step with
    | .inject batch => desk.roster.cached.toList ++ [batch]
    | .replay => desk.roster.cached.toList
    | .setReady _ => []
  else []

/-- The batch that is kept after a step. -/
def keptAfter (desk : RosterDesk) (step : RosterStep) : Option (List ServerEntry) :=
  match step with
  | .inject batch => if desk.runtime.ready then none else some batch
  | .replay => if desk.runtime.ready then none else desk.roster.cached
  | .setReady _ => desk.roster.cached

theorem taken_of_ready {desk : RosterDesk} (h : desk.runtime.ready = true)
    (batch : List ServerEntry) :
    desk.taken (.inject batch) = desk.roster.cached.toList ++ [batch] :=
  if_pos h

theorem taken_of_not_ready {desk : RosterDesk} (h : desk.runtime.ready = false)
    (step : RosterStep) : desk.taken step = [] := by
  unfold taken
  rw [h, if_neg Bool.false_ne_true]

theorem step_eq (desk : RosterDesk) (step : RosterStep) :
    (desk.step step).2 =
      ⟨⟨desk.keptAfter step⟩, ⟨step.readiness?.getD desk.runtime.ready,
        desk.runtime.calls ++ (desk.taken step).flatMap Roster.script⟩⟩ := by
  obtain ⟨⟨cached⟩, ⟨ready, calls⟩⟩ := desk
  cases step with
  | setReady later => simp [RosterDesk.step, keptAfter, taken, RosterStep.readiness?]
  | inject batch =>
    cases ready <;> cases cached <;>
      simp [RosterDesk.step, Roster.inject, Roster.replay, GameRuntime.ingestionReady, keptAfter,
        taken, RosterStep.readiness?, CallLog.deliver_eq]
  | replay =>
    cases ready <;> cases cached <;>
      simp [RosterDesk.step, Roster.replay, GameRuntime.ingestionReady, keptAfter, taken,
        RosterStep.readiness?, CallLog.deliver_eq]

theorem record_eq (desk : RosterDesk) (step : RosterStep) :
    (desk.record step).1.calls = (desk.taken step).flatMap Roster.script := by
  show (desk.step step).2.runtime.calls.drop _ = _
  rw [step_eq, List.drop_left]

/-- A run has come to what the fates of its batches say. -/
structure Tracks (ready : Bool) (steps : List RosterStep) (records : List RosterRecord)
    (desk : RosterDesk) : Prop where
  readiness : desk.runtime.ready = readyAt ready steps steps.length
  log : desk.runtime.calls = records.flatMap (·.calls)
  calls : desk.runtime.calls =
    (handed ready steps).flatMap fun intake => Roster.script intake.content
  cached : desk.roster.cached.toList = (kept ready steps).map (·.content)
  length : records.length = steps.length
  records : ∀ point < steps.length, records[point]?.map (·.calls) =
    some ((handedBy ready steps point).flatMap fun intake => Roster.script intake.content)

namespace Tracks

variable {records : List RosterRecord} {desk : RosterDesk}

theorem taken (h : Tracks ready steps records desk) (last : RosterStep) :
    desk.taken last = (handover ready steps last).map (·.content) := by
  unfold RosterDesk.taken
  rw [handover, h.readiness, clears_last]
  cases hready : readyAt ready steps steps.length with
  | false => rfl
  | true => cases last <;> simp [h.cached, RosterStep.batch?]

theorem keptAfter (h : Tracks ready steps records desk) (last : RosterStep) :
    (desk.keptAfter last).toList = (kept ready (steps ++ [last])).map (·.content) := by
  unfold RosterDesk.keptAfter
  rw [h.readiness]
  cases hclears : clears ready (steps ++ [last]) steps.length with
  | true =>
    rw [kept_of_clears hclears]
    rw [clears_last] at hclears
    cases hready : readyAt ready steps steps.length <;> cases last <;>
      simp_all [RosterStep.batch?]
  | false =>
    rw [kept, select_of_not_clears hclears, ← kept, ← h.cached]
    rw [clears_last] at hclears
    cases last <;> simp_all

theorem step (h : Tracks ready steps records desk) (last : RosterStep) :
    Tracks ready (steps ++ [last]) (records ++ [(desk.record last).1]) (desk.record last).2 := by
  have hnext : (desk.record last).2 = _ := desk.step_eq last
  rw [hnext]
  refine ⟨?_, ?_, ?_, ?_, ?_, ?_⟩
  · rw [List.length_append, List.length_singleton, readyAt_last, ← h.readiness]
  · rw [List.flatMap_append, ← h.log, List.flatMap_singleton, record_eq]
  · rw [handed_snoc, List.flatMap_append, ← h.calls, h.taken, List.flatMap_map]
  · exact h.keptAfter last
  · simp [h.length]
  · intro point hpoint
    rw [List.length_append, List.length_singleton, Nat.lt_succ_iff_lt_or_eq] at hpoint
    rcases hpoint with hlt | rfl
    · rw [List.getElem?_append_left (by rwa [h.length]), handedBy_snoc last hlt, h.records _ hlt]
    · rw [← h.length, List.getElem?_concat_length, h.length, handedBy_last, Option.map_some,
        record_eq, h.taken, List.flatMap_map]

end Tracks

theorem run_tracks (ready : Bool) (steps : List RosterStep) :
    Tracks ready steps ((new ready).run steps).1 ((new ready).run steps).2 := by
  refine runSteps_induction record ⟨rfl, rfl, rfl, rfl, rfl, by simp⟩ ?_ steps
  exact fun steps records desk last h => h.step last

/-- A batch that came while the runtime was not ready gave way to the one of the step at `later`,
for which the runtime was not ready either, and no step between them could have handed it over. -/
def Superseded (ready : Bool) (steps : List RosterStep) (intake : Intake) (later : Nat) : Prop :=
  intake.index < later ∧ readyAt ready steps intake.index = false ∧
    (∃ batch, steps[later]? = some (.inject batch)) ∧ readyAt ready steps later = false ∧
    ∀ between, intake.index < between → between < later → clears ready steps between = false

/-- A runtime that is not ready leaves what is kept, unless another batch comes. -/
theorem exists_batch_of_clears {index : Nat} (h : clears ready steps index = true)
    (hready : readyAt ready steps index = false) :
    ∃ batch, steps[index]? = some (.inject batch) := by
  unfold clears at h
  split at h
  case h_1 batch hstep => exact ⟨batch, hstep⟩
  case h_2 => rw [hready] at h; cases h
  case h_3 => cases h

theorem superseded_of_fate {intake : Intake} {later : Nat}
    (h : fate ready steps intake.index = .superseded later) :
    Superseded ready steps intake later := by
  unfold fate at h
  split at h
  · cases h
  case isFalse hready =>
    split at h
    case h_2 => cases h
    case h_1 point hfind =>
      unfold fateAt at h
      split at h
      · cases h
      case isFalse hlater =>
        cases h
        obtain ⟨hfound, -, hfirst⟩ := List.find?_range_eq_some.1 hfind
        rw [Bool.and_eq_true, decide_eq_true_iff] at hfound
        rw [Bool.not_eq_true] at hready hlater
        refine ⟨hfound.1, hready, exists_batch_of_clears hfound.2 hlater, hlater, ?_⟩
        intro between hbehind hbefore
        simpa [hbehind] using hfirst between hbefore

/-- The calls that the runtime gets are those of the steps, one after the other, and make up a
selection of the batches in the order in which they came: for every batch, one call for each of its
servers and one that sorts. A batch that is left out is still kept, or it was superseded. What comes
while the runtime is ready is handed over in the same step, behind what was kept, and a runtime that
is not ready gets no call. -/
theorem run_hands_over (ready : Bool) (steps : List RosterStep) :
    let (records, desk) := (new ready).run steps
    desk.runtime.calls =
        (handed ready steps).flatMap (fun intake => Roster.script intake.content) ∧
      (handed ready steps).Sublist (carried RosterStep.batch? steps) ∧
      (carried RosterStep.batch? steps).Pairwise (·.index < ·.index) ∧
      desk.roster.cached.toList = (kept ready steps).map (·.content) ∧
      (∀ intake ∈ carried RosterStep.batch? steps, intake ∉ handed ready steps →
        intake ∈ kept ready steps ∨ ∃ later, Superseded ready steps intake later) ∧
      desk.runtime.calls = records.flatMap (·.calls) ∧
      (∀ point < steps.length, records[point]?.map (·.calls) =
        some ((handedBy ready steps point).flatMap fun intake => Roster.script intake.content)) ∧
      (∀ intake ∈ carried RosterStep.batch? steps, readyAt ready steps intake.index = true →
        records[intake.index]?.map (·.calls) =
          some ((((new ready).run (steps.take intake.index)).2.roster.cached.toList ++
            [intake.content]).flatMap Roster.script)) ∧
      ∀ point < steps.length, readyAt ready steps point = false →
        records[point]?.map (·.calls) = some [] := by
  have h := run_tracks ready steps
  have hrecord : ∀ point < steps.length, ∀ step, steps[point]? = some step →
      ((new ready).run steps).1[point]?.map (·.calls) =
        some ((((new ready).run (steps.take point)).2.taken step).flatMap Roster.script) := by
    intro point hpoint step hstep
    rw [run, runSteps_getElem?, hstep, Option.map_some, Option.map_some, record_eq]
    rfl
  have hready : ∀ point < steps.length,
      ((new ready).run (steps.take point)).2.runtime.ready = readyAt ready steps point := by
    intro point hpoint
    rw [(run_tracks ready (steps.take point)).readiness, readyAt, readyAt, List.length_take,
      Nat.min_eq_left (Nat.le_of_lt hpoint), List.take_take, Nat.min_self]
  refine ⟨h.calls, List.filter_sublist, carried_ascending RosterStep.batch? steps, h.cached, ?_,
    h.log, h.records, ?_, ?_⟩
  · intro intake hintake hleft
    cases hfate : fate ready steps intake.index with
    | handed point =>
      exact absurd (List.mem_filter.2 ⟨hintake, by rw [hfate]; rfl⟩) hleft
    | kept => exact .inl (List.mem_filter.2 ⟨hintake, decide_eq_true hfate⟩)
    | superseded later => exact .inr ⟨later, superseded_of_fate hfate⟩
  · intro intake hintake hat
    have hlt := index_lt_of_mem_carried hintake
    refine (hrecord intake.index hlt _ (step_of_mem_carried hintake)).trans ?_
    rw [taken_of_ready]
    rw [hready _ hlt, hat]
  · intro point hpoint hat
    refine (hrecord point hpoint _ (List.getElem?_eq_getElem hpoint)).trans ?_
    rw [taken_of_not_ready]
    · rfl
    · rw [hready _ hpoint, hat]

end RosterDesk
end ClusterLink
