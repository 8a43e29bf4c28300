import Mathlib.Tactic
import ClusterLink.Gate.Run
/-!
When the gate should release what it is given, read off a list of steps alone. Main statements: what
one more step adds to the released envelopes (`releases_snoc`) and to those that wait
(`waiting_snoc`).
-/
namespace ClusterLink

namespace GateStep

/-- The envelope that a step hands to the gate. -/
def envelope? : GateStep → Option Envelope
  | .placePacket envelope => some envelope
  | .place envelope => some envelope
  | _ => none

def kind? : GateStep → Option PacketKind
  | .placePacket envelope => envelope.kind?
  | _ => none

/-- Whether a step hands over a packet that may pass while a world loads. -/
def passes (mapChange : PacketKind) (policy : DeferralPolicy) (step : GateStep) : Bool :=
  step.kind?.any fun kind => kind == mapChange || policy.passes kind

end GateStep

/-- An envelope handed to the gate, and at which step. -/
abbrev Admission := Indexed Envelope

/-- An envelope released, and at which step. -/
structure Release where
  point : Nat
  admission : Admission
  deriving DecidableEq, Repr

namespace Release

/-- Ordered by release point, ties by admission. -/
def le (a b : Release) : Bool :=
  a.point < b.point || (a.point == b.point && a.admission.index ≤ b.admission.index)

theorem le_iff (a b : Release) : a.le b = true ↔
    a.point < b.point ∨ a.point = b.point ∧ a.admission.index ≤ b.admission.index := by
  simp [le]

theorem le_trans (a b c : Release) (hab : a.le b = true) (hbc : b.le c = true) :
    a.le c = true := by
  rw [le_iff] at *
  omega

theorem le_total (a b : Release) : (a.le b || b.le a) = true := by
  rw [Bool.or_eq_true, le_iff, le_iff]
  omega

end Release

section
variable (mapChange : PacketKind) (policy : DeferralPolicy) (steps : List GateStep)

/-- Whether a map change was taken since the world was last ready. -/
def loadOpen : Bool :=
  (steps.reverse.takeWhile (· != .worldReady)).any (·.kind? == some mapChange)

/-- Whether what the step at `index` hands over is released at once. -/
def immediate (index : Nat) : Bool :=
  !loadOpen mapChange (steps.take index) || steps[index]?.any (·.passes mapChange policy)

/-- The step that releases what the step at `index` hands over: itself, or the next one at which the
world is ready. -/
def releasePoint? (index : Nat) : Option Nat :=
  if immediate mapChange policy steps index then some index
  else (List.range steps.length).find? fun later =>
    decide (index < later) && steps[later]? == some .worldReady

def released : List Release :=
  (carried GateStep.envelope? steps).filterMap fun a =>
    (releasePoint? mapChange policy steps a.index).map (⟨·, a⟩)

/-- Everything released, in the order of its release. -/
def releases : List Release := (released mapChange policy steps).mergeSort Release.le

/-- Everything not yet released, in the order of its arrival. -/
def waiting : List Admission :=
  (carried GateStep.envelope? steps).filter fun a =>
    (releasePoint? mapChange policy steps a.index).isNone

end

variable {mapChange : PacketKind} {policy : DeferralPolicy} {steps : List GateStep}

@[simp] theorem loadOpen_nil : loadOpen mapChange [] = false := rfl

theorem loadOpen_snoc (mapChange : PacketKind) (steps : List GateStep) (last : GateStep) :
    loadOpen mapChange (steps ++ [last]) =
      (last != .worldReady && (last.kind? == some mapChange || loadOpen mapChange steps)) := by
  rw [loadOpen, List.reverse_append, List.reverse_singleton, List.singleton_append,
    List.takeWhile_cons]
  cases h : last != .worldReady <;> simp [loadOpen]

theorem immediate_snoc (last : GateStep) {index : Nat} (h : index < steps.length) :
    immediate mapChange policy (steps ++ [last]) index =
      immediate mapChange policy steps index := by
  rw [immediate, List.take_append_of_le_length h.le, List.getElem?_append_left h, immediate]

theorem immediate_last (last : GateStep) :
    immediate mapChange policy (steps ++ [last]) steps.length =
      (!loadOpen mapChange steps || last.passes mapChange policy) := by
  simp [immediate]

/-- A later step changes the release point of what was handed over before only if that is waiting
and the world is ready. -/
theorem releasePoint?_snoc (last : GateStep) {index : Nat} (h : index < steps.length) :
    releasePoint? mapChange policy (steps ++ [last]) index =
      (releasePoint? mapChange policy steps index).or
        (if last = .worldReady then some steps.length else none) := by
  rw [releasePoint?, releasePoint?, immediate_snoc last h]
  split
  · rfl
  · have hold : (List.range steps.length).find? (fun later =>
          decide (index < later) && (steps ++ [last])[later]? == some .worldReady) =
        (List.range steps.length).find? fun later =>
          decide (index < later) && steps[later]? == some .worldReady := by
      apply List.find?_congr
      intro later hl
      rw [List.getElem?_append_left (List.mem_range.1 hl)]
    rw [List.length_append, List.length_singleton, List.range_succ, List.find?_append, hold]
    congr 1
    by_cases hw : last = .worldReady <;> simp [hw, h]

theorem releasePoint?_last (last : GateStep) :
    releasePoint? mapChange policy (steps ++ [last]) steps.length =
      if !loadOpen mapChange steps || last.passes mapChange policy then some steps.length
      else none := by
  rw [releasePoint?, immediate_last]
  split
  · rfl
  · rw [List.find?_eq_none]
    intro later hl
    have := List.mem_range.1 hl
    simp at this ⊢
    omega

theorem releasePoint?_lt {index point : Nat} (hi : index < steps.length)
    (h : releasePoint? mapChange policy steps index = some point) : point < steps.length := by
  rw [releasePoint?] at h
  split at h
  · exact Option.some.inj h ▸ hi
  · exact List.mem_range.1 (List.mem_of_find?_eq_some h)

theorem mem_released {r : Release} : r ∈ released mapChange policy steps ↔
    r.admission ∈ carried GateStep.envelope? steps ∧
      releasePoint? mapChange policy steps r.admission.index = some r.point := by
  simp only [released, List.mem_filterMap, Option.map_eq_some_iff]
  constructor
  · rintro ⟨a, ha, point, hp, rfl⟩
    exact ⟨ha, hp⟩
  · rintro ⟨ha, hp⟩
    exact ⟨r.admission, ha, r.point, hp, rfl⟩

theorem point_lt_of_mem_releases {r : Release} (h : r ∈ releases mapChange policy steps) :
    r.point < steps.length := by
  obtain ⟨ha, hp⟩ := mem_released.1 ((List.mergeSort_perm _ _).mem_iff.1 h)
  exact releasePoint?_lt (index_lt_of_mem_carried ha) hp

theorem releases_ascending (mapChange : PacketKind) (policy : DeferralPolicy)
    (steps : List GateStep) :
    (releases mapChange policy steps).Pairwise (Release.le · · = true) :=
  List.pairwise_mergeSort Release.le_trans Release.le_total _

/-- An ascending list of what is released is the order of release. -/
theorem releases_eq_of_perm {l : List Release} (hp : l.Perm (released mapChange policy steps))
    (hl : l.Pairwise (Release.le · · = true)) : releases mapChange policy steps = l := by
  have hperm := (List.mergeSort_perm (released mapChange policy steps) Release.le).trans hp.symm
  refine hperm.eq_of_pairwise ?_ (releases_ascending mapChange policy steps) hl
  intro a b ha hb hab hba
  have hindex : a.admission.index = b.admission.index := by
    rw [Release.le_iff] at hab hba
    omega
  have ha := mem_released.1 (hp.mem_iff.1 (hperm.mem_iff.1 ha))
  have hb := mem_released.1 (hp.mem_iff.1 hb)
  -- the step determines both the envelope and the release point
  have henvelope := (mem_carried.1 ha.1).symm.trans (hindex ▸ mem_carried.1 hb.1)
  have hpoint := ha.2.symm.trans (hindex ▸ hb.2)
  obtain ⟨point, index, envelope⟩ := a
  simp_all

private theorem filterMap_or_perm {α β : Type} (f : α → Option β) (g : α → β) (l : List α) :
    (l.filterMap fun a => (f a).or (some (g a))).Perm
      (l.filterMap f ++ (l.filter fun a => (f a).isNone).map g) := by
  induction l with
  | nil => rfl
  | cons a l ih =>
    cases h : f a with
    | some b => simpa [h] using ih
    | none =>
      simp only [List.filterMap_cons, h, Option.none_or, Option.isNone_none,
        List.filter_cons_of_pos, List.map_cons]
      exact (ih.cons (g a)).trans List.perm_middle.symm

/-- Everything admitted is either released or waiting. -/
theorem releases_waiting_perm (mapChange : PacketKind) (policy : DeferralPolicy)
    (steps : List GateStep) :
    ((releases mapChange policy steps).map (·.admission) ++ waiting mapChange policy steps).Perm
      (carried GateStep.envelope? steps) := by
  have hreleased : (released mapChange policy steps).map (·.admission) =
      (carried GateStep.envelope? steps).filter fun a =>
        (releasePoint? mapChange policy steps a.index).isSome := by
    rw [released, List.map_filterMap, ← List.filterMap_eq_filter]
    apply List.filterMap_congr
    intro a _
    cases h : releasePoint? mapChange policy steps a.index <;> simp [Option.guard, h]
  have hwaiting : waiting mapChange policy steps =
      (carried GateStep.envelope? steps).filter fun a =>
        !(releasePoint? mapChange policy steps a.index).isSome := by
    simp [waiting]
  have hperm := (List.mergeSort_perm (released mapChange policy steps) Release.le).map
    (·.admission)
  rw [hreleased] at hperm
  rw [hwaiting]
  exact (hperm.append_right _).trans (List.filter_append_perm _ _)

/-- What one more step releases. -/
def releasedBy (mapChange : PacketKind) (policy : DeferralPolicy) (steps : List GateStep)
    (last : GateStep) : List Release :=
  if last = .worldReady then (waiting mapChange policy steps).map (⟨steps.length, ·⟩)
  else if !loadOpen mapChange steps || last.passes mapChange policy then
    (last.envelope?.map fun envelope => ⟨steps.length, steps.length, envelope⟩).toList
  else []

theorem released_snoc_perm (last : GateStep) :
    (released mapChange policy (steps ++ [last])).Perm
      (released mapChange policy steps ++ releasedBy mapChange policy steps last) := by
  have hold : (carried GateStep.envelope? steps).filterMap (fun a =>
        (releasePoint? mapChange policy (steps ++ [last]) a.index).map (Release.mk · a)) =
      (carried GateStep.envelope? steps).filterMap fun a =>
        ((releasePoint? mapChange policy steps a.index).map (Release.mk · a)).or
          (if last = .worldReady then some ⟨steps.length, a⟩ else none) := by
    apply List.filterMap_congr
    intro a ha
    rw [releasePoint?_snoc last (index_lt_of_mem_carried ha), Option.map_or]
    split <;> rfl
  rw [released, carried_snoc, List.filterMap_append, hold, releasedBy]
  by_cases hw : last = .worldReady
  · simp only [hw, GateStep.envelope?, if_true, Option.map_none, Option.toList_none,
      List.filterMap_nil, List.append_nil]
    simpa [released, waiting] using filterMap_or_perm
      (fun a => (releasePoint? mapChange policy steps a.index).map (Release.mk · a))
      (Release.mk steps.length) (carried GateStep.envelope? steps)
  · simp only [hw, if_false, Option.or_none]
    refine List.Perm.of_eq (congrArg (released mapChange policy steps ++ ·) ?_)
    cases last.envelope? with
    | none => simp
    | some envelope =>
      by_cases hi : (!loadOpen mapChange steps || last.passes mapChange policy) = true <;>
        simp [releasePoint?_last, hi]

theorem point_eq_of_mem_releasedBy {last : GateStep} {r : Release}
    (h : r ∈ releasedBy mapChange policy steps last) : r.point = steps.length := by
  unfold releasedBy at h
  split at h
  · obtain ⟨a, -, rfl⟩ := List.mem_map.1 h
    rfl
  · split at h
    · obtain ⟨envelope, -, rfl⟩ := Option.map_eq_some_iff.1 (Option.mem_toList.1 h)
      rfl
    · simp at h

theorem releasedBy_ascending (last : GateStep) :
    (releasedBy mapChange policy steps last).Pairwise (Release.le · · = true) := by
  unfold releasedBy
  split
  · rw [List.pairwise_map]
    refine ((carried_ascending GateStep.envelope? steps).filter _).imp ?_
    intro a b hab
    exact (Release.le_iff _ _).2 (.inr ⟨rfl, hab.le⟩)
  · split
    · cases last.envelope? <;> simp
    · exact .nil

/-- One more step releases behind all that was released before it. -/
theorem releases_snoc (mapChange : PacketKind) (policy : DeferralPolicy) (steps : List GateStep)
    (last : GateStep) : releases mapChange policy (steps ++ [last]) =
      releases mapChange policy steps ++ releasedBy mapChange policy steps last := by
  refine releases_eq_of_perm ?_ ?_
  · exact ((List.mergeSort_perm _ _).append_right _).trans (released_snoc_perm last).symm
  · rw [List.pairwise_append]
    refine ⟨releases_ascending mapChange policy steps, releasedBy_ascending last, ?_⟩
    intro a ha b hb
    rw [Release.le_iff, point_eq_of_mem_releasedBy hb]
    exact .inl (point_lt_of_mem_releases ha)

theorem waiting_snoc (mapChange : PacketKind) (policy : DeferralPolicy) (steps : List GateStep)
    (last : GateStep) : waiting mapChange policy (steps ++ [last]) =
      if last = .worldReady then []
      else if !loadOpen mapChange steps || last.passes mapChange policy then
        waiting mapChange policy steps
      else waiting mapChange policy steps ++
        (last.envelope?.map (⟨steps.length, ·⟩)).toList := by
  have hold : (carried GateStep.envelope? steps).filter (fun a =>
        (releasePoint? mapChange policy (steps ++ [last]) a.index).isNone) =
      if last = .worldReady then [] else waiting mapChange policy steps := by
    have hpoint : ∀ a ∈ carried GateStep.envelope? steps,
        releasePoint? mapChange policy (steps ++ [last]) a.index = _ := fun a ha =>
      releasePoint?_snoc last (index_lt_of_mem_carried ha)
    split
    · rw [List.filter_eq_nil_iff]
      intro a ha
      rw [hpoint a ha]
      simp_all
    · rw [waiting]
      apply List.filter_congr
      intro a ha
      rw [hpoint a ha]
      simp_all
  rw [waiting, carried_snoc, List.filter_append, hold]
  by_cases hw : last = .worldReady
  · simp [hw, GateStep.envelope?]
  · simp only [hw, if_false]
    cases last.envelope? with
    | none => simp
    | some envelope =>
      simp only [Option.map_some, Option.toList_some, List.filter_cons, releasePoint?_last,
        List.filter_nil]
      split <;> simp

end ClusterLink
