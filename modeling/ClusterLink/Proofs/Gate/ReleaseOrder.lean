import ClusterLink.Proofs.Gate.Release
/-!
What a run of the gate has handed out and still holds. Main statement: `run_release_order`, the
popped envelopes and the ready ones are the released ones in order of release, and the deferred ones
are those that wait.
-/
namespace ClusterLink

namespace Gate

/-- An envelope is placed by whether it passes, and moves nothing else. -/
theorem step_admission (gate : Gate) {step : GateStep} {envelope : Envelope}
    (h : step.envelope? = some envelope) :
    gate.step step =
      if gate.load == .idle || step.passes gate.mapChange gate.policy then
        (.placed .ready, { gate with
          load := if step.kind? = some gate.mapChange then .loading else gate.load
          ready := gate.ready ++ [envelope] })
      else (.placed .deferred, { gate with deferred := gate.deferred ++ [envelope] }) := by
  cases step with
  | place e =>
    obtain rfl := Option.some.inj h
    cases hl : gate.load <;> simp [step, place, hl, GateStep.passes, GateStep.kind?]
  | placePacket e =>
    obtain rfl := Option.some.inj h
    cases hk : e.kind? with
    | none =>
      cases hl : gate.load <;>
        simp [step, placePacket, place, hk, hl, GateStep.passes, GateStep.kind?]
    | some kind =>
      by_cases hm : kind = gate.mapChange
      · simp [step, placePacket, hk, hm, GateStep.passes, GateStep.kind?]
      · cases hl : gate.load <;> cases hp : gate.policy.passes kind <;>
          simp [step, placePacket, place, hk, hm, hl, hp, GateStep.passes, GateStep.kind?]
  | worldReady => contradiction
  | pop => contradiction

/-- When nothing is deferred at rest, the world's readiness releases all that waits. -/
theorem step_worldReady {gate : Gate} (h : gate.load = .idle → gate.deferred = []) :
    gate.step .worldReady = (.released gate.deferred.length,
      { gate with load := .idle, ready := gate.ready ++ gate.deferred, deferred := [] }) := by
  rcases gate with ⟨mapChange, policy, _ | _, ready, deferred⟩
  · obtain rfl : deferred = [] := h rfl
    simp [step, worldReady]
  · simp [step, worldReady]

/-- Popping hands out the head of the ready envelopes. -/
theorem step_pop (gate : Gate) : ∃ envelope ready,
    gate.step .pop = (.popped envelope, { gate with ready }) ∧
      envelope.toList ++ ready = gate.ready := by
  rcases gate with ⟨mapChange, policy, load, _ | ⟨envelope, rest⟩, deferred⟩
  · exact ⟨none, [], rfl, rfl⟩
  · exact ⟨some envelope, rest, rfl, rfl⟩

/-- The answers and the final state of a run agree with the release points of its steps. -/
structure Tracks (mapChange : PacketKind) (policy : DeferralPolicy) (steps : List GateStep)
    (answers : List GateAnswer) (gate : Gate) : Prop where
  mapChange_eq : gate.mapChange = mapChange
  policy_eq : gate.policy = policy
  loading_iff : gate.load = .loading ↔ loadOpen mapChange steps = true
  idle : gate.load = .idle → gate.deferred = []
  delivered : popped answers ++ gate.ready =
    (releases mapChange policy steps).map (·.admission.content)
  deferred : gate.deferred = (waiting mapChange policy steps).map (·.content)
  length_eq : answers.length = steps.length
  counted : ∀ index, steps[index]? = some GateStep.worldReady → answers[index]? =
    some (GateAnswer.released ((releases mapChange policy steps).countP (·.point == index)))

namespace Tracks
variable {mapChange : PacketKind} {policy : DeferralPolicy} {steps : List GateStep}
  {answers : List GateAnswer} {gate : Gate}

theorem new (mapChange : PacketKind) (policy : DeferralPolicy) :
    Tracks mapChange policy [] [] (Gate.new mapChange policy) where
  mapChange_eq := rfl
  policy_eq := rfl
  loading_iff := by simp [Gate.new]
  idle _ := rfl
  delivered := by simp [Gate.new, popped, releases, released]
  deferred := by simp [Gate.new, waiting]
  length_eq := rfl
  counted := by simp

theorem idle_iff (h : Tracks mapChange policy steps answers gate) :
    gate.load = .idle ↔ loadOpen mapChange steps = false := by
  rw [← Bool.not_eq_true, ← h.loading_iff]
  cases gate.load <;> simp

/-- A later step does not change what an earlier readiness of the world is counted to release. -/
theorem counted_before (h : Tracks mapChange policy steps answers gate) (last : GateStep)
    (answer : GateAnswer) {index : Nat} (hi : index < steps.length)
    (hs : (steps ++ [last])[index]? = some .worldReady) :
    (answers ++ [answer])[index]? = some (.released
      ((releases mapChange policy (steps ++ [last])).countP (·.point == index))) := by
  have hnone : (releasedBy mapChange policy steps last).countP (·.point == index) = 0 := by
    rw [List.countP_eq_zero]
    intro r hr
    rw [point_eq_of_mem_releasedBy hr, beq_iff_eq]
    omega
  rw [List.getElem?_append_left hi] at hs
  rw [List.getElem?_append_left (h.length_eq ▸ hi), h.counted index hs, releases_snoc,
    List.countP_append, hnone, Nat.add_zero]

theorem step_admission (h : Tracks mapChange policy steps answers gate) {last : GateStep}
    {envelope : Envelope} (he : last.envelope? = some envelope) :
    Tracks mapChange policy (steps ++ [last]) (answers ++ [(gate.step last).1])
      (gate.step last).2 := by
  have hw : last ≠ .worldReady := by rintro rfl; contradiction
  have hcounted : ∀ index, (steps ++ [last])[index]? = some GateStep.worldReady →
      (answers ++ [(gate.step last).1])[index]? = some (GateAnswer.released
        ((releases mapChange policy (steps ++ [last])).countP (·.point == index))) := by
    intro index hi
    by_cases hlt : index < steps.length
    · exact h.counted_before last _ hlt hi
    · rw [List.getElem?_append_right (by omega), List.getElem?_singleton] at hi
      split at hi <;> simp_all
  have hload : (gate.load == .idle) = !loadOpen mapChange steps := by
    cases hl : loadOpen mapChange steps <;> simp [h.idle_iff, hl]
  have hstep := Gate.step_admission gate he
  rw [h.mapChange_eq, h.policy_eq, hload] at hstep
  by_cases hi : (!loadOpen mapChange steps || last.passes mapChange policy) = true
  · rw [if_pos hi] at hstep
    rw [hstep] at hcounted ⊢
    exact {
      mapChange_eq := rfl
      policy_eq := rfl
      loading_iff := by
        by_cases hk : last.kind? = some mapChange <;>
          simp [loadOpen_snoc, hk, hw, h.loading_iff]
      idle := by
        intro hidle
        split at hidle <;> simp_all [h.idle]
      delivered := by
        simp only [popped_append, releases_snoc, releasedBy, hw, hi, he, if_true, if_false,
          List.map_append, ← h.delivered]
        simp [popped]
      deferred := by
        rw [waiting_snoc, if_neg hw, if_pos hi]
        exact h.deferred
      length_eq := by simp [h.length_eq]
      counted := hcounted }
  · rw [if_neg hi] at hstep
    rw [hstep] at hcounted ⊢
    simp only [Bool.or_eq_true, Bool.not_eq_true', not_or, Bool.not_eq_false] at hi
    have hloading : gate.load = .loading := h.loading_iff.2 hi.1
    exact {
      mapChange_eq := rfl
      policy_eq := rfl
      loading_iff := by simp [loadOpen_snoc, hw, hi.1, hloading]
      idle := by simp [hloading]
      delivered := by
        simp only [popped_append, releases_snoc, releasedBy, hw, hi, if_false, List.map_append,
          ← h.delivered]
        simp [popped]
      deferred := by simp [waiting_snoc, hw, hi, he, h.deferred]
      length_eq := by simp [h.length_eq]
      counted := hcounted }

theorem step_worldReady (h : Tracks mapChange policy steps answers gate) :
    Tracks mapChange policy (steps ++ [.worldReady]) (answers ++ [(gate.step .worldReady).1])
      (gate.step .worldReady).2 := by
  have hcounted : ∀ index, (steps ++ [GateStep.worldReady])[index]? = some GateStep.worldReady →
      (answers ++ [GateAnswer.released gate.deferred.length])[index]? = some (GateAnswer.released
        ((releases mapChange policy (steps ++ [.worldReady])).countP (·.point == index))) := by
    intro index hi
    by_cases hlt : index < steps.length
    · exact h.counted_before _ _ hlt hi
    · obtain rfl : index = steps.length := by
        have := (List.getElem?_eq_some_iff.1 hi).1
        simp at this
        omega
      have hold : (releases mapChange policy steps).countP (·.point == steps.length) = 0 := by
        rw [List.countP_eq_zero]
        intro r hr
        have := point_lt_of_mem_releases hr
        rw [beq_iff_eq]
        omega
      have hall : (releasedBy mapChange policy steps .worldReady).countP
          (·.point == steps.length) = gate.deferred.length := by
        rw [List.countP_eq_length.2]
        · simp [releasedBy, h.deferred]
        · intro r hr
          simp [point_eq_of_mem_releasedBy hr]
      rw [releases_snoc, List.countP_append, hold, hall, Nat.zero_add]
      simp [← h.length_eq]
  rw [Gate.step_worldReady h.idle]
  exact {
    mapChange_eq := h.mapChange_eq
    policy_eq := h.policy_eq
    loading_iff := by simp [loadOpen_snoc]
    idle _ := rfl
    delivered := by
      rw [releases_snoc, List.map_append, ← h.delivered, popped_append]
      simp [popped, releasedBy, h.deferred, Function.comp_def]
    deferred := by simp [waiting_snoc]
    length_eq := by simp [h.length_eq]
    counted := hcounted }

theorem step_pop (h : Tracks mapChange policy steps answers gate) :
    Tracks mapChange policy (steps ++ [.pop]) (answers ++ [(gate.step .pop).1])
      (gate.step .pop).2 := by
  have hreleases : releases mapChange policy (steps ++ [.pop]) =
      releases mapChange policy steps := by
    simp [releases_snoc, releasedBy, GateStep.envelope?]
  obtain ⟨envelope, ready, hstep, hready⟩ := Gate.step_pop gate
  rw [hstep]
  exact {
    mapChange_eq := h.mapChange_eq
    policy_eq := h.policy_eq
    loading_iff := by simpa [loadOpen_snoc, GateStep.kind?] using h.loading_iff
    idle := h.idle
    delivered := by
      rw [hreleases, ← h.delivered, ← hready, popped_append, List.append_assoc]
      cases envelope <;> rfl
    deferred := by simpa [waiting_snoc, GateStep.envelope?] using h.deferred
    length_eq := by simp [h.length_eq]
    counted := by
      intro index hi
      by_cases hlt : index < steps.length
      · exact h.counted_before _ _ hlt hi
      · rw [List.getElem?_append_right (by omega), List.getElem?_singleton] at hi
        split at hi <;> simp at hi }

theorem step (h : Tracks mapChange policy steps answers gate) (last : GateStep) :
    Tracks mapChange policy (steps ++ [last]) (answers ++ [(gate.step last).1])
      (gate.step last).2 := by
  cases last with
  | placePacket envelope => exact h.step_admission rfl
  | place envelope => exact h.step_admission rfl
  | worldReady => exact h.step_worldReady
  | pop => exact h.step_pop

end Tracks

/-- A run keeps the agreement, one step after the other. -/
theorem run_tracks (mapChange : PacketKind) (policy : DeferralPolicy) (steps : List GateStep) :
    Tracks mapChange policy steps ((new mapChange policy).run steps).1
      ((new mapChange policy).run steps).2 := by
  refine runSteps_induction Gate.step (.new mapChange policy) ?_ steps
  exact fun steps answers gate last h => h.step last

/-- What a run popped, followed by what is ready, is everything released, ordered by release point
and then by admission; what is deferred is everything that waits, in order of admission. A world
loads exactly while a map change is unanswered, and each readiness of the world counts what it
moved. -/
theorem run_release_order (mapChange : PacketKind) (policy : DeferralPolicy)
    (steps : List GateStep) :
    let (answers, gate) := (new mapChange policy).run steps
    popped answers ++ gate.ready =
        (releases mapChange policy steps).map (·.admission.content) ∧
      gate.deferred = (waiting mapChange policy steps).map (·.content) ∧
      (gate.load = .loading ↔ loadOpen mapChange steps = true) ∧
      (gate.deferred ≠ [] → gate.load = .loading) ∧
      (∀ index, steps[index]? = some GateStep.worldReady → answers[index]? =
        some (GateAnswer.released
          ((releases mapChange policy steps).countP (·.point == index)))) ∧
      (popped answers ++ gate.ready ++ gate.deferred).Perm
        ((carried GateStep.envelope? steps).map (·.content)) := by
  have h := run_tracks mapChange policy steps
  generalize (new mapChange policy).run steps = run at h ⊢
  obtain ⟨answers, gate⟩ := run
  have hloading : gate.deferred ≠ [] → gate.load = .loading := by
    intro hne
    by_contra hl
    rw [h.loading_iff, Bool.not_eq_true, ← h.idle_iff] at hl
    exact hne (h.idle hl)
  refine ⟨h.delivered, h.deferred, h.loading_iff, hloading, h.counted, ?_⟩
  rw [h.delivered, h.deferred]
  simpa [Function.comp_def] using (releases_waiting_perm mapChange policy steps).map (·.content)

/-- A spawn waits for the world, and is released behind what passed in the meantime. -/
theorem run_release_order_spawn :
    let change := Envelope.wholePacket 0 [22]
    let spawn := Envelope.wholePacket 0 [18]
    let other := Envelope.wholePacket 0 [5]
    let steps := [.placePacket change, .placePacket spawn, .pop, .placePacket other, .worldReady,
      .pop, .pop]
    let (answers, gate) := (new .mapChange .standard).run steps
    answers = [.placed .ready, .placed .deferred, .popped (some change), .placed .ready,
        .released 1, .popped (some other), .popped (some spawn)] ∧
      gate.load = .idle ∧
      (releases .mapChange .standard steps).map (·.admission.content) = [change, other, spawn] ∧
      waiting .mapChange .standard steps = [] := by
  intro change spawn other steps
  have hanswers : ((new .mapChange .standard).run steps).1 = [.placed .ready, .placed .deferred,
      .popped (some change), .placed .ready, .released 1, .popped (some other),
      .popped (some spawn)] := by decide +kernel
  have hload : ((new .mapChange .standard).run steps).2.load = .idle := by decide +kernel
  have hready : ((new .mapChange .standard).run steps).2.ready = [] := by decide +kernel
  have hdeferred : ((new .mapChange .standard).run steps).2.deferred = [] := by decide +kernel
  -- what is left to show is in the general statement, which need not evaluate these steps
  clear_value steps
  have h := run_release_order .mapChange .standard steps
  generalize (new .mapChange .standard).run steps = run at *
  obtain ⟨answers, gate⟩ := run
  dsimp only at hanswers hload hready hdeferred
  obtain ⟨hreleased, hwaiting, -⟩ := h
  rw [hanswers, hready] at hreleased
  rw [hdeferred] at hwaiting
  exact ⟨hanswers, hload, hreleased.symm, List.map_eq_nil_iff.1 hwaiting.symm⟩

end Gate
end ClusterLink
