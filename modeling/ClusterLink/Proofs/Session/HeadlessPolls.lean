import ClusterLink.Proofs.Session.PollTimes
/-!
The headless runtime polls every envelope in the tick that its place among the steps says, and loses
nothing on the way. Main statement: `course_polls`.
-/
namespace ClusterLink

namespace Session

open HeadlessStep

/-- Where a session stands behind these steps. Every intact packet is counted, ready or waiting. -/
structure Follows (policy : DeferralPolicy) (steps : List HeadlessStep)
    (session : Session Headless) : Prop where
  receiving : session.inbox.receiving = true
  tidy : session.prospect.Tidy .mapChange
  gate : session.prospect.framed = gateAt policy steps
  packets : session.runtime.packets + session.prospect.intact =
    (delivered steps).countP (·.isIntact)
  connected : session.runtime.connected = connectedAt policy steps
  mapsLoaded : session.runtime.mapsLoaded = mapsAt policy steps

namespace Follows

variable {policy : DeferralPolicy} {steps : List HeadlessStep} {session next : Session Headless}
  {last : HeadlessStep}

theorem new (policy : DeferralPolicy) (bootTicks : UInt32) (ids : IdSource) :
    Follows policy [] (Session.new (Headless.new bootTicks) .mapChange policy ids) where
  receiving := rfl
  tidy := Gate.new_tidy _ policy
  gate := rfl
  packets := rfl
  connected := rfl
  mapsLoaded := rfl

/-- A step that brings nothing for the gate leaves the session where it stands. -/
theorem idle (h : Follows policy steps session) (htick : last ≠ .tick)
    (hnone : last.envelope? = none) (hreceiving : next.inbox.receiving = true)
    (hprospect : next.prospect = session.prospect)
    (htally : next.runtime.tally = session.runtime.tally) :
    Follows policy (steps ++ [last]) next := by
  simp only [Headless.tally, Prod.mk.injEq] at htally
  obtain ⟨hpackets, hconnected, hmaps⟩ := htally
  refine ⟨hreceiving, ?_, ?_, ?_, ?_, ?_⟩
  · rw [hprospect]
    exact h.tidy
  · rw [hprospect, h.gate, gateAt_snoc_of_none htick hnone]
  · rw [hprospect, hpackets, h.packets, delivered_snoc, hnone]
    exact congrArg _ (List.append_nil _).symm
  · rw [hconnected, h.connected, connectedAt_snoc htick]
  · rw [hmaps, h.mapsLoaded, mapsAt_snoc htick]

theorem deliver (h : Follows policy steps session) (envelope : Envelope) :
    Follows policy (steps ++ [.deliver (.message envelope)])
      (session.deliver (.message envelope)) := by
  have hprospect : (session.deliver (.message envelope)).prospect =
      session.prospect.accept envelope := prospect_deliver h.receiving _
  have htick : HeadlessStep.deliver (.message envelope) ≠ .tick := nofun
  refine ⟨?_, ?_, ?_, ?_, ?_, ?_⟩
  · rw [deliver_inbox h.receiving]
    exact h.receiving
  · rw [hprospect]
    exact h.tidy.heed (.message envelope)
  · rw [hprospect]
    cases hframe : envelope.hasFrame with
    | true =>
      rw [Gate.accept_eq_receive h.tidy.kind hframe, Gate.receive_framed hframe, h.gate,
        gateAt_deliver_of_hasFrame hframe]
    | false =>
      rw [Gate.accept_framed_of_not_hasFrame hframe, h.gate,
        gateAt_deliver_of_not_hasFrame hframe]
  -- an envelope without a frame is not intact, whether the gate holds it or not
  · have hcount : (session.prospect.accept envelope).intact =
        session.prospect.intact + [envelope].countP (·.isIntact) := by
      cases hframe : envelope.hasFrame with
      | true => rw [Gate.accept_eq_receive h.tidy.kind hframe, Gate.receive_intact]
      | false =>
        rw [← Gate.intact_framed, Gate.accept_framed_of_not_hasFrame hframe, Gate.intact_framed,
          ← Envelope.countP_isIntact_filter, List.filter_cons_of_neg (by simp [hframe])]
        rfl
    rw [hprospect, hcount, delivered_snoc, List.countP_append, ← h.packets, Nat.add_assoc]
    rfl
  · rw [connectedAt_snoc htick]
    exact h.connected
  · rw [mapsAt_snoc htick]
    exact h.mapsLoaded

theorem tick (h : Follows policy steps session) :
    Follows policy (steps ++ [.tick]) session.tick := by
  have hprospect : session.tick.prospect = { session.prospect with
      load := .idle
      ready := session.prospect.deferred
      deferred := [] } := by
    rw [prospect_tick, h.tidy.ticked_eq]
  have hready : polledAt policy steps (ticks steps) =
      session.prospect.ready.filter (·.hasFrame) := congrArg Gate.ready h.gate.symm
  have htally := session.tick_tally
  simp only [Headless.tally, Prod.mk.injEq] at htally
  obtain ⟨hpackets, hconnected, hmaps⟩ := htally
  refine ⟨?_, ?_, ?_, ?_, ?_, ?_⟩
  · rw [tick_inbox]
    exact h.receiving
  · rw [hprospect]
    refine ⟨h.tidy.kind, ?_, fun _ => rfl⟩
    intro hloading
    cases hloading
  · rw [hprospect, gateAt_tick, ← h.gate]
    rfl
  · have hbefore := h.packets
    rw [Gate.intact] at hbefore
    rw [hprospect, hpackets, delivered_snoc, List.countP_append, ← hbefore]
    exact (Nat.add_assoc _ _ _)
  · rw [hconnected, h.connected, connectedAt_tick, hready, Envelope.filterMap_link?_filter]
  · rw [hmaps, h.mapsLoaded, mapsAt_tick, hready, Envelope.any_isMapChange_filter]

theorem advance (h : Follows policy steps session) (last : HeadlessStep) :
    Follows policy (steps ++ [last]) (session.advance last) := by
  cases last with
  | deliver event =>
    cases event with
    | message envelope => exact h.deliver envelope
    | opened | closed =>
      refine h.idle (by simp) rfl ?_ (prospect_deliver h.receiving _) rfl
      rw [Session.advance, deliver_inbox h.receiving]
      exact h.receiving
  | pump =>
    refine h.idle (by simp) rfl ?_ session.prospect_pump session.pump_tally
    rw [Session.advance, pump_inbox]
    exact h.receiving
  | processNext =>
    refine h.idle (by simp) rfl ?_ session.prospect_processNext session.processNext_tally
    rw [Session.advance, processNext_inbox]
    exact h.receiving
  | tick => exact h.tick

end Follows

theorem course_follows (policy : DeferralPolicy) (bootTicks : UInt32) (ids : IdSource)
    (steps : List HeadlessStep) :
    Follows policy steps
      ((new (Headless.new bootTicks) .mapChange policy ids).course steps) := by
  induction steps using List.reverseRecOn with
  | nil => exact .new policy bootTicks ids
  | append_singleton steps last ih =>
    rw [course_snoc]
    exact ih.advance last

theorem tickFrames_snoc (session : Session Headless) (steps : List HeadlessStep)
    (last : HeadlessStep) : session.tickFrames (steps ++ [last]) = session.tickFrames steps ++
      if last = .tick then [(session.course steps).beginTick.drain.1] else [] := by
  induction steps generalizing session with
  | nil => cases last <;> rfl
  | cons step steps ih =>
    have hcourse : session.course (step :: steps) = (session.advance step).course steps := rfl
    rw [hcourse]
    cases step with
    | tick => exact congrArg (session.beginTick.drain.1 :: ·) (ih session.tick)
    | _ => exact ih _

theorem tickFrames_eq (policy : DeferralPolicy) (bootTicks : UInt32) (ids : IdSource)
    (steps : List HeadlessStep) :
    (new (Headless.new bootTicks) .mapChange policy ids).tickFrames steps =
      (List.range (ticks steps)).map fun tick =>
        (polledAt policy steps tick).map RuntimeFrame.write := by
  induction steps using List.reverseRecOn with
  | nil => rfl
  | append_singleton steps last ih =>
    have hfollows := course_follows policy bootTicks ids steps
    rw [tickFrames_snoc, ih, ticks_snoc]
    by_cases htick : last = .tick
    · subst htick
      have hready := congrArg Gate.ready hfollows.gate
      rw [if_pos rfl, if_pos rfl, List.range_succ, List.map_append, polledAt_tick,
        beginTick_frames]
      exact congrArg (fun queue => _ ++ [List.map RuntimeFrame.write queue]) hready
    · rw [if_neg htick, if_neg htick, List.append_nil, Nat.add_zero]
      apply List.map_congr_left
      intro tick hlt
      rw [polledAt_snoc_of_lt (List.mem_range.1 hlt)]

/-- A gate behind a tick holds nothing back. -/
theorem course_tick_deferred (policy : DeferralPolicy) (bootTicks : UInt32) (ids : IdSource)
    (steps : List HeadlessStep) :
    ((new (Headless.new bootTicks) .mapChange policy ids).course
      (steps ++ [.tick])).prospect.deferred = [] := by
  rw [course_snoc, advance, prospect_tick,
    (course_follows policy bootTicks ids steps).tidy.ticked_eq]

/-- Behind a tick, every intact packet is counted or ready. -/
theorem course_tick_packets (policy : DeferralPolicy) (bootTicks : UInt32) (ids : IdSource)
    (steps : List HeadlessStep) :
    let final := (new (Headless.new bootTicks) .mapChange policy ids).course (steps ++ [.tick])
    final.runtime.packets + final.gate.ready.countP (·.isIntact) =
      (delivered steps).countP (·.isIntact) := by
  intro final
  have hgate : final.prospect = final.gate := by
    have hlast : final = (course _ steps).tick := course_snoc _ steps .tick
    rw [prospect, hlast, tick_inbox]
    rfl
  have hintact : final.prospect.intact = final.gate.ready.countP (·.isIntact) := by
    rw [Gate.intact, course_tick_deferred, hgate]
    rfl
  have hpackets := (course_follows policy bootTicks ids (steps ++ [.tick])).packets
  rw [delivered_snoc] at hpackets
  rw [← hintact]
  exact hpackets.trans (congrArg _ (List.append_nil _))

/-- One more tick counts everything, if nothing arrives in front of it. -/
theorem course_tick_tick_packets (policy : DeferralPolicy) (bootTicks : UInt32) (ids : IdSource)
    (steps : List HeadlessStep) {idle : List HeadlessStep}
    (h : ∀ step ∈ idle, step.envelope? = none) :
    ((new (Headless.new bootTicks) .mapChange policy ids).course
      (steps ++ [.tick] ++ idle ++ [.tick])).runtime.packets =
        (delivered steps).countP (·.isIntact) := by
  let quiet : List HeadlessStep := [.tick] ++ idle ++ [.tick]
  have hquiet : ∀ step ∈ quiet, step.envelope? = none := by
    intro step hstep
    rcases List.mem_append.1 hstep with hfront | hlast
    · rcases List.mem_append.1 hfront with hfirst | hidle
      · rw [List.mem_singleton.1 hfirst]
        rfl
      · exact h step hidle
    · rw [List.mem_singleton.1 hlast]
      rfl
  have hsteps : steps ++ [.tick] ++ idle ++ [.tick] = steps ++ quiet := by simp [quiet]
  have hticks : ticks steps + 2 ≤ ticks (steps ++ quiet) := by
    simp only [ticks, quiet, List.count_append, List.count_singleton_self]
    omega
  -- what waits is polled in the tick behind the next one at the latest, and both are over
  have hnone (tick : Nat) (hlate : ticks (steps ++ quiet) ≤ tick) :
      polledAt policy (steps ++ quiet) tick = [] := by
    rw [polledAt_append_of_none hquiet]
    exact polledAt_eq_nil (by omega)
  have hfollows := course_follows policy bootTicks ids (steps ++ quiet)
  have hintact : (gateAt policy (steps ++ quiet)).intact = 0 := by
    rw [Gate.intact, gateAt, hnone _ (Nat.le_refl _), hnone _ (Nat.le_succ _)]
    rfl
  have hpackets := hfollows.packets
  rw [← Gate.intact_framed, hfollows.gate, hintact, delivered_append_of_none hquiet] at hpackets
  rw [hsteps]
  exact hpackets

/-- The headless runtime loses nothing and sees nothing too early. Each tick polls what its place
among the steps says; the maps and the connection are counted by what was polled; behind a tick
every intact packet delivered is counted or ready, and behind one more without deliveries every one
is counted; and what waits for a map change is polled in a later tick. -/
theorem course_polls (policy : DeferralPolicy) (bootTicks : UInt32) (ids : IdSource) :
    let start := new (Headless.new bootTicks) .mapChange policy ids
    (∀ steps,
      let polled := polledAt policy steps
      let runtime := (start.course steps).runtime
      start.tickFrames steps =
          (List.range (ticks steps)).map (fun tick => (polled tick).map RuntimeFrame.write) ∧
        runtime.mapsLoaded =
          (List.range (ticks steps)).countP (fun tick => (polled tick).any (·.isMapChange)) ∧
        runtime.connected =
          (((List.range (ticks steps)).flatMap polled).filterMap (·.link?)).getLast?.getD false) ∧
    (∀ steps,
      let final := start.course (steps ++ [.tick])
      final.runtime.packets + final.gate.ready.countP (·.isIntact) =
        (delivered steps).countP (·.isIntact)) ∧
    (∀ steps idle, (∀ step ∈ idle, envelope? step = none) →
      (start.course (steps ++ [.tick] ++ idle ++ [.tick])).runtime.packets =
        (delivered steps).countP (·.isIntact)) ∧
    (∀ (steps : List HeadlessStep) (first second : Nat) (change packet : Envelope),
      first < second →
      steps[first]? = some (.deliver (.message change)) →
      steps[second]? = some (.deliver (.message packet)) →
      change.isMapChange = true → policy.delays packet = true →
      ticks (steps.take second) ≤ pollTick policy (steps.take first) change →
      pollTick policy (steps.take first) change < pollTick policy (steps.take second) packet) := by
  intro start
  refine ⟨?_, course_tick_packets policy bootTicks ids, ?_, ?_⟩
  · intro steps
    have hfollows := course_follows policy bootTicks ids steps
    exact ⟨tickFrames_eq policy bootTicks ids steps, hfollows.mapsLoaded, hfollows.connected⟩
  · intro steps idle hidle
    exact course_tick_tick_packets policy bootTicks ids steps hidle
  · intro steps first second change packet hbefore hfirst _ hchange hdelays htick
    exact pollTick_lt hbefore hfirst hchange hdelays htick

/-- A spawn behind a map change is polled in the tick behind it, and both are counted then. -/
theorem course_polls_spawn :
    let change := Envelope.wholePacket 1 [22]
    let spawn := Envelope.wholePacket 1 [18]
    let steps : List HeadlessStep := [.deliver (.message change), .pump, .deliver (.message spawn)]
    ((new (Headless.new 0) .mapChange .standard (.ofScript [])).course
        (steps ++ [.tick] ++ [.processNext] ++ [.tick])).runtime.packets = 2 ∧
      pollTick .standard (steps.take 0) change < pollTick .standard (steps.take 2) spawn := by
  intro change spawn steps
  obtain ⟨-, -, hcounted, hlater⟩ := course_polls .standard 0 (.ofScript [])
  have hcount : (delivered steps).countP (·.isIntact) = 2 := by decide +kernel
  constructor
  · rw [← hcount]
    exact hcounted steps [.processNext] (by simp [envelope?])
  · exact hlater steps 0 2 change spawn (by decide) rfl rfl (by decide +kernel)
      (by decide +kernel) (by decide +kernel)

end Session
end ClusterLink
