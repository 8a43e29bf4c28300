import ClusterLink.Proofs.Session.HeadlessTick
/-!
What a tick of the headless runtime counts, read off the envelopes that are ready once everything
that has arrived is handled. Main statement: `tick_tally`; no other step counts anything.
-/
namespace ClusterLink

open GameRuntime

/-! ### Envelopes and what the runtime reads of them -/

namespace RuntimeEvent

def isPacket : RuntimeEvent → Bool
  | .receive .. => true
  | _ => false

/-- What an event says of the connection to a game server. -/
def link? : RuntimeEvent → Option Bool
  | .connect => some true
  | .disconnect _ => some false
  | .receive .. => none

end RuntimeEvent

namespace Envelope

def hasFrame (envelope : Envelope) : Bool := (RuntimeFrame.size? envelope).isSome

/-- A packet whose length is within its data. -/
def isIntact : Envelope → Bool
  | .packet _ data length => length.toNat ≤ data.length
  | _ => false

def isMapChange (envelope : Envelope) : Bool := decide (envelope.kind? = some .mapChange)

/-- What an envelope says of the connection to a game server. -/
def link? : Envelope → Option Bool
  | .serverConnected .. => some true
  | .serverDisconnected .. => some false
  | _ => none

theorem hasFrame_eq (envelope : Envelope) :
    envelope.hasFrame = (RuntimeEvent.of? envelope).isSome :=
  RuntimeFrame.size?_isSome envelope

theorem isIntact_eq (envelope : Envelope) :
    envelope.isIntact = (RuntimeEvent.of? envelope).any (·.isPacket) := by
  cases envelope with
  | packet channel data length =>
    have hfits : min length.toNat data.length = length.toNat ↔ length.toNat ≤ data.length := by
      omega
    by_cases hlength : length.toNat ≤ data.length
    · simp [isIntact, RuntimeEvent.of?, payload?, Octets.split?, hlength, RuntimeEvent.isPacket]
    · simp [isIntact, RuntimeEvent.of?, payload?, Octets.split?, hfits, hlength]
  | _ => rfl

theorem link?_eq (envelope : Envelope) :
    envelope.link? = (RuntimeEvent.of? envelope).bind (·.link?) := by
  cases envelope with
  | packet channel data length =>
    rw [RuntimeEvent.of?]
    cases (packet channel data length).payload? <;> rfl
  | _ => rfl

theorem hasFrame_of_isMapChange {envelope : Envelope} (h : envelope.isMapChange = true) :
    envelope.hasFrame = true := by
  rw [hasFrame_eq]
  rw [isMapChange, kind?_eq, decide_eq_true_eq] at h
  obtain ⟨event, hevent, -⟩ := Option.bind_eq_some_iff.1 h
  rw [hevent]
  rfl

theorem kind?_of_not_hasFrame {envelope : Envelope} (h : envelope.hasFrame = false) :
    envelope.kind? = none := by
  rw [hasFrame_eq, Option.isSome_eq_false_iff, Option.isNone_iff_eq_none] at h
  rw [kind?_eq, h]
  rfl

theorem countP_isIntact_filter (queue : List Envelope) :
    (queue.filter (·.hasFrame)).countP (·.isIntact) = queue.countP (·.isIntact) := by
  rw [List.countP_filter]
  apply List.countP_congr
  intro envelope _
  rw [hasFrame_eq, isIntact_eq]
  cases RuntimeEvent.of? envelope <;> simp

theorem filterMap_link?_filter (queue : List Envelope) :
    (queue.filter (·.hasFrame)).filterMap (·.link?) = queue.filterMap (·.link?) := by
  rw [List.filterMap_filter]
  apply List.filterMap_congr
  intro envelope _
  rw [hasFrame_eq, link?_eq]
  cases RuntimeEvent.of? envelope <;> rfl

theorem any_isMapChange_filter (queue : List Envelope) :
    (queue.filter (·.hasFrame)).any (·.isMapChange) = queue.any (·.isMapChange) := by
  rw [List.any_filter]
  congr 1
  funext envelope
  cases hchange : envelope.isMapChange with
  | true => rw [hasFrame_of_isMapChange hchange, Bool.true_and]
  | false => rw [Bool.and_false]

end Envelope

/-- The events that the runtime reads in the frames of a queue. -/
theorem Poller.drainQueue_events (poller : Poller) (queue : List Envelope) :
    (poller.drainQueue queue).1.filterMap RuntimeEvent.read? =
      queue.filterMap RuntimeEvent.of? := by
  rw [drainQueue_fst, List.filterMap_map, List.filterMap_filter]
  apply List.filterMap_congr
  intro envelope _
  cases hframe : (RuntimeFrame.size? envelope).isSome with
  | true => exact RuntimeFrame.read?_write hframe
  | false =>
    rw [RuntimeFrame.size?_isSome, Option.isSome_eq_false_iff, Option.isNone_iff_eq_none] at hframe
    exact hframe.symm

/-! ### What a tick counts -/

namespace Headless

/-- What the runtime counts: packets, whether it is connected, and maps. -/
def tally (runtime : Headless) : Nat × Bool × Nat :=
  (runtime.packets, runtime.connected, runtime.mapsLoaded)

theorem call_tally (runtime : Headless) (called : RuntimeCall) :
    (call runtime called).tally = runtime.tally := by
  cases called with
  | server entry => rfl
  | execute command =>
    simp only [call, execute]
    split <;> rfl

theorem foldl_call_tally (runtime : Headless) (calls : List RuntimeCall) :
    (calls.foldl call runtime).tally = runtime.tally := by
  induction calls generalizing runtime with
  | nil => rfl
  | cons called calls ih => rw [List.foldl_cons, ih, call_tally]

/-- The runtime does not count what is called. -/
theorem tally_of_calls {runtime next : Headless}
    (h : ∃ calls : List RuntimeCall, next = calls.foldl call runtime) :
    next.tally = runtime.tally := by
  obtain ⟨calls, rfl⟩ := h
  exact runtime.foldl_call_tally calls

theorem foldl_readFrame_tally (runtime : Headless) (frames : List Octets) :
    let events := frames.filterMap RuntimeEvent.read?
    (frames.foldl readFrame runtime).tally = (runtime.packets + events.countP (·.isPacket),
      (events.filterMap (·.link?)).getLast?.getD runtime.connected, runtime.mapsLoaded) := by
  induction frames generalizing runtime with
  | nil => rfl
  | cons frame frames ih =>
    rw [List.foldl_cons, ih]
    cases hread : RuntimeEvent.read? frame with
    | none => simp [readFrame, hread]
    | some event =>
      cases event <;>
        simp [readFrame, hread, RuntimeEvent.isPacket, RuntimeEvent.link?, List.getLast?_cons,
          Nat.add_assoc, Nat.add_comm]

/-- The frames of a queue add to the tally what its envelopes say. -/
theorem drainQueue_tally (runtime : Headless) (poller : Poller) (queue : List Envelope) :
    ((poller.drainQueue queue).1.foldl readFrame runtime).tally =
      (runtime.packets + queue.countP (·.isIntact),
        (queue.filterMap (·.link?)).getLast?.getD runtime.connected, runtime.mapsLoaded) := by
  have hpackets : (queue.filterMap RuntimeEvent.of?).countP (·.isPacket) =
      queue.countP (·.isIntact) := by
    rw [List.countP_filterMap]
    apply List.countP_congr
    intro envelope _
    rw [Envelope.isIntact_eq]
    cases RuntimeEvent.of? envelope <;> rfl
  have hlinks : (queue.filterMap RuntimeEvent.of?).filterMap (·.link?) =
      queue.filterMap (·.link?) := by
    rw [List.filterMap_filterMap]
    exact List.filterMap_congr fun envelope _ => envelope.link?_eq.symm
  have hread := runtime.foldl_readFrame_tally (poller.drainQueue queue).1
  rw [poller.drainQueue_events] at hread
  dsimp only at hread
  rwa [hpackets, hlinks] at hread

end Headless

/-! ### Steps of a course -/

namespace Session

/-- The gate once everything that has arrived is handled. -/
def prospect (session : Session Headless) : Gate :=
  session.inbox.queue.foldl Gate.heed session.gate

theorem deliver_inbox {session : Session Headless} (h : session.inbox.receiving = true)
    (event : ConnectionEvent) : (session.deliver event).inbox =
      { session.inbox with queue := session.inbox.queue ++ [event] } := by
  have hsend : session.inbox.send? event =
      some { session.inbox with queue := session.inbox.queue ++ [event] } := if_pos h
  unfold deliver
  rw [hsend, Option.getD_some]

theorem prospect_deliver {session : Session Headless} (h : session.inbox.receiving = true)
    (event : ConnectionEvent) :
    (session.deliver event).prospect = session.prospect.heed event := by
  rw [prospect, deliver_inbox h, List.foldl_append]
  rfl

theorem prospect_pump (session : Session Headless) :
    session.pump.2.prospect = session.prospect := by
  rw [prospect, pump_inbox, pump_gate]
  rfl

theorem prospect_processNext (session : Session Headless) :
    session.processNext.2.prospect = session.prospect := by
  rw [prospect, processNext_inbox, processNext_gate, ← List.foldl_append, List.take_append_drop]
  rfl

theorem tick_inbox (session : Session Headless) :
    session.tick.inbox = { session.inbox with queue := [] } := by
  have hpumped : session.beginTick.pump.2.inbox = { session.inbox with queue := [] } := by
    rw [pump_inbox, beginTick_inbox]
  rw [← hpumped]
  unfold tick drain
  dsimp only
  split <;> rfl

theorem prospect_tick (session : Session Headless) :
    session.tick.prospect = session.prospect.ticked := by
  rw [prospect, tick_inbox, tick_gate]
  rfl

theorem pump_tally (session : Session Headless) :
    session.pump.2.runtime.tally = session.runtime.tally :=
  Headless.tally_of_calls session.pump_calls

theorem processNext_tally (session : Session Headless) :
    session.processNext.2.runtime.tally = session.runtime.tally :=
  Headless.tally_of_calls session.processNext_calls

theorem beginTick_tally (session : Session Headless) :
    session.beginTick.runtime.tally = session.runtime.tally := by
  unfold beginTick
  dsimp only
  split
  · obtain ⟨calls, hcalls⟩ := runtimeReady_calls
      { session with runtime := { session.runtime with ticks := session.runtime.ticks + 1 } }
    rw [hcalls, Headless.foldl_call_tally]
    rfl
  · rfl

theorem beginTick_ready (session : Session Headless) :
    session.beginTick.pump.2.gate.ready = session.prospect.ready := by
  rw [pump_gate, beginTick_gate, beginTick_inbox, prospect]

/-- A tick polls what is ready once everything that has arrived is handled. -/
theorem beginTick_frames (session : Session Headless) : session.beginTick.drain.1 =
    (session.prospect.ready.filter (·.hasFrame)).map RuntimeFrame.write := by
  rw [← beginTick_ready]
  exact Poller.drainQueue_fst _ _

theorem tick_runtime {session next : Session Headless} {frames : List Octets}
    (h : session.beginTick.drain = (frames, next)) :
    let runtime := frames.foldl Headless.readFrame next.runtime
    session.tick.runtime.tally = (runtime.packets, runtime.connected,
      runtime.mapsLoaded + if frames.any Headless.isMapChange then 1 else 0) := by
  rw [tick, h]
  dsimp only
  cases frames.any Headless.isMapChange <;> rfl

/-- A tick counts what it polls. -/
theorem tick_tally (session : Session Headless) :
    let ready := session.prospect.ready
    session.tick.runtime.tally = (session.runtime.packets + ready.countP (·.isIntact),
      (ready.filterMap (·.link?)).getLast?.getD session.runtime.connected,
      session.runtime.mapsLoaded + if ready.any (·.isMapChange) then 1 else 0) := by
  obtain ⟨frames, next, hdrain⟩ : ∃ frames next, session.beginTick.drain = (frames, next) :=
    ⟨_, _, rfl⟩
  have hframes :
      (session.beginTick.pump.2.poller.drainQueue session.prospect.ready).1 = frames := by
    rw [← beginTick_ready]
    exact congrArg (·.1) hdrain
  have hnext : next.runtime.tally = session.runtime.tally := by
    have hsame : session.beginTick.pump.2.runtime = next.runtime :=
      congrArg (·.2.runtime) hdrain
    rw [← hsame, pump_tally, beginTick_tally]
  have hmaps : frames.any Headless.isMapChange = session.prospect.ready.any (·.isMapChange) := by
    rw [← hframes]
    exact Headless.any_isMapChange _ _
  have hread := next.runtime.drainQueue_tally session.beginTick.pump.2.poller session.prospect.ready
  rw [hframes] at hread
  simp only [Headless.tally, Prod.mk.injEq] at hnext hread
  obtain ⟨hpackets, hconnected, hmapsLoaded⟩ := hread
  rw [tick_runtime hdrain]
  dsimp only
  rw [hmaps, hpackets, hconnected, hmapsLoaded, hnext.1, hnext.2.1, hnext.2.2]

end Session

end ClusterLink
