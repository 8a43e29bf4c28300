import ClusterLink.Proofs.Session.Dispatch
import ClusterLink.Proofs.Session.HeadlessTally
import ClusterLink.Proofs.Session.ServerOrder
import ClusterLink.Session.Browsing
/-!
The server browser of the headless runtime holds what its run has brought, in order. Which batches
those are is read off the steps alone. Main statement: `browser_complete`.
-/
namespace ClusterLink

open GameRuntime
open scoped List

/-! ### What the steps say -/

/-- A batch that was handled, and how many ticks had begun by then. -/
structure HandledBatch where
  tick : Nat
  entries : List ServerEntry

structure BrowsingHistory where
  ticks : Nat
  /-- The events that have arrived and are not handled. -/
  waiting : List ConnectionEvent
  /-- Every batch handled so far, in order. -/
  batches : List HandledBatch
  past : ∀ batch ∈ batches, batch.tick ≤ ticks

namespace BrowsingHistory

def new : BrowsingHistory := ⟨0, [], [], nofun⟩

def handle (history : BrowsingHistory) (event : ConnectionEvent) : BrowsingHistory :=
  { history with
    batches := history.batches ++ (event.batch?.map (⟨history.ticks, ·⟩)).toList
    past := by
      intro batch hbatch
      rcases List.mem_append.1 hbatch with hold | hnew
      · exact history.past batch hold
      · obtain ⟨entries, -, rfl⟩ := Option.map_eq_some_iff.1 (Option.mem_toList.1 hnew)
        exact Nat.le_refl _ }

/-- The first `n` of the events that wait are handled. -/
def handleWaiting (history : BrowsingHistory) (n : Nat) : BrowsingHistory :=
  (history.waiting.take n).foldl handle { history with waiting := history.waiting.drop n }

def beginTick (history : BrowsingHistory) : BrowsingHistory :=
  { history with
    ticks := history.ticks + 1
    past := fun batch hbatch => Nat.le_succ_of_le (history.past batch hbatch) }

def browse (history : BrowsingHistory) : BrowsingStep → BrowsingHistory
  | .drain (.deliver event) => { history with waiting := history.waiting ++ [event] }
  | .drain .pump | .drain .poll => history.handleWaiting history.waiting.length
  | .drain .processNext => history.handleWaiting 1
  | .tick => history.beginTick.handleWaiting history.waiting.length

def ofSteps (steps : List BrowsingStep) : BrowsingHistory := steps.foldl browse new

section
variable (history : BrowsingHistory) (bootTicks : Nat)

/-- The batches handled before the tick that ends the boot. -/
def early : List (List ServerEntry) :=
  (history.batches.filter (·.tick < bootTicks)).map (·.entries)

/-- The batches handled in that tick or later. -/
def late : List (List ServerEntry) :=
  (history.batches.filter (bootTicks ≤ ·.tick)).map (·.entries)

/-- The batches that another one replaced before the runtime could take them. -/
def superseded : List (List ServerEntry) := (history.early bootTicks).dropLast

/-- The batch that waits for the runtime. -/
def kept : Option (List ServerEntry) :=
  if history.ticks < bootTicks then (history.early bootTicks).getLast? else none

/-- The batches that the runtime has taken. -/
def taken : List (List ServerEntry) :=
  if history.ticks < bootTicks then []
  else (history.early bootTicks).getLast?.toList ++ history.late bootTicks

end

variable {history : BrowsingHistory} {bootTicks : Nat} {event : ConnectionEvent}

theorem ofSteps_snoc (steps : List BrowsingStep) (last : BrowsingStep) :
    ofSteps (steps ++ [last]) = (ofSteps steps).browse last := by
  rw [ofSteps, ofSteps, List.foldl_append, List.foldl_cons, List.foldl_nil]

theorem handle_of_none (h : event.batch? = none) : history.handle event = history := by
  obtain ⟨ticks, waiting, batches, past⟩ := history
  simp [handle, h]

theorem foldl_handle_ticks (history : BrowsingHistory) (events : List ConnectionEvent) :
    (events.foldl handle history).ticks = history.ticks := by
  induction events generalizing history with
  | nil => rfl
  | cons event events ih => exact ih (history.handle event)

theorem late_of_booting (h : history.ticks < bootTicks) : history.late bootTicks = [] := by
  rw [late, List.map_eq_nil_iff, List.filter_eq_nil_iff]
  intro batch hbatch
  have hpast := history.past batch hbatch
  simp only [decide_eq_true_eq]
  omega

/-- Every batch was taken, is kept or was superseded. -/
theorem taken_perm (history : BrowsingHistory) (bootTicks : Nat) :
    (history.taken bootTicks ++ (history.kept bootTicks).toList ++
      history.superseded bootTicks).Perm (history.batches.map (·.entries)) := by
  let early := history.early bootTicks
  let late := history.late bootTicks
  have hearly : (early.getLast?.toList ++ early.dropLast).Perm early := by
    rcases List.eq_nil_or_concat early with h | ⟨before, last, h⟩
    · rw [h]
      exact .nil
    · rw [h, List.concat_eq_append, List.getLast?_concat, List.dropLast_concat]
      exact List.perm_append_comm
  have hall : (early ++ late).Perm (history.batches.map (·.entries)) := by
    have hsplit := List.filter_append_perm (·.tick < bootTicks) history.batches
    have hlate : history.batches.filter (fun batch => !decide (batch.tick < bootTicks)) =
        history.batches.filter (bootTicks ≤ ·.tick) := by simp [← decide_not]
    have hentries := hsplit.map (·.entries)
    rwa [hlate, List.map_append] at hentries
  have hlast : (history.taken bootTicks ++ (history.kept bootTicks).toList).Perm
      (early.getLast?.toList ++ late) := by
    by_cases hboot : history.ticks < bootTicks
    · have hlate : late = [] := late_of_booting hboot
      simp [taken, kept, hboot, hlate, early]
    · simp [taken, kept, hboot, early, late]
  calc
    _ ~ early.getLast?.toList ++ late ++ early.dropLast := hlast.append_right _
    _ ~ early.getLast?.toList ++ early.dropLast ++ late := by
      rw [List.append_assoc, List.append_assoc]
      exact List.perm_append_comm.append_left _
    _ ~ early ++ late := hearly.append_right _
    _ ~ history.batches.map (·.entries) := hall

theorem batches_handle {batch : List ServerEntry} (h : event.batch? = some batch) :
    (history.handle event).batches = history.batches ++ [⟨history.ticks, batch⟩] := by
  simp [handle, h]

theorem early_handle {batch : List ServerEntry} (h : event.batch? = some batch) :
    (history.handle event).early bootTicks = history.early bootTicks ++
      if history.ticks < bootTicks then [batch] else [] := by
  rw [early, batches_handle h, List.filter_append, List.map_append]
  by_cases hboot : history.ticks < bootTicks <;> simp [early, hboot]

theorem late_handle {batch : List ServerEntry} (h : event.batch? = some batch) :
    (history.handle event).late bootTicks = history.late bootTicks ++
      if history.ticks < bootTicks then [] else [batch] := by
  rw [late, batches_handle h, List.filter_append, List.map_append]
  by_cases hboot : history.ticks < bootTicks
  · simp [late, hboot]
  · simp [late, hboot, Nat.le_of_not_lt hboot]

/-- While the runtime boots, a batch takes the place of the one that is kept. -/
theorem handle_of_booting {batch : List ServerEntry} (hbatch : event.batch? = some batch)
    (hboot : history.ticks < bootTicks) :
    (history.handle event).kept bootTicks = some batch ∧
      (history.handle event).taken bootTicks = [] := by
  have hticks : (history.handle event).ticks = history.ticks := rfl
  simp [kept, taken, early_handle hbatch, hticks, hboot]

theorem taken_of_booting (h : history.ticks < bootTicks) : history.taken bootTicks = [] := if_pos h

/-- Once it has booted, the runtime takes every batch. -/
theorem handle_of_booted {batch : List ServerEntry} (hbatch : event.batch? = some batch)
    (hboot : ¬ history.ticks < bootTicks) :
    (history.handle event).kept bootTicks = none ∧
      (history.handle event).taken bootTicks = history.taken bootTicks ++ [batch] := by
  have hticks : (history.handle event).ticks = history.ticks := rfl
  simp [kept, taken, early_handle hbatch, late_handle hbatch, hticks, hboot]

theorem kept_of_booted (h : ¬ history.ticks < bootTicks) : history.kept bootTicks = none :=
  if_neg h

/-- The tick that ends the boot has the kept batch taken. -/
theorem beginTick_of_booting (h : history.ticks + 1 = bootTicks) :
    history.beginTick.kept bootTicks = none ∧
      history.beginTick.taken bootTicks = (history.kept bootTicks).toList := by
  have hbefore : history.ticks < bootTicks := by omega
  have hbehind : ¬ history.beginTick.ticks < bootTicks := by
    show ¬ history.ticks + 1 < bootTicks
    omega
  have hlate : history.late bootTicks = [] := late_of_booting hbefore
  refine ⟨kept_of_booted hbehind, ?_⟩
  rw [taken, if_neg hbehind, kept, if_pos hbefore]
  exact (congrArg (_ ++ ·) hlate).trans (List.append_nil _)

/-- Any other tick changes nothing. -/
theorem beginTick_of_not_booting (h : history.ticks + 1 ≠ bootTicks) :
    history.beginTick.kept bootTicks = history.kept bootTicks ∧
      history.beginTick.taken bootTicks = history.taken bootTicks := by
  have hsame : history.beginTick.ticks < bootTicks ↔ history.ticks < bootTicks := by
    show history.ticks + 1 < bootTicks ↔ _
    omega
  simp only [taken, kept, hsame]
  exact ⟨rfl, rfl⟩

end BrowsingHistory

/-! ### One step of a run -/

namespace Headless

theorem foldl_readFrame_eq (runtime : Headless) (frames : List Octets) :
    ∃ connected packets, frames.foldl readFrame runtime =
      { runtime with connected, packets } := by
  induction frames generalizing runtime with
  | nil => exact ⟨_, _, rfl⟩
  | cons frame frames ih =>
    obtain ⟨connected, packets, hread⟩ : ∃ connected packets, readFrame runtime frame =
        { runtime with connected, packets } := by
      unfold readFrame
      split <;> exact ⟨_, _, rfl⟩
    rw [List.foldl_cons, hread]
    exact ih _

end Headless

namespace Session

variable {bootTicks : UInt32} {history : BrowsingHistory} {session next : Session Headless}

/-- The session shows what has happened: what waits, what is kept, and in the browser, in order,
what was taken. -/
structure Shows (bootTicks : UInt32) (history : BrowsingHistory) (session : Session Headless) :
    Prop where
  receiving : session.inbox.receiving = true
  waiting : session.inbox.queue = history.waiting
  ticks : session.runtime.ticks = history.ticks
  boot : session.runtime.bootTicks = bootTicks
  kept : session.roster.cached = history.kept bootTicks.toNat
  ascending : KnownServer.Ascending session.runtime.servers
  servers : session.runtime.servers.Perm
    ((history.taken bootTicks.toNat).flatMap Headless.known)

variable (session) in
theorem handle_of_no_batch {event : ConnectionEvent} (h : event.batch? = none) :
    (session.handle event).roster = session.roster ∧
      (session.handle event).runtime = session.runtime := by
  rw [handle_eq_routed, routed, List.filterMap_cons_none h]
  exact ⟨rfl, rfl⟩

variable (session) in
theorem handle_of_batch {event : ConnectionEvent} {batch : List ServerEntry}
    (h : event.batch? = some batch) : ((session.handle event).roster,
      (session.handle event).runtime) = (session.roster.inject session.runtime batch).2 := by
  rw [handle_eq_routed, routed, List.filterMap_cons_some h]
  rfl

namespace Shows

theorem new (bootTicks : UInt32) (mapChange : PacketKind) (policy : DeferralPolicy)
    (ids : IdSource) :
    Shows bootTicks .new (Session.new (Headless.new bootTicks) mapChange policy ids) where
  receiving := rfl
  waiting := rfl
  ticks := rfl
  boot := rfl
  kept := by simp [BrowsingHistory.kept, BrowsingHistory.early, BrowsingHistory.new, Session.new,
    Roster.new]
  ascending := .nil
  servers := by simp [BrowsingHistory.taken, BrowsingHistory.early, BrowsingHistory.late,
    BrowsingHistory.new, Session.new, Headless.new]

theorem ready_iff (h : Shows bootTicks history session) :
    ingestionReady session.runtime = true ↔ ¬ history.ticks < bootTicks.toNat := by
  rw [Headless.ready_iff, h.boot, h.ticks, Nat.not_lt]

theorem not_ready (h : Shows bootTicks history session) (hboot : history.ticks < bootTicks.toNat) :
    ingestionReady session.runtime = false := by
  rw [Bool.eq_false_iff, Ne, h.ready_iff]
  exact not_not_intro hboot

/-- Only what is kept and what the browser holds matter. -/
theorem congr (h : Shows bootTicks history session) (hinbox : next.inbox = session.inbox)
    (hroster : next.roster = session.roster)
    (hruntime : ∃ connected packets mapsLoaded,
      next.runtime = { session.runtime with connected, packets, mapsLoaded }) :
    Shows bootTicks history next := by
  obtain ⟨connected, packets, mapsLoaded, hruntime⟩ := hruntime
  constructor
  case receiving => rw [hinbox, h.receiving]
  case waiting => rw [hinbox, h.waiting]
  case kept => rw [hroster, h.kept]
  all_goals rw [hruntime]
  case ticks => exact h.ticks
  case boot => exact h.boot
  case ascending => exact h.ascending
  case servers => exact h.servers

/-- Between the steps there is nothing to hand over. -/
theorem runtimeReady_eq (h : Shows bootTicks history session) :
    session.runtimeReady = (none, session) := by
  have hreplay : session.roster.replay session.runtime =
      (none, session.roster, session.runtime) := by
    by_cases hboot : history.ticks < bootTicks.toNat
    · exact Roster.replay_of_not_ready _ (h.not_ready hboot)
    · have hcached := h.kept
      rw [BrowsingHistory.kept_of_booted hboot] at hcached
      simp [Roster.replay, hcached]
  rw [runtimeReady, hreplay]

theorem handle_of_booted (h : Shows bootTicks history session)
    (hboot : ¬ history.ticks < bootTicks.toNat) {event : ConnectionEvent}
    {batch : List ServerEntry} (hbatch : event.batch? = some batch) :
    (session.handle event).roster = ⟨none⟩ ∧
      (session.handle event).runtime = Roster.deliver session.runtime batch := by
  have hcached : session.roster.cached = none := by
    rw [h.kept, BrowsingHistory.kept_of_booted hboot]
  have hhandle := handle_of_batch session hbatch
  rw [Roster.inject_of_ready _ (h.ready_iff.2 hboot), hcached, Option.toList_none, List.nil_append,
    List.flatMap_singleton, ← Roster.deliver_eq] at hhandle
  exact Prod.mk.inj hhandle

theorem handle (h : Shows bootTicks history session) (event : ConnectionEvent) :
    Shows bootTicks (history.handle event) (session.handle event) := by
  cases hbatch : event.batch? with
  | none =>
    obtain ⟨hroster, hruntime⟩ := handle_of_no_batch session hbatch
    rw [BrowsingHistory.handle_of_none hbatch]
    exact h.congr (session.handle_inbox event) hroster ⟨_, _, _, hruntime⟩
  | some batch =>
    have hinbox := session.handle_inbox event
    by_cases hboot : history.ticks < bootTicks.toNat
    · obtain ⟨hkept, htaken⟩ := BrowsingHistory.handle_of_booting hbatch hboot
      have hhandle := handle_of_batch session hbatch
      rw [Roster.inject_of_not_ready _ (h.not_ready hboot)] at hhandle
      obtain ⟨hroster, hruntime⟩ := Prod.mk.inj hhandle
      constructor
      case receiving => rw [hinbox, h.receiving]
      case waiting => exact (congrArg _ hinbox).trans h.waiting
      case kept => rw [hroster, hkept]
      case servers =>
        rw [hruntime, htaken, ← BrowsingHistory.taken_of_booting hboot]
        exact h.servers
      all_goals rw [hruntime]
      case ticks => exact h.ticks
      case boot => exact h.boot
      case ascending => exact h.ascending
    · obtain ⟨hkept, htaken⟩ := BrowsingHistory.handle_of_booted hbatch hboot
      obtain ⟨hroster, hruntime⟩ := h.handle_of_booted hboot hbatch
      rw [Headless.deliver_eq] at hruntime
      constructor
      case receiving => rw [hinbox, h.receiving]
      case waiting => exact (congrArg _ hinbox).trans h.waiting
      case kept => rw [hroster, hkept]
      all_goals rw [hruntime]
      case ticks => exact h.ticks
      case boot => exact h.boot
      case ascending => exact KnownServer.ascending_mergeSort _
      case servers =>
        rw [htaken, List.flatMap_append, List.flatMap_singleton]
        exact (List.mergeSort_perm _ _).trans (h.servers.append_right _)

theorem foldl_handle (h : Shows bootTicks history session) (events : List ConnectionEvent) :
    Shows bootTicks (events.foldl BrowsingHistory.handle history)
      (events.foldl Session.handle session) := by
  induction events generalizing history session with
  | nil => exact h
  | cons event events ih => exact ih (h.handle event)

/-- The first `n` events that wait are handled. -/
theorem handleWaiting (h : Shows bootTicks history session) (n : Nat) :
    Shows bootTicks (history.handleWaiting n)
      ((session.inbox.queue.take n).foldl Session.handle
        { session with inbox.queue := session.inbox.queue.drop n }) := by
  rw [h.waiting]
  apply foldl_handle
  exact { h with waiting := rfl }

theorem pump (h : Shows bootTicks history session) :
    Shows bootTicks (history.handleWaiting history.waiting.length) session.pump.2 := by
  have hpump : session.pump.2 = (session.inbox.queue.take history.waiting.length).foldl
      Session.handle { session with
        inbox.queue := session.inbox.queue.drop history.waiting.length } := by
    rw [h.waiting, List.take_length, List.drop_length, Session.pump, h.runtimeReady_eq, ← h.waiting]
    rfl
  rw [hpump]
  exact h.handleWaiting _

/-- The beginning of the tick that ends the boot has the kept batch taken, and does nothing else. -/
theorem beginTick_of_booting (h : Shows bootTicks history session)
    (hend : history.ticks + 1 = bootTicks.toNat) :
    ∃ servers, KnownServer.Ascending servers ∧
      servers.Perm ((history.kept bootTicks.toNat).toList.flatMap Headless.known) ∧
      session.beginTick = { session with
        roster := ⟨none⟩
        runtime := { session.runtime with ticks := bootTicks.toNat, servers } } := by
  let runtime : Headless := { session.runtime with ticks := bootTicks.toNat }
  have hbefore : history.ticks < bootTicks.toNat := by omega
  have hready : ingestionReady runtime = true :=
    Headless.ready_iff.2 (Nat.le_of_eq (congrArg _ h.boot))
  have hticked : session.runtime.ticks + 1 = bootTicks.toNat := by rw [h.ticks, hend]
  have hbegin : session.beginTick = { session with runtime }.runtimeReady.2 := by
    unfold Session.beginTick
    rw [h.not_ready hbefore, hticked]
    exact if_pos hready
  have hnone : session.runtime.servers = [] := by
    have hservers := h.servers
    rwa [BrowsingHistory.taken_of_booting hbefore, List.flatMap_nil, List.perm_nil] at hservers
  rw [hbegin, ← h.kept, runtimeReady, Roster.replay_of_ready _ hready]
  cases session.roster.cached with
  | none => exact ⟨[], .nil, .nil, by simp [runtime, ← hnone]⟩
  | some batch =>
    refine ⟨_, KnownServer.ascending_mergeSort (Headless.known batch), ?_, ?_⟩
    · rw [Option.toList_some, List.flatMap_singleton]
      exact List.mergeSort_perm _ _
    · rw [Option.toList_some, List.flatMap_singleton, ← Roster.deliver_eq, Headless.deliver_eq]
      simp [runtime, hnone]

/-- The beginning of any other tick only counts it. -/
theorem beginTick_of_not_booting (h : Shows bootTicks history session)
    (hend : history.ticks + 1 ≠ bootTicks.toNat) :
    session.beginTick = { session with runtime.ticks := session.runtime.ticks + 1 } := by
  unfold Session.beginTick
  apply if_neg
  rw [Bool.and_eq_true, Bool.not_eq_true', Headless.ready_iff]
  rintro ⟨hbooting, hbooted⟩
  rw [Bool.eq_false_iff, Ne, h.ready_iff, not_not] at hbooting
  have hcounted : bootTicks.toNat ≤ history.ticks + 1 := by
    rw [← h.boot, ← h.ticks]
    exact hbooted
  omega

theorem beginTick (h : Shows bootTicks history session) :
    Shows bootTicks history.beginTick session.beginTick := by
  by_cases hend : history.ticks + 1 = bootTicks.toNat
  · obtain ⟨hkept, htaken⟩ := BrowsingHistory.beginTick_of_booting hend
    obtain ⟨servers, hascending, hservers, hbegin⟩ := h.beginTick_of_booting hend
    rw [hbegin]
    exact ⟨h.receiving, h.waiting, hend.symm, h.boot, hkept.symm, hascending, by rwa [htaken]⟩
  · obtain ⟨hkept, htaken⟩ := BrowsingHistory.beginTick_of_not_booting hend
    rw [h.beginTick_of_not_booting hend]
    exact ⟨h.receiving, h.waiting, congrArg (· + 1) h.ticks, h.boot, by rw [hkept, h.kept],
      h.ascending, by rw [htaken]; exact h.servers⟩

theorem tick (h : Shows bootTicks history session) :
    Shows bootTicks (history.browse .tick) session.tick := by
  have hpumped : Shows bootTicks (history.browse .tick) session.beginTick.pump.2 := h.beginTick.pump
  obtain ⟨connected, packets, hread⟩ := Headless.foldl_readFrame_eq
    session.beginTick.pump.2.runtime session.beginTick.drain.1
  have htick : ∃ mapsLoaded gate poller, session.tick = { session.beginTick.pump.2 with
      runtime := { session.beginTick.pump.2.runtime with connected, packets, mapsLoaded }
      gate
      poller } := by
    have hruntime : session.beginTick.drain.2.runtime = session.beginTick.pump.2.runtime := rfl
    unfold Session.tick
    dsimp only
    rw [hruntime, hread]
    split <;> exact ⟨_, _, _, rfl⟩
  obtain ⟨mapsLoaded, gate, poller, htick⟩ := htick
  rw [htick]
  exact hpumped.congr rfl rfl ⟨_, _, _, rfl⟩

theorem browse (h : Shows bootTicks history session) (step : BrowsingStep) :
    Shows bootTicks (history.browse step) (session.browse step) := by
  cases step with
  | tick => exact h.tick
  | drain step =>
    cases step with
    | deliver event =>
      have hinbox := deliver_inbox h.receiving event
      constructor
      case receiving => exact (congrArg Channel.receiving hinbox).trans h.receiving
      case waiting =>
        exact (congrArg Channel.queue hinbox).trans (congrArg (· ++ [event]) h.waiting)
      case ticks => exact h.ticks
      case boot => exact h.boot
      case kept => exact h.kept
      case ascending => exact h.ascending
      case servers => exact h.servers
    | pump => exact h.pump
    | processNext =>
      have hnext := h.handleWaiting 1
      rw [← processNext_eq] at hnext
      exact hnext
    | poll => exact h.pump.congr rfl rfl ⟨_, _, _, rfl⟩

end Shows

/-! ### Runs -/

section

variable (bootTicks : UInt32) (mapChange : PacketKind) (policy : DeferralPolicy) (ids : IdSource)
  (steps : List BrowsingStep)

theorem browseAll_shows : Shows bootTicks (.ofSteps steps)
    ((new (Headless.new bootTicks) mapChange policy ids).browseAll steps) := by
  induction steps using List.reverseRecOn with
  | nil => exact .new bootTicks mapChange policy ids
  | append_singleton steps last ih =>
    rw [browseAll_snoc, BrowsingHistory.ofSteps_snoc]
    exact ih.browse last

/-- The server browser is in order and complete behind every step. It holds every server that was
handled, as often as it was, but not those of the batch that is kept and of batches superseded;
while the runtime boots it is empty. The tick that ends the boot has the kept batch taken before
anything else in it. Nothing else is ever handed over but by an event: once the runtime is ready,
between the steps or inside a tick, and whatever else was handled there, the servers of the next
event join the browser at once. -/
theorem browser_complete :
    let session := (new (Headless.new bootTicks) mapChange policy ids).browseAll steps
    let history := BrowsingHistory.ofSteps steps
    let boot := bootTicks.toNat
    (KnownServer.Ascending session.runtime.servers ∧
      session.roster.cached = history.kept boot ∧
      (session.runtime.servers ++
          ((history.kept boot).toList ++ history.superseded boot).flatMap Headless.known).Perm
        ((history.batches.map (·.entries)).flatMap Headless.known)) ∧
    (history.ticks < boot → session.runtime.servers = []) ∧
    (history.ticks + 1 = boot → ∃ servers, KnownServer.Ascending servers ∧
      servers.Perm ((history.kept boot).toList.flatMap Headless.known) ∧
      session.beginTick = { session with
        roster := ⟨none⟩
        runtime := { session.runtime with ticks := boot, servers } }) ∧
    ∀ next ∈ [session, session.beginTick],
      next.runtimeReady = (none, next) ∧
      (ingestionReady next.runtime = true →
        ∀ (events : List ConnectionEvent) (cluster master : List ServerEntry),
        let before := events.foldl handle next
        let after := before.handle (.message (.info cluster master))
        before.roster.cached = none ∧ after.roster.cached = none ∧
          KnownServer.Ascending after.runtime.servers ∧
          after.runtime.servers.Perm
            (before.runtime.servers ++ Headless.known (master ++ cluster))) := by
  intro session history boot
  have hshows : Shows bootTicks history session :=
    browseAll_shows bootTicks mapChange policy ids steps
  refine ⟨⟨hshows.ascending, hshows.kept, ?_⟩, ?_, hshows.beginTick_of_booting, ?_⟩
  · have hall := (history.taken_perm boot).flatMap_right Headless.known
    rw [List.append_assoc, List.flatMap_append] at hall
    exact (hshows.servers.append_right _).trans hall
  · intro hboot
    have hservers := hshows.servers
    rwa [BrowsingHistory.taken_of_booting hboot, List.flatMap_nil, List.perm_nil] at hservers
  · intro next hnext
    obtain ⟨past, hnext⟩ : ∃ past, Shows bootTicks past next := by
      rcases List.mem_pair.1 hnext with rfl | rfl
      · exact ⟨_, hshows⟩
      · exact ⟨_, hshows.beginTick⟩
    refine ⟨hnext.runtimeReady_eq, ?_⟩
    intro hready events cluster master before after
    have hboot : ¬ (events.foldl BrowsingHistory.handle past).ticks < bootTicks.toNat := by
      rw [BrowsingHistory.foldl_handle_ticks]
      exact hnext.ready_iff.1 hready
    have hbefore := hnext.foldl_handle events
    have hafter := hbefore.handle (.message (.info cluster master))
    obtain ⟨hroster, hruntime⟩ := hbefore.handle_of_booted hboot
      (show ConnectionEvent.batch? (.message (.info cluster master)) = some (master ++ cluster) from
        rfl)
    refine ⟨?_, congrArg Roster.cached hroster, hafter.ascending, ?_⟩
    · exact hbefore.kept.trans (BrowsingHistory.kept_of_booted hboot)
    · have hservers : after.runtime.servers = _ :=
        congrArg Headless.servers (hruntime.trans (Headless.deliver_eq _ _))
      rw [hservers]
      exact List.mergeSort_perm _ _

/-- While the runtime boots, the older of two batches is superseded; the tick that ends the boot
takes the newer one, and a third one is taken at once behind that. -/
theorem browser_complete_newest :
    let a : ServerEntry := ⟨"a", 1, []⟩
    let b : ServerEntry := ⟨"b", 2, []⟩
    let c : ServerEntry := ⟨"c", 3, []⟩
    let d : ServerEntry := ⟨"d", 4, []⟩
    let session := (new (Headless.new 1) .mapChange .standard (.ofScript [])).browseAll
      [.drain (.deliver (.message (.info [d] []))), .drain .processNext,
        .drain (.deliver (.message (.info [c] [a]))), .drain .poll]
    session.runtime.servers = [] ∧
      session.beginTick.runtime.servers.Perm (Headless.known [a, c]) ∧
      (session.beginTick.handle (.message (.info [b] []))).runtime.servers.Perm
        (Headless.known [a, c, b]) := by
  intro a b c d session
  let steps : List BrowsingStep :=
    [.drain (.deliver (.message (.info [d] []))), .drain .processNext,
      .drain (.deliver (.message (.info [c] [a]))), .drain .poll]
  have hkept : (BrowsingHistory.ofSteps steps).kept (1 : UInt32).toNat = some [a, c] := by
    decide +kernel
  have hready : ingestionReady session.beginTick.runtime = true := by decide +kernel
  obtain ⟨-, hempty, hend, hnext⟩ := browser_complete 1 .mapChange .standard (.ofScript []) steps
  obtain ⟨servers, -, hservers, hbegin⟩ := hend (by decide +kernel)
  rw [hkept, Option.toList_some, List.flatMap_singleton] at hservers
  have htaken : session.beginTick.runtime.servers = servers :=
    congrArg (fun session => session.runtime.servers) hbegin
  rw [← htaken] at hservers
  obtain ⟨-, -, -, hthird⟩ :=
    (hnext session.beginTick (List.mem_pair.2 (.inr rfl))).2 hready [] [b] []
  rw [List.foldl_nil] at hthird
  exact ⟨hempty (by decide +kernel), hservers, hthird.trans (hservers.append_right _)⟩

end
end Session
end ClusterLink
