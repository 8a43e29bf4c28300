import ClusterLink.Proofs.Session.Handling
import ClusterLink.Proofs.Poller.Frames
import ClusterLink.Session.HeadlessRun
import Mathlib.Data.List.Induction
/-!
A tick of the headless runtime finishes the loads that its own map change opens. The gate of the
session may open loads by another kind, and then no tick finishes them.
-/
namespace ClusterLink

namespace PacketKind

/-- The front of a game message of this kind, in the wide form. -/
def write (kind : PacketKind) : Octets := 129 :: Octets.ofNatLE 4 kind.code.toBitVec.toNat

theorem read?_write (kind : PacketKind) : read? kind.write = some kind := by
  have hlt : kind.code.toBitVec.toNat < Octets.capacity 4 := kind.code.toBitVec.isLt
  have hsplit := RuntimeFrame.split?_self (Octets.ofNatLE 4 kind.code.toBitVec.toNat)
  rw [Octets.length_ofNatLE] at hsplit
  have hkind : ofInt (Int.bmod kind.code.toBitVec.toNat (Octets.capacity 4)) = kind := by
    have hint : Int.bmod kind.code.toBitVec.toNat (Octets.capacity 4) = kind.code.toInt :=
      kind.code.toBitVec.toInt_eq_toNat_bmod.symm
    rw [hint, ofInt, Int32.ofInt_toInt]
  simp only [read?, write, hsplit, Option.map_some, Octets.toNatLE_ofNatLE _ _ hlt, hkind]
  rfl

theorem kind?_wholePacket_write (kind : PacketKind) :
    (Envelope.wholePacket 0 kind.write).kind? = some kind := by
  have hlength : (UInt32.ofNat kind.write.length).toNat = kind.write.length := by
    simp [write]
  rw [Envelope.wholePacket, Envelope.kind?, Envelope.payload?, hlength, RuntimeFrame.split?_self]
  exact kind.read?_write

end PacketKind

/-! ### What the runtime sees -/

/-- The kind of an envelope, as its frame tells it. -/
theorem Envelope.kind?_eq (envelope : Envelope) : envelope.kind? =
    (RuntimeEvent.of? envelope).bind fun
      | .receive _ data => PacketKind.read? data
      | _ => none := by
  cases envelope with
  | packet channel data length =>
    rw [kind?, RuntimeEvent.of?, Option.bind_map]
    rfl
  | _ => rfl

/-- The runtime finds a map change in a frame if its own kind is that of the envelope. -/
theorem Headless.isMapChange_write {envelope : Envelope}
    (h : (RuntimeFrame.size? envelope).isSome) :
    isMapChange (RuntimeFrame.write envelope) = decide (envelope.kind? = some .mapChange) := by
  rw [isMapChange, RuntimeFrame.read?_write h, Envelope.kind?_eq]
  cases RuntimeEvent.of? envelope with
  | none => rfl
  | some event => cases event <;> rfl

theorem Headless.any_isMapChange (poller : Poller) (ready : List Envelope) :
    (poller.drainQueue ready).1.any isMapChange =
      ready.any fun envelope => decide (envelope.kind? = some .mapChange) := by
  rw [poller.drainQueue_fst, List.any_map, List.any_filter]
  congr 1
  funext envelope
  cases hsize : (RuntimeFrame.size? envelope).isSome with
  | true => rw [Bool.true_and, Function.comp_apply, isMapChange_write hsize]
  | false =>
    rw [RuntimeFrame.size?_isSome, Option.isSome_eq_false_iff, Option.isNone_iff_eq_none] at hsize
    rw [Envelope.kind?_eq, hsize]
    rfl

/-! ### The gate at a tick -/

namespace Gate

variable {gate : Gate} {mapChange : PacketKind}

/-- The gate behind a tick: everything ready is gone, and a load is finished if the map change that
the runtime knows was among it. -/
def ticked (gate : Gate) : Gate :=
  if gate.ready.any fun envelope => decide (envelope.kind? = some .mapChange) then
    { gate with ready := [] }.worldReady.2
  else { gate with ready := [] }

/-- Nothing is loading and nothing waits. -/
def Settled (gate : Gate) : Prop := gate.load = .idle ∧ gate.deferred = []

/-- An open load has its map change among what is ready, and without a load nothing waits. -/
structure Tidy (mapChange : PacketKind) (gate : Gate) : Prop where
  kind : gate.mapChange = mapChange
  announced : gate.load = .loading → ∃ envelope ∈ gate.ready, envelope.kind? = some mapChange
  released : gate.load = .idle → gate.deferred = []

theorem new_tidy (mapChange : PacketKind) (policy : DeferralPolicy) :
    (new mapChange policy).Tidy mapChange :=
  ⟨rfl, nofun, fun _ => rfl⟩

theorem Settled.tidy (h : gate.Settled) : gate.Tidy gate.mapChange where
  kind := rfl
  announced hloading := nomatch h.1.symm.trans hloading
  released _ := h.2

namespace Tidy

theorem append (h : gate.Tidy mapChange) (envelope : Envelope) :
    Tidy mapChange { gate with ready := gate.ready ++ [envelope] } := by
  refine ⟨h.kind, fun hloading => ?_, h.released⟩
  obtain ⟨change, hready, hkind⟩ := h.announced hloading
  exact ⟨change, List.mem_append_left _ hready, hkind⟩

theorem place (h : gate.Tidy mapChange) (envelope : Envelope) :
    (gate.place envelope).2.Tidy mapChange := by
  unfold Gate.place
  split
  case h_1 => exact h.append envelope
  case h_2 hloading =>
    exact ⟨h.kind, h.announced, fun hidle => nomatch hloading.symm.trans hidle⟩

theorem placePacket (h : gate.Tidy mapChange) (envelope : Envelope) :
    (gate.placePacket envelope).2.Tidy mapChange := by
  unfold Gate.placePacket
  split
  case h_1 kind hkind =>
    split
    case isTrue hchange =>
      refine ⟨h.kind, fun _ => ⟨envelope, by simp, ?_⟩, nofun⟩
      rw [hkind, hchange, h.kind]
    case isFalse =>
      split
      · exact h.append envelope
      · exact h.place envelope
  case h_2 => exact h.place envelope

theorem heed (h : gate.Tidy mapChange) (event : ConnectionEvent) :
    (gate.heed event).Tidy mapChange := by
  cases event with
  | message envelope =>
    cases envelope with
    | packet => exact h.placePacket _
    | info | serverResponse | auth | chat => exact h
    | _ => exact h.place _
  | opened | closed => exact h

theorem foldl_heed (h : gate.Tidy mapChange) (events : List ConnectionEvent) :
    (events.foldl Gate.heed gate).Tidy mapChange := by
  induction events generalizing gate with
  | nil => exact h
  | cons event events ih => exact ih (h.heed event)

end Tidy

theorem ticked_mapChange (gate : Gate) : gate.ticked.mapChange = gate.mapChange := by
  unfold ticked worldReady
  split
  · dsimp only
    split <;> rfl
  · rfl

/-- If the gate's map change is the one that the runtime knows, a tick takes what is ready and
releases what waits. -/
theorem Tidy.ticked_eq (h : gate.Tidy .mapChange) :
    gate.ticked = { gate with load := .idle, ready := gate.deferred, deferred := [] } := by
  unfold Gate.ticked worldReady
  cases hload : gate.load with
  | idle =>
    have hnone := h.released hload
    obtain ⟨mapChange, policy, load, ready, deferred⟩ := gate
    cases hload
    cases hnone
    split <;> rfl
  | loading =>
    obtain ⟨change, hready, hkind⟩ := h.announced hload
    rw [if_pos]
    · rfl
    · rw [List.any_eq_true]
      exact ⟨change, hready, decide_eq_true hkind⟩

/-- If the gate's map change is the one that the runtime knows, a tick finishes every load. -/
theorem Tidy.ticked (h : gate.Tidy .mapChange) : gate.ticked.Settled := by
  rw [h.ticked_eq]
  exact ⟨rfl, rfl⟩

end Gate

/-! ### Runs -/

namespace Session

theorem beginTick_gate (session : Session Headless) : session.beginTick.gate = session.gate := by
  unfold beginTick
  dsimp only
  split <;> rfl

theorem beginTick_inbox (session : Session Headless) :
    session.beginTick.inbox = session.inbox := by
  unfold beginTick
  dsimp only
  split <;> rfl

/-- At its gate, a tick handles what has arrived and takes what is ready. -/
theorem tick_gate (session : Session Headless) :
    session.tick.gate = (session.inbox.queue.foldl Gate.heed session.gate).ticked := by
  have hpumped : session.beginTick.pump.2.gate =
      session.inbox.queue.foldl Gate.heed session.gate := by
    rw [pump_gate, beginTick_gate, beginTick_inbox]
  rw [← hpumped, Gate.ticked, ← Headless.any_isMapChange session.beginTick.pump.2.poller]
  unfold tick drain Poller.drain
  dsimp only
  split <;> rfl

/-- If the gate's map change is the one that the runtime knows, every run keeps the gate tidy. -/
theorem course_tidy (session : Session Headless) (h : session.gate.Tidy .mapChange)
    (steps : List HeadlessStep) : (session.course steps).gate.Tidy .mapChange := by
  induction steps using List.reverseRecOn with
  | nil => exact h
  | append_singleton steps last ih =>
    rw [course_snoc]
    cases last with
    | deliver event => exact ih
    | pump =>
      rw [advance, pump_gate]
      exact ih.foldl_heed _
    | processNext =>
      rw [advance, processNext_gate]
      exact ih.foldl_heed _
    | tick =>
      have hpumped := ih.foldl_heed (session.course steps).inbox.queue
      have hticked := hpumped.ticked.tidy
      rw [Gate.ticked_mapChange, hpumped.kind] at hticked
      rwa [advance, tick_gate]

section

variable (mapChange : PacketKind) (policy : DeferralPolicy) (bootTicks : UInt32) (ids : IdSource)

theorem new_deliver_tick_gate (event : ConnectionEvent) :
    ((new (Headless.new bootTicks) mapChange policy ids).course [.deliver event, .tick]).gate =
      ((Gate.new mapChange policy).heed event).ticked := by
  rw [course, List.foldl_cons, List.foldl_cons, List.foldl_nil, advance, advance, tick_gate]
  rfl

/-- A map change that the runtime does not know opens a load which the next tick leaves open. -/
theorem tick_loading (h : mapChange ≠ .mapChange) :
    ((new (Headless.new bootTicks) mapChange policy ids).course
      [.deliver (.message (.wholePacket 0 mapChange.write)), .tick]).gate.load = .loading := by
  have hkind := mapChange.kind?_wholePacket_write
  have hplaced : (Gate.new mapChange policy).heed (.message (.wholePacket 0 mapChange.write)) =
      ⟨mapChange, policy, .loading, [.wholePacket 0 mapChange.write], []⟩ := by
    rw [Envelope.wholePacket] at hkind ⊢
    rw [Gate.heed, Gate.accept, Gate.placePacket, hkind]
    exact congrArg Prod.snd (if_pos rfl)
  rw [new_deliver_tick_gate, hplaced, Gate.ticked, List.any_cons, List.any_nil, hkind,
    decide_eq_false (by simpa using h)]
  rfl

/-- Every tick of every run leaves nothing loading and nothing waiting exactly if the map change of
the gate is the kind that the runtime takes for one, whatever the policy and the boot. -/
theorem tick_settles_iff :
    (∀ steps, ((new (Headless.new bootTicks) mapChange policy ids).course
      (steps ++ [.tick])).gate.Settled) ↔ mapChange = .mapChange := by
  constructor
  · intro hsettles
    by_contra hother
    have hidle := (hsettles [.deliver (.message (.wholePacket 0 mapChange.write))]).1
    rw [List.singleton_append, tick_loading mapChange policy bootTicks ids hother] at hidle
    cases hidle
  · rintro rfl steps
    have htidy := course_tidy (new (Headless.new bootTicks) .mapChange policy ids)
      (Gate.new_tidy _ policy) steps
    rw [course_snoc, advance, tick_gate]
    exact (htidy.foldl_heed _).ticked

/-- With kind 30 for a map change, a spawn behind it still waits after two more ticks. -/
theorem tick_holds_spawn :
    let gate := ((new (Headless.new 0) ⟨30⟩ .standard (.ofScript [])).course
      [.deliver (.message (.wholePacket 1 [30])), .tick,
        .deliver (.message (.wholePacket 1 [18])), .tick, .tick]).gate
    gate.load = .loading ∧ gate.deferred = [.wholePacket 1 [18]] := by
  decide +kernel

end

end Session
end ClusterLink
