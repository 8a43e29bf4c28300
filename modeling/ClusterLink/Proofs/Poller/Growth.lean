import ClusterLink.Poller.Run
import ClusterLink.Proofs.Poller.Polling
import Mathlib.Data.List.Induction
/-!
How much memory and what counts a run of the poller leaves behind. Main statement:
`course_accounts`, the region is as large as the largest frame, it was replaced once for every frame
larger than all before, and every envelope handed to the gate was given out, skipped or is still
held.
-/
namespace ClusterLink

/-! ### What a run is measured by -/

/-- The envelope that a step hands to the gate. -/
def PollStep.envelope? : PollStep → Option Envelope
  | .placePacket envelope => some envelope
  | .place envelope => some envelope
  | _ => none

/-- How many of the sizes exceed all that come before them. -/
def records (sizes : List Nat) : Nat :=
  (List.range sizes.length).countP fun index =>
    sizes[index]?.any fun size => (sizes.take index).all (· < size)

/-- The largest of the sizes, or zero. -/
def largest (sizes : List Nat) : Nat := sizes.foldl max 0

section

variable {sizes : List Nat} {size : Nat}

theorem largest_snoc : largest (sizes ++ [size]) = max (largest sizes) size := by
  rw [largest, List.foldl_append]
  rfl

theorem largest_lt_iff (hsize : 0 < size) :
    largest sizes < size ↔ ∀ earlier ∈ sizes, earlier < size := by
  induction sizes using List.reverseRecOn with
  | nil => simpa [largest] using hsize
  | append_singleton sizes last ih =>
    rw [largest_snoc, Nat.max_lt, ih, List.forall_mem_append, List.forall_mem_singleton]

theorem records_snoc (hsize : 0 < size) :
    records (sizes ++ [size]) = records sizes + if largest sizes < size then 1 else 0 := by
  have hbefore : (List.range sizes.length).countP (fun index =>
        (sizes ++ [size])[index]?.any fun later =>
          ((sizes ++ [size]).take index).all (· < later)) = records sizes := by
    apply List.countP_congr
    intro index hindex
    rw [List.mem_range] at hindex
    rw [List.getElem?_append_left hindex, List.take_append_of_le_length (Nat.le_of_lt hindex)]
  have hlast : ((sizes ++ [size])[sizes.length]?.any fun later =>
        ((sizes ++ [size]).take sizes.length).all (· < later)) = decide (largest sizes < size) := by
    rw [List.getElem?_concat_length, Option.any_some, List.take_left, List.all_eq]
    simp only [decide_eq_true_eq, largest_lt_iff hsize]
  rw [records, List.length_append, List.length_singleton, List.range_succ, List.countP_append,
    hbefore, List.countP_singleton, hlast]
  simp only [decide_eq_true_eq]

end

/-! ### What one operation does -/

namespace RuntimeFrame

/-- No frame is empty. -/
theorem size?_pos {envelope : Envelope} {size : Nat} (h : size? envelope = some size) :
    0 < size := by
  cases envelope with
  | serverConnected => cases h; decide
  | serverDisconnected => cases h; decide
  | packet =>
    obtain ⟨data, -, rfl⟩ := Option.map_eq_some_iff.1 h
    omega
  | _ => cases h

end RuntimeFrame

namespace Region

theorem length_hold (region : Region) (frame : Octets) :
    (region.hold frame).octets.length = max region.octets.length frame.length := by
  rw [hold_octets, reserve]
  split
  · simp only [List.length_append, List.length_drop, List.length_replicate]
    omega
  · simp only [List.length_append, List.length_drop]
    omega

theorem reallocations_hold (region : Region) (frame : Octets) :
    (region.hold frame).reallocations =
      region.reallocations + if region.octets.length < frame.length then 1 else 0 := by
  rw [hold, overwrite, reserve]
  split <;> rfl

/-- A frame that fits is written over the front, and nothing else changes. -/
theorem hold_of_fits {region : Region} {frame : Octets}
    (h : frame.length ≤ region.octets.length) :
    region.hold frame = { region with octets := frame ++ region.octets.drop frame.length } := by
  rw [hold, reserve, if_neg (Nat.not_lt.2 h)]
  rfl

end Region

namespace Gate

/-- How many envelopes the gate holds. -/
def held (gate : Gate) : Nat := gate.ready.length + gate.deferred.length

theorem held_place (gate : Gate) (envelope : Envelope) :
    (gate.place envelope).2.held = gate.held + 1 := by
  unfold place held
  cases gate.load <;> simp only [List.length_append, List.length_singleton] <;> omega

theorem held_placePacket (gate : Gate) (envelope : Envelope) :
    (gate.placePacket envelope).2.held = gate.held + 1 := by
  have hready : (gate.ready ++ [envelope]).length + gate.deferred.length = gate.held + 1 := by
    rw [List.length_append, List.length_singleton, held]
    omega
  unfold placePacket
  split
  · split
    · exact hready
    · split
      · exact hready
      · exact gate.held_place envelope
  · exact gate.held_place envelope

theorem held_worldReady (gate : Gate) : gate.worldReady.2.held = gate.held := by
  unfold worldReady held
  cases gate.load with
  | idle => rfl
  | loading => simp only [List.length_append, List.length_nil, Nat.add_zero]

end Gate

/-! ### Runs -/

namespace PollDesk

variable {desk : PollDesk} {steps : List PollStep}

/-- The sizes of the frames that were polled. -/
def sizes (desk : PollDesk) : List Nat := desk.frames.map List.length

/-- The counts of a desk agree with the steps taken and the frames polled. -/
structure Accounts (steps : List PollStep) (desk : PollDesk) : Prop where
  size : desk.poller.region.octets.length = largest desk.sizes
  reallocations : desk.poller.region.reallocations = records desk.sizes
  delivered : desk.poller.delivered = desk.frames.length
  envelopes : desk.poller.delivered + desk.poller.skipped + desk.gate.held =
    (steps.filterMap (·.envelope?)).length

namespace Accounts

theorem new (mapChange : PacketKind) (policy : DeferralPolicy) :
    Accounts [] (PollDesk.new mapChange policy) := ⟨rfl, rfl, rfl, rfl⟩

/-- A step that only moves envelopes in the gate. -/
theorem move (h : Accounts steps desk) {last : PollStep} {gate : Gate}
    (hheld : gate.held = desk.gate.held + last.envelope?.toList.length) :
    Accounts (steps ++ [last]) { desk with gate } where
  size := h.size
  reallocations := h.reallocations
  delivered := h.delivered
  envelopes := by
    have hlast : ([last].filterMap (·.envelope?)).length = last.envelope?.toList.length := by
      cases hlast : last.envelope? <;> simp [hlast]
    show desk.poller.delivered + desk.poller.skipped + gate.held = _
    rw [List.filterMap_append, List.length_append, ← h.envelopes, hheld, hlast, ← Nat.add_assoc]

theorem poll (h : Accounts steps desk) : Accounts (steps ++ [.poll]) (desk.step .poll) := by
  have hsteps : (steps ++ [PollStep.poll]).filterMap (·.envelope?) =
      steps.filterMap (·.envelope?) := by
    rw [List.filterMap_append]
    exact List.append_nil _
  have henvelopes := h.envelopes
  rw [Gate.held] at henvelopes
  obtain ⟨passed, -, hpoll⟩ := desk.poller.poll_cases desk.gate
  rw [step]
  rcases hpoll with ⟨hready, hpoll⟩ | ⟨envelope, rest, hready, hsize, hpoll⟩
  · rw [hpoll]
    dsimp only
    rw [Option.toList_none, List.append_nil]
    refine ⟨h.size, h.reallocations, h.delivered, ?_⟩
    rw [hsteps, ← henvelopes, hready, Gate.held, List.length_nil, Poller.skipping]
    dsimp only
    omega
  · have hpos : 0 < (RuntimeFrame.write envelope).length := RuntimeFrame.size?_pos hsize
    have hsizes : (desk.frames ++ [RuntimeFrame.write envelope]).map List.length =
        desk.sizes ++ [(RuntimeFrame.write envelope).length] := by
      rw [List.map_append, sizes, List.map_singleton]
    rw [hpoll]
    dsimp only
    rw [Option.toList_some]
    constructor
    case size =>
      rw [sizes, hsizes, largest_snoc, ← h.size]
      exact Region.length_hold _ _
    case reallocations =>
      rw [sizes, hsizes, records_snoc hpos, ← h.reallocations, ← h.size]
      exact Region.reallocations_hold _ _
    case delivered =>
      rw [List.length_append, List.length_singleton, ← h.delivered]
      rfl
    case envelopes =>
      rw [hsteps, ← henvelopes, hready, Gate.held, Poller.giving, Poller.skipping,
        List.length_append, List.length_cons]
      dsimp only
      omega

theorem step (h : Accounts steps desk) (last : PollStep) :
    Accounts (steps ++ [last]) (desk.step last) := by
  cases last with
  | placePacket envelope => exact h.move (desk.gate.held_placePacket envelope)
  | place envelope => exact h.move (desk.gate.held_place envelope)
  | worldReady => exact h.move desk.gate.held_worldReady
  | poll => exact h.poll

end Accounts

theorem accounts_course (mapChange : PacketKind) (policy : DeferralPolicy)
    (steps : List PollStep) : Accounts steps ((new mapChange policy).course steps) := by
  induction steps using List.reverseRecOn with
  | nil => exact .new mapChange policy
  | append_singleton steps last ih =>
    rw [course_snoc]
    exact ih.step last

/-- After every run, the region is as large as the largest frame polled, it was replaced once for
every frame larger than all before it, as many envelopes were delivered as frames polled, and every
envelope handed to the gate was delivered or skipped or is still in it. A further poll leaves the
region as it is if it gives no frame, and writes over its front if it gives one that is no larger
than an earlier one. -/
theorem course_accounts (mapChange : PacketKind) (policy : DeferralPolicy)
    (steps : List PollStep) :
    let desk := (new mapChange policy).course steps
    let region := desk.poller.region
    region.octets.length = largest desk.sizes ∧
      region.reallocations = records desk.sizes ∧
      desk.poller.delivered = desk.frames.length ∧
      desk.poller.delivered + desk.poller.skipped + desk.gate.ready.length +
        desk.gate.deferred.length = (steps.filterMap (·.envelope?)).length ∧
      match desk.poller.poll desk.gate with
      | (none, next, _) => next.region = region
      | (some frame, next, _) => (∃ earlier ∈ desk.frames, frame.length ≤ earlier.length) →
          next.region.octets = frame ++ region.octets.drop frame.length ∧
            next.region.octets.length = region.octets.length ∧
            next.region.reallocations = region.reallocations := by
  intro desk region
  have h : Accounts steps desk := accounts_course mapChange policy steps
  have henvelopes := h.envelopes
  rw [Gate.held, ← Nat.add_assoc] at henvelopes
  refine ⟨h.size, h.reallocations, h.delivered, henvelopes, ?_⟩
  obtain ⟨passed, -, hpoll⟩ := desk.poller.poll_cases desk.gate
  rcases hpoll with ⟨-, hpoll⟩ | ⟨envelope, rest, -, hsize, hpoll⟩
  · rw [hpoll]
    rfl
  · rw [hpoll]
    rintro ⟨earlier, hearlier, hle⟩
    have hfits : (RuntimeFrame.write envelope).length ≤ region.octets.length := by
      by_contra hlarger
      rw [Nat.not_le, h.size, largest_lt_iff (RuntimeFrame.size?_pos hsize)] at hlarger
      exact Nat.not_lt.2 hle (hlarger _ (List.mem_map_of_mem hearlier))
    have hlength := region.length_hold (RuntimeFrame.write envelope)
    rw [Nat.max_eq_left hfits] at hlength
    have hwritten := Region.hold_of_fits hfits
    refine ⟨congrArg Region.octets hwritten, hlength, ?_⟩
    show (region.hold (RuntimeFrame.write envelope)).reallocations = region.reallocations
    rw [hwritten]

/-- A chat and a packet that is too short for its length are skipped, and the second frame is
written over the front of the first. -/
theorem course_accounts_skipped :
    let steps := [.place (.chat "hello"), .placePacket (.wholePacket 0 [5, 1, 2]), .poll,
      .placePacket (.packet 0 [5] 9), .placePacket (.wholePacket 1 [5]), .poll]
    let desk := (new .mapChange .standard).course steps
    desk.frames = [[3, 0, 0, 0, 3, 0, 0, 0, 5, 1, 2], [3, 0, 1, 0, 1, 0, 0, 0, 5]] ∧
      desk.poller.skipped = 2 ∧ desk.poller.delivered = 2 ∧
      desk.poller.region.octets.length = 11 ∧ desk.poller.region.reallocations = 1 := by
  intro steps desk
  obtain ⟨hsize, hreallocations, hdelivered, -, -⟩ := course_accounts .mapChange .standard steps
  exact ⟨by decide, by decide, hdelivered.trans (by decide), hsize.trans (by decide),
    hreallocations.trans (by decide)⟩

end PollDesk
end ClusterLink
