import ClusterLink.Proofs.Session.HeadlessTally
/-!
When a tick polls an envelope, read off the steps alone: the next tick does, or the one behind it if
the envelope waits for a map change that the next tick polls. Main statements: how one more step
moves what the gate holds (`gateAt_tick`, `gateAt_deliver_of_hasFrame`), and that what waits for a
map change is polled in a later tick (`pollTick_lt`).
-/
namespace ClusterLink

/-! ### When an envelope is polled -/

/-- Whether an envelope waits while a world loads. -/
def DeferralPolicy.delays (policy : DeferralPolicy) (envelope : Envelope) : Bool :=
  !envelope.isMapChange && !envelope.kind?.any policy.passes

namespace HeadlessStep

/-- The envelope that a step delivers. -/
def envelope? : HeadlessStep → Option Envelope
  | .deliver (.message envelope) => some envelope
  | _ => none

def delivered (steps : List HeadlessStep) : List Envelope := steps.filterMap envelope?

def ticks (steps : List HeadlessStep) : Nat := steps.count .tick

section
variable (policy : DeferralPolicy) (steps : List HeadlessStep)

/-- Whether a map change was delivered since the last tick. -/
def loadOpen : Bool :=
  (steps.reverse.takeWhile (· != .tick)).any fun step => step.envelope?.any (·.isMapChange)

/-- The tick, counted from zero, that polls an envelope delivered behind these steps. -/
def pollTick (envelope : Envelope) : Nat :=
  ticks steps + if loadOpen steps && policy.delays envelope then 1 else 0

/-- The envelopes that a tick polls, in order of arrival. -/
def polledAt (tick : Nat) : List Envelope :=
  (List.range steps.length).filterMap fun index =>
    (steps[index]?.bind envelope?).filter fun envelope =>
      envelope.hasFrame && pollTick policy (steps.take index) envelope == tick

variable {policy} {steps} {last : HeadlessStep} {envelope : Envelope} {tick : Nat}

theorem loadOpen_snoc : loadOpen (steps ++ [last]) =
    (last != .tick && (last.envelope?.any (·.isMapChange) || loadOpen steps)) := by
  unfold loadOpen
  rw [List.reverse_append, List.reverse_singleton, List.singleton_append, List.takeWhile_cons]
  cases last != .tick <;> rfl

theorem ticks_snoc : ticks (steps ++ [last]) = ticks steps + if last = .tick then 1 else 0 := by
  unfold ticks
  rw [List.count_append, List.count_singleton]
  cases last <;> rfl

theorem delivered_snoc :
    delivered (steps ++ [last]) = delivered steps ++ last.envelope?.toList := by
  unfold delivered
  rw [List.filterMap_append]
  cases hlast : last.envelope? <;> simp [hlast]

theorem polledAt_snoc : polledAt policy (steps ++ [last]) tick = polledAt policy steps tick ++
    (last.envelope?.filter fun envelope =>
      envelope.hasFrame && pollTick policy steps envelope == tick).toList := by
  unfold polledAt
  rw [List.length_append, List.length_singleton, List.range_succ, List.filterMap_append]
  congr 1
  · apply List.filterMap_congr
    intro index hindex
    rw [List.mem_range] at hindex
    rw [List.getElem?_append_left hindex, List.take_append_of_le_length (Nat.le_of_lt hindex)]
  · have hlast : (steps ++ [last])[steps.length]? = some last := by simp
    rw [List.filterMap_cons, List.filterMap_nil, hlast, List.take_left, Option.bind_some]
    split
    case h_1 hnone => rw [hnone]; rfl
    case h_2 hsome => rw [hsome]; rfl

theorem polledAt_snoc_of_none (h : last.envelope? = none) :
    polledAt policy (steps ++ [last]) tick = polledAt policy steps tick := by
  rw [polledAt_snoc, h]
  exact List.append_nil _

/-- Steps that bring no envelope do not change when others are polled. -/
theorem polledAt_append_of_none {later : List HeadlessStep}
    (h : ∀ step ∈ later, step.envelope? = none) :
    polledAt policy (steps ++ later) tick = polledAt policy steps tick := by
  induction later using List.reverseRecOn with
  | nil => rw [List.append_nil]
  | append_singleton later last ih =>
    rw [← List.append_assoc, polledAt_snoc_of_none (h last (by simp)),
      ih fun step hstep => h step (List.mem_append_left _ hstep)]

theorem delivered_append_of_none {later : List HeadlessStep}
    (h : ∀ step ∈ later, step.envelope? = none) :
    delivered (steps ++ later) = delivered steps := by
  unfold delivered
  rw [List.filterMap_append, List.filterMap_eq_nil_iff.2 h, List.append_nil]

theorem pollTick_le : pollTick policy steps envelope ≤ ticks steps + 1 := by
  unfold pollTick
  split <;> omega

theorem ticks_take_le (index : Nat) : ticks (steps.take index) ≤ ticks steps :=
  (List.take_sublist index steps).count_le _

/-- Nothing waits for longer than one tick behind the next one. -/
theorem polledAt_eq_nil (h : ticks steps + 1 < tick) : polledAt policy steps tick = [] := by
  unfold polledAt
  rw [List.filterMap_eq_nil_iff]
  intro index _
  rw [Option.filter_eq_none_iff]
  intro envelope _
  have hlater : pollTick policy (steps.take index) envelope < tick := by
    have hle : pollTick policy (steps.take index) envelope ≤ ticks (steps.take index) + 1 :=
      pollTick_le
    have htake : ticks (steps.take index) ≤ ticks steps := ticks_take_le index
    omega
  simp [Nat.ne_of_lt hlater]

theorem loadOpen_append {later : List HeadlessStep} (h : ticks later = 0) :
    loadOpen (steps ++ later) =
      (later.any (fun step => step.envelope?.any (·.isMapChange)) || loadOpen steps) := by
  have hkept : ∀ step ∈ later.reverse, (step != .tick) = true := by
    intro step hstep
    rw [bne_iff_ne]
    rintro rfl
    exact List.count_eq_zero.1 h (List.mem_reverse.1 hstep)
  unfold loadOpen
  rw [List.reverse_append, List.takeWhile_append_of_pos hkept, List.any_append, List.any_reverse]

/-- What depends on a map change and arrives in front of the end of its tick is polled in a later
one. -/
theorem pollTick_lt {change packet : Envelope} {first second : Nat} (hbefore : first < second)
    (hfirst : steps[first]? = some (.deliver (.message change)))
    (hchange : change.isMapChange = true) (hdelays : policy.delays packet = true)
    (htick : ticks (steps.take second) ≤ pollTick policy (steps.take first) change) :
    pollTick policy (steps.take first) change < pollTick policy (steps.take second) packet := by
  let later := HeadlessStep.deliver (.message change) :: (steps.take second).drop (first + 1)
  have hsplit : steps.take second = steps.take first ++ later := calc
    steps.take second
        = (steps.take second).take (first + 1) ++ (steps.take second).drop (first + 1) :=
      (List.take_append_drop _ _).symm
    _ = steps.take first ++ later := by
      rw [List.take_take, Nat.min_eq_left hbefore, List.take_add_one, hfirst, List.append_assoc]
      rfl
  have hnow : pollTick policy (steps.take first) change = ticks (steps.take first) := by
    simp [pollTick, DeferralPolicy.delays, hchange]
  have hticks : ticks (steps.take second) = ticks (steps.take first) + ticks later := by
    rw [hsplit]
    exact List.count_append
  -- no tick lies between the two, so the load is still open when the packet arrives
  have hnone : ticks later = 0 := by omega
  have hopen : loadOpen (steps.take second) = true := by
    rw [hsplit, loadOpen_append hnone]
    simp [later, envelope?, hchange]
  rw [hnow]
  simp only [pollTick, hopen, hdelays, Bool.and_self, if_true]
  omega

end
end HeadlessStep

/-! ### The gate -/

namespace Gate

variable {gate : Gate} {envelope : Envelope}

/-- The gate without the envelopes that have no frame. -/
def framed (gate : Gate) : Gate :=
  { gate with
    ready := gate.ready.filter (·.hasFrame)
    deferred := gate.deferred.filter (·.hasFrame) }

/-- What a gate that knows the map change of the runtime does with an envelope that has a frame. -/
def receive (gate : Gate) (envelope : Envelope) : Gate :=
  if gate.load = .loading ∧ gate.policy.delays envelope then
    { gate with deferred := gate.deferred ++ [envelope] }
  else
    { gate with
      load := if envelope.isMapChange then .loading else gate.load
      ready := gate.ready ++ [envelope] }

theorem place_framed (h : envelope.hasFrame = false) :
    (gate.place envelope).2.framed = gate.framed := by
  unfold place framed
  cases gate.load <;> simp [h]

theorem accept_framed_of_not_hasFrame (h : envelope.hasFrame = false) :
    (gate.accept envelope).framed = gate.framed := by
  cases envelope with
  | packet channel data length =>
    rw [accept, placePacket, Envelope.kind?_of_not_hasFrame h]
    exact place_framed h
  | info | serverResponse | auth | chat => rfl
  | _ => exact place_framed h

theorem place_eq_receive (h : envelope.kind? = none) :
    (gate.place envelope).2 = gate.receive envelope := by
  have hchange : envelope.isMapChange = false := by simp [Envelope.isMapChange, h]
  have hdelays : gate.policy.delays envelope = true := by
    simp [DeferralPolicy.delays, hchange, h]
  unfold place receive
  cases hload : gate.load <;> simp [hchange, hdelays]

theorem placePacket_eq_receive (hknown : gate.mapChange = .mapChange) :
    (gate.placePacket envelope).2 = gate.receive envelope := by
  unfold placePacket
  cases hkind : envelope.kind? with
  | none => exact place_eq_receive hkind
  | some kind =>
    rw [hknown]
    by_cases hchange : kind = .mapChange
    · have hmap : envelope.isMapChange = true := by simp [Envelope.isMapChange, hkind, hchange]
      simp [receive, DeferralPolicy.delays, hmap, hchange, hknown]
    · have hmap : envelope.isMapChange = false := by simp [Envelope.isMapChange, hkind, hchange]
      have hdelays : gate.policy.delays envelope = !gate.policy.passes kind := by
        simp [DeferralPolicy.delays, hmap, hkind]
      simp only [hchange, if_false, receive, hdelays, hmap, place]
      cases gate.load <;> cases gate.policy.passes kind <;> simp [hknown]

theorem accept_eq_receive (hknown : gate.mapChange = .mapChange)
    (hframe : envelope.hasFrame = true) : gate.accept envelope = gate.receive envelope := by
  cases envelope with
  | packet => exact placePacket_eq_receive hknown
  | serverConnected | serverDisconnected => exact place_eq_receive rfl
  | _ => cases hframe

/-- How many intact packets the gate holds. -/
def intact (gate : Gate) : Nat :=
  gate.ready.countP (·.isIntact) + gate.deferred.countP (·.isIntact)

theorem intact_framed (gate : Gate) : gate.framed.intact = gate.intact := by
  rw [intact, framed, Envelope.countP_isIntact_filter, Envelope.countP_isIntact_filter, intact]

theorem receive_intact (gate : Gate) (envelope : Envelope) :
    (gate.receive envelope).intact = gate.intact + [envelope].countP (·.isIntact) := by
  unfold receive intact
  split
  · rw [List.countP_append, Nat.add_assoc]
  · rw [List.countP_append, Nat.add_right_comm]

theorem receive_framed (hframe : envelope.hasFrame = true) :
    (gate.receive envelope).framed = gate.framed.receive envelope := by
  unfold receive framed
  split <;> simp [hframe]

end Gate

/-! ### What the steps say of the gate and of the runtime -/

namespace HeadlessStep

section
variable (policy : DeferralPolicy) (steps : List HeadlessStep)

/-- The gate behind these steps, as far as it holds what has a frame. -/
def gateAt : Gate where
  mapChange := .mapChange
  policy := policy
  load := if loadOpen steps then .loading else .idle
  ready := polledAt policy steps (ticks steps)
  deferred := polledAt policy steps (ticks steps + 1)

/-- Whether the last word polled on the connection to a game server is that there is one. -/
def connectedAt : Bool :=
  (((List.range (ticks steps)).flatMap (polledAt policy steps)).filterMap (·.link?)).getLast?.getD
    false

/-- How many ticks polled a map change. -/
def mapsAt : Nat :=
  (List.range (ticks steps)).countP fun tick => (polledAt policy steps tick).any (·.isMapChange)

variable {policy} {steps} {last : HeadlessStep} {envelope : Envelope} {tick : Nat}

/-- What arrives later is not polled in a tick that is over. -/
theorem polledAt_snoc_of_lt (h : tick < ticks steps) :
    polledAt policy (steps ++ [last]) tick = polledAt policy steps tick := by
  have hnone : last.envelope?.filter (fun envelope =>
      envelope.hasFrame && pollTick policy steps envelope == tick) = none := by
    rw [Option.filter_eq_none_iff]
    intro envelope _
    have hlater : pollTick policy steps envelope ≠ tick := by
      unfold pollTick
      omega
    simp [hlater]
  rw [polledAt_snoc, hnone]
  exact List.append_nil _

theorem connectedAt_snoc (h : last ≠ .tick) :
    connectedAt policy (steps ++ [last]) = connectedAt policy steps := by
  have hpolled : (List.range (ticks steps)).flatMap (polledAt policy (steps ++ [last])) =
      (List.range (ticks steps)).flatMap (polledAt policy steps) := by
    apply List.flatMap_congr
    intro tick htick
    exact polledAt_snoc_of_lt (List.mem_range.1 htick)
  rw [connectedAt, ticks_snoc, if_neg h, Nat.add_zero, hpolled, connectedAt]

theorem mapsAt_snoc (h : last ≠ .tick) :
    mapsAt policy (steps ++ [last]) = mapsAt policy steps := by
  rw [mapsAt, ticks_snoc, if_neg h, Nat.add_zero]
  apply List.countP_congr
  intro tick htick
  rw [polledAt_snoc_of_lt (List.mem_range.1 htick)]

theorem polledAt_tick : polledAt policy (steps ++ [.tick]) = polledAt policy steps :=
  funext fun _ => polledAt_snoc_of_none rfl

theorem connectedAt_tick : connectedAt policy (steps ++ [.tick]) =
    ((polledAt policy steps (ticks steps)).filterMap (·.link?)).getLast?.getD
      (connectedAt policy steps) := by
  rw [connectedAt, ticks_snoc, if_pos rfl, List.range_succ, List.flatMap_append, polledAt_tick,
    List.flatMap_singleton, List.filterMap_append, List.getLast?_append, Option.getD_or]
  rfl

theorem mapsAt_tick : mapsAt policy (steps ++ [.tick]) = mapsAt policy steps +
    if (polledAt policy steps (ticks steps)).any (·.isMapChange) then 1 else 0 := by
  rw [mapsAt, ticks_snoc, if_pos rfl, List.range_succ, List.countP_append, polledAt_tick,
    List.countP_singleton]
  rfl

theorem gateAt_tick : gateAt policy (steps ++ [.tick]) =
    { gateAt policy steps with
      load := .idle
      ready := (gateAt policy steps).deferred
      deferred := [] } := by
  have hlater : polledAt policy steps (ticks steps + 1 + 1) = [] :=
    polledAt_eq_nil (Nat.lt_succ_self _)
  have hopen : loadOpen (steps ++ [.tick]) = false := loadOpen_snoc
  simp only [gateAt, ticks_snoc, if_true, hopen, polledAt_tick, hlater]
  rfl

/-- A step that brings no envelope leaves the gate as it is, unless it is a tick. -/
theorem gateAt_snoc_of_none (htick : last ≠ .tick) (hnone : last.envelope? = none) :
    gateAt policy (steps ++ [last]) = gateAt policy steps := by
  have hopen : loadOpen (steps ++ [last]) = loadOpen steps := by
    rw [loadOpen_snoc, hnone]
    simp [htick]
  simp only [gateAt, ticks_snoc, if_neg htick, hopen, polledAt_snoc_of_none hnone, Nat.add_zero]

theorem gateAt_deliver_of_hasFrame (hframe : envelope.hasFrame = true) :
    gateAt policy (steps ++ [.deliver (.message envelope)]) =
      (gateAt policy steps).receive envelope := by
  have hopen : loadOpen (steps ++ [.deliver (.message envelope)]) =
      (envelope.isMapChange || loadOpen steps) := loadOpen_snoc
  have hpolled (tick : Nat) : polledAt policy (steps ++ [.deliver (.message envelope)]) tick =
      polledAt policy steps tick ++
        if pollTick policy steps envelope = tick then [envelope] else [] := by
    rw [polledAt_snoc]
    by_cases htick : pollTick policy steps envelope = tick <;>
      simp [envelope?, hframe, htick]
  have hticks : ticks (steps ++ [.deliver (.message envelope)]) = ticks steps := ticks_snoc
  rcases Bool.eq_false_or_eq_true (loadOpen steps) with hload | hload
  · rcases Bool.eq_false_or_eq_true (policy.delays envelope) with hdelays | hdelays
    · simp [gateAt, Gate.receive, pollTick, hticks, hopen, hpolled, hload, hdelays]
    · simp [gateAt, Gate.receive, pollTick, hticks, hopen, hpolled, hload, hdelays]
  · simp [gateAt, Gate.receive, pollTick, hticks, hopen, hpolled, hload]

theorem gateAt_deliver_of_not_hasFrame (hframe : envelope.hasFrame = false) :
    gateAt policy (steps ++ [.deliver (.message envelope)]) = gateAt policy steps := by
  have hchange : envelope.isMapChange = false := by
    simp [Envelope.isMapChange, Envelope.kind?_of_not_hasFrame hframe]
  have hopen : loadOpen (steps ++ [.deliver (.message envelope)]) = loadOpen steps := by
    rw [loadOpen_snoc]
    simp [envelope?, hchange]
  have hpolled (tick : Nat) : polledAt policy (steps ++ [.deliver (.message envelope)]) tick =
      polledAt policy steps tick := by
    rw [polledAt_snoc]
    simp [envelope?, hframe]
  have hticks : ticks (steps ++ [.deliver (.message envelope)]) = ticks steps := ticks_snoc
  simp only [gateAt, hticks, hopen, hpolled]

end
end HeadlessStep

end ClusterLink
