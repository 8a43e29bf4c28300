import ClusterLink.Envelope.Basic
/-!
Where command ids come from: any stream of ids, whether random, scripted or counted. A fresh id is
the first one drawn that is not taken.
-/
namespace ClusterLink

structure IdSource where
  stream : Nat → UInt16
  /-- How many ids have been drawn from the stream. -/
  draws : Nat

namespace IdSource

/-- A script of ids, then a walk through the id space that begins at `start`. -/
def scripted (script : List UInt16) (start : Nat) : IdSource where
  stream n := script.getD n (.ofNat ((start + (n - script.length)) % commandIdSpace))
  draws := 0

def ofScript (script : List UInt16) : IdSource := scripted script 0

def draw (source : IdSource) : UInt16 × IdSource :=
  (source.stream source.draws, { source with draws := source.draws + 1 })

section

variable (taken : UInt16 → Bool)

/-- The next id drawn, if it is not taken, and else what is found behind it. -/
def drawOr (behind : IdSource → Option (UInt16 × IdSource)) (source : IdSource) :
    Option (UInt16 × IdSource) :=
  let (id, source) := source.draw
  if taken id then behind source else some (id, source)

/-- Two searches that are related behind a draw are related in front of it. -/
theorem drawOr_rel {r : Option (UInt16 × IdSource) → Option (UInt16 × IdSource) → Prop}
    (hrefl : ∀ found, r found found) {behind behind' : IdSource → Option (UInt16 × IdSource)}
    (h : ∀ source, r (behind source) (behind' source)) (source : IdSource) :
    r (drawOr taken behind source) (drawOr taken behind' source) := by
  unfold drawOr
  dsimp only
  split
  · exact h _
  · exact hrefl _

/-- The first id drawn that is not taken. There is none if the search does not end, as it need not
on a stream that only holds ids that are taken. -/
def fresh? (source : IdSource) : Option (UInt16 × IdSource) := drawOr taken fresh? source
partial_fixpoint monotonicity fun _ _ h source => drawOr_rel taken (fun _ => .refl) h source

end

end IdSource
end ClusterLink
