import ClusterLink.Envelope.Basic
/-!
Which packets wait while a world loads. A set of kinds is an ascending list without repeats, so
that equal sets are equal lists.
-/
namespace ClusterLink

structure KindSet where
  kinds : List PacketKind
  ascending : kinds.Pairwise (·.toInt < ·.toInt)
  deriving DecidableEq

namespace KindSet

def insertInto (kind : PacketKind) : List PacketKind → List PacketKind
  | [] => [kind]
  | k :: rest =>
    if kind.toInt < k.toInt then kind :: k :: rest
    else if k.toInt < kind.toInt then k :: insertInto kind rest
    else k :: rest

theorem mem_insertInto {kind k : PacketKind} {kinds : List PacketKind} :
    k ∈ insertInto kind kinds ↔ k = kind ∨ k ∈ kinds := by
  induction kinds with
  | nil => simp [insertInto]
  | cons first rest ih =>
    simp only [insertInto]
    split
    · exact List.mem_cons
    · split
      · rw [List.mem_cons, ih, List.mem_cons, or_left_comm]
      · -- a kind that is neither below nor above the first one is that one
        have hsame : kind = first := PacketKind.toInt_inj.1 (by omega)
        simp [hsame]

theorem insertInto_ascending (kind : PacketKind) {kinds : List PacketKind}
    (h : kinds.Pairwise (·.toInt < ·.toInt)) :
    (insertInto kind kinds).Pairwise (·.toInt < ·.toInt) := by
  induction kinds with
  | nil => simp [insertInto]
  | cons first rest ih =>
    obtain ⟨hf, hr⟩ := List.pairwise_cons.1 h
    simp only [insertInto]
    split
    · rename_i hlt
      refine List.pairwise_cons.2 ⟨?_, h⟩
      intro k hk
      rcases List.mem_cons.1 hk with rfl | hk
      · exact hlt
      · exact Int.lt_trans hlt (hf k hk)
    · split
      · rename_i hlt
        refine List.pairwise_cons.2 ⟨?_, ih hr⟩
        intro k hk
        rcases mem_insertInto.1 hk with rfl | hk
        · exact hlt
        · exact hf k hk
      · exact h

def empty : KindSet := ⟨[], .nil⟩

def insert (set : KindSet) (kind : PacketKind) : KindSet :=
  ⟨insertInto kind set.kinds, insertInto_ascending kind set.ascending⟩

def ofList (kinds : List PacketKind) : KindSet := kinds.foldl insert empty

def contains (set : KindSet) (kind : PacketKind) : Bool := set.kinds.contains kind

instance : Membership PacketKind KindSet := ⟨fun set kind => kind ∈ set.kinds⟩

@[simp] theorem contains_iff_mem {set : KindSet} {kind : PacketKind} :
    set.contains kind = true ↔ kind ∈ set :=
  List.contains_iff_mem

theorem mem_insert {set : KindSet} {kind k : PacketKind} :
    k ∈ set.insert kind ↔ k = kind ∨ k ∈ set :=
  mem_insertInto

theorem mem_foldl_insert {kinds : List PacketKind} {set : KindSet} {kind : PacketKind} :
    kind ∈ kinds.foldl insert set ↔ kind ∈ set ∨ kind ∈ kinds := by
  induction kinds generalizing set with
  | nil => simp
  | cons first rest ih =>
    rw [List.foldl_cons, ih, mem_insert, List.mem_cons, or_assoc, or_left_comm]

/-- A set holds what the list that it is made of holds. -/
theorem mem_ofList {kinds : List PacketKind} {kind : PacketKind} :
    kind ∈ ofList kinds ↔ kind ∈ kinds :=
  mem_foldl_insert.trans (or_iff_right List.not_mem_nil)

end KindSet

inductive DeferralPolicy where
  /-- Only these kinds pass while a world loads. -/
  | allowList (kinds : KindSet)
  /-- These kinds wait while a world loads and all others pass. -/
  | deferList (kinds : KindSet)
  deriving DecidableEq

namespace DeferralPolicy

def passes (policy : DeferralPolicy) (kind : PacketKind) : Bool :=
  match policy with
  | .allowList kinds => kinds.contains kind
  | .deferList kinds => !kinds.contains kind

theorem passes_allowList {kinds : KindSet} {kind : PacketKind} :
    (allowList kinds).passes kind = true ↔ kind ∈ kinds :=
  KindSet.contains_iff_mem

theorem passes_deferList {kinds : KindSet} {kind : PacketKind} :
    (deferList kinds).passes kind = true ↔ kind ∉ kinds := by
  rw [passes, Bool.not_eq_true', ← Bool.not_eq_true, KindSet.contains_iff_mem]

/-- Item lists and spawns name entities of the new world. -/
def standard : DeferralPolicy := .deferList (.ofList [.itemList, .spawn])

end DeferralPolicy
end ClusterLink
