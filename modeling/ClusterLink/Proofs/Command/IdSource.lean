import ClusterLink.Command.IdSource
import Mathlib.Data.List.GetD
import Mathlib.Data.Nat.Find
/-!
The search for a fresh id finds the first free id of the stream, and ends unless there is none. On a
script with a walk behind it, a free id of the id space comes up before the walk has gone round.
-/
namespace ClusterLink
namespace IdSource

variable {source source' : IdSource} {taken : UInt16 → Bool} {id : UInt16}

/-- The source after a number of further draws. -/
def advance (source : IdSource) (count : Nat) : IdSource :=
  { source with draws := source.draws + count }

theorem fresh?_of_taken (h : taken (source.stream source.draws) = true) :
    source.fresh? taken = (source.advance 1).fresh? taken := by
  rw [fresh?]
  simp [drawOr, draw, h, advance]

theorem fresh?_of_free (h : taken (source.stream source.draws) = false) :
    source.fresh? taken = some (source.stream source.draws, source.advance 1) := by
  rw [fresh?]
  simp [drawOr, draw, h, advance]

/-- A free id on the stream is found, as the first of its kind. -/
theorem fresh?_of_first (count : Nat)
    (hbefore : ∀ k < count, taken (source.stream (source.draws + k)) = true)
    (hfree : taken (source.stream (source.draws + count)) = false) :
    source.fresh? taken =
      some (source.stream (source.draws + count), source.advance (count + 1)) := by
  induction count generalizing source with
  | zero => exact fresh?_of_free hfree
  | succ count ih =>
    have hnext : ∀ k, (source.advance 1).draws + k = source.draws + (k + 1) := by
      intro k
      simp only [advance]
      omega
    rw [fresh?_of_taken (hbefore 0 (by omega)), ih]
    · simp [advance, Nat.add_assoc, Nat.add_comm 1]
    · intro k hk
      rw [hnext]
      exact hbefore (k + 1) (by omega)
    · rw [hnext]
      exact hfree

/-- What is found is the first free id of the stream. -/
theorem fresh?_first (h : source.fresh? taken = some (id, source')) :
    ∃ count, (∀ k < count, taken (source.stream (source.draws + k)) = true) ∧
      id = source.stream (source.draws + count) ∧ taken id = false ∧
      source' = source.advance (count + 1) := by
  refine fresh?.partial_correctness taken
    (fun source found => ∃ count, (∀ k < count, taken (source.stream (source.draws + k)) = true) ∧
      found.1 = source.stream (source.draws + count) ∧ taken found.1 = false ∧
      found.2 = source.advance (count + 1)) ?_ source (id, source') h
  intro search ih source found hfound
  by_cases htaken : taken (source.stream source.draws) = true
  · simp only [drawOr, draw, htaken, if_true] at hfound
    obtain ⟨count, hbefore, hid, hfree, hsource⟩ := ih _ found hfound
    refine ⟨count + 1, ?_, ?_, hfree, ?_⟩
    · intro k hk
      cases k with
      | zero => exact htaken
      | succ k =>
        have := hbefore k (by omega)
        rwa [Nat.add_right_comm] at this
    · rwa [Nat.add_right_comm] at hid
    · rw [hsource]
      simp only [advance]
      congr 1
      omega
  · simp only [drawOr, draw, htaken] at hfound
    cases hfound
    refine ⟨0, by simp, rfl, by simpa using htaken, rfl⟩

/-- The search only fails to end on a stream without a free id. -/
theorem fresh?_eq_none_iff :
    source.fresh? taken = none ↔ ∀ k, taken (source.stream (source.draws + k)) = true := by
  constructor
  · intro hnone
    by_contra hfree
    push Not at hfree
    have hfirst := fresh?_of_first (Nat.find hfree)
      (fun k hk => by simpa using Nat.find_min hfree hk) (by simpa using Nat.find_spec hfree)
    rw [hnone] at hfirst
    cases hfirst
  · intro htaken
    cases hfound : source.fresh? taken with
    | none => rfl
    | some found =>
      obtain ⟨count, -, hid, hfree, -⟩ := fresh?_first hfound
      rw [hid, htaken] at hfree
      cases hfree

/-- Once the script is read, the walk comes to every id within one round. -/
theorem scripted_reaches (script : List UInt16) (start : Nat) (hid : id.toNat < commandIdSpace)
    (drawn : Nat) : ∃ count < script.length - drawn + commandIdSpace,
      (scripted script start).stream (drawn + count) = id := by
  -- so many draws behind the script, the walk is where the next round of draws begins
  let behind := drawn + (script.length - drawn) - script.length
  let ahead := (id.toNat + (commandIdSpace - (start + behind) % commandIdSpace)) % commandIdSpace
  have hahead : ahead < commandIdSpace := Nat.mod_lt _ (by decide)
  have hmod : (start + (behind + ahead)) % commandIdSpace = id.toNat := by
    simp only [ahead, commandIdSpace] at hid ⊢
    omega
  refine ⟨script.length - drawn + ahead, by omega, ?_⟩
  have hindex : drawn + (script.length - drawn + ahead) - script.length = behind + ahead := by
    omega
  simp only [scripted]
  rw [List.getD_eq_default _ _ (by omega), hindex, hmod, UInt16.ofNat_toNat]

/-- The search ends on a script with a walk behind it, and draws no more than what is left of the
script and one round of the walk. -/
theorem fresh?_scripted (script : List UInt16) (start drawn : Nat)
    (hid : id.toNat < commandIdSpace) (hfree : taken id = false) :
    ∃ count < script.length - drawn + commandIdSpace,
      (∀ k < count, taken ((scripted script start).stream (drawn + k)) = true) ∧
      taken ((scripted script start).stream (drawn + count)) = false ∧
      ((scripted script start).advance drawn).fresh? taken =
        some ((scripted script start).stream (drawn + count),
          (scripted script start).advance (drawn + (count + 1))) := by
  obtain ⟨reach, hreach, hstream⟩ := scripted_reaches script start hid drawn
  have hexists : ∃ count, taken ((scripted script start).stream (drawn + count)) = false :=
    ⟨reach, hstream ▸ hfree⟩
  have hdraws : ((scripted script start).advance drawn).draws = drawn := Nat.zero_add drawn
  have hbefore : ∀ k < Nat.find hexists,
      taken ((scripted script start).stream (drawn + k)) = true := fun k hk => by
    simpa using Nat.find_min hexists hk
  have hfirst : ((scripted script start).advance drawn).fresh? taken = _ :=
    fresh?_of_first (Nat.find hexists) (by rwa [hdraws])
      (by rw [hdraws]; exact Nat.find_spec hexists)
  refine ⟨Nat.find hexists, ?_, hbefore, Nat.find_spec hexists, ?_⟩
  · exact Nat.lt_of_le_of_lt (Nat.find_min' hexists (hstream ▸ hfree)) hreach
  · rw [hfirst, hdraws]
    simp only [advance, Nat.add_assoc]

end IdSource
end ClusterLink
