/-!
Steps taken in order: the answers that a step function gives to a list of steps, and what the steps
of a list carry, each with its place in the list.
-/
namespace ClusterLink

variable {σ α β : Type}

section
variable (step : σ → α → β × σ)

/-- The answers to a list of steps, taken in order, and the state behind them. -/
def runSteps (state : σ) : List α → List β × σ
  | [] => ([], state)
  | first :: rest =>
    let (answer, state) := step state first
    let (answers, state) := runSteps state rest
    (answer :: answers, state)

@[simp] theorem runSteps_nil (state : σ) : runSteps step state [] = ([], state) := rfl

theorem runSteps_cons (state : σ) (first : α) (rest : List α) :
    runSteps step state (first :: rest) =
      ((step state first).1 :: (runSteps step (step state first).2 rest).1,
        (runSteps step (step state first).2 rest).2) :=
  rfl

theorem runSteps_append (state : σ) (steps later : List α) :
    runSteps step state (steps ++ later) =
      ((runSteps step state steps).1 ++ (runSteps step (runSteps step state steps).2 later).1,
        (runSteps step (runSteps step state steps).2 later).2) := by
  induction steps generalizing state with
  | nil => rfl
  | cons first rest ih => rw [List.cons_append, runSteps_cons, runSteps_cons, ih]; rfl

theorem runSteps_snoc (state : σ) (steps : List α) (last : α) :
    runSteps step state (steps ++ [last]) =
      ((runSteps step state steps).1 ++ [(step (runSteps step state steps).2 last).1],
        (step (runSteps step state steps).2 last).2) :=
  runSteps_append step state steps [last]

/-- The answer to a step only depends on the steps before it. -/
theorem runSteps_getElem? (state : σ) (steps : List α) (index : Nat) :
    (runSteps step state steps).1[index]? =
      steps[index]?.map fun later =>
        (step (runSteps step state (steps.take index)).2 later).1 := by
  induction steps generalizing state index with
  | nil => rfl
  | cons first rest ih =>
    cases index with
    | zero => rfl
    | succ index => rw [runSteps_cons, List.getElem?_cons_succ, ih]; rfl

/-- What holds of no steps and is kept by one more step holds of every run. -/
theorem runSteps_induction {motive : List α → List β → σ → Prop} {state : σ}
    (start : motive [] [] state)
    (next : ∀ steps answers state last, motive steps answers state →
      motive (steps ++ [last]) (answers ++ [(step state last).1]) (step state last).2)
    (steps : List α) :
    motive steps (runSteps step state steps).1 (runSteps step state steps).2 := by
  -- the induction is on what is still to come, behind any steps that are done
  suffices h : ∀ done answers state, motive done answers state →
      motive (done ++ steps) (answers ++ (runSteps step state steps).1)
        (runSteps step state steps).2 from h [] [] state start
  induction steps with
  | nil => simp
  | cons first rest ih =>
    intro done answers state h
    have hrest := ih _ _ _ (next done answers state first h)
    rw [runSteps_cons]
    simpa only [List.append_assoc, List.singleton_append] using hrest

end

/-- What a step of a list carries, and which step it is. -/
structure Indexed (β : Type) where
  index : Nat
  content : β
  deriving DecidableEq, Repr

/-- All that the steps of a list carry, in order. -/
def carried (carries? : α → Option β) (steps : List α) : List (Indexed β) :=
  steps.zipIdx.filterMap fun (step, index) => (carries? step).map (⟨index, ·⟩)

variable {carries? : α → Option β} {steps : List α}

@[simp] theorem carried_nil (carries? : α → Option β) : carried carries? [] = [] := rfl

theorem carried_snoc (carries? : α → Option β) (steps : List α) (last : α) :
    carried carries? (steps ++ [last]) =
      carried carries? steps ++ ((carries? last).map (⟨steps.length, ·⟩)).toList := by
  rw [carried, List.zipIdx_append, List.filterMap_append]
  cases h : carries? last <;> simp [carried, h]

theorem mem_carried {c : Indexed β} :
    c ∈ carried carries? steps ↔ steps[c.index]?.bind carries? = some c.content := by
  simp only [carried, List.mem_filterMap, Option.map_eq_some_iff, Prod.exists,
    List.mem_zipIdx_iff_getElem?, Option.bind_eq_some_iff]
  constructor
  · rintro ⟨step, index, hstep, content, hcontent, rfl⟩
    exact ⟨step, hstep, hcontent⟩
  · rintro ⟨step, hstep, hcontent⟩
    exact ⟨step, c.index, hstep, c.content, hcontent, rfl⟩

theorem index_lt_of_mem_carried {c : Indexed β} (h : c ∈ carried carries? steps) :
    c.index < steps.length := by
  obtain ⟨step, hstep, -⟩ := Option.bind_eq_some_iff.1 (mem_carried.1 h)
  exact (List.getElem?_eq_some_iff.1 hstep).1

theorem carried_ascending (carries? : α → Option β) (steps : List α) :
    (carried carries? steps).Pairwise (·.index < ·.index) := by
  have hplaces : (steps.zipIdx.map Prod.snd).Pairwise (· < ·) := by
    rw [List.zipIdx_map_snd]
    exact List.pairwise_lt_range'
  refine (List.pairwise_map.1 hplaces).filterMap _ ?_
  rintro ⟨_, i⟩ ⟨_, j⟩ hlt a ha b hb
  obtain ⟨_, -, rfl⟩ := Option.map_eq_some_iff.1 ha
  obtain ⟨_, -, rfl⟩ := Option.map_eq_some_iff.1 hb
  exact hlt

end ClusterLink
