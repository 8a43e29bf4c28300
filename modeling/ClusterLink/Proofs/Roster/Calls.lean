import ClusterLink.Roster
/-!
What the roster does to a runtime is a list of calls: one for every server of a batch, and one that
sorts the server browser.
-/
namespace ClusterLink

variable {ρ : Type} [GameRuntime ρ] {runtime : ρ}

namespace GameRuntime

/-- A runtime after a call. -/
def call (runtime : ρ) : RuntimeCall → ρ
  | .server entry => injectServer runtime entry
  | .execute command => execute runtime command

/-- No call makes a runtime ready, or ends its readiness. -/
def Steady (runtime : ρ) : Prop :=
  ∀ calls : List RuntimeCall, ingestionReady (calls.foldl call runtime) = ingestionReady runtime

theorem Steady.foldl_call (h : Steady runtime) (calls : List RuntimeCall) :
    Steady (calls.foldl call runtime) := by
  intro more
  rw [← List.foldl_append, h, h]

theorem Steady.of_calls {next : ρ} (h : Steady runtime)
    (hcalls : ∃ calls : List RuntimeCall, next = calls.foldl call runtime) : Steady next := by
  obtain ⟨calls, rfl⟩ := hcalls
  exact h.foldl_call calls

end GameRuntime

open GameRuntime

namespace Roster

/-- The calls that hand a batch over. -/
def script (batch : List ServerEntry) : List RuntimeCall :=
  batch.map .server ++ [.execute sortCommand]

theorem deliver_eq (runtime : ρ) (batch : List ServerEntry) :
    deliver runtime batch = (script batch).foldl call runtime := by
  rw [script, List.foldl_append, List.foldl_map]
  rfl

theorem replay_of_not_ready (roster : Roster) (h : ingestionReady runtime = false) :
    roster.replay runtime = (none, roster, runtime) := by
  simp [replay, h]

theorem replay_of_ready (roster : Roster) (h : ingestionReady runtime = true) :
    roster.replay runtime = (roster.cached.map List.length, ⟨none⟩,
      (roster.cached.toList.flatMap script).foldl call runtime) := by
  obtain ⟨_ | batch⟩ := roster
  · simp [replay, h]
  · simp [replay, h, deliver_eq]

theorem inject_of_not_ready (roster : Roster) (h : ingestionReady runtime = false)
    (batch : List ServerEntry) :
    roster.inject runtime batch = (.cached batch.length, ⟨some batch⟩, runtime) := by
  simp [inject, h]

theorem inject_of_ready (roster : Roster) (h : ingestionReady runtime = true)
    (batch : List ServerEntry) :
    roster.inject runtime batch = (.delivered batch.length, ⟨none⟩,
      ((roster.cached.toList ++ [batch]).flatMap script).foldl call runtime) := by
  simp [inject, h, replay_of_ready, deliver_eq, List.foldl_append]

/-- What is kept is handed over once. -/
theorem replay_replay (roster : Roster) (h : Steady runtime) :
    let (_, next, after) := roster.replay runtime
    (next.replay after).2 = (next, after) := by
  cases hready : ingestionReady runtime with
  | false => simp [replay_of_not_ready, hready]
  | true => simp [replay_of_ready, hready, h _]

/-- What is kept goes in first, whether it is asked for before another batch comes or behind it. -/
theorem replay_inject (roster : Roster) (h : Steady runtime) (batch : List ServerEntry) :
    let (_, next, after) := roster.inject runtime batch
    let (_, next', after') := roster.replay runtime
    (next.replay after).2 = (next'.inject after' batch).2 := by
  cases hready : ingestionReady runtime with
  | false => simp [replay_of_not_ready, inject_of_not_ready, hready]
  | true =>
    have hkept := h (roster.cached.toList.flatMap script)
    have hboth := h ((roster.cached.toList ++ [batch]).flatMap script)
    rw [inject_of_ready roster hready, replay_of_ready roster hready]
    show (replay ⟨none⟩ _).2 = (inject ⟨none⟩ _ batch).2
    rw [replay_of_ready ⟨none⟩ (hboth.trans hready), inject_of_ready ⟨none⟩ (hkept.trans hready)]
    simp [List.foldl_append]

/-- A batch only brings calls to the runtime. -/
theorem inject_calls (roster : Roster) (runtime : ρ) (batch : List ServerEntry) :
    ∃ calls : List RuntimeCall, (roster.inject runtime batch).2.2 = calls.foldl call runtime := by
  cases hready : ingestionReady runtime with
  | false => exact ⟨[], by rw [inject_of_not_ready roster hready]; rfl⟩
  | true => exact ⟨_, by rw [inject_of_ready roster hready]⟩

theorem replay_calls (roster : Roster) (runtime : ρ) :
    ∃ calls : List RuntimeCall, (roster.replay runtime).2.2 = calls.foldl call runtime := by
  cases hready : ingestionReady runtime with
  | false => exact ⟨[], by rw [replay_of_not_ready roster hready]; rfl⟩
  | true => exact ⟨_, by rw [replay_of_ready roster hready]⟩

end Roster

namespace CallLog

theorem foldl_call (log : CallLog) (calls : List RuntimeCall) :
    calls.foldl call log = { log with calls := log.calls ++ calls } := by
  induction calls generalizing log with
  | nil => simp
  | cons first rest ih =>
    rw [List.foldl_cons, ih]
    cases first <;> simp [call, injectServer, execute, record]

theorem steady (log : CallLog) : Steady log := by
  intro calls
  rw [foldl_call]
  rfl

theorem deliver_eq (log : CallLog) (batch : List ServerEntry) :
    Roster.deliver log batch = { log with calls := log.calls ++ Roster.script batch } := by
  rw [Roster.deliver_eq, foldl_call]

end CallLog
end ClusterLink
