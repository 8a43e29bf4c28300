import ClusterLink.Connection.TaskRun
import ClusterLink.Proofs.Connection.Rounds
/-!
What the task writes: the frames of the bodies that the session has sent, one after another and each
as a whole, from the first one on.
-/
namespace ClusterLink

open ClusterLink.Frame

namespace Transport

theorem written_feed (t : Transport) (octets : Octets) : (t.feed octets).written = t.written := by
  unfold Transport.feed
  split <;> rfl

theorem written_breakOff (t : Transport) (cause : String) :
    (t.breakOff cause).written = t.written := by
  unfold Transport.breakOff
  split <;> rfl

end Transport

namespace ConnectionTask

open Connection

variable {task next : ConnectionTask} {offered : List Octets}

theorem offer_cases (task : ConnectionTask) (body : Octets) :
    (task.outbound.receiving = true ∧ task.outbound.sending = true ∧ task.offer body =
      { task with outbound := { task.outbound with queue := task.outbound.queue ++ [body] } }) ∨
    ((task.outbound.receiving = true → ¬ task.outbound.sending = true) ∧
      task.offer body = task) := by
  cases hsending : task.outbound.sending <;> cases hreceiving : task.outbound.receiving <;>
    simp [offer, Channel.send?, hsending, hreceiving]

/-- The frames of what was offered first have been written, and what is on the link comes next. -/
structure Writes (offered : List Octets) (task : ConnectionTask) : Prop where
  listening : task.phase ≠ .finished → task.outbound.receiving = true
  written : ∃ written, (∀ body ∈ written, body.length ≤ maxBodySize) ∧
    task.connection.transport.written = frames written ∧
    written ++ task.outbound.queue <+: offered ∧
    (task.outbound.receiving = true → task.outbound.sending = true →
      written ++ task.outbound.queue = offered)

namespace Writes

theorem new : Writes [] (ConnectionTask.new .new) :=
  ⟨fun _ => rfl, [], by simp, rfl, List.prefix_rfl, fun _ _ => rfl⟩

theorem congr (h : Writes offered task) (hphase : next.phase = task.phase)
    (hoffered : next.outbound = task.outbound)
    (hwritten : next.connection.transport.written = task.connection.transport.written) :
    Writes offered next := by
  obtain ⟨hlistening, hrest⟩ := h
  rw [← hphase, ← hoffered] at hlistening
  rw [← hoffered, ← hwritten] at hrest
  exact ⟨hlistening, hrest⟩

theorem finish (h : Writes offered task)
    (hwritten : next.connection.transport.written = task.connection.transport.written) :
    Writes offered next.finish := by
  obtain ⟨-, written, hsizes, hframes, hfront, -⟩ := h
  refine ⟨fun hne => absurd rfl hne, written, hsizes, hwritten.trans hframes, ?_, nofun⟩
  exact (List.prefix_append_right_inj written).2 List.nil_prefix |>.trans hfront

theorem takeInbound (h : Writes offered task) : Writes offered task.takeInbound.2 := by
  have hkeeps := task.takeInbound_keeps.2
  obtain ⟨d, -, htaken⟩ | ⟨envelope, d, -, -, htaken⟩ | ⟨answer, d, reason, -, htaken, -⟩ :=
    task.takeInbound_cases
  all_goals rw [htaken] at hkeeps ⊢
  · exact h.congr rfl rfl hkeeps
  · exact h.congr rfl rfl hkeeps
  · exact h.finish hkeeps

theorem takeOutbound (h : Writes offered task) : Writes offered task.takeOutbound.2 := by
  obtain ⟨-, -, htaken⟩ | ⟨body, rest, d, hqueue, hsent, htaken⟩ | ⟨outbound, reason, htaken, -⟩ :=
    task.takeOutbound_cases
  · rwa [htaken]
  · obtain ⟨hlistening, written, hsizes, hframes, hfront, hall⟩ := h
    have hnext : written ++ [body] ++ rest = written ++ task.outbound.queue := by
      rw [hqueue, List.append_assoc, List.singleton_append]
    rw [htaken]
    refine ⟨hlistening, written ++ [body], ?_, ?_, hnext ▸ hfront, hnext ▸ hall⟩
    · exact List.forall_mem_append.2 ⟨hsizes, by simpa using hsent.size⟩
    · rw [hsent.transport, frames_append, ← hframes]
      simp [frames]
  · rw [htaken]
    refine h.finish ?_
    rw [close_snd]

theorem start (h : Writes offered task) (hphase : task.phase = .starting) :
    Writes offered task.start := by
  unfold ConnectionTask.start
  split
  case h_1 =>
    exact ⟨fun _ => h.listening (by simp [hphase]), h.written⟩
  case h_2 => exact h.finish rfl

theorem step (h : Writes offered task) (first : Branch) : Writes offered (task.step first).2 := by
  cases hphase : task.phase with
  | starting =>
    simp only [ConnectionTask.step, hphase]
    exact h.start hphase
  | finished =>
    simp only [ConnectionTask.step, hphase]
    exact h
  | running =>
    exact step_induction hphase h (fun _ _ h => h.takeInbound) (fun _ _ h => h.takeOutbound) first

theorem offer (h : Writes offered task) (body : Octets) :
    Writes (offered ++ [body]) (task.offer body) := by
  obtain ⟨hlistening, written, hsizes, hframes, hfront, hall⟩ := h
  obtain ⟨hreceiving, hsending, hoffer⟩ | ⟨hdeaf, hoffer⟩ := task.offer_cases body
  · have hadded : written ++ (task.outbound.queue ++ [body]) = offered ++ [body] := by
      rw [← List.append_assoc, hall hreceiving hsending]
    rw [hoffer]
    exact ⟨hlistening, written, hsizes, hframes, hadded ▸ List.prefix_rfl, fun _ _ => hadded⟩
  · rw [hoffer]
    exact ⟨hlistening, written, hsizes, hframes, hfront.trans (List.prefix_append _ _),
      fun hreceiving hsending => absurd hsending (hdeaf hreceiving)⟩

theorem dropOutbound (h : Writes offered task) :
    Writes offered { task with outbound := task.outbound.dropSender } := by
  obtain ⟨hlistening, written, hsizes, hframes, hfront, -⟩ := h
  exact ⟨hlistening, written, hsizes, hframes, hfront, fun _ => nofun⟩

/-- What goes on around the task changes nothing but what is on the link. -/
theorem advance (h : Writes offered task) (step : TaskStep) :
    Writes (offered ++ step.body?.toList) (task.advance step).2 := by
  have hsame : offered ++ [] = offered := List.append_nil offered
  cases step with
  | send body => exact h.offer body
  | dropOutbound => exact hsame.symm ▸ h.dropOutbound
  | round first => exact hsame.symm ▸ h.step first
  | arrive octets => exact hsame.symm ▸ h.congr rfl rfl (Transport.written_feed _ _)
  | breakOff cause => exact hsame.symm ▸ h.congr rfl rfl (Transport.written_breakOff _ _)
  | hangUp | jam | jamShutdown | collect | dropEvents => exact hsame.symm ▸ h.congr rfl rfl rfl

end Writes

end ConnectionTask
end ClusterLink
