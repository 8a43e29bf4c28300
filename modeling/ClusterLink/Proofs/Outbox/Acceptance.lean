import ClusterLink.Outbox
/-!
What the outbox does with a body: it refuses it, or it keeps it until the connection opens, or it
puts it on the wire.
-/
namespace ClusterLink
namespace Outbox

variable {outbox : Outbox} {envelope : Envelope} {body : Octets} {cause : CodecError}
  {pending : List Octets}

/-- Bodies are refused by a closed outbox, and by an opened one to which nobody listens. -/
def Refuses (outbox : Outbox) : Prop :=
  outbox.state = .closed ∨ outbox.state = .opened ∧ outbox.wire.receiving = false

/-- The outbox with one more body, behind those that wait or behind those on the wire. -/
def accept (outbox : Outbox) (body : Octets) : Outbox :=
  match outbox.state with
  | .connecting pending => { outbox with state := .connecting (pending ++ [body]) }
  | .opened => { outbox with wire.queue := outbox.wire.queue ++ [body] }
  | .closed => outbox

/-- The bodies that wait for the connection to open. -/
def waiting (outbox : Outbox) : List Octets :=
  match outbox.state with
  | .connecting pending => pending
  | _ => []

/-- An outbox cannot open if it is closed, or if nobody receives the bodies that wait in it. -/
def Barred (outbox : Outbox) : Prop :=
  outbox.state = .closed ∨ outbox.waiting ≠ [] ∧ outbox.wire.receiving = false

/-! ### Sending -/

theorem write_of_receiving (h : outbox.wire.receiving = true) (body : Octets) :
    outbox.write body = (.ok (), { outbox with wire.queue := outbox.wire.queue ++ [body] }) := by
  simp [write, Channel.send?, h]

theorem write_of_dropped (h : outbox.wire.receiving = false) (body : Octets) :
    outbox.write body = (.error .connectionClosed, outbox.close) := by
  simp [write, Channel.send?, h, close]

theorem send_of_error (h : envelope.encode = .error cause) :
    outbox.send envelope = (.error (.codec cause), outbox) := by
  simp [send, h]

theorem send_of_refuses (hbody : envelope.encode = .ok body) (h : outbox.Refuses) :
    outbox.send envelope = (.error .connectionClosed, outbox.close) := by
  rcases h with hclosed | ⟨hopened, hdropped⟩
  · have hsame : outbox.close = outbox := by rw [close, ← hclosed]
    simp [send, hbody, hclosed, hsame]
  · simp [send, hbody, hopened, write_of_dropped hdropped]

theorem send_of_not_refuses (hbody : envelope.encode = .ok body) (h : ¬ outbox.Refuses) :
    outbox.send envelope = (.ok (), outbox.accept body) := by
  rw [Refuses, not_or, not_and, Bool.not_eq_false] at h
  obtain ⟨hclosed, hreceiving⟩ := h
  cases hstate : outbox.state with
  | connecting pending => simp [send, hbody, hstate, accept]
  | opened => simp [send, hbody, hstate, accept, write_of_receiving (hreceiving hstate)]
  | closed => exact absurd hstate hclosed

/-! ### Opening -/

theorem flush_of_receiving (h : outbox.wire.receiving = true) (bodies : List Octets) :
    outbox.flush bodies = (.ok (), { outbox with wire.queue := outbox.wire.queue ++ bodies }) := by
  induction bodies generalizing outbox with
  | nil => simp [flush]
  | cons body bodies ih =>
    rw [flush, write_of_receiving h]
    simp [ih, h]

theorem flush_of_dropped (h : outbox.wire.receiving = false) (body : Octets)
    (bodies : List Octets) :
    outbox.flush (body :: bodies) = (.error .connectionClosed, outbox.close) := by
  rw [flush, write_of_dropped h]

theorem connect_of_connecting (hstate : outbox.state = .connecting pending)
    (h : outbox.wire.receiving = true ∨ pending = []) :
    outbox.connect = (.ok pending.length,
      { outbox with state := .opened, wire.queue := outbox.wire.queue ++ pending }) := by
  rcases h with hreceiving | rfl
  · simp [connect, hstate, flush_of_receiving, hreceiving, Except.map]
  · simp [connect, hstate, flush, Except.map]

theorem connect_of_connecting_dropped (hstate : outbox.state = .connecting pending)
    (hdropped : outbox.wire.receiving = false) (hpending : pending ≠ []) :
    outbox.connect = (.error .connectionClosed, outbox.close) := by
  obtain ⟨body, bodies, rfl⟩ := List.exists_cons_of_ne_nil hpending
  simp [connect, hstate, flush_of_dropped, hdropped, Except.map, close]

theorem connect_of_opened (hstate : outbox.state = .opened) :
    outbox.connect = (.ok 0, outbox) := by
  simp [connect, hstate]

theorem connect_of_closed (hstate : outbox.state = .closed) :
    outbox.connect = (.error .connectionClosed, outbox) := by
  simp [connect, hstate]

end Outbox
end ClusterLink
