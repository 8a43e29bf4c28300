import ClusterLink.Proofs.Roster.Calls
import ClusterLink.Session.Headless
/-!
The order of the server browser, and what a batch does to it: its servers join those that are there,
and the whole is in order again.
-/
namespace ClusterLink

open GameRuntime

theorem Octets.ofText_inj {s t : String} : ofText s = ofText t ↔ s = t := by
  constructor
  · intro h
    have hread := congrArg Octets.text? h
    rwa [text?_ofText, text?_ofText, Option.some.injEq] at hread
  · exact congrArg ofText

/-! ### The order -/

namespace KnownServer

/-- One server may stand in front of another: by the octets of its host, then by its port. -/
def Precedes (a b : KnownServer) : Prop :=
  Octets.ofText a.host < Octets.ofText b.host ∨ a.host = b.host ∧ a.port ≤ b.port

/-- Servers in the order of the browser. -/
def Ascending (servers : List KnownServer) : Prop := servers.Pairwise Precedes

theorem le_iff_precedes {a b : KnownServer} : a.le b = true ↔ a.Precedes b := by
  unfold le Precedes
  by_cases hhost : a.host = b.host
  · simp [hhost, List.lt_irrefl]
  · simp [hhost, Octets.ofText_inj]

theorem Precedes.trans {a b c : KnownServer} (hab : a.Precedes b) (hbc : b.Precedes c) :
    a.Precedes c := by
  rcases hab with hab | ⟨hab, habPort⟩
  · rcases hbc with hbc | ⟨hbc, -⟩
    · exact .inl (List.lt_trans hab hbc)
    · exact .inl (hbc ▸ hab)
  · rcases hbc with hbc | ⟨hbc, hbcPort⟩
    · exact .inl (hab ▸ hbc)
    · exact .inr ⟨hab.trans hbc, UInt16.le_trans habPort hbcPort⟩

theorem precedes_total (a b : KnownServer) : a.Precedes b ∨ b.Precedes a := by
  by_cases hhost : a.host = b.host
  · rcases UInt16.le_total a.port b.port with hport | hport
    · exact .inl (.inr ⟨hhost, hport⟩)
    · exact .inr (.inr ⟨hhost.symm, hport⟩)
  · have hne : Octets.ofText a.host ≠ Octets.ofText b.host := mt Octets.ofText_inj.1 hhost
    rcases List.le_total (Octets.ofText a.host) (Octets.ofText b.host) with h | h
    · exact .inl (.inl ((List.le_iff_lt_or_eq.1 h).resolve_right hne))
    · exact .inr (.inl ((List.le_iff_lt_or_eq.1 h).resolve_right hne.symm))

theorem ascending_mergeSort (servers : List KnownServer) : Ascending (servers.mergeSort le) := by
  have htrans (a b c : KnownServer) (hab : a.le b = true) (hbc : b.le c = true) :
      a.le c = true :=
    le_iff_precedes.2 ((le_iff_precedes.1 hab).trans (le_iff_precedes.1 hbc))
  have htotal (a b : KnownServer) : (a.le b || b.le a) = true := by
    rw [Bool.or_eq_true, le_iff_precedes, le_iff_precedes]
    exact precedes_total a b
  exact (List.pairwise_mergeSort htrans htotal servers).imp le_iff_precedes.1

end KnownServer

/-! ### Batches -/

namespace Headless

/-- What the runtime knows of the servers of a batch. -/
def known (batch : List ServerEntry) : List KnownServer :=
  batch.map fun entry => ⟨entry.host, entry.port⟩

theorem foldl_injectServer (runtime : Headless) (batch : List ServerEntry) :
    batch.foldl injectServer runtime =
      { runtime with servers := runtime.servers ++ known batch } := by
  induction batch generalizing runtime with
  | nil => simp [known]
  | cons entry batch ih =>
    rw [List.foldl_cons, ih]
    simp [injectServer, known]

/-- A batch that is handed over only changes the browser. -/
theorem deliver_eq (runtime : Headless) (batch : List ServerEntry) :
    Roster.deliver runtime batch =
      { runtime with servers := (runtime.servers ++ known batch).mergeSort KnownServer.le } := by
  rw [Roster.deliver, foldl_injectServer]
  exact if_pos rfl

theorem ready_iff {runtime : Headless} :
    ingestionReady runtime = true ↔ runtime.bootTicks.toNat ≤ runtime.ticks :=
  decide_eq_true_iff

end Headless
end ClusterLink
