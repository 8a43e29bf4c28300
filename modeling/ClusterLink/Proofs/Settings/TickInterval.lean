import ClusterLink.Proofs.Settings.Saving
/-!
How far the tick interval can be used. It rounds down to whole nanoseconds, and is nothing at all
for a rate above one tick a nanosecond, which settings can ask for.
-/
namespace ClusterLink

namespace RuntimeSettings

/-- The interval is the longest of which as many as the rate says fit into a second. -/
theorem tickInterval_bounds (settings : RuntimeSettings) :
    settings.tickInterval * max settings.tickRate.toNat 1 ≤ 1000000000 ∧
      1000000000 < (settings.tickInterval + 1) * max settings.tickRate.toNat 1 := by
  have hpos : 0 < max settings.tickRate.toNat 1 := by omega
  constructor
  · exact Nat.div_mul_le_self _ _
  · rw [Nat.add_mul, Nat.one_mul]
    exact Nat.lt_div_mul_add hpos

theorem tickInterval_pos_iff (settings : RuntimeSettings) :
    0 < settings.tickInterval ↔ settings.tickRate.toNat ≤ 1000000000 := by
  rw [tickInterval, Nat.div_pos_iff]
  omega

end RuntimeSettings

namespace Settings

/-- A settings file can ask for any rate. -/
theorem exists_load_tickRate (rate : UInt32) : ∃ content settings,
    load (some content) = .ok settings ∧ settings.runtime.tickRate = rate := by
  have hconnect : standard.network.connectTimeout.toNat ≤ Int64.maxValue.toInt := by decide
  have hcommand : standard.runtime.commandTimeout.toNat ≤ Int64.maxValue.toInt := by decide
  have hplain : { standard with runtime.tickRate := rate }.saved.IsPlain :=
    isPlain_saved hconnect hcommand
  exact ⟨_, _, load_text hplain, rfl⟩

theorem abort_iff (settings : Settings) : (CommandLine.bridgeReport settings).code = .abort ↔
    settings.runtime.tickInterval = 0 := by
  unfold CommandLine.bridgeReport
  split <;> simp_all

/-- A file can ask for any rate, and every rate has an interval, rounded down to whole nanoseconds.
It is positive up to a thousand million ticks a second, and a bridge with a higher rate aborts. -/
theorem tickInterval_usable_iff (settings : Settings) :
    (∃ content loaded, load (some content) = .ok loaded ∧
      loaded.runtime.tickRate = settings.runtime.tickRate) ∧
    settings.runtime.tickInterval * max settings.runtime.tickRate.toNat 1 ≤ 1000000000 ∧
    1000000000 < (settings.runtime.tickInterval + 1) * max settings.runtime.tickRate.toNat 1 ∧
    (0 < settings.runtime.tickInterval ↔ settings.runtime.tickRate.toNat ≤ 1000000000) ∧
    ((CommandLine.bridgeReport settings).code = .abort ↔
      1000000000 < settings.runtime.tickRate.toNat) := by
  have hfile := exists_load_tickRate settings.runtime.tickRate
  obtain ⟨hfit, hlongest⟩ := settings.runtime.tickInterval_bounds
  have hpos := settings.runtime.tickInterval_pos_iff
  have habort : (CommandLine.bridgeReport settings).code = .abort ↔
      1000000000 < settings.runtime.tickRate.toNat := by
    rw [abort_iff]
    omega
  exact ⟨hfile, hfit, hlongest, hpos, habort⟩

/-- The lowest rate that leaves no interval. -/
theorem tickInterval_zero :
    (load (some (Octets.ofText "[runtime]\ntick_rate_hz = 1000000001\n"))).toOption.map
      (fun settings => (settings.runtime.tickInterval, (CommandLine.bridgeReport settings).code)) =
        some (0, .abort) := by
  decide +kernel

end Settings
end ClusterLink
