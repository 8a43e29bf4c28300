import ClusterLink.CommandLine.Report
import ClusterLink.Proofs.Settings.Sections
/-!
Saved settings are loaded again, and whatever is taken out of the saved document is loaded as its
standard, one setting at a time. Main statement: `load_saved`.
-/
namespace ClusterLink

open Document (Entries Section Value enter enter_top enter_nested entries?_without parse?_render)

variable (gone : List String → Bool)

namespace Settings

variable {settings : Settings}

theorem isPlain_saved (hconnect : settings.network.connectTimeout.toNat ≤ Int64.maxValue.toInt)
    (hcommand : settings.runtime.commandTimeout.toNat ≤ Int64.maxValue.toInt) :
    settings.saved.IsPlain := by
  constructor
  · nofun
  · intro part hpart
    simp only [saved, List.mem_append, List.mem_cons, List.not_mem_nil, or_false] at hpart
    rcases hpart with ((rfl | rfl) | hgate) | rfl
    · exact settings.general.isPlain_saved
    · exact NetworkSettings.isPlain_saved hconnect
    · exact settings.gate.isPlain_saved part hgate
    · exact RuntimeSettings.isPlain_saved hcommand

/-! ### The tables -/

variable (settings) in
/-- The tables of the sections that are left. -/
theorem entries?_without_saved :
    ∃ entries, (settings.saved.without gone).entries? = some entries ∧
      entries.Holds "general" (settings.general.entries.left gone ["general"]) ∧
      entries.Holds "network" (settings.network.entries.left gone ["network"]) ∧
      entries.Holds "gate" (settings.gate.entries.left gone ["gate"] ++
        if gone ["gate", "policy"] then []
        else [("policy",
          .table .headed (settings.gate.policy.entries.left gone ["gate", "policy"]))]) ∧
      entries.Holds "runtime" (settings.runtime.entries.left gone ["runtime"]) := by
  -- Each section finds its name free, and leaves every other name as it was.
  have hfree : Entries.find? [] "general" = none := rfl
  obtain ⟨first, hfirst, hgeneral, keepFirst⟩ :=
    enter_top gone hfree settings.general.nodup_entries
  have hfree : first.find? "network" = none := keepFirst "network" (by decide)
  obtain ⟨second, hsecond, hnetwork, keepSecond⟩ :=
    enter_top gone hfree settings.network.nodup_entries
  have hfree : second.find? "gate" = none := by
    rw [keepSecond "gate" (by decide), keepFirst "gate" (by decide)]
    rfl
  obtain ⟨third, hthird, hgate, keepThird⟩ := enter_top gone hfree settings.gate.nodup_entries
  obtain ⟨fourth, hfourth, hgate, keepFourth⟩ :=
    enter_nested gone hgate (settings.gate.find?_policy gone) settings.gate.policy.nodup_entries
  have hfree : fourth.find? "runtime" = none := by
    rw [keepFourth "runtime" (by decide), keepThird "runtime" (by decide),
      keepSecond "runtime" (by decide), keepFirst "runtime" (by decide)]
    rfl
  obtain ⟨last, hlast, hruntime, keepLast⟩ :=
    enter_top gone hfree settings.runtime.nodup_entries
  have hentries : (settings.saved.without gone).entries? =
      [.flat [] "general" settings.general.entries, .flat [] "network" settings.network.entries,
        .flat [] "gate" settings.gate.entries, .flat ["gate"] "policy" settings.gate.policy.entries,
        .flat [] "runtime" settings.runtime.entries].foldlM (enter gone) [] :=
    entries?_without gone _
  refine ⟨last, ?_, hgeneral.congr ?_, hnetwork.congr ?_, hgate.congr ?_, hruntime⟩
  · simp [hentries, hfirst, hsecond, hthird, hfourth, hlast]
  · rw [keepLast "general" (by decide), keepFourth "general" (by decide),
      keepThird "general" (by decide), keepSecond "general" (by decide)]
  · rw [keepLast "network" (by decide), keepFourth "network" (by decide),
      keepThird "network" (by decide)]
  · exact keepLast "gate" (by decide)

variable {gone}

/-- What is left of the saved sections reads as the settings with what is gone reset. -/
theorem ofDocument?_without (hmode : gone ["gate", "policy", "mode"] = false)
    (hkinds : gone ["gate", "policy", "kinds"] = false) :
    ofDocument? (settings.saved.without gone) = some (settings.reset gone) := by
  obtain ⟨entries, hentries, hgeneral, hnetwork, hgate, hruntime⟩ :=
    entries?_without_saved gone settings
  have hpolicy (hgone : ¬ gone ["gate", "policy"] = true) :
      settings.gate.policy.entries.left gone ["gate", "policy"] = settings.gate.policy.entries := by
    rw [Entries.left, if_neg hgone]
    simp [DeferralPolicy.entries, hmode, hkinds]
  have hinner : (if gone ["gate", "policy"] then [] else [("policy", Value.table .headed
      (settings.gate.policy.entries.left gone ["gate", "policy"]))]) =
      if gone ["gate", "policy"] then []
      else [("policy", Value.table .headed settings.gate.policy.entries)] := by
    split
    case isTrue => rfl
    case isFalse hgone => rw [hpolicy hgone]
  rw [hinner] at hgate
  rw [ofDocument?, hentries, Option.bind_some, ofEntries?]
  dsimp only
  rw [hgeneral.setting GeneralSettings.ofEntries?_nil, GeneralSettings.ofEntries?_left,
    hnetwork.setting NetworkSettings.ofEntries?_nil, NetworkSettings.ofEntries?_left,
    hgate.setting GateSettings.ofEntries?_nil, GateSettings.ofEntries?_left,
    hruntime.setting RuntimeSettings.ofEntries?_nil, RuntimeSettings.ofEntries?_left]
  rfl

theorem without_nothing (document : Document) : document.without (fun _ => false) = document := by
  have hpart (part : Section) : part.without (fun _ => false) = part := by
    simp [Section.without]
  have hparts : document.sections.map (Section.without fun _ => false) = document.sections :=
    (List.map_congr_left fun part _ => hpart part).trans (List.map_id' _)
  simp [Document.without, hparts]

/-- Whatever text says what is left of a saved document loads as the settings that are left. -/
theorem load_of_parse? {text : String} (hmode : gone ["gate", "policy", "mode"] = false)
    (hkinds : gone ["gate", "policy", "kinds"] = false)
    (htext : Document.parse? text = some (settings.saved.without gone)) :
    load (some (Octets.ofText text)) = .ok (settings.reset gone) := by
  rw [load, Octets.text?_ofText]
  dsimp only
  rw [htext, Option.bind_some, ofDocument?_without hmode hkinds]

theorem load_without (hplain : settings.saved.IsPlain)
    (hmode : gone ["gate", "policy", "mode"] = false)
    (hkinds : gone ["gate", "policy", "kinds"] = false) :
    load (some (Octets.ofText (settings.saved.without gone).render)) = .ok (settings.reset gone) :=
  load_of_parse? hmode hkinds (parse?_render (hplain.without gone))

theorem load_text (hplain : settings.saved.IsPlain) :
    load (some (Octets.ofText settings.text)) = .ok settings := by
  have hwhole : settings.saved.without (fun _ => false) = settings.saved := without_nothing _
  have htext : Document.parse? settings.text = some (settings.saved.without fun _ => false) := by
    rw [hwhole]
    exact parse?_render hplain
  exact load_of_parse? rfl rfl htext

/-- Saved settings are loaded as they were, down to a join target that is not there: the link goes
to the target that was saved, and the gate of every session opens a load on the kind and defers by
the policy that were saved. Where any sections and settings are taken out of the document, the mode
and the kinds of a policy staying together, exactly those are loaded as their standards. -/
theorem load_saved (hconnect : settings.network.connectTimeout.toNat ≤ Int64.maxValue.toInt)
    (hcommand : settings.runtime.commandTimeout.toNat ≤ Int64.maxValue.toInt) :
    (∃ loaded, load (some (Octets.ofText settings.text)) = .ok loaded ∧ loaded = settings ∧
      loaded.linkTarget = ⟨settings.network.host, settings.network.port,
        ⟨settings.network.connectTimeout.toNat⟩⟩ ∧
      loaded.sessionOptions = ⟨some settings.gate.mapChange, settings.gate.policy⟩ ∧
      ∀ ids, (CommandLine.session loaded ids).gate =
        .new settings.gate.mapChange settings.gate.policy) ∧
    ∀ gone : List String → Bool,
      gone ["gate", "policy", "mode"] = false → gone ["gate", "policy", "kinds"] = false →
      load (some (Octets.ofText (settings.saved.without gone).render)) =
        .ok (settings.reset gone) := by
  have hplain := isPlain_saved hconnect hcommand
  constructor
  · exact ⟨settings, load_text hplain, rfl, rfl, rfl, fun _ => rfl⟩
  · intro gone hmode hkinds
    exact load_without hplain hmode hkinds

/-- The sample without its general settings and its host is the standard. -/
theorem load_saved_sample :
    sample.network.connectTimeout.toNat ≤ Int64.maxValue.toInt ∧
    sample.runtime.commandTimeout.toNat ≤ Int64.maxValue.toInt ∧
    load (some (Octets.ofText sample.text)) = .ok sample ∧
    load (some (Octets.ofText (sample.saved.without fun name =>
      name = ["general"] || name = ["network", "host"]).render)) = .ok standard := by
  obtain ⟨⟨loaded, hload, rfl, -⟩, hwithout⟩ := load_saved
    (show sample.network.connectTimeout.toNat ≤ Int64.maxValue.toInt by decide)
    (show sample.runtime.commandTimeout.toNat ≤ Int64.maxValue.toInt by decide)
  exact ⟨by decide, by decide, hload, hwithout _ (by decide) (by decide)⟩

end Settings

end ClusterLink
