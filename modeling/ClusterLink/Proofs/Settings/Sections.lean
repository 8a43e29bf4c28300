import ClusterLink.Proofs.Document.Rendering
import ClusterLink.Proofs.Document.Tables
/-!
The sections of a saved document, each on its own. What is left of a section reads as its settings
with those that are gone reset, and a section has nothing in it that could not be read back from
text.
-/
namespace ClusterLink

open Document (Entries Section Value)

/-! ### Kinds -/

namespace KindSet

theorem insertInto_of_greatest {kind : PacketKind} {kinds : List PacketKind}
    (h : ∀ k ∈ kinds, k.toInt < kind.toInt) : insertInto kind kinds = kinds ++ [kind] := by
  induction kinds with
  | nil => rfl
  | cons k kinds ih =>
    have hlt := h k List.mem_cons_self
    have hmore := ih fun k hk => h k (List.mem_cons_of_mem _ hk)
    rw [insertInto, if_neg (Int.lt_asymm hlt), if_pos hlt, hmore, List.cons_append]

theorem foldl_insert {kinds : List PacketKind} {set : KindSet}
    (h : (set.kinds ++ kinds).Pairwise (·.toInt < ·.toInt)) :
    (kinds.foldl insert set).kinds = set.kinds ++ kinds := by
  induction kinds generalizing set with
  | nil => exact (List.append_nil _).symm
  | cons kind kinds ih =>
    have hlast : (set.insert kind).kinds = set.kinds ++ [kind] :=
      insertInto_of_greatest fun k hk => (List.pairwise_append.1 h).2.2 k hk kind List.mem_cons_self
    have hmore : (kinds.foldl insert (set.insert kind)).kinds = (set.insert kind).kinds ++ kinds :=
      ih (by simpa [hlast] using h)
    rw [List.foldl_cons, hmore, hlast, List.append_assoc, List.singleton_append]

/-- A set is put together again from its kinds. -/
theorem ofList_kinds (set : KindSet) : ofList set.kinds = set := by
  have hkinds : (ofList set.kinds).kinds = set.kinds := foldl_insert set.ascending
  cases set
  cases h : ofList _
  simp_all

end KindSet

theorem PacketKind.ofValue?_value (kind : PacketKind) : ofValue? kind.value = some kind := by
  have hkind : ofInt kind.toInt = kind := by
    simp [ofInt, toInt]
  simp [ofValue?, value, Value.integer?, hkind]

/-! ### Sections -/

/-- A number that is in range is read as itself. -/
theorem Document.Entries.setting_number {α : Type} {entries : Entries} {key : String} {n size : Nat}
    {ofNat : Nat → α} {value : α} (standard : α) (hfind : entries.find? key = some (.integer n))
    (hn : n < size) (hvalue : ofNat n = value) :
    entries.setting key (fun value => (value.number? size).map ofNat) standard = some value := by
  have hnumber : (Value.integer n).number? size = some n := by
    simp [Value.number?, Value.integer?, hn]
  rw [setting, hfind]
  dsimp only
  rw [hnumber, Option.map_some, hvalue]

variable (gone : List String → Bool)

namespace GeneralSettings

def entries (settings : GeneralSettings) : Entries :=
  ("verbose", .boolean settings.verbose) ::
    settings.join.toList.map fun name => ("join", .text name)

theorem nodup_entries (settings : GeneralSettings) : (settings.entries.map (·.1)).Nodup := by
  obtain ⟨verbose, join⟩ := settings
  cases join with
  | none => exact (by decide : ["verbose"].Nodup)
  | some name => exact (by decide : ["verbose", "join"].Nodup)

theorem ofEntries?_nil : ofEntries? [] = some standard := rfl

theorem ofEntries?_left (settings : GeneralSettings) :
    ofEntries? (settings.entries.left gone ["general"]) = some (settings.reset gone) := by
  have hverbose : settings.entries.setting "verbose" Value.boolean? standard.verbose =
      some settings.verbose := rfl
  have hjoin : settings.entries.setting "join" (fun value => value.text?.map some) standard.join =
      some settings.join := by
    obtain ⟨verbose, join⟩ := settings
    cases join <;> rfl
  rw [ofEntries?, Entries.setting_left hverbose, Entries.setting_left hjoin]
  rfl

end GeneralSettings

namespace NetworkSettings

def entries (settings : NetworkSettings) : Entries :=
  [("host", .text settings.host), ("port", .integer settings.port.toNat),
    ("connect_timeout_ms", .integer settings.connectTimeout.toNat)]

theorem nodup_entries (settings : NetworkSettings) : (settings.entries.map (·.1)).Nodup :=
  (by decide : ["host", "port", "connect_timeout_ms"].Nodup)

theorem ofEntries?_nil : ofEntries? [] = some standard := rfl

theorem ofEntries?_left (settings : NetworkSettings) :
    ofEntries? (settings.entries.left gone ["network"]) = some (settings.reset gone) := by
  have hhost : settings.entries.setting "host" Value.text? standard.host = some settings.host := rfl
  have hport : settings.entries.find? "port" = some (.integer settings.port.toNat) := rfl
  have hport := Entries.setting_number standard.port hport settings.port.toNat_lt_size
    UInt16.ofNat_toNat
  have hconnect : settings.entries.find? "connect_timeout_ms" =
      some (.integer settings.connectTimeout.toNat) := rfl
  have hconnect := Entries.setting_number standard.connectTimeout hconnect
    settings.connectTimeout.toNat_lt_size UInt64.ofNat_toNat
  rw [ofEntries?, Entries.setting_left hhost, Entries.setting_left hport,
    Entries.setting_left hconnect]
  rfl

end NetworkSettings

namespace DeferralPolicy

def entries (policy : DeferralPolicy) : Entries :=
  [("mode", .text policy.mode), ("kinds", .array (policy.kinds.map PacketKind.value))]

theorem nodup_entries (policy : DeferralPolicy) : (policy.entries.map (·.1)).Nodup :=
  (by decide : ["mode", "kinds"].Nodup)

theorem ofEntries?_entries (policy : DeferralPolicy) : ofEntries? policy.entries = some policy := by
  have hkinds : (policy.kinds.map PacketKind.value).mapM PacketKind.ofValue? =
      some policy.kinds := by
    generalize policy.kinds = kinds
    induction kinds with
    | nil => rfl
    | cons kind kinds ih =>
      simp [List.mapM_cons, PacketKind.ofValue?_value, ih]
  have hmode : policy.entries.find? "mode" = some (.text policy.mode) := rfl
  have hlist : policy.entries.find? "kinds" =
      some (.array (policy.kinds.map PacketKind.value)) := rfl
  rw [ofEntries?, hmode, hlist]
  simp only [Option.bind_eq_bind, Option.bind_some, Value.alternative?, Value.array?, hkinds]
  cases policy with
  | allowList set => exact congrArg (fun set => some (allowList set)) set.ofList_kinds
  | deferList set => exact congrArg (fun set => some (deferList set)) set.ofList_kinds

end DeferralPolicy

namespace GateSettings

def entries (settings : GateSettings) : Entries := [("map_change", settings.mapChange.value)]

theorem nodup_entries (settings : GateSettings) : (settings.entries.map (·.1)).Nodup :=
  (by decide : ["map_change"].Nodup)

theorem find?_policy (settings : GateSettings) :
    (settings.entries.left gone ["gate"]).find? "policy" = none := by
  rw [Entries.find?_left]
  exact ite_self none

theorem ofEntries?_nil : ofEntries? [] = some standard := rfl

/-- The gate reads its own settings and the table of its policy. -/
theorem ofEntries?_left (settings : GateSettings) :
    ofEntries? (settings.entries.left gone ["gate"] ++
      if gone ["gate", "policy"] then []
      else [("policy", .table .headed settings.policy.entries)]) = some (settings.reset gone) := by
  have hmap : settings.entries.setting "map_change" PacketKind.ofValue? standard.mapChange =
      some settings.mapChange := settings.mapChange.ofValue?_value
  have hmap := Entries.setting_left hmap gone ["gate"]
  have hfree := settings.find?_policy gone
  unfold ofEntries? Entries.setting at *
  by_cases hgone : gone ["gate", "policy"] = true
  · rw [if_pos hgone, List.append_nil, hmap, hfree]
    simp [reset, hgone]
  · rw [if_neg hgone, Entries.find?_append, Entries.find?_append, hfree]
    have hpolicy := settings.policy.ofEntries?_entries
    have hother : Entries.find? [("policy", Value.table .headed settings.policy.entries)]
        "map_change" = none := rfl
    rw [hother, Option.or_none, hmap]
    simp [reset, hgone, Entries.find?_cons, Value.entries?, hpolicy]

end GateSettings

namespace RuntimeSettings

def entries (settings : RuntimeSettings) : Entries :=
  [("tick_rate_hz", .integer settings.tickRate.toNat),
    ("boot_ticks", .integer settings.bootTicks.toNat),
    ("command_timeout_ms", .integer settings.commandTimeout.toNat)]

theorem nodup_entries (settings : RuntimeSettings) : (settings.entries.map (·.1)).Nodup :=
  (by decide : ["tick_rate_hz", "boot_ticks", "command_timeout_ms"].Nodup)

theorem ofEntries?_nil : ofEntries? [] = some standard := rfl

theorem ofEntries?_left (settings : RuntimeSettings) :
    ofEntries? (settings.entries.left gone ["runtime"]) = some (settings.reset gone) := by
  have hrate : settings.entries.find? "tick_rate_hz" =
      some (.integer settings.tickRate.toNat) := rfl
  have hrate := Entries.setting_number standard.tickRate hrate settings.tickRate.toNat_lt_size
    UInt32.ofNat_toNat
  have hboot : settings.entries.find? "boot_ticks" =
      some (.integer settings.bootTicks.toNat) := rfl
  have hboot := Entries.setting_number standard.bootTicks hboot settings.bootTicks.toNat_lt_size
    UInt32.ofNat_toNat
  have htimeout : settings.entries.find? "command_timeout_ms" =
      some (.integer settings.commandTimeout.toNat) := rfl
  have htimeout := Entries.setting_number standard.commandTimeout htimeout
    settings.commandTimeout.toNat_lt_size UInt64.ofNat_toNat
  rw [ofEntries?, Entries.setting_left hrate, Entries.setting_left hboot,
    Entries.setting_left htimeout]
  rfl

end RuntimeSettings

/-! ### The text -/

namespace Document

theorem isBare_of (name : String) (h : (!name.toList.isEmpty && name.toList.all isKeyChar) = true) :
    IsBare name := by
  rw [Bool.and_eq_true, List.all_eq_true] at h
  exact ⟨by simpa using h.1, h.2⟩

theorem isKey_top {key : String} (h : (!key.toList.isEmpty && key.toList.all isKeyChar) = true) :
    IsKey [] key where
  depth := by decide
  path_bare := by simp
  bare := isBare_of key h

theorem isPlain_flat {path : List String} {key : String} {entries : Entries}
    (hkey : IsKey path key)
    (hentries : ∀ entry ∈ entries, IsBare entry.1 ∧ entry.2.IsPlain depthLimit) :
    (Section.flat path key entries).IsPlain where
  key := hkey
  body a ha := by
    obtain ⟨⟨name, v⟩, hmem, rfl⟩ := List.mem_map.1 ha
    obtain ⟨hname, hv⟩ := hentries _ hmem
    exact ⟨⟨(by decide : 0 < depthLimit), by simp, hname⟩, hv⟩

theorem IsPlain.without {document : Document} (h : document.IsPlain) (gone : List String → Bool) :
    (document.without gone).IsPlain where
  preamble a ha := h.preamble a (List.mem_filter.1 ha).1
  sections part hpart := by
    obtain ⟨whole, hmem, rfl⟩ := List.mem_map.1 hpart
    have hplain := h.sections whole (List.mem_filter.1 hmem).1
    exact ⟨hplain.key, fun a ha => hplain.body a (List.mem_filter.1 ha).1⟩

theorem isPlain_integer {n : Int} (hlow : Int64.minValue.toInt ≤ n)
    (hhigh : n ≤ Int64.maxValue.toInt) {levels : Nat} : (Value.integer n).IsPlain levels := by
  have hfits : Scalar.fits n = true := by
    rw [Scalar.fits, decide_eq_true hlow, decide_eq_true hhigh]
    rfl
  exact .leaf hfits

theorem isPlain_natCast {n : Nat} (h : n ≤ Int64.maxValue.toInt) {levels : Nat} :
    (Value.integer n).IsPlain levels := by
  have hmin : Int64.minValue.toInt ≤ 0 := by decide
  exact isPlain_integer (by omega) h

theorem isPlain_kind (kind : PacketKind) {levels : Nat} : kind.value.IsPlain levels := by
  have hmin : Int64.minValue.toInt ≤ Int32.minValue.toInt := by decide
  have hmax : Int32.maxValue.toInt ≤ Int64.maxValue.toInt := by decide
  apply isPlain_integer
  · exact Int.le_trans hmin kind.code.minValue_le_toInt
  · exact Int.le_trans kind.code.toInt_le hmax

end Document

open Document

theorem GeneralSettings.isPlain_saved (settings : GeneralSettings) : settings.saved.IsPlain := by
  apply isPlain_flat (isKey_top rfl)
  simp only [List.forall_mem_cons]
  refine ⟨⟨isBare_of _ rfl, .leaf trivial⟩, ?_⟩
  intro entry hmem
  obtain ⟨name, -, rfl⟩ := List.mem_map.1 hmem
  exact ⟨isBare_of "join" rfl, .leaf trivial⟩

theorem NetworkSettings.isPlain_saved {settings : NetworkSettings}
    (h : settings.connectTimeout.toNat ≤ Int64.maxValue.toInt) : settings.saved.IsPlain := by
  have hport : (settings.port.toNat : Int) < UInt16.size :=
    Int.ofNat_lt.2 settings.port.toNat_lt_size
  have hmax : (UInt16.size : Int) ≤ Int64.maxValue.toInt := by decide
  apply isPlain_flat (isKey_top rfl)
  simp only [List.forall_mem_cons]
  refine ⟨⟨isBare_of _ rfl, .leaf trivial⟩, ⟨isBare_of _ rfl, ?_⟩,
    ⟨isBare_of _ rfl, isPlain_natCast h⟩, nofun⟩
  exact isPlain_natCast (Int.le_trans (Int.le_of_lt hport) hmax)

theorem GateSettings.isPlain_saved (settings : GateSettings) :
    ∀ part ∈ settings.saved, part.IsPlain := by
  simp only [GateSettings.saved, List.forall_mem_cons]
  refine ⟨?_, ?_, nofun⟩
  · apply isPlain_flat (isKey_top rfl)
    simp only [List.forall_mem_cons]
    exact ⟨⟨isBare_of _ rfl, isPlain_kind _⟩, nofun⟩
  · apply isPlain_flat ⟨by decide, by simpa using isBare_of _ rfl, isBare_of _ rfl⟩
    simp only [List.forall_mem_cons]
    refine ⟨⟨isBare_of _ rfl, .leaf trivial⟩, ⟨isBare_of _ rfl, .array ?_⟩, nofun⟩
    intro v hv
    obtain ⟨kind, -, rfl⟩ := List.mem_map.1 hv
    exact isPlain_kind kind

theorem RuntimeSettings.isPlain_saved {settings : RuntimeSettings}
    (h : settings.commandTimeout.toNat ≤ Int64.maxValue.toInt) : settings.saved.IsPlain := by
  have hrate : (settings.tickRate.toNat : Int) < UInt32.size :=
    Int.ofNat_lt.2 settings.tickRate.toNat_lt_size
  have hboot : (settings.bootTicks.toNat : Int) < UInt32.size :=
    Int.ofNat_lt.2 settings.bootTicks.toNat_lt_size
  have hmax : (UInt32.size : Int) ≤ Int64.maxValue.toInt := by decide
  apply isPlain_flat (isKey_top rfl)
  simp only [List.forall_mem_cons]
  refine ⟨⟨isBare_of _ rfl, ?_⟩, ⟨isBare_of _ rfl, ?_⟩,
    ⟨isBare_of _ rfl, isPlain_natCast h⟩, nofun⟩
  · exact isPlain_natCast (Int.le_trans (Int.le_of_lt hrate) hmax)
  · exact isPlain_natCast (Int.le_trans (Int.le_of_lt hboot) hmax)

end ClusterLink
