import ClusterLink.Settings.Omission
import Mathlib.Data.List.Nodup
/-!
The tables of a document whose sections are flat. Sections of different names never meet, a section
inside another one extends it, and a table that is not there reads like an empty one.
-/
namespace ClusterLink.Document

namespace Entries

theorem find?_eq_none_iff {entries : Entries} {key : String} :
    entries.find? key = none ↔ key ∉ entries.map (·.1) := by
  induction entries with
  | nil => simp
  | cons entry entries ih =>
    rw [find?_cons, List.map_cons, List.mem_cons, not_or]
    by_cases h : entry.1 = key
    · simp [h]
    · rw [if_neg h, ih]
      exact ⟨fun hnot => ⟨Ne.symm h, hnot⟩, And.right⟩

theorem find?_append (entries more : Entries) (key : String) :
    find? (entries ++ more) key = (entries.find? key).or (more.find? key) := by
  induction entries with
  | nil => rfl
  | cons entry entries ih =>
    rw [List.cons_append, find?_cons, find?_cons, ih]
    by_cases h : entry.1 = key <;> simp [h]

/-- A new key goes behind the others. -/
theorem put_of_free {entries : Entries} {key : String} (h : entries.find? key = none)
    (value : Value) : entries.put key value = entries ++ [(key, value)] := by
  induction entries with
  | nil => rfl
  | cons entry entries ih =>
    rw [find?_cons] at h
    split at h
    case isTrue => cases h
    case isFalse hkey => rw [put, if_neg hkey, ih h, List.cons_append]

/-- Settings under different keys are entered one by one. -/
theorem assignAll_flat (entries : Entries) {settings : Entries}
    (h : ((entries ++ settings).map (·.1)).Nodup) :
    assignAll entries (settings.map fun (key, value) => ⟨[], key, value⟩) =
      some (entries ++ settings) := by
  induction settings generalizing entries with
  | nil => simp [assignAll]
  | cons setting settings ih =>
    obtain ⟨key, value⟩ := setting
    have hfree : entries.find? key = none := by
      rw [find?_eq_none_iff]
      intro hmem
      rw [List.map_append, List.nodup_append] at h
      exact h.2.2 key hmem key (by simp) rfl
    have hmore := ih (entries ++ [(key, value)]) (by simpa using h)
    rw [assignAll] at hmore ⊢
    simp [assign, hfree, put_of_free hfree, hmore]

/-- What is left of a section's settings. -/
def left (gone : List String → Bool) (name : List String) (settings : Entries) : Entries :=
  if gone name then [] else settings.filter fun setting => !gone (name ++ [setting.1])

theorem find?_filter (settings : Entries) (keep : String → Bool) (key : String) :
    find? (settings.filter fun setting => keep setting.1) key =
      if keep key then settings.find? key else none := by
  induction settings with
  | nil => simp
  | cons setting settings ih =>
    rw [List.filter_cons, find?_cons]
    by_cases hkey : setting.1 = key
    · subst hkey
      by_cases hkeep : keep setting.1 = true
      · simp [hkeep, find?_cons]
      · simp [hkeep, ih]
    · by_cases hkeep : keep setting.1 = true
      · simp [hkeep, hkey, find?_cons, ih]
      · simp [hkeep, hkey, ih]

theorem find?_left (gone : List String → Bool) (name : List String) (settings : Entries)
    (key : String) : (settings.left gone name).find? key =
      if gone name || gone (name ++ [key]) then none else settings.find? key := by
  unfold left
  by_cases hname : gone name = true
  · simp [hname]
  · rw [if_neg hname, find?_filter settings (fun key => !gone (name ++ [key]))]
    by_cases hkey : gone (name ++ [key]) = true <;> simp [hname, hkey]

/-- A setting that can be read is read where it is left. -/
theorem setting_left {α : Type} {settings : Entries} {key : String} {read : Value → Option α}
    {standard value : α} (h : settings.setting key read standard = some value)
    (gone : List String → Bool) (name : List String) :
    (settings.left gone name).setting key read standard =
      some (settingOr gone name key standard value) := by
  unfold setting at h ⊢
  rw [find?_left, settingOr]
  by_cases hgone : (gone name || gone (name ++ [key])) = true
  · rw [if_pos hgone, if_pos hgone]
  · rw [if_neg hgone, if_neg hgone, h]

/-- What a table under a key holds, which is nothing if there is none. It can still be extended. -/
def Holds (entries : Entries) (key : String) (inner : Entries) : Prop :=
  (entries.find? key = none ∧ inner = []) ∨
    ∃ origin ≠ Origin.inline, entries.find? key = some (.table origin inner)

theorem Holds.congr {entries after inner : Entries} {key : String} (h : entries.Holds key inner)
    (hsame : after.find? key = entries.find? key) : after.Holds key inner := by
  rwa [Holds, hsame]

/-- A table is read by what it holds, if nothing reads as the standard. -/
theorem Holds.setting {α : Type} {entries inner : Entries} {key : String}
    (h : entries.Holds key inner) {read : Entries → Option α} {standard : α}
    (hstandard : read [] = some standard) :
    entries.setting key (fun value => value.entries?.bind read) standard = read inner := by
  unfold Entries.setting
  rcases h with ⟨hnone, rfl⟩ | ⟨origin, -, hsome⟩
  · rw [hnone, hstandard]
  · rw [hsome]
    rfl

end Entries

/-! ### Sections -/

/-- A section of a document, unless it is gone. -/
def enter (gone : List String → Bool) (entries : Entries) (part : Section) : Option Entries :=
  if gone part.name then some entries
  else entries.alter (part.without gone).extend part.key part.path

theorem entries?_without (gone : List String → Bool) (parts : List Section) :
    (Document.without gone ⟨[], parts⟩).entries? = parts.foldlM (enter gone) [] := by
  have hstep : (fun entries (part : Section) =>
      if (!gone part.name) = true then
        Entries.alter (part.without gone).extend (part.without gone).key (part.without gone).path
          entries
      else pure entries) = enter gone := by
    funext entries part
    by_cases hgone : gone part.name = true <;> simp [enter, hgone, Section.without]
  rw [← hstep, ← List.foldlM_filter]
  exact List.foldlM_map

theorem Section.without_flat (gone : List String → Bool) (path : List String) (key : String)
    (settings : Entries) : (Section.flat path key settings).without gone =
      .flat path key (settings.filter fun setting => !gone (path ++ [key] ++ [setting.1])) := by
  simp [Section.without, Section.flat, Section.name, List.filter_map, Function.comp_def]

theorem Section.extend_flat {path : List String} {key : String} {settings : Entries}
    (h : (settings.map (·.1)).Nodup) :
    (Section.flat path key settings).extend none = some (.table .headed settings) := by
  have hbody := Entries.assignAll_flat [] h
  unfold Section.extend Section.flat
  dsimp only
  rw [hbody]
  rfl

variable {gone : List String → Bool} {entries inner settings : Entries} {name key : String}

/-- What is left of a section is one table. -/
theorem Section.extend_without_flat (path : List String) (hkeys : (settings.map (·.1)).Nodup)
    (hgone : ¬ gone (path ++ [key]) = true) :
    ((Section.flat path key settings).without gone).extend none =
      some (.table .headed (settings.left gone (path ++ [key]))) := by
  rw [Section.without_flat, Section.extend_flat, Entries.left, if_neg hgone]
  exact hkeys.sublist (List.filter_sublist.map _)

theorem enter_flat (gone : List String → Bool) (entries : Entries) (path : List String)
    (key : String) (settings : Entries) : enter gone entries (.flat path key settings) =
      if gone (path ++ [key]) then some entries
      else entries.alter ((Section.flat path key settings).without gone).extend key path := rfl

theorem alter_of_free {change : Option Value → Option Value} {value : Value}
    (hfree : entries.find? key = none) (hchange : change none = some value) :
    entries.alter change key [] = some (entries.put key value) := by
  rw [Entries.alter, hfree, hchange]
  rfl

variable (gone) in
theorem enter_top (hfree : entries.find? key = none) (hkeys : (settings.map (·.1)).Nodup) :
    ∃ after, enter gone entries (.flat [] key settings) = some after ∧
      after.Holds key (settings.left gone [key]) ∧
      ∀ other, key ≠ other → after.find? other = entries.find? other := by
  rw [enter_flat, List.nil_append]
  by_cases hgone : gone [key] = true
  · rw [if_pos hgone]
    exact ⟨entries, rfl, .inl ⟨hfree, if_pos hgone⟩, fun _ _ => rfl⟩
  · rw [if_neg hgone]
    have hextend := Section.extend_without_flat [] hkeys hgone
    refine ⟨_, alter_of_free hfree hextend, ?_, ?_⟩
    · exact .inr ⟨.headed, by decide, Entries.find?_put_self _ _ _⟩
    · exact fun other hother => Entries.find?_put_of_ne hother _ _

variable (gone) in
/-- A section inside another one is entered as a table of its own. -/
theorem enter_nested (h : entries.Holds name inner) (hfree : inner.find? key = none)
    (hkeys : (settings.map (·.1)).Nodup) :
    ∃ after, enter gone entries (.flat [name] key settings) = some after ∧
      after.Holds name (inner ++ if gone [name, key] then []
        else [(key, .table .headed (settings.left gone [name, key]))]) ∧
      ∀ other, name ≠ other → after.find? other = entries.find? other := by
  rw [enter_flat, List.singleton_append]
  by_cases hgone : gone [name, key] = true
  · rw [if_pos hgone, if_pos hgone, List.append_nil]
    exact ⟨entries, rfl, h, fun _ _ => rfl⟩
  · rw [if_neg hgone, if_neg hgone, ← Entries.put_of_free hfree]
    have hextend := Section.extend_without_flat [name] hkeys hgone
    have hinner := alter_of_free hfree hextend
    -- The table around it is there already, or the heading implies it.
    obtain ⟨origin, horigin, halter⟩ : ∃ origin ≠ Origin.inline,
        entries.alter ((Section.flat [name] key settings).without gone).extend key [name] =
          some (entries.put name (.table origin
            (inner.put key (.table .headed (settings.left gone [name, key]))))) := by
      rcases h with ⟨hnone, rfl⟩ | ⟨origin, horigin, hsome⟩
      · refine ⟨.implied, by decide, ?_⟩
        rw [Entries.alter, hnone]
        dsimp only
        rw [hinner]
        rfl
      · refine ⟨origin, horigin, ?_⟩
        rw [Entries.alter, hsome]
        cases origin with
        | inline => exact absurd rfl horigin
        | headed | implied | dotted =>
          dsimp only
          rw [hinner]
          rfl
    refine ⟨_, halter, .inr ⟨origin, horigin, Entries.find?_put_self _ _ _⟩, ?_⟩
    exact fun other hother => Entries.find?_put_of_ne hother _ _

end ClusterLink.Document
