import Mathlib.Tactic
import ClusterLink.Envelope.Body
/-!
When reading a tag succeeds, and with which value: only the first entry under the tag counts.
-/
namespace ClusterLink

open Cbor (Item)

namespace Fields
variable {fields : Fields} {tag : String}

@[simp] theorem get?_cons_text (operation : Operation) (name : String) (value : Item)
    (rest : List (Item × Item)) (tag : String) :
    get? ⟨operation, (.text name, value) :: rest⟩ tag =
      if name = tag then some value else get? ⟨operation, rest⟩ tag := by
  by_cases h : name = tag <;> simp [get?, h]

theorem bind_get_eq_ok_iff {α : Type} {f : Item → Except Malformed α} {a : α} :
    fields.get tag >>= f = .ok a ↔ ∃ value, fields.get? tag = some value ∧ f value = .ok a := by
  unfold get
  split <;> simp_all [bind, Except.bind]

/-- A tag that is read as one form of item. -/
theorem bind_get_eq_ok_iff_of_form {α : Type} {f : Item → Except Malformed α} {form : α → Item}
    (hf : ∀ value a, f value = .ok a ↔ value = form a) {a : α} :
    fields.get tag >>= f = .ok a ↔ fields.get? tag = some (form a) := by
  simp [bind_get_eq_ok_iff, hf]

theorem text_eq_ok_iff {text : String} :
    fields.text tag = .ok text ↔ fields.get? tag = some (.text text) :=
  bind_get_eq_ok_iff_of_form fun value _ => by cases value <;> simp [wrong]

theorem bool_eq_ok_iff {flag : Bool} :
    fields.bool tag = .ok flag ↔ fields.get? tag = some (.bool flag) :=
  bind_get_eq_ok_iff_of_form fun value _ => by cases value <;> simp [wrong]

theorem bytes_eq_ok_iff {octets : Octets} :
    fields.bytes tag = .ok octets ↔ fields.get? tag = some (.bytes octets) :=
  bind_get_eq_ok_iff_of_form fun value _ => by cases value <;> simp [wrong]

theorem number_eq_ok_iff {bound n : Nat} : fields.number tag bound = .ok n ↔
    ∃ value, fields.get? tag = some (.unsigned value) ∧ value.toNat = n ∧ n < bound := by
  rw [Fields.number, bind_get_eq_ok_iff]
  constructor
  · rintro ⟨value, hget, hvalue⟩
    split at hvalue
    · rename_i value
      split at hvalue
      · exact ⟨value, hget, Except.ok.inj hvalue, Except.ok.inj hvalue ▸ ‹_›⟩
      · contradiction
    · contradiction
    · contradiction
  · rintro ⟨value, hget, rfl, hn⟩
    exact ⟨_, hget, if_pos hn⟩

theorem word_eq_ok_iff {word : UInt16} : fields.word tag = .ok word ↔
    ∃ value, fields.get? tag = some (.unsigned value) ∧ value.toNat = word.toNat := by
  constructor
  · intro h
    unfold Fields.word at h
    cases hn : fields.number tag UInt16.size with
    | error e => simp [hn, bind, Except.bind] at h
    | ok n =>
      obtain ⟨value, hget, hvalue, hlt⟩ := number_eq_ok_iff.1 hn
      simp only [hn, bind, Except.bind, Except.ok.injEq] at h
      refine ⟨value, hget, ?_⟩
      rw [← h, hvalue, UInt16.toNat_ofNat', Nat.mod_eq_of_lt hlt]
  · rintro ⟨value, hget, hvalue⟩
    have hn : fields.number tag UInt16.size = .ok word.toNat :=
      number_eq_ok_iff.2 ⟨value, hget, hvalue, word.toNat_lt⟩
    simp [Fields.word, hn, bind, Except.bind]

theorem commandId_eq_ok_iff {id : UInt16} : fields.commandId = .ok id ↔
    id.toNat < commandIdSpace ∧
      ∃ value, fields.get? "Id" = some (.unsigned value) ∧ value.toNat = id.toNat := by
  unfold Fields.commandId
  rw [← word_eq_ok_iff]
  cases hw : fields.word "Id" with
  | error e => simp [bind, Except.bind]
  | ok word =>
    simp only [bind, Except.bind, Except.ok.injEq]
    constructor
    · intro h
      split at h
      · exact Except.ok.inj h ▸ ⟨‹_›, rfl⟩
      · contradiction
    · rintro ⟨hlt, rfl⟩
      exact if_pos hlt

end Fields
end ClusterLink
