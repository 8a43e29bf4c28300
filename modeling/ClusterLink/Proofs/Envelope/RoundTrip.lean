import ClusterLink.Proofs.Cbor.RoundTrip
import ClusterLink.Proofs.Envelope.Fields
/-!
Envelopes survive their body. Main statement: `decode_encode`, a body exists for all but an overlong
packet, and reading it gives the envelope again, less what a packet holds behind its length. What
reading back really needs is `Legible`, which also lets a tag stand for a big integer.
-/
namespace ClusterLink

open Cbor (Item)

namespace Fields

/-- A server entry is read back from its item. -/
theorem server_serverItem (fields : Fields) (tag : String) {entry : ServerEntry}
    (h : entry.info.length < UInt64.size) :
    fields.server tag (Envelope.serverItem entry) = .ok entry := by
  rw [Envelope.serverItem, server]
  generalize hinner : Fields.mk fields.operation _ = inner
  have hinfo : inner.bytes "Info" = .ok entry.info := bytes_eq_ok_iff.2 (by simp [← hinner])
  have hlength : inner.number "Length" UInt64.size = .ok entry.info.length :=
    number_eq_ok_iff.2
      ⟨.ofNat entry.info.length, by simp [← hinner], by simp [Nat.mod_eq_of_lt h], h⟩
  have hhost : inner.text "Host" = .ok entry.host := text_eq_ok_iff.2 (by simp [← hinner])
  have hport : inner.word "Port" = .ok entry.port :=
    word_eq_ok_iff.2 ⟨entry.port.toUInt64, by simp [← hinner], by simp⟩
  simp [hinfo, hlength, hhost, hport, bind, Except.bind]

theorem mapM_serverItem (fields : Fields) (tag : String) {entries : List ServerEntry}
    (h : ∀ entry ∈ entries, entry.info.length < UInt64.size) :
    (entries.map Envelope.serverItem).mapM (fields.server tag) = .ok entries := by
  induction entries with
  | nil => rfl
  | cons entry rest ih =>
    rw [List.forall_mem_cons] at h
    simp [List.mapM_cons, server_serverItem fields tag h.1, ih h.2, bind, Except.bind, pure,
      Except.pure]

end Fields

namespace Envelope

def commandId? : Envelope → Option UInt16
  | .serverResponse id _ _ => some id
  | .command _ id => some id
  | _ => none

def authFields : Envelope → List (String × Item)
  | .auth _ fields => fields
  | _ => []

/-- Whether an envelope is a packet whose length exceeds its data. -/
def isOverlong : Envelope → Bool
  | .packet _ data length => data.length < length.toNat
  | _ => false

/-- An envelope that its body can carry: its command id is in the id space, sign-in fields leave the
operation's tag alone, nest within the limit and hold no integer in disguise, and lengths are 64-bit
numbers. -/
structure WellFormed (envelope : Envelope) : Prop where
  commandId : ∀ id ∈ envelope.commandId?, id.toNat < commandIdSpace
  tags : ∀ field ∈ envelope.authFields, field.1 ≠ "Op"
  nesting : ∀ field ∈ envelope.authFields, field.2.nesting < Cbor.nestingLimit
  ordinary : ∀ field ∈ envelope.authFields, field.2.every Item.isOrdinary = true
  lengths : envelope.toItem.every Item.lengthFits = true

/-- An envelope that is read back from its body. Unlike in a well-formed one, a tag may stand for a
big integer if its magnitude is the shortest. -/
structure Legible (envelope : Envelope) : Prop where
  commandId : ∀ id ∈ envelope.commandId?, id.toNat < commandIdSpace
  fieldTags : ∀ field ∈ envelope.authFields, field.1 ≠ "Op"
  nesting : ∀ field ∈ envelope.authFields, field.2.nesting < Cbor.nestingLimit
  stable : ∀ field ∈ envelope.authFields, field.2.every Item.isStable = true
  lengths : envelope.toItem.every Item.lengthFits = true

theorem WellFormed.legible {envelope : Envelope} (h : envelope.WellFormed) : envelope.Legible where
  commandId := h.commandId
  fieldTags := h.tags
  nesting := h.nesting
  stable field hf := Item.every_imp (fun _ => Item.isStable_of_isOrdinary) _ (h.ordinary field hf)
  lengths := h.lengths

theorem nesting_serverItem (entry : ServerEntry) : (serverItem entry).nesting = 1 := by
  simp [serverItem, Item.nesting, Item.nestingEntries]

theorem stable_serverItem (entry : ServerEntry) :
    (serverItem entry).every Item.isStable = true := by
  simp [serverItem, Item.every, Item.everyEntry, Item.isStable]

namespace Legible

/-- What is under the tags of an envelope leaves a level for the map around it. -/
theorem nesting_tags_lt {envelope : Envelope} (h : envelope.Legible)
    {field : String × Item} (hf : field ∈ envelope.tags) :
    field.2.nesting < Cbor.nestingLimit ∧ field.2.every Item.isStable = true := by
  have hservers (entries : List ServerEntry) :
      (Item.array (entries.map serverItem)).nesting < Cbor.nestingLimit ∧
        (Item.array (entries.map serverItem)).every Item.isStable = true := by
    have hnest : Item.nestingAll (entries.map serverItem) ≤ 1 := by
      simp [Item.nestingAll_le_iff, nesting_serverItem]
    have hevery : Item.everyItem Item.isStable (entries.map serverItem) = true := by
      simp [Item.everyItem_iff, stable_serverItem]
    refine ⟨?_, by simpa [Item.every, Item.isStable] using hevery⟩
    rw [Item.nesting, Cbor.nestingLimit]
    omega
  cases envelope with
  | info cluster master =>
    simp only [tags, List.mem_cons, List.not_mem_nil, or_false] at hf
    rcases hf with rfl | rfl
    · exact hservers cluster
    · exact hservers master
  | auth kind fields => exact ⟨h.nesting field hf, h.stable field hf⟩
  | serverDisconnected reason message =>
    cases message <;> simp [tags] at hf <;> rcases hf with rfl | rfl <;>
      simp [Item.nesting, Item.every, Item.isStable, Cbor.nestingLimit]
  | disconnect => simp [tags] at hf
  | _ =>
    simp only [tags, List.mem_cons, List.not_mem_nil, or_false] at hf
    rcases hf with rfl | rfl | rfl <;>
      simp [Item.nesting, Item.every, Item.isStable, Cbor.nestingLimit]

theorem nesting_toItem_le {envelope : Envelope} (h : envelope.Legible) :
    envelope.toItem.nesting ≤ Cbor.nestingLimit := by
  rw [toItem, Item.nesting, Nat.succ_le_iff, ← Nat.le_sub_one_iff_lt (by decide),
    Item.nestingEntries_le_iff]
  simp only [List.forall_mem_cons, List.forall_mem_map]
  refine ⟨⟨by simp [Item.nesting], by simp [Item.nesting]⟩, fun field hf => ⟨?_, ?_⟩⟩
  · simp [Item.nesting]
  · exact Nat.le_sub_one_of_lt (h.nesting_tags_lt hf).1

theorem stable_toItem {envelope : Envelope} (h : envelope.Legible) :
    envelope.toItem.every Item.isStable = true := by
  rw [toItem, Item.every, Bool.and_eq_true, Item.everyEntry_iff]
  simp only [List.forall_mem_cons, List.forall_mem_map]
  exact ⟨rfl, ⟨rfl, rfl⟩, fun field hf => ⟨rfl, (h.nesting_tags_lt hf).2⟩⟩

end Legible

theorem nesting_toItem_le {envelope : Envelope} (h : envelope.WellFormed) :
    envelope.toItem.nesting ≤ Cbor.nestingLimit := h.legible.nesting_toItem_le

theorem stable_toItem {envelope : Envelope} (h : envelope.WellFormed) :
    envelope.toItem.every Item.isStable = true := h.legible.stable_toItem

theorem length_tags_le (envelope : Envelope) :
    envelope.tags.length ≤ max 3 envelope.authFields.length := by
  cases envelope with
  | serverDisconnected reason message => cases message <;> simp [tags]
  | _ => simp [tags, authFields]

/-- Lengths fit the body of an envelope if its tags and what is under them fit. -/
theorem lengthFits_toItem {envelope : Envelope}
    (hcount : envelope.authFields.length + 1 < UInt64.size)
    (hfields : ∀ field ∈ envelope.tags, (Item.text field.1).every Item.lengthFits = true ∧
      field.2.every Item.lengthFits = true) :
    envelope.toItem.every Item.lengthFits = true := by
  rw [toItem, Item.every, Bool.and_eq_true, Item.everyEntry_iff, List.forall_mem_cons,
    List.forall_mem_map]
  refine ⟨?_, ⟨rfl, rfl⟩, hfields⟩
  have hlength := length_tags_le envelope
  have hsize : 4 < UInt64.size := by decide
  rw [Item.lengthFits, List.length_cons, List.length_map]
  exact decide_eq_true (by omega)

theorem Legible.lengthFits_tags {envelope : Envelope} (h : envelope.Legible)
    {field : String × Item} (hf : field ∈ envelope.tags) :
    field.2.every Item.lengthFits = true := by
  have hl := h.lengths
  rw [toItem, Item.every, Bool.and_eq_true, Item.everyEntry_iff] at hl
  simp only [List.forall_mem_cons, List.forall_mem_map] at hl
  exact (hl.2.2 field hf).2

theorem length_info_lt {entries : List ServerEntry}
    (h : (Item.array (entries.map serverItem)).every Item.lengthFits = true) :
    ∀ entry ∈ entries, entry.info.length < UInt64.size := by
  rw [Item.every, Bool.and_eq_true, Item.everyItem_iff, List.forall_mem_map] at h
  intro entry he
  have hentry := h.2 entry he
  rw [serverItem, Item.every, Bool.and_eq_true, Item.everyEntry_iff] at hentry
  have hinfo := hentry.2 (.text "Info", .bytes entry.info) (by simp)
  exact of_decide_eq_true hinfo.2

theorem ofItem_toItem_eq (envelope : Envelope) : ofItem envelope.toItem =
    Fields.envelope ⟨envelope.operation,
      (.text "Op", .unsigned (UInt64.ofNat envelope.operation.code)) ::
        envelope.tags.map fun (tag, value) => (.text tag, value)⟩ := by
  have hcode : envelope.operation.code < UInt64.size := by
    rcases envelope.operation with _ | _ | _ | _ | _ | _ | _ | _ | (_ | _ | _) | _ <;> decide
  simp [ofItem, toItem, operationCode?, Item.int?, Nat.mod_eq_of_lt hcode]

theorem Legible.ofItem_toItem {envelope : Envelope} (h : envelope.Legible)
    (hl : envelope.isOverlong = false) : ofItem envelope.toItem = .ok envelope.trimmed := by
  rw [ofItem_toItem_eq]
  generalize hfields : Fields.mk _ _ = fields
  have hoperation : fields.operation = envelope.operation := by rw [← hfields]
  cases envelope with
  | info cluster master =>
    have hcluster : fields.servers "Cluster" = .ok cluster := by
      have hlength := length_info_lt (h.lengthFits_tags (List.mem_cons_self))
      have hget : fields.get? "Cluster" = some (.array (cluster.map serverItem)) := by
        simp [← hfields, tags]
      rw [Fields.servers, hget]
      exact fields.mapM_serverItem "Cluster" hlength
    have hmaster : fields.servers "Master" = .ok master := by
      have hlength := length_info_lt
        (h.lengthFits_tags (List.mem_cons_of_mem _ List.mem_cons_self))
      have hget : fields.get? "Master" = some (.array (master.map serverItem)) := by
        simp [← hfields, tags]
      rw [Fields.servers, hget]
      exact fields.mapM_serverItem "Master" hlength
    simp [Fields.envelope, hoperation, operation, hcluster, hmaster, trimmed, bind, Except.bind]
  | connect target =>
    have htarget : fields.text "Target" = .ok target :=
      Fields.text_eq_ok_iff.2 (by simp [← hfields, tags])
    simp [Fields.envelope, hoperation, operation, htarget, trimmed, bind, Except.bind]
  | disconnect => simp [Fields.envelope, hoperation, operation, trimmed]
  | serverConnected server internal owned =>
    have hserver : fields.text "Server" = .ok server :=
      Fields.text_eq_ok_iff.2 (by simp [← hfields, tags])
    have hinternal : fields.bool "Internal" = .ok internal :=
      Fields.bool_eq_ok_iff.2 (by simp [← hfields, tags])
    have howned : fields.bool "Owned" = .ok owned :=
      Fields.bool_eq_ok_iff.2 (by simp [← hfields, tags])
    simp [Fields.envelope, hoperation, operation, hserver, hinternal, howned, trimmed, bind,
      Except.bind]
  | serverDisconnected reason message =>
    have hreason : fields.word "Reason" = .ok reason :=
      Fields.word_eq_ok_iff.2 ⟨reason.toUInt64, by simp [← hfields, tags], by simp⟩
    have hmessage : fields.get? "Message" = message.map Item.text := by
      cases message <;> simp [← hfields, tags, Fields.get?]
    cases message <;>
      simp [Fields.envelope, hoperation, operation, hreason, hmessage, trimmed, bind, Except.bind]
  | serverResponse id payload success =>
    have hid : fields.commandId = .ok id := Fields.commandId_eq_ok_iff.2
      ⟨h.commandId id rfl, id.toUInt64, by simp [← hfields, tags], by simp⟩
    have hpayload : fields.text "Response" = .ok payload :=
      Fields.text_eq_ok_iff.2 (by simp [← hfields, tags])
    have hsuccess : fields.bool "Success" = .ok success :=
      Fields.bool_eq_ok_iff.2 (by simp [← hfields, tags])
    simp [Fields.envelope, hoperation, operation, hid, hpayload, hsuccess, trimmed, bind,
      Except.bind]
  | command text id =>
    have hid : fields.commandId = .ok id := Fields.commandId_eq_ok_iff.2
      ⟨h.commandId id rfl, id.toUInt64, by simp [← hfields, tags], by simp⟩
    have htext : fields.text "Command" = .ok text :=
      Fields.text_eq_ok_iff.2 (by simp [← hfields, tags])
    simp [Fields.envelope, hoperation, operation, hid, htext, trimmed, bind, Except.bind]
  | packet channel data length =>
    have hle : length.toNat ≤ data.length := by simpa [isOverlong] using hl
    have hdata : fields.bytes "Data" = .ok (data.take length.toNat) :=
      Fields.bytes_eq_ok_iff.2 (by simp [← hfields, tags])
    have hlength : fields.number "Length" UInt32.size = .ok length.toNat :=
      Fields.number_eq_ok_iff.2
        ⟨length.toUInt64, by simp [← hfields, tags], by simp, length.toNat_lt⟩
    have hchannel : fields.word "Channel" = .ok channel :=
      Fields.word_eq_ok_iff.2 ⟨channel.toUInt64, by simp [← hfields, tags], by simp⟩
    simp [Fields.envelope, hoperation, operation, hdata, hlength, hchannel, hle, trimmed, bind,
      Except.bind]
  | chat message =>
    have hmessage : fields.text "Message" = .ok message :=
      Fields.text_eq_ok_iff.2 (by simp [← hfields, tags])
    simp [Fields.envelope, hoperation, operation, hmessage, trimmed, bind, Except.bind]
  | auth kind tagged =>
    have hrest : fields.rest = tagged := by
      have hkept : ∀ field ∈ tagged,
          (if field.1 = "Op" then none else some (field.1, field.2)) = some field := fun field hf =>
        if_neg (h.fieldTags field hf)
      rw [← hfields, Fields.rest, List.filterMap_cons, List.filterMap_map]
      simp only [if_true]
      exact (List.filterMap_congr hkept).trans List.filterMap_some
    simp [Fields.envelope, hoperation, operation, hrest, trimmed]

theorem ofItem_toItem {envelope : Envelope} (h : envelope.WellFormed)
    (hl : envelope.isOverlong = false) : ofItem envelope.toItem = .ok envelope.trimmed :=
  h.legible.ofItem_toItem hl

theorem Legible.decode_write {envelope : Envelope} (h : envelope.Legible)
    (hl : envelope.isOverlong = false) : decode envelope.toItem.write = .ok envelope.trimmed := by
  have hread : Item.read? envelope.toItem.write = some (envelope.toItem, []) := by
    simpa [Item.read?] using Item.readNested_write envelope.toItem Cbor.nestingLimit []
      h.nesting_toItem_le h.lengths h.stable_toItem
  rw [decode, hread]
  simp only [h.ofItem_toItem hl]
  rfl

theorem encode_of_not_isOverlong {envelope : Envelope} (h : envelope.isOverlong = false) :
    envelope.encode = .ok envelope.toItem.write := by
  cases envelope with
  | packet channel data length => exact if_neg (of_decide_eq_false h)
  | _ => rfl

/-- A well-formed envelope has a body unless it is an overlong packet, and what is read from its
body is the envelope, a packet cut to its length. -/
theorem decode_encode {envelope : Envelope} (h : envelope.WellFormed) :
    (envelope.isOverlong = true →
      ∃ length available, envelope.encode = .error (.unencodable length available)) ∧
    (envelope.isOverlong = false →
      ∃ body, envelope.encode = .ok body ∧ decode body = .ok envelope.trimmed) := by
  constructor
  · intro hover
    cases envelope with
    | packet channel data length =>
      exact ⟨length.toNat, data.length, if_pos (of_decide_eq_true hover)⟩
    | _ => contradiction
  · intro hover
    refine ⟨envelope.toItem.write, ?_, ?_⟩
    · cases envelope with
      | packet channel data length => exact if_neg (of_decide_eq_false hover)
      | _ => rfl
    · have hread : Item.read? envelope.toItem.write = some (envelope.toItem, []) := by
        simpa [Item.read?] using Item.readNested_write envelope.toItem Cbor.nestingLimit []
          (nesting_toItem_le h) h.lengths (stable_toItem h)
      simp only [decode, hread, ofItem_toItem h hover]
      rfl

/-- Sign-in traffic with a repeated tag, a long magnitude, a signalling NaN and nested tags. -/
def nestedSignIn : Envelope :=
  .auth .succeeded [("Code", .text "xyz"), ("Code", .null),
    ("Discord", .map [(.array [.negative 18446744073709551615, .array []],
        .tag 2 (.bytes (List.replicate 17 1))),
      (.float 0x7FF0000000000001, .tag 3 (.tag 2 .null))])]

theorem decode_encode_nestedSignIn : nestedSignIn.WellFormed ∧
    ∃ body, nestedSignIn.encode = .ok body ∧ decode body = .ok nestedSignIn := by
  have h : nestedSignIn.WellFormed :=
    ⟨by simp [nestedSignIn, commandId?], by decide, by decide, by decide, by decide +kernel⟩
  exact ⟨h, (decode_encode h).2 rfl⟩

end Envelope
end ClusterLink
