import ClusterLink.Proofs.Cbor.Places
import ClusterLink.Proofs.Envelope.RoundTrip
import ClusterLink.Proofs.Envelope.TagTable
/-!
Reading, writing and reading again. Main statement: `encode_decoded`, what was read from a body,
however it was spelt, can be written, and the written body is a fixed point: it is read as the same
envelope, a packet cut to its length, which is written as the same octets.
-/
namespace ClusterLink

open Cbor (Item)

section

variable {entries : List (Item × Item)} {tag : String}

theorem mem_of_firstUnder {value : Item} (h : firstUnder entries tag = some value) :
    (.text tag, value) ∈ entries := by
  obtain ⟨⟨key, item⟩, hentry, rfl⟩ := List.mem_map.1 (List.mem_of_head? h)
  obtain ⟨hmem, hkey⟩ := List.mem_filter.1 hentry
  have hkey : key = .text tag := by simpa using hkey
  exact hkey ▸ hmem

theorem mem_of_mem_otherTags {field : String × Item} (h : field ∈ otherTags entries) :
    field.1 ≠ "Op" ∧ (.text field.1, field.2) ∈ entries := by
  obtain ⟨hfield, hother⟩ := List.mem_filter.1 h
  refine ⟨by simpa using hother, ?_⟩
  obtain ⟨⟨key, value⟩, hentry, hkey⟩ := List.mem_filterMap.1 hfield
  cases key with
  | text name =>
    cases hkey
    exact hentry
  | _ => cases hkey

theorem otherTags_cons (key value : Item) (rest : List (Item × Item)) :
    otherTags ((key, value) :: rest) =
      (key.text?.filter (· ≠ "Op")).toList.map (·, value) ++ otherTags rest := by
  rw [otherTags, otherTags, List.filterMap_cons]
  cases hkey : key.text? with
  | none => rfl
  | some name => by_cases hname : name = "Op" <;> simp [hname, Option.filter]

/-- Entries under the operation's tag and under other tags are different ones. -/
theorem length_otherTags_add_le (entries : List (Item × Item)) :
    (otherTags entries).length + (valuesUnder entries "Op").length ≤ entries.length := by
  induction entries with
  | nil => exact Nat.le_refl _
  | cons entry rest ih =>
    obtain ⟨key, value⟩ := entry
    rw [valuesUnder_cons, otherTags_cons, List.length_append, List.length_cons, List.length_map]
    split
    · next hkey =>
      rw [hkey, List.length_cons]
      change 0 + _ + _ ≤ _
      omega
    · have hone : ((key.text?.filter (· ≠ "Op")).toList).length ≤ 1 := by
        cases key.text?.filter (· ≠ "Op") <;> simp
      omega

theorem length_otherTags_lt {code : Int} (h : integerUnder entries "Op" = some code) :
    (otherTags entries).length < entries.length := by
  have hle := length_otherTags_add_le entries
  obtain ⟨value, hvalue, -⟩ := List.mem_filterMap.1 (List.mem_of_head? h)
  have hpos : 0 < (valuesUnder entries "Op").length := List.length_pos_of_mem hvalue
  omega

end

namespace Envelope

variable {entries : List (Item × Item)}

theorem DenotesServer.lengthFits {item : Item} {server : ServerEntry}
    (h : DenotesServer item server) (hfits : item.every Item.lengthFits = true) :
    (serverItem server).every Item.lengthFits = true := by
  obtain ⟨entries, info, length, rfl, hinfo, -, -, hhost, -, hcut⟩ := h
  rw [Item.every, Bool.and_eq_true, Item.everyEntry_iff] at hfits
  have hhost := (hfits.2 _ (mem_of_firstUnder hhost)).2
  have hinfo := (hfits.2 _ (mem_of_firstUnder hinfo)).2
  have hshort : server.info.length < UInt64.size := by
    have hlong : info.length < UInt64.size := of_decide_eq_true hinfo
    rw [hcut]
    exact (List.length_take_le' _ _).trans_lt hlong
  rw [serverItem, Item.every, Bool.and_eq_true, Item.everyEntry_iff]
  refine ⟨rfl, ?_⟩
  rintro entry hentry
  simp only [List.mem_cons, List.not_mem_nil, or_false] at hentry
  rcases hentry with rfl | rfl | rfl | rfl
  · exact ⟨rfl, hhost⟩
  · exact ⟨rfl, rfl⟩
  · exact ⟨rfl, decide_eq_true hshort⟩
  · exact ⟨rfl, rfl⟩

theorem lengthFits_servers {items : List Item} {servers : List ServerEntry}
    (h : List.Forall₂ DenotesServer items servers)
    (hfits : Item.everyItem Item.lengthFits items = true) :
    Item.everyItem Item.lengthFits (servers.map serverItem) = true := by
  induction h with
  | nil => rfl
  | cons hserver _ ih =>
    rw [Item.everyItem, Bool.and_eq_true] at hfits
    rw [List.map_cons, Item.everyItem, Bool.and_eq_true]
    exact ⟨hserver.lengthFits hfits.1, ih hfits.2⟩

theorem DenotesServers.lengthFits {value : Option Item} {servers : List ServerEntry}
    (h : DenotesServers value servers)
    (hfits : ∀ item, value = some item → item.every Item.lengthFits = true) :
    (Item.array (servers.map serverItem)).every Item.lengthFits = true := by
  unfold DenotesServers at h
  split at h
  · subst h
    rfl
  · subst h
    rfl
  · next items =>
    have hitems := hfits _ rfl
    rw [Item.every, Bool.and_eq_true] at hitems ⊢
    have hcount : items.length < UInt64.size := of_decide_eq_true hitems.1
    refine ⟨?_, lengthFits_servers h hitems.2⟩
    rw [Item.lengthFits, List.length_map, ← h.length_eq]
    exact decide_eq_true hcount
  · exact h.elim

theorem Denotes.authFields_eq {envelope : Envelope} (h : envelope.Denotes entries) :
    envelope.authFields = [] ∨ envelope.authFields = otherTags entries := by
  cases envelope with
  | auth kind fields => exact .inr h
  | _ => exact .inl rfl

theorem Denotes.lengthFits {envelope : Envelope} (h : envelope.Denotes entries)
    (hcode : integerUnder entries "Op" = some (envelope.operation.code : Int))
    (hfits : (Item.map entries).every Item.lengthFits = true) :
    envelope.toItem.every Item.lengthFits = true := by
  rw [Item.every, Bool.and_eq_true, Item.everyEntry_iff] at hfits
  have hcount : envelope.authFields.length + 1 < UInt64.size := by
    have hentries : entries.length < UInt64.size := of_decide_eq_true hfits.1
    rcases h.authFields_eq with heq | heq <;> rw [heq]
    · decide
    · exact (Nat.succ_le_of_lt (length_otherTags_lt hcode)).trans_lt hentries
  have hfirst : ∀ {tag value}, firstUnder entries tag = some value →
      value.every Item.lengthFits = true := fun hvalue =>
    (hfits.2 _ (mem_of_firstUnder hvalue)).2
  apply lengthFits_toItem hcount
  cases envelope with
  | info cluster master =>
    simp only [tags, List.forall_mem_cons]
    exact ⟨⟨rfl, h.1.lengthFits fun _ => hfirst⟩, ⟨rfl, h.2.lengthFits fun _ => hfirst⟩, by simp⟩
  | connect target =>
    simp only [tags, List.forall_mem_cons]
    exact ⟨⟨rfl, hfirst h⟩, by simp⟩
  | disconnect => simp [tags]
  | serverConnected server internal owned =>
    simp only [tags, List.forall_mem_cons]
    exact ⟨⟨rfl, hfirst h.1⟩, ⟨rfl, rfl⟩, ⟨rfl, rfl⟩, by simp⟩
  | serverDisconnected reason message =>
    cases message with
    | none =>
      simp only [tags, List.forall_mem_cons]
      exact ⟨⟨rfl, rfl⟩, by simp⟩
    | some message =>
      obtain ⟨item, hitem, htext⟩ := Option.bind_eq_some_iff.1 h.2.symm
      obtain rfl := Item.text?_eq_some_iff.1 htext
      simp only [tags, List.forall_mem_cons, Option.map_some, Option.toList_some]
      exact ⟨⟨rfl, rfl⟩, ⟨rfl, hfirst hitem⟩, by simp⟩
  | serverResponse id payload success =>
    simp only [tags, List.forall_mem_cons]
    exact ⟨⟨rfl, rfl⟩, ⟨rfl, hfirst h.2.2.1⟩, ⟨rfl, rfl⟩, by simp⟩
  | command text id =>
    simp only [tags, List.forall_mem_cons]
    exact ⟨⟨rfl, hfirst h.2.2⟩, ⟨rfl, rfl⟩, by simp⟩
  | packet channel data length =>
    have hdata : data.length < UInt64.size := of_decide_eq_true (hfirst h.1)
    have hshort : (data.take length.toNat).length < UInt64.size :=
      (List.length_take_le' _ _).trans_lt hdata
    simp only [tags, List.forall_mem_cons]
    exact ⟨⟨rfl, rfl⟩, ⟨rfl, decide_eq_true hshort⟩, ⟨rfl, rfl⟩, by simp⟩
  | chat message =>
    simp only [tags, List.forall_mem_cons]
    exact ⟨⟨rfl, hfirst h⟩, by simp⟩
  | auth kind fields =>
    subst h
    exact fun field hfield => hfits.2 _ (mem_of_mem_otherTags hfield).2

/-- What a map that was read denotes can be read again. -/
theorem Denotes.legible {envelope : Envelope} (h : envelope.Denotes entries)
    (hcode : integerUnder entries "Op" = some (envelope.operation.code : Int))
    (hnesting : (Item.map entries).nesting ≤ Cbor.nestingLimit)
    (hfits : (Item.map entries).every Item.lengthFits = true)
    (hstable : (Item.map entries).every Item.isStable = true) : envelope.Legible := by
  have hauth : envelope.authFields ⊆ otherTags entries := by
    rcases h.authFields_eq with heq | heq <;> rw [heq]
    · exact List.nil_subset _
    · exact List.Subset.refl _
  constructor
  case commandId =>
    intro id hid
    cases envelope with
    | serverResponse number payload success =>
      cases hid
      exact h.2.1
    | command text number =>
      cases hid
      exact h.2.1
    | _ => cases hid
  case fieldTags =>
    intro field hfield
    exact (mem_of_mem_otherTags (hauth hfield)).1
  case nesting =>
    intro field hfield
    have hentry := (mem_of_mem_otherTags (hauth hfield)).2
    rw [Item.nesting, Nat.succ_le_iff] at hnesting
    exact ((Item.nestingEntries_le_iff.1 (Nat.le_refl _) _ hentry).2).trans_lt hnesting
  case stable =>
    intro field hfield
    have hentry := (mem_of_mem_otherTags (hauth hfield)).2
    rw [Item.every, Bool.and_eq_true, Item.everyEntry_iff] at hstable
    exact (hstable.2 _ hentry).2
  case lengths => exact h.lengthFits hcode hfits

theorem Denotes.isOverlong {envelope : Envelope} (h : envelope.Denotes entries) :
    envelope.isOverlong = false := by
  cases envelope with
  | packet channel data length => exact decide_eq_false (Nat.not_lt.2 h.2.2.1)
  | _ => rfl

theorem toItem_trimmed (envelope : Envelope) : envelope.trimmed.toItem = envelope.toItem := by
  cases envelope with
  | packet channel data length => simp [trimmed, toItem, tags, operation]
  | _ => rfl

theorem isOverlong_trimmed {envelope : Envelope} (h : envelope.isOverlong = false) :
    envelope.trimmed.isOverlong = false := by
  cases envelope with
  | packet channel data length =>
    have hle : length.toNat ≤ data.length := by simpa [isOverlong] using h
    simp [trimmed, isOverlong, hle]
  | _ => rfl

theorem exists_denotes_of_decode {body : Octets} {envelope : Envelope}
    (h : decode body = .ok envelope) :
    ∃ entries rest, Item.read? body = some (.map entries, rest) ∧
      integerUnder entries "Op" = some (envelope.operation.code : Int) ∧
      envelope.Denotes entries := by
  cases hread : Item.read? body with
  | none => simp [decode, hread] at h
  | some pair =>
    obtain ⟨item, rest⟩ := pair
    rw [decode_of_read hread] at h
    cases hitem : ofItem item with
    | error cause =>
      rw [hitem] at h
      cases h
    | ok found =>
      rw [hitem] at h
      cases h
      cases item with
      | map entries => exact ⟨entries, rest, rfl, ofItem_map_eq_ok_iff.1 hitem⟩
      | _ => cases hitem

/-- An envelope that was read from any body is within the ranges of its tags and can be written. The
body that is written is a fixed point: it is read as the same envelope, a packet cut to its length,
and that envelope is written as the same body. A body in memory has fewer than `2 ^ 64` octets. Only
a tag over a streamed magnitude is left out, for it becomes an integer once the length of the
magnitude is stated. -/
theorem encode_decoded {body : Octets} {envelope : Envelope} (hsize : body.length < UInt64.size)
    (hplain : ∀ place ∈ Item.places Cbor.nestingLimit body,
      Item.isStreamedMagnitude place = false)
    (h : decode body = .ok envelope) :
    (∀ id ∈ envelope.commandId?, id.toNat < commandIdSpace) ∧
      envelope.isOverlong = false ∧
      (∀ field ∈ envelope.authFields, field.1 ≠ "Op") ∧
      ∃ body', envelope.encode = .ok body' ∧ decode body' = .ok envelope.trimmed ∧
        envelope.trimmed.encode = .ok body' := by
  obtain ⟨entries, rest, hread, hcode, hdenotes⟩ := exists_denotes_of_decode h
  have hfits := Item.every_lengthFits_of_readNested hsize hread
  have hstable := Item.every_isStable_of_readNested hplain hread
  have hlegible : envelope.Legible :=
    hdenotes.legible hcode (Item.nesting_le_of_readNested hread) hfits hstable
  have hwithin := hdenotes.isOverlong
  refine ⟨hlegible.commandId, hwithin, hlegible.fieldTags, envelope.toItem.write,
    encode_of_not_isOverlong hwithin, hlegible.decode_write hwithin, ?_⟩
  rw [encode_of_not_isOverlong (isOverlong_trimmed hwithin), toItem_trimmed]

/-- Streamed and overlong spellings: the operation is a tagged magnitude under a tag in two parts,
one tag is repeated, a key is no text, and there are an undefined value, a signalling NaN, a big
integer with leading zeros and a magnitude that is too long for one. -/
def spelledOut : Octets :=
  [0xBF,
    0x78, 2, 79, 112, 0x58, 1, 8,
    0x7F, 0x61, 79, 0x60, 0x61, 112, 0xFF, 0xC2, 0x42, 0, 8,
    0x61, 65, 0xF7,
    0x61, 65, 0xC3, 0x50, 0, 0, 0, 0, 0, 0, 0, 1, 0, 0, 0, 0, 0, 0, 0, 0,
    0x61, 66, 0x9F, 0xF9, 0x7C, 1, 0xDB, 0, 0, 0, 0, 0, 0, 0, 3, 0xF6, 0xFF,
    1, 0xA0,
    0x61, 67, 0xD8, 2, 0x5F, 0x51, 0, 0, 0, 0, 0, 0, 0, 0, 0, 0, 0, 0, 0, 0, 0, 0, 1, 0xFF,
    0xFF, 0]

def spelledOutSignIn : Envelope :=
  .auth .discordCode [("A", .null), ("A", .tag 3 (.bytes [1, 0, 0, 0, 0, 0, 0, 0, 0])),
    ("B", .array [.float 0x7FF8040000000000, .tag 3 .null]),
    ("C", .tag 2 (.bytes (List.replicate 16 0 ++ [1])))]

theorem encode_decoded_spelledOut : decode spelledOut = .ok spelledOutSignIn ∧
    ∃ body', spelledOutSignIn.encode = .ok body' ∧ body' ≠ spelledOut ∧
      decode body' = .ok spelledOutSignIn := by
  have hread : decode spelledOut = .ok spelledOutSignIn := by decide +kernel
  have hplain : ∀ place ∈ Item.places Cbor.nestingLimit spelledOut,
      Item.isStreamedMagnitude place = false := by decide +kernel
  obtain ⟨-, -, -, body', hwritten, hagain, -⟩ := encode_decoded (by decide) hplain hread
  refine ⟨hread, body', hwritten, ?_, hagain⟩
  rintro rfl
  revert hwritten
  decide +kernel

/-- A streamed magnitude is read as an integer once its length is stated. -/
example :
    decode [0xA2, 0x62, 79, 112, 8, 0x61, 65, 0xC2, 0x5F, 0x41, 1, 0xFF] =
        .ok (.auth .discordCode [("A", .tag 2 (.bytes [1]))]) ∧
      decode (toItem (.auth .discordCode [("A", .tag 2 (.bytes [1]))])).write =
        .ok (.auth .discordCode [("A", .unsigned 1)]) := by decide +kernel

end Envelope

end ClusterLink
