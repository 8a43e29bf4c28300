import ClusterLink.Proofs.Cbor.Delimiting
import ClusterLink.Proofs.Envelope.Reencoding
/-!
A body tells where it ends. Main statement: `decode_delimited`, a written body is refused wherever
it is cut short, and what follows a body that can be read is ignored.
-/
namespace ClusterLink.Envelope

open Cbor (Item)

theorem eq_write_of_encode {envelope : Envelope} {body : Octets} (h : envelope.encode = .ok body) :
    body = envelope.toItem.write := by
  cases envelope with
  | packet channel data length =>
    rw [encode] at h
    split at h <;> cases h
    rfl
  | _ =>
    cases h
    rfl

theorem decode_of_unread {body : Octets} (h : Item.read? body = none) :
    decode body = .error (.malformed .invalidCbor) := by
  simp only [decode, h]

/-- What follows a body is ignored. -/
theorem decode_append {body : Octets} {envelope : Envelope} (h : decode body = .ok envelope)
    (suffix : Octets) : decode (body ++ suffix) = .ok envelope := by
  obtain ⟨entries, rest, hread, -⟩ := exists_denotes_of_decode h
  have hlonger := Item.extends_readNested Cbor.nestingLimit _ _ _ suffix hread
  rw [decode_of_read hlonger, ← decode_of_read hread, h]

/-- A written body that can be read takes up all of its octets, even if the envelope that is read is
not the one that was written. -/
theorem read?_of_encode {envelope read : Envelope} {body : Octets}
    (hsize : body.length < UInt64.size) (hbody : envelope.encode = .ok body)
    (hread : decode body = .ok read) : ∃ entries, Item.read? body = some (.map entries, []) := by
  obtain ⟨entries, rest, hitem, -⟩ := exists_denotes_of_decode hread
  obtain rfl := eq_write_of_encode hbody
  have hfits := Item.every_lengthFits_of_write envelope.toItem hsize
  rw [← List.append_nil envelope.toItem.write] at hitem
  obtain rfl := Item.rest_of_readNested_write envelope.toItem hfits hitem
  rw [List.append_nil] at hitem
  exact ⟨entries, hitem⟩

/-- A written body that can be read is refused wherever it is cut short, at no cost to the stream,
and every body that can be read is read the same whatever follows it. So no part of a body is taken
for another envelope, and no octets behind one alter it. A body in memory has fewer than `2 ^ 64`
octets. -/
theorem decode_delimited {envelope read : Envelope} {body : Octets}
    (hsize : body.length < UInt64.size) (hbody : envelope.encode = .ok body)
    (hread : decode body = .ok read) :
    (∀ cut < body.length, ∃ error, decode (body.take cut) = .error error ∧
      error = .malformed .invalidCbor ∧ error.fatal = false) ∧
    (∀ suffix, decode (body ++ suffix) = .ok read) ∧
    ∀ body' found, decode body' = .ok found →
      ∀ suffix, decode (body' ++ suffix) = .ok found := by
  obtain ⟨entries, hitem⟩ := read?_of_encode hsize hbody hread
  refine ⟨fun cut hcut => ?_, decode_append hread, fun body' found => decode_append⟩
  exact ⟨_, decode_of_unread (Item.read?_take_eq_none hitem hcut), rfl, rfl⟩

/-- A sign-in whose tagged magnitude is read as an integer. -/
def taggedSignIn : Envelope :=
  .auth .succeeded [("A", .array [.tag 2 (.bytes [1]), .text "é"])]

def taggedBody : Octets :=
  [0xA2, 0x62, 79, 112, 9, 0x61, 65, 0x82, 0xC2, 0x41, 1, 0x62, 0xC3, 0xA9]

theorem decode_delimited_taggedSignIn : taggedSignIn.encode = .ok taggedBody ∧
    decode taggedBody = .ok (.auth .succeeded [("A", .array [.unsigned 1, .text "é"])]) ∧
    (∀ cut < 14, ∃ error, decode (taggedBody.take cut) = .error error ∧
      error = .malformed .invalidCbor ∧ error.fatal = false) ∧
    ∀ suffix, decode (taggedBody ++ suffix) =
      .ok (.auth .succeeded [("A", .array [.unsigned 1, .text "é"])]) := by
  have hbody : taggedSignIn.encode = .ok taggedBody := by decide +kernel
  have hread : decode taggedBody =
      .ok (.auth .succeeded [("A", .array [.unsigned 1, .text "é"])]) := by decide +kernel
  obtain ⟨hparts, hsuffix, -⟩ := decode_delimited (by decide) hbody hread
  exact ⟨hbody, hread, hparts, hsuffix⟩

end ClusterLink.Envelope
