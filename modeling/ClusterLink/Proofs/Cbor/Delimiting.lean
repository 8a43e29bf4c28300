import ClusterLink.Proofs.Cbor.Reading
/-!
Where an item ends is read off the item. Main statements: `extends_readNested`, an item at the front
is read the same whatever follows it, `rest_of_readNested_write`, reading a written item takes up
what was written and no more, even if it is not the same item that is read, and
`read?_take_eq_none`, nothing is read from a part of what is one item.
-/
namespace ClusterLink

theorem Octets.split?_extends {n : Nat} {s front rest : Octets} (more : Octets)
    (h : split? n s = some (front, rest)) : split? n (s ++ more) = some (front, rest ++ more) := by
  obtain ⟨rfl, rfl⟩ := split?_eq_some h
  rw [List.append_assoc, split?_append]

namespace Cbor

namespace Reader

variable {α : Type} {reader : Reader α}

/-- What is read is read the same, whatever follows. -/
def Extends (reader : Reader α) : Prop :=
  ∀ s a rest more, reader s = some (a, rest) → reader (s ++ more) = some (a, rest ++ more)

end Reader

theorem Head.extends_read? : Reader.Extends Head.read? := by
  intro s head rest more h
  cases s with
  | nil => cases h
  | cons initial tail =>
    rw [List.cons_append]
    simp only [read?] at h ⊢
    split at h
    · next hlow =>
      cases h
      rw [if_pos hlow]
    · next hlow =>
      rw [if_neg hlow]
      split at h
      · next hwide =>
        obtain ⟨⟨front, behind⟩, hsplit, heq⟩ := Option.map_eq_some_iff.1 h
        cases heq
        rw [if_pos hwide, Octets.split?_extends more hsplit, Option.map_some]
      · next hwide =>
        rw [if_neg hwide]
        split at h
        · next hstreamed =>
          cases h
          rw [if_pos hstreamed]
        · cases h

namespace Reader

variable {α : Type} {reader : Reader α}

theorem Extends.pair (hr : reader.Extends) : (Reader.pair reader reader).Extends := by
  intro s entry rest more h
  simp only [Reader.pair, Option.bind_eq_bind, Option.bind_eq_some_iff, Prod.exists] at h
  obtain ⟨key, behind, hkey, value, after, hvalue, heq⟩ := h
  cases heq
  simp [Reader.pair, hr _ _ _ more hkey, hr _ _ _ more hvalue]

theorem Extends.times (hr : reader.Extends) (n : Nat) : (Reader.times reader n).Extends := by
  induction n with
  | zero =>
    intro s values rest more h
    cases h
    rfl
  | succ n ih =>
    intro s values rest more h
    obtain ⟨first, behind, values, hfirst, hmore, rfl⟩ := times_succ_eq_some h
    simp [Reader.times, hr _ _ _ more hfirst, ih _ _ _ more hmore]

/-- The limit grows with the octets. A value in front of a break is not empty, so that the first
octet tells the two apart. -/
theorem Extends.upToBreak (hr : reader.Extends) (ha : reader.Advances) {limit limit' : Nat}
    {s rest : Octets} {values : List α} (more : Octets) (hlimit : limit ≤ limit')
    (h : Reader.upToBreak reader limit s = some (values, rest)) :
    Reader.upToBreak reader limit' (s ++ more) = some (values, rest ++ more) := by
  induction limit generalizing limit' s values with
  | zero => cases h
  | succ limit ih =>
    obtain ⟨limit', rfl⟩ := Nat.exists_eq_add_one.2 (Nat.zero_lt_of_lt hlimit)
    rw [Reader.upToBreak] at h ⊢
    split at h
    · next hbreak =>
      cases h
      obtain ⟨tail, rfl⟩ := List.head?_eq_some_iff.1 hbreak
      rfl
    · next hbreak =>
      simp only [Option.bind_eq_bind, Option.bind_eq_some_iff, Prod.exists] at h
      obtain ⟨first, behind, hfirst, later, after, hlater, heq⟩ := h
      cases heq
      have hhead : (s ++ more).head? = s.head? := by
        cases s with
        | nil => exact absurd (ha _ _ _ hfirst) (Nat.not_lt_zero _)
        | cons octet tail => rfl
      rw [hhead, if_neg hbreak]
      simp [hr _ _ _ more hfirst, ih (Nat.le_of_succ_le_succ hlimit) hlater]

theorem Extends.counted (hr : reader.Extends) (ha : reader.Advances) (argument : Argument) :
    (Reader.counted reader argument).Extends := by
  intro s values rest more h
  cases argument with
  | sized width n => exact hr.times n _ _ _ more h
  | streamed =>
    have hlimit : s.length ≤ (s ++ more).length := by
      rw [List.length_append]
      omega
    exact hr.upToBreak ha more hlimit h

theorem parts_extends {major limit limit' depth : Nat} {s rest : Octets} {strings : List Octets}
    (more : Octets) (hlimit : limit ≤ limit')
    (h : parts major limit depth s = some (strings, rest)) :
    parts major limit' depth (s ++ more) = some (strings, rest ++ more) := by
  induction limit generalizing limit' depth s strings with
  | zero => cases h
  | succ limit ih =>
    obtain ⟨limit', rfl⟩ := Nat.exists_eq_add_one.2 (Nat.zero_lt_of_lt hlimit)
    have hless := Nat.le_of_succ_le_succ hlimit
    simp only [parts, Option.bind_eq_bind, Option.bind_eq_some_iff] at h
    obtain ⟨⟨⟨kind, argument⟩, behind⟩, hhead, h⟩ := h
    rw [parts, Head.extends_read? _ _ _ more hhead]
    simp only [Option.bind_eq_bind, Option.bind_some]
    cases argument with
    | streamed =>
      simp only at h ⊢
      split at h
      · next hkind => rw [if_pos hkind, ih hless h]
      · next hkind =>
        rw [if_neg hkind]
        split at h
        · next hbreak =>
          rw [if_pos hbreak]
          split at h
          · next hdepth =>
            cases h
            rw [if_pos hdepth]
          · next hdepth => rw [if_neg hdepth, ih hless h]
        · cases h
    | sized width n =>
      simp only at h ⊢
      split at h
      · next hkind =>
        simp only [Option.bind_eq_some_iff, Prod.exists] at h
        obtain ⟨part, after, hsplit, later, last, hlater, heq⟩ := h
        cases heq
        rw [if_pos hkind, Octets.split?_extends more hsplit]
        simp [ih hless hlater]
      · cases h

theorem extends_string (major : Nat) (argument : Argument) : (string major argument).Extends := by
  intro s strings rest more h
  cases argument with
  | sized width n =>
    obtain ⟨⟨part, behind⟩, hsplit, heq⟩ := Option.map_eq_some_iff.1 h
    cases heq
    rw [string, Octets.split?_extends more hsplit, Option.map_some]
  | streamed =>
    have hlimit : s.length ≤ (s ++ more).length := by
      rw [List.length_append]
      omega
    exact parts_extends more hlimit h

end Reader

namespace Item

theorem readWith_of_readAs {inner : Option (Reader Item)} {s rest : Octets} {item : Item}
    (h : ReadAs inner s item rest) : readWith inner s = some (item, rest) := by
  cases h with
  | unsigned head => simp [readWith, head]
  | negative head => simp [readWith, head]
  | bytes head string => simp [readWith, head, string]
  | text head string join => simp [readWith, head, string, join]
  | array hinner head counted => simp [readWith, head, hinner, counted]
  | map hinner head counted => simp [readWith, head, hinner, counted]
  | magnitude head magnitude split integer => simp [readWith, head, magnitude, split, integer]
  | tag hinner head magnitude enclosed => simp [readWith, head, hinner, magnitude, enclosed]
  | simple head simple => simp [readWith, head, simple]

theorem magnitude?_extends {number n : Nat} {s start : Octets} (more : Octets)
    (h : magnitude? number s = some (n, start)) :
    magnitude? number (s ++ more) = some (n, start ++ more) := by
  obtain ⟨hnumber, hn, width, hhead⟩ := magnitude?_eq_some h
  rw [magnitude?, if_pos hnumber, Head.extends_read? _ _ _ more hhead]
  exact if_pos hn

/-- A head that was read announces no magnitude, whatever follows. -/
theorem magnitude?_extends_none {number : Nat} {s tail : Octets} {head : Head} (more : Octets)
    (hhead : Head.read? s = some (head, tail)) (h : magnitude? number s = none) :
    magnitude? number (s ++ more) = none := by
  unfold magnitude? at h ⊢
  rw [hhead] at h
  rw [Head.extends_read? _ _ _ more hhead]
  obtain ⟨major, argument⟩ := head
  split at h
  · next hnumber =>
    rw [if_pos hnumber]
    split at h
    · next width n start heq =>
      cases heq
      split at h
      · cases h
      · next hn => exact if_neg hn
    · next hother =>
      split
      · next width n start heq =>
        cases heq
        exact absurd rfl (hother width n tail)
      · rfl
  · next hnumber => exact if_neg hnumber

theorem exists_head_of_readNested {levels : Nat} {s rest : Octets} {item : Item}
    (h : readNested levels s = some (item, rest)) :
    ∃ head tail, Head.read? s = some (head, tail) := by
  cases readAs_of_readNested h with
  | unsigned head => exact ⟨_, _, head⟩
  | negative head => exact ⟨_, _, head⟩
  | bytes head => exact ⟨_, _, head⟩
  | text head => exact ⟨_, _, head⟩
  | array _ head => exact ⟨_, _, head⟩
  | map _ head => exact ⟨_, _, head⟩
  | magnitude head => exact ⟨_, _, head⟩
  | tag _ head => exact ⟨_, _, head⟩
  | simple head => exact ⟨_, _, head⟩

/-- An item at the front is read the same, whatever follows it. -/
theorem extends_readNested (levels : Nat) : (readNested levels).Extends := by
  induction levels using Nat.strong_induction_on with
  | _ levels ih =>
    intro s item rest more h
    rw [readNested_eq]
    apply readWith_of_readAs
    cases readAs_of_readNested h with
    | unsigned head => exact .unsigned (Head.extends_read? _ _ _ more head)
    | negative head => exact .negative (Head.extends_read? _ _ _ more head)
    | bytes head string =>
      exact .bytes (Head.extends_read? _ _ _ more head)
        (Reader.extends_string _ _ _ _ _ more string)
    | text head string join =>
      exact .text (Head.extends_read? _ _ _ more head)
        (Reader.extends_string _ _ _ _ _ more string) join
    | array hinner head counted =>
      obtain ⟨inner, rfl, rfl⟩ := enclosed_eq_some hinner
      have hextends := ih inner (Nat.lt_succ_self inner)
      exact .array hinner (Head.extends_read? _ _ _ more head)
        (hextends.counted (advances_readNested inner) _ _ _ _ more counted)
    | map hinner head counted =>
      obtain ⟨inner, rfl, rfl⟩ := enclosed_eq_some hinner
      have hextends := ih inner (Nat.lt_succ_self inner)
      exact .map hinner (Head.extends_read? _ _ _ more head)
        (hextends.pair.counted (advances_readNested inner).pair _ _ _ _ more counted)
    | magnitude head magnitude split integer =>
      exact .magnitude (Head.extends_read? _ _ _ more head) (magnitude?_extends more magnitude)
        (Octets.split?_extends more split) integer
    | tag hinner head magnitude enclosed =>
      obtain ⟨inner, rfl, rfl⟩ := enclosed_eq_some hinner
      obtain ⟨_, _, hnext⟩ := exists_head_of_readNested enclosed
      exact .tag hinner (Head.extends_read? _ _ _ more head)
        (magnitude?_extends_none more hnext magnitude)
        (ih inner (Nat.lt_succ_self inner) _ _ _ more enclosed)
    | simple head simple => exact .simple (Head.extends_read? _ _ _ more head) simple

/-- Nothing is read from a part of what is one item. -/
theorem read?_take_eq_none {s : Octets} {item : Item} (h : read? s = some (item, [])) {cut : Nat}
    (hcut : cut < s.length) : read? (s.take cut) = none := by
  cases hpart : read? (s.take cut) with
  | none => rfl
  | some found =>
    have hwhole := extends_readNested nestingLimit _ _ _ (s.drop cut) hpart
    rw [List.take_append_drop] at hwhole
    have hrest := congrArg Prod.snd (Option.some.inj (hwhole.symm.trans h))
    have hnone : s.drop cut = [] := (List.append_eq_nil_iff.1 hrest).2
    rw [List.drop_eq_nil_iff] at hnone
    omega

/-! ### Written items -/

theorem length_write_pos (item : Item) : 0 < item.write.length := by
  cases item with
  | bool value => cases value <;> exact Head.length_write_pos _ _
  | float bits =>
    rw [write]
    unfold writeFloat
    split
    · exact Nat.succ_pos _
    · split <;> exact Nat.succ_pos _
  | null => exact Head.length_write_pos _ _
  | unsigned n => exact Head.length_write_pos _ _
  | negative n => exact Head.length_write_pos _ _
  | _ =>
    rw [write, List.length_append]
    exact Nat.add_pos_left (Head.length_write_pos _ _) _

theorem length_le_writeAll (items : List Item) : items.length ≤ (writeAll items).length := by
  induction items with
  | nil => exact Nat.le_refl _
  | cons item rest ih =>
    have := length_write_pos item
    rw [writeAll, List.length_append, List.length_cons]
    omega

theorem length_le_writeEntries (entries : List (Item × Item)) :
    entries.length ≤ (writeEntries entries).length := by
  induction entries with
  | nil => exact Nat.le_refl _
  | cons entry rest ih =>
    have := length_write_pos entry.1
    rw [writeEntries, List.length_append, List.length_append, List.length_cons]
    omega

mutual

/-- A length that does not fit is that of more octets than fit. -/
theorem every_lengthFits_of_write (item : Item) (h : item.write.length < UInt64.size) :
    every lengthFits item = true := by
  cases item with
  | text value =>
    rw [write, List.length_append] at h
    exact decide_eq_true (by omega)
  | bytes value =>
    rw [write, List.length_append] at h
    exact decide_eq_true (by omega)
  | array items =>
    rw [write, List.length_append] at h
    have := length_le_writeAll items
    rw [every, Bool.and_eq_true]
    exact ⟨decide_eq_true (by omega), everyItem_lengthFits_of_writeAll items (by omega)⟩
  | map entries =>
    rw [write, List.length_append] at h
    have := length_le_writeEntries entries
    rw [every, Bool.and_eq_true]
    exact ⟨decide_eq_true (by omega), everyEntry_lengthFits_of_writeEntries entries (by omega)⟩
  | tag number content =>
    rw [write, List.length_append] at h
    rw [every, Bool.and_eq_true]
    exact ⟨rfl, every_lengthFits_of_write content (by omega)⟩
  | _ => rfl

theorem everyItem_lengthFits_of_writeAll (items : List Item)
    (h : (writeAll items).length < UInt64.size) : everyItem lengthFits items = true := by
  cases items with
  | nil => rfl
  | cons item rest =>
    rw [writeAll, List.length_append] at h
    rw [everyItem, Bool.and_eq_true]
    exact ⟨every_lengthFits_of_write item (by omega),
      everyItem_lengthFits_of_writeAll rest (by omega)⟩

theorem everyEntry_lengthFits_of_writeEntries (entries : List (Item × Item))
    (h : (writeEntries entries).length < UInt64.size) :
    everyEntry lengthFits entries = true := by
  match entries with
  | [] => rfl
  | (key, value) :: rest =>
    rw [writeEntries, List.length_append, List.length_append] at h
    simp only [everyEntry, Bool.and_eq_true]
    exact ⟨every_lengthFits_of_write key (by omega), every_lengthFits_of_write value (by omega),
      everyEntry_lengthFits_of_writeEntries rest (by omega)⟩

end

mutual

/-- Whatever is read from a written item takes up all that was written, and nothing behind it. -/
theorem rest_of_readNested_write (item : Item) {levels : Nat} {rest last : Octets} {found : Item}
    (hl : every lengthFits item = true)
    (h : readNested levels (item.write ++ rest) = some (found, last)) : last = rest := by
  have hleaf (hnesting : item.nesting = 0) (hstable : every isStable item = true) :
      last = rest := by
    rw [readNested_write item levels rest (hnesting ▸ Nat.zero_le _) hl hstable] at h
    exact (congrArg Prod.snd (Option.some.inj h)).symm
  cases item with
  | null => exact hleaf rfl rfl
  | bool value => exact hleaf rfl rfl
  | unsigned n => exact hleaf rfl rfl
  | negative n => exact hleaf rfl rfl
  | float bits => exact hleaf rfl rfl
  | text value => exact hleaf rfl rfl
  | bytes value => exact hleaf rfl rfl
  | array items =>
    rw [every, Bool.and_eq_true] at hl
    have hlen : items.length < UInt64.size := of_decide_eq_true hl.1
    rw [readNested_eq, write, List.append_assoc, readWith,
      Head.read?_write _ (by decide) hlen] at h
    simp only [Option.bind_eq_bind, Option.bind_some, Option.bind_eq_some_iff, Prod.exists] at h
    obtain ⟨reader, hreader, read, behind, htimes, heq⟩ := h
    cases heq
    obtain ⟨inner, rfl, rfl⟩ := enclosed_eq_some hreader
    exact rest_of_times_writeAll items hl.2 htimes
  | map entries =>
    rw [every, Bool.and_eq_true] at hl
    have hlen : entries.length < UInt64.size := of_decide_eq_true hl.1
    rw [readNested_eq, write, List.append_assoc, readWith,
      Head.read?_write _ (by decide) hlen] at h
    simp only [Option.bind_eq_bind, Option.bind_some, Option.bind_eq_some_iff, Prod.exists] at h
    obtain ⟨reader, hreader, second, hsecond, read, behind, htimes, heq⟩ := h
    cases heq
    obtain rfl : reader = second := Option.some.inj (hreader.symm.trans hsecond)
    obtain ⟨inner, rfl, rfl⟩ := enclosed_eq_some hreader
    exact rest_of_times_writeEntries entries hl.2 htimes
  | tag number content =>
    rw [every, Bool.and_eq_true] at hl
    rw [readNested_eq, write, List.append_assoc, readWith,
      Head.read?_write _ (by decide) number.toNat_lt] at h
    simp only [Option.bind_eq_bind, Option.bind_some] at h
    cases hm : isMagnitude number content with
    | true =>
      obtain ⟨value, rfl⟩ := eq_bytes_of_isMagnitude hm
      rw [magnitude?_write_of_isMagnitude rest hm] at h
      simp only [Octets.split?_append, Option.bind_some, Option.bind_eq_some_iff] at h
      obtain ⟨integer, -, heq⟩ := h
      cases heq
      rfl
    | false =>
      rw [magnitude?_write_of_not_isMagnitude rest (of_every hl.2) hm] at h
      simp only [Option.bind_eq_some_iff, Prod.exists] at h
      obtain ⟨reader, hreader, read, behind, hcontent, heq⟩ := h
      cases heq
      obtain ⟨inner, rfl, rfl⟩ := enclosed_eq_some hreader
      exact rest_of_readNested_write content hl.2 hcontent

theorem rest_of_times_writeAll (items : List Item) {levels : Nat} {rest last : Octets}
    {found : List Item} (hl : everyItem lengthFits items = true)
    (h : Reader.times (readNested levels) items.length (writeAll items ++ rest) =
      some (found, last)) : last = rest := by
  cases items with
  | nil =>
    cases h
    rfl
  | cons item items =>
    rw [everyItem, Bool.and_eq_true] at hl
    rw [writeAll, List.append_assoc] at h
    obtain ⟨first, behind, more, hfirst, hmore, rfl⟩ := Reader.times_succ_eq_some h
    obtain rfl := rest_of_readNested_write item hl.1 hfirst
    exact rest_of_times_writeAll items hl.2 hmore

theorem rest_of_times_writeEntries (entries : List (Item × Item)) {levels : Nat}
    {rest last : Octets} {found : List (Item × Item)} (hl : everyEntry lengthFits entries = true)
    (h : Reader.times (Reader.pair (readNested levels) (readNested levels)) entries.length
      (writeEntries entries ++ rest) = some (found, last)) : last = rest := by
  match entries with
  | [] =>
    cases h
    rfl
  | (key, value) :: entries =>
    simp only [everyEntry, Bool.and_eq_true] at hl
    simp only [writeEntries, List.append_assoc] at h
    obtain ⟨first, behind, more, hfirst, hmore, rfl⟩ := Reader.times_succ_eq_some h
    simp only [Reader.pair, Option.bind_eq_bind, Option.bind_eq_some_iff, Prod.exists] at hfirst
    obtain ⟨_, afterKey, hkey, _, afterValue, hvalue, heq⟩ := hfirst
    cases heq
    obtain rfl := rest_of_readNested_write key hl.1 hkey
    obtain rfl := rest_of_readNested_write value hl.2.1 hvalue
    exact rest_of_times_writeEntries entries hl.2.2 hmore

end

end Item
end Cbor
end ClusterLink
