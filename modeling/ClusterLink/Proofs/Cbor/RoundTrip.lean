import Mathlib.Tactic
import ClusterLink.Cbor.Writer
import ClusterLink.Proofs.Cbor.Shape
/-!
Reading inverts writing. Main statement: `readNested_write`, an item whose lengths fit and whose
tags are stable is read back from the front of any octets that start with its written form.
-/
namespace ClusterLink

namespace Cbor

namespace Head

theorem length_write_pos (major n : Nat) : 0 < (write major n).length := by
  unfold write
  split_ifs <;> exact Nat.succ_pos _

/-- How many octets behind the initial one hold an argument in its shortest form. -/
def width (n : Nat) : Nat :=
  if n < 24 then 0 else if n < UInt8.size then 1 else if n < UInt16.size then 2
  else if n < UInt32.size then 4 else 8

/-- An argument in `1 <<< k` octets is read from them. -/
theorem read?_wide {m k n : Nat} (rest : Octets) (hm : m < 8) (hk : k < 4)
    (hn : n < Octets.capacity (1 <<< k)) :
    read? (UInt8.ofNat (32 * m + (24 + k)) :: (Octets.ofNatBE (1 <<< k) n ++ rest)) =
      some (⟨m, .sized (1 <<< k) n⟩, rest) := by
  have hi : (UInt8.ofNat (32 * m + (24 + k))).toNat = 32 * m + (24 + k) := by
    rw [UInt8.toNat_ofNat', Nat.mod_eq_of_lt (by omega)]
  have hmajor : (32 * m + (24 + k)) / 32 = m := by omega
  have hlow : (32 * m + (24 + k)) % 32 = 24 + k := by omega
  have hsplit : Octets.split? (1 <<< k) (Octets.ofNatBE (1 <<< k) n ++ rest) =
      some (Octets.ofNatBE (1 <<< k) n, rest) := by
    simpa using Octets.split?_append (Octets.ofNatBE (1 <<< k) n) rest
  rw [read?]
  simp only [hi, hmajor, hlow]
  rw [if_neg (by omega), if_pos (by omega), Nat.add_sub_cancel_left, hsplit]
  simp [Octets.toNatBE_ofNatBE _ _ hn]

theorem read?_write {major n : Nat} (rest : Octets) (hm : major < 8) (hn : n < UInt64.size) :
    read? (write major n ++ rest) = some (⟨major, .sized (width n) n⟩, rest) := by
  unfold write width
  split
  · have hi : (UInt8.ofNat (32 * major + n)).toNat = 32 * major + n := by
      rw [UInt8.toNat_ofNat', Nat.mod_eq_of_lt (by omega)]
    have hmajor : (32 * major + n) / 32 = major := by omega
    have hlow : (32 * major + n) % 32 = n := by omega
    rw [List.singleton_append, read?]
    simp only [hi, hmajor, hlow]
    rw [if_pos (by omega)]
  · split
    · exact read?_wide (k := 0) rest hm (by omega) (by simpa [Octets.capacity] using ‹_›)
    · split
      · exact read?_wide (k := 1) rest hm (by omega) (by simpa [Octets.capacity] using ‹_›)
      · split
        · exact read?_wide (k := 2) rest hm (by omega) (by simpa [Octets.capacity] using ‹_›)
        · exact read?_wide (k := 3) rest hm (by omega) (by simpa [Octets.capacity] using hn)

end Head

namespace FloatWidth

private theorem fields_lt {e f high low : Nat} (hh : high < 2 ^ e) (hl : low < 2 ^ f) :
    high * 2 ^ f + low < 2 ^ (f + e) := by
  calc high * 2 ^ f + low < (high + 1) * 2 ^ f := by rw [Nat.succ_mul]; omega
    _ ≤ 2 ^ e * 2 ^ f := Nat.mul_le_mul_right _ hh
    _ = 2 ^ (f + e) := by rw [← Nat.pow_add, Nat.add_comm]

/-- What truncating leaves fits the width. -/
theorem truncate_lt {w : FloatWidth} (hf : w.fractionBits ≤ 52) {bits : Nat}
    (hb : bits < UInt64.size) : w.truncate bits < 2 ^ (w.fractionBits + w.exponentBits + 1) := by
  have hsign : bits >>> 63 <<< (w.fractionBits + w.exponentBits) ≤
      2 ^ (w.fractionBits + w.exponentBits) := by
    rw [Nat.shiftLeft_eq, Nat.shiftRight_eq_div_pow]
    have htop : bits / 2 ^ 63 ≤ 1 := Nat.le_of_lt_succ (Nat.div_lt_of_lt_mul hb)
    exact (Nat.mul_le_mul_right _ htop).trans_eq (Nat.one_mul _)
  have hfraction : bits % 1 <<< 52 < 2 ^ 52 := Nat.mod_lt _ (by decide)
  have hshifted : (bits % 1 <<< 52) >>> (52 - w.fractionBits) < 2 ^ w.fractionBits := by
    rw [Nat.shiftRight_eq_div_pow]
    apply Nat.div_lt_of_lt_mul
    rwa [← Nat.pow_add, Nat.sub_add_cancel hf]
  rw [Nat.pow_succ, Nat.mul_two]
  unfold truncate
  simp only
  split
  · have := fields_lt (Nat.sub_lt (Nat.two_pow_pos w.exponentBits) one_pos) hshifted
    rw [Nat.one_shiftLeft w.exponentBits, Nat.shiftLeft_eq (2 ^ w.exponentBits - 1)]
    omega
  · split
    · have := fields_lt (Nat.mod_lt (bits >>> 52 % 2048 + w.bias - 1023)
        (Nat.two_pow_pos w.exponentBits)) hshifted
      rw [Nat.one_shiftLeft w.exponentBits, Nat.shiftLeft_eq (_ % _)]
      omega
    · have hlow : (1 <<< 52 + bits % 1 <<< 52) >>>
          (1076 - w.bias - w.fractionBits - bits >>> 52 % 2048) < 2 ^ w.fractionBits := by
        have hpow : 2 ^ 53 ≤ 2 ^ (1076 - w.bias - w.fractionBits - bits >>> 52 % 2048) *
            2 ^ w.fractionBits := by
          rw [← Nat.pow_add]
          exact Nat.pow_le_pow_right (by decide) (by omega)
        rw [Nat.shiftRight_eq_div_pow]
        apply Nat.div_lt_of_lt_mul
        omega
      have := Nat.pow_le_pow_right (n := 2) (by decide)
        (Nat.le_add_right w.fractionBits w.exponentBits)
      omega

theorem narrow?_lt {w : FloatWidth} (hf : w.fractionBits ≤ 52) {bits narrow : Nat}
    (hb : bits < UInt64.size) (h : w.narrow? bits = some narrow) :
    narrow < 2 ^ (w.fractionBits + w.exponentBits + 1) := by
  simp only [narrow?] at h
  split at h
  · exact Option.some.inj h ▸ truncate_lt hf hb
  · contradiction

end FloatWidth

/-- A float is read back to its bits, whichever width it was written in. -/
theorem read?_writeFloat (bits : UInt64) (rest : Octets) : ∃ width value,
    Head.read? (writeFloat bits ++ rest) = some (⟨7, .sized width value⟩, rest) ∧
      Item.simple? (.sized width value) = some (.float bits) := by
  have hbits : bits.toNat < UInt64.size := bits.toNat_lt
  unfold writeFloat
  split
  · rename_i narrow h
    have hw := FloatWidth.widen_of_narrow? h
    have hn : narrow < 2 ^ 16 := FloatWidth.narrow?_lt (by decide) hbits h
    refine ⟨2, narrow, Head.read?_wide (m := 7) (k := 1) rest (by decide) (by decide) hn, ?_⟩
    simp [Item.simple?, hw]
  · split
    · rename_i narrow h
      have hw := FloatWidth.widen_of_narrow? h
      have hn : narrow < 2 ^ 32 := FloatWidth.narrow?_lt (by decide) hbits h
      refine ⟨4, narrow, Head.read?_wide (m := 7) (k := 2) rest (by decide) (by decide) hn, ?_⟩
      simp [Item.simple?, hw]
    · refine ⟨8, bits.toNat,
        Head.read?_wide (m := 7) (k := 3) rest (by decide) (by decide) hbits, ?_⟩
      simp [Item.simple?]

namespace Item

/-- How what an item encloses is read when `levels` are left for it. -/
def enclosed : Nat → Option (Reader Item)
  | 0 => none
  | levels + 1 => some (readNested levels)

theorem readNested_eq (levels : Nat) : readNested levels = readWith (enclosed levels) := by
  cases levels <;> rfl

/-- The written form of an item starts with a head, of major type 2 for octets only. -/
theorem read?_head_write (item : Item) (rest : Octets) (hl : lengthFits item = true) :
    ∃ head tail, Head.read? (item.write ++ rest) = some (head, tail) ∧
      (head.major = 2 → ∃ value, item = .bytes value ∧
        head.argument = .sized (Head.width value.length) value.length ∧ tail = value ++ rest) := by
  cases item with
  | null => exact ⟨_, _, Head.read?_write rest (by decide) (by decide), by simp⟩
  | bool value =>
    cases value <;> exact ⟨_, _, Head.read?_write rest (by decide) (by decide), by simp⟩
  | unsigned n => exact ⟨_, _, Head.read?_write rest (by decide) n.toNat_lt, by simp⟩
  | negative n => exact ⟨_, _, Head.read?_write rest (by decide) n.toNat_lt, by simp⟩
  | float bits =>
    obtain ⟨width, value, h, -⟩ := read?_writeFloat bits rest
    exact ⟨_, _, h, by simp⟩
  | text value =>
    rw [write, List.append_assoc]
    exact ⟨_, _, Head.read?_write _ (by decide) (of_decide_eq_true hl), by simp⟩
  | bytes value =>
    rw [write, List.append_assoc]
    exact ⟨_, _, Head.read?_write _ (by decide) (of_decide_eq_true hl),
      fun _ => ⟨value, rfl, rfl, rfl⟩⟩
  | array items =>
    rw [write, List.append_assoc]
    exact ⟨_, _, Head.read?_write _ (by decide) (of_decide_eq_true hl), by simp⟩
  | map entries =>
    rw [write, List.append_assoc]
    exact ⟨_, _, Head.read?_write _ (by decide) (of_decide_eq_true hl), by simp⟩
  | tag number content =>
    rw [write, List.append_assoc]
    exact ⟨_, _, Head.read?_write _ (by decide) number.toNat_lt, by simp⟩

theorem magnitude?_write_of_not_isMagnitude {number : UInt64} {content : Item} (rest : Octets)
    (hl : lengthFits content = true) (h : isMagnitude number content = false) :
    magnitude? number.toNat (content.write ++ rest) = none := by
  unfold magnitude?
  split
  · rename_i hn
    obtain ⟨⟨major, argument⟩, tail, hr, hbytes⟩ := read?_head_write content rest hl
    rw [hr]
    split
    · rename_i n s heq
      simp only [Option.some.injEq, Prod.mk.injEq, Head.mk.injEq] at heq
      obtain ⟨value, rfl, harg, -⟩ := hbytes heq.1.1
      have hlength : n = value.length := by
        have := heq.1.2.symm.trans harg
        simpa using (Argument.sized.inj this).2
      have hnumber : number = 2 ∨ number = 3 := by
        simpa [← UInt64.toNat_inj] using hn
      simp [isMagnitude, hnumber] at h
      rw [if_neg (by omega)]
    · rfl
  · rfl

theorem magnitude?_write_of_isMagnitude {number : UInt64} {value : Octets} (rest : Octets)
    (h : isMagnitude number (.bytes value) = true) :
    magnitude? number.toNat ((Item.bytes value).write ++ rest) =
      some (value.length, value ++ rest) := by
  simp only [isMagnitude, Bool.and_eq_true, Bool.or_eq_true, beq_iff_eq, decide_eq_true_eq] at h
  have hnumber : number.toNat = 2 ∨ number.toNat = 3 := by
    simpa [← UInt64.toNat_inj] using h.1
  rw [magnitude?, if_pos hnumber, write, List.append_assoc,
    Head.read?_write _ (by decide) (h.2.trans_lt (by decide))]
  simp [h.2]

theorem readWith_simple (inner : Option (Reader Item)) {n : Nat} (hn : n < 24) (rest : Octets) :
    readWith inner (Head.write 7 n ++ rest) = (simple? (.sized 0 n)).map (·, rest) := by
  have hsize : n < UInt64.size := hn.trans (by decide)
  have hwidth : Head.width n = 0 := if_pos hn
  simp [readWith, Head.read?_write rest _ hsize, hwidth]

mutual

/-- An item is read back from its written form, whatever follows it. -/
theorem readNested_write (item : Item) (levels : Nat) (rest : Octets)
    (hn : item.nesting ≤ levels) (hl : every lengthFits item = true)
    (hs : every isStable item = true) :
    readNested levels (item.write ++ rest) = some (item, rest) := by
  rw [readNested_eq]
  cases item with
  | null => exact readWith_simple _ (by decide) rest
  | bool value => cases value <;> exact readWith_simple _ (by decide) rest
  | unsigned n => simp [readWith, write, Head.read?_write rest _ n.toNat_lt]
  | negative n => simp [readWith, write, Head.read?_write rest _ n.toNat_lt]
  | float bits =>
    obtain ⟨width, value, hread, hsimple⟩ := read?_writeFloat bits rest
    simp [readWith, write, hread, hsimple]
  | text value =>
    have hlen : (Octets.ofText value).length < UInt64.size := of_decide_eq_true hl
    simp [readWith, write, Head.read?_write _ _ hlen, Reader.string, Reader.joinText]
  | bytes value =>
    have hlen : value.length < UInt64.size := of_decide_eq_true hl
    simp [readWith, write, Head.read?_write _ _ hlen, Reader.string]
  | array items =>
    simp only [every, Bool.and_eq_true] at hl hs
    have hlen : items.length < UInt64.size := of_decide_eq_true hl.1
    obtain ⟨inner, rfl⟩ : ∃ inner, levels = inner + 1 := Nat.exists_eq_add_one.2 (by
      simp only [nesting] at hn; omega)
    have ih := times_writeAll items inner rest (by simpa [nesting] using hn) hl.2 hs.2
    simp [readWith, write, Head.read?_write _ _ hlen, enclosed, Reader.counted, ih]
  | map entries =>
    simp only [every, Bool.and_eq_true] at hl hs
    have hlen : entries.length < UInt64.size := of_decide_eq_true hl.1
    obtain ⟨inner, rfl⟩ : ∃ inner, levels = inner + 1 := Nat.exists_eq_add_one.2 (by
      simp only [nesting] at hn; omega)
    have ih := times_writeEntries entries inner rest (by simpa [nesting] using hn) hl.2 hs.2
    simp [readWith, write, Head.read?_write _ _ hlen, enclosed, Reader.counted, ih]
  | tag number content =>
    simp only [every, Bool.and_eq_true] at hl hs
    have hhead : Head.read? (Head.write 6 number.toNat ++ (content.write ++ rest)) = _ :=
      Head.read?_write _ (by decide) number.toNat_lt
    cases hm : isMagnitude number content with
    | true =>
      obtain ⟨value, rfl⟩ := eq_bytes_of_isMagnitude hm
      have hbig : bigInteger? number.toNat value = some (.tag number (.bytes value)) := by
        simpa [isStable, hm] using hs.1
      have hmagnitude := magnitude?_write_of_isMagnitude rest hm
      simp only [write, List.append_assoc] at hhead hmagnitude ⊢
      simp [readWith, hhead, hmagnitude, hbig]
    | false =>
      have hnest : content.nesting + 1 ≤ levels := by simpa [nesting, hm] using hn
      obtain ⟨inner, rfl⟩ : ∃ inner, levels = inner + 1 := Nat.exists_eq_add_one.2 (by omega)
      have ih := readNested_write content inner rest (by omega) hl.2 hs.2
      have hmagnitude := magnitude?_write_of_not_isMagnitude rest (of_every hl.2) hm
      simp [readWith, write, hhead, hmagnitude, enclosed, ih]

theorem times_writeAll (items : List Item) (levels : Nat) (rest : Octets)
    (hn : nestingAll items ≤ levels) (hl : everyItem lengthFits items = true)
    (hs : everyItem isStable items = true) :
    Reader.times (readNested levels) items.length (writeAll items ++ rest) =
      some (items, rest) := by
  cases items with
  | nil => rfl
  | cons item items =>
    simp only [nestingAll, everyItem, Bool.and_eq_true] at hn hl hs
    have hitem := readNested_write item levels (writeAll items ++ rest) (by omega) hl.1 hs.1
    have hitems := times_writeAll items levels rest (by omega) hl.2 hs.2
    simp [Reader.times, writeAll, hitem, hitems]

theorem times_writeEntries (entries : List (Item × Item)) (levels : Nat) (rest : Octets)
    (hn : nestingEntries entries ≤ levels) (hl : everyEntry lengthFits entries = true)
    (hs : everyEntry isStable entries = true) :
    Reader.times (Reader.pair (readNested levels) (readNested levels)) entries.length
      (writeEntries entries ++ rest) = some (entries, rest) := by
  match entries with
  | [] => rfl
  | (key, value) :: entries =>
    simp only [nestingEntries, everyEntry, Bool.and_eq_true] at hn hl hs
    have hkey := readNested_write key levels (value.write ++ (writeEntries entries ++ rest))
      (by omega) hl.1 hs.1
    have hvalue := readNested_write value levels (writeEntries entries ++ rest)
      (by omega) hl.2.1 hs.2.1
    have hentries := times_writeEntries entries levels rest (by omega) hl.2.2 hs.2.2
    simp [Reader.times, Reader.pair, writeEntries, hkey, hvalue, hentries]

end

end Item

end Cbor
end ClusterLink
