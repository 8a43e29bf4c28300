import Mathlib.Data.List.DropRight
import ClusterLink.Proofs.Cbor.Reading
/-!
The places where an item and the items in it are read. What holds of an item wherever one is read
holds of all of them: `every_of_readNested`. Main statements: `every_lengthFits_of_readNested`, the
lengths in a read item fit a head, and `every_isStable_of_readNested`, its tags are read back unless
a magnitude was streamed. With the nesting, that is all that writing and reading again asks for.
-/
namespace ClusterLink.Cbor.Item

/-- Where the items start that the item at the front encloses. -/
def startsInside (levels : Nat) (s : Octets) : List Octets :=
  match Head.read? s with
  | some (⟨4, argument⟩, s) => Reader.starts (readNested levels) (argument.count s) s
  | some (⟨5, argument⟩, s) => Reader.starts (readNested levels) (2 * argument.count s) s
  | some (⟨6, _⟩, s) => [s]
  | _ => []

/-- Where the items start of which the item at the front is made up, itself included. -/
def places : Nat → Octets → List Octets
  | 0, s => [s]
  | levels + 1, s => s :: (startsInside levels s).flatMap (places levels)

theorem mem_places_self (levels : Nat) (s : Octets) : s ∈ places levels s := by
  cases levels <;> simp [places]

theorem places_subset_of_mem_startsInside {levels : Nat} {s start : Octets}
    (h : start ∈ startsInside levels s) : places levels start ⊆ places (levels + 1) s :=
  fun _ hplace => List.mem_cons_of_mem _ (List.mem_flatMap.2 ⟨start, h, hplace⟩)

/-- What holds of an item wherever one is read holds of everything in it, if it holds of the octets
of a big integer. -/
theorem every_of_readNested {p : Item → Bool} {levels : Nat} {s rest : Octets} {item : Item}
    (hplace : ∀ place ∈ places levels s, ∀ left item rest,
      readNested left place = some (item, rest) → p item = true)
    (hmagnitude : ∀ octets : Octets, octets.length ≤ 16 → p (.bytes octets) = true)
    (h : readNested levels s = some (item, rest)) : every p item = true := by
  induction levels using Nat.strong_induction_on generalizing s rest item with
  | _ levels ih =>
    have hitem : p item = true := hplace s (mem_places_self levels s) levels item rest h
    cases readAs_of_readNested h with
    | unsigned head => exact hitem
    | negative head => exact hitem
    | bytes head string => exact hitem
    | text head string join => exact hitem
    | array hinner head counted =>
      obtain ⟨inner, rfl, rfl⟩ := enclosed_eq_some hinner
      rw [every, Bool.and_eq_true, everyItem_iff]
      refine ⟨hitem, fun item hitem => ?_⟩
      obtain ⟨start, hstart, behind, hread⟩ := Reader.exists_start_of_counted counted item hitem
      have hinside : start ∈ startsInside inner s := by rwa [startsInside, head]
      exact ih inner (Nat.lt_succ_self inner)
        (fun place h => hplace place (places_subset_of_mem_startsInside hinside h)) hread
    | map hinner head counted =>
      obtain ⟨inner, rfl, rfl⟩ := enclosed_eq_some hinner
      rw [every, Bool.and_eq_true, everyEntry_iff]
      refine ⟨hitem, fun entry hentry => ?_⟩
      have hvalue : ∀ value ∈ [entry.1, entry.2], every p value = true := by
        intro value hvalue
        obtain ⟨start, hstart, behind, hread⟩ :=
          Reader.exists_start_of_counted_pairs counted entry hentry value hvalue
        have hinside : start ∈ startsInside inner s := by rwa [startsInside, head]
        exact ih inner (Nat.lt_succ_self inner)
          (fun place h => hplace place (places_subset_of_mem_startsInside hinside h)) hread
      exact ⟨hvalue _ (by simp), hvalue _ (by simp)⟩
    | magnitude head magnitude split integer =>
      rcases bigInteger?_cases integer with ⟨n, rfl⟩ | ⟨n, rfl⟩ | ⟨rfl, -⟩
      · exact hitem
      · exact hitem
      · -- what is under this tag was not read as an item
        rw [every, Bool.and_eq_true]
        exact ⟨hitem, hmagnitude _ (length_magnitude magnitude split)⟩
    | tag hinner head magnitude enclosed =>
      obtain ⟨inner, rfl, rfl⟩ := enclosed_eq_some hinner
      rw [every, Bool.and_eq_true]
      rename_i behind content
      have hinside : behind ∈ startsInside inner s := by
        rw [startsInside, head]
        exact List.mem_singleton_self behind
      refine ⟨hitem, ih inner (Nat.lt_succ_self inner) (fun place h => ?_) enclosed⟩
      exact hplace place (places_subset_of_mem_startsInside hinside h)
    | simple head simple =>
      rcases simple?_cases simple with ⟨_, rfl⟩ | ⟨_, rfl⟩ | rfl <;> exact hitem

theorem length_le_of_mem_startsInside {levels : Nat} {s start : Octets}
    (h : start ∈ startsInside levels s) : start.length ≤ s.length := by
  unfold startsInside at h
  split at h
  · next hhead =>
    have hstart := (advances_readNested levels).length_le_of_mem_starts h
    exact hstart.trans (Head.read?_spec hhead).1.le
  · next hhead =>
    have hstart := (advances_readNested levels).length_le_of_mem_starts h
    exact hstart.trans (Head.read?_spec hhead).1.le
  · next hhead =>
    obtain rfl := List.mem_singleton.1 h
    exact (Head.read?_spec hhead).1.le
  · cases h

theorem length_le_of_mem_places {levels : Nat} {s place : Octets} (h : place ∈ places levels s) :
    place.length ≤ s.length := by
  induction levels generalizing s with
  | zero => exact (List.mem_singleton.1 h ▸ Nat.le_refl _)
  | succ levels ih =>
    rw [places, List.mem_cons, List.mem_flatMap] at h
    rcases h with rfl | ⟨start, hstart, hplace⟩
    · exact Nat.le_refl _
    · exact (ih hplace).trans (length_le_of_mem_startsInside hstart)

/-- Lengths are those of octets that were read, or count items that were read. -/
theorem every_lengthFits_of_readNested {levels : Nat} {s rest : Octets} {item : Item}
    (hsize : s.length < UInt64.size) (h : readNested levels s = some (item, rest)) :
    every lengthFits item = true := by
  apply every_of_readNested _ _ h
  · intro place hplace left item rest hread
    have hless : place.length < UInt64.size := (length_le_of_mem_places hplace).trans_lt hsize
    cases readAs_of_readNested hread with
    | unsigned head => rfl
    | negative head => rfl
    | bytes head string =>
      have := (Head.read?_spec head).1
      have := Reader.length_string string
      exact decide_eq_true (by omega)
    | text head string join =>
      have := (Head.read?_spec head).1
      have := Reader.length_string string
      rw [lengthFits, Reader.ofText_of_joinText join]
      exact decide_eq_true (by omega)
    | array hinner head counted =>
      obtain ⟨inner, rfl, rfl⟩ := enclosed_eq_some hinner
      have := (Head.read?_spec head).1
      have := (advances_readNested inner).length_counted counted
      exact decide_eq_true (by omega)
    | map hinner head counted =>
      obtain ⟨inner, rfl, rfl⟩ := enclosed_eq_some hinner
      have := (Head.read?_spec head).1
      have := (advances_readNested inner).pair.length_counted counted
      exact decide_eq_true (by omega)
    | magnitude head magnitude split integer =>
      rcases bigInteger?_cases integer with ⟨n, rfl⟩ | ⟨n, rfl⟩ | ⟨rfl, -⟩ <;> rfl
    | tag hinner head magnitude enclosed => rfl
    | simple head simple =>
      rcases simple?_cases simple with ⟨_, rfl⟩ | ⟨_, rfl⟩ | rfl <;> rfl
  · intro octets hlong
    exact decide_eq_true (hlong.trans_lt (by decide))

/-- Whether tag 2 or 3 starts here, directly over a streamed string of at most 16 octets. The string
is no magnitude, but it would be one if its length were stated. -/
def isStreamedMagnitude (s : Octets) : Bool :=
  match Head.read? s with
  | some (⟨6, .sized _ number⟩, s) =>
    match Head.read? s with
    | some (⟨2, .streamed⟩, s) => (number == 2 || number == 3) &&
      (Reader.string 2 .streamed s).any fun (strings, _) => strings.flatten.length ≤ 16
    | _ => false
  | _ => false

/-- A big integer is read back from its shortest magnitude. -/
theorem bigInteger?_dropWhile {number : Nat} {octets : Octets} (hnumber : number = 2 ∨ number = 3)
    (hsize : UInt64.size ≤ Octets.toNatBE octets)
    (hrange : ¬(number = 3 ∧ 1 <<< 127 ≤ Octets.toNatBE octets)) :
    bigInteger? (UInt64.ofNat number).toNat (octets.dropWhile (· = 0)) =
      some (.tag (UInt64.ofNat number) (.bytes (octets.dropWhile (· = 0)))) := by
  have hnat : (UInt64.ofNat number).toNat = number := by rcases hnumber with rfl | rfl <;> rfl
  have hshort : (octets.dropWhile (· = 0)).dropWhile (· = 0) = octets.dropWhile (· = 0) :=
    List.dropWhile_idempotent _ _
  simp only [bigInteger?, hnat, Octets.toNatBE_dropWhile, hshort]
  rw [if_neg (Nat.not_lt.2 hsize), if_neg hrange]

/-- A tag whose content is read as an item of its own is no big integer, unless it is a streamed
magnitude. -/
theorem isMagnitude_of_readNested {levels width number : Nat} {s behind rest : Octets}
    {content : Item} (hplain : isStreamedMagnitude s = false)
    (hhead : Head.read? s = some (⟨6, .sized width number⟩, behind))
    (hmagnitude : magnitude? number behind = none)
    (h : readNested levels behind = some (content, rest)) :
    isMagnitude (UInt64.ofNat number) content = false := by
  rw [Bool.eq_false_iff]
  intro hform
  obtain ⟨value, rfl⟩ := eq_bytes_of_isMagnitude hform
  have hnat : (UInt64.ofNat number).toNat = number :=
    UInt64.toNat_ofNat_of_lt' ((Head.read?_spec hhead).2 width number rfl)
  simp only [isMagnitude, Bool.and_eq_true, Bool.or_eq_true, beq_iff_eq, decide_eq_true_eq,
    ← UInt64.toNat_inj, hnat] at hform
  obtain ⟨hnumber, hlong⟩ := hform
  change number = 2 ∨ number = 3 at hnumber
  -- of all ways of reading, only that of a string gives octets
  generalize hbytes : Item.bytes value = item at h
  cases readAs_of_readNested h with
  | bytes head string =>
    cases hbytes
    rename_i argument start strings
    cases argument with
    | sized width n =>
      obtain ⟨⟨part, last⟩, hsplit, heq⟩ := Option.map_eq_some_iff.1 string
      cases heq
      obtain ⟨rfl, rfl⟩ := Octets.split?_eq_some hsplit
      have hlength : part.length ≤ 16 := by simpa using hlong
      simp [magnitude?, hnumber, head, hlength] at hmagnitude
    | streamed =>
      simp only [isStreamedMagnitude, hhead, head, string, Option.any_some, hlong, decide_true,
        Bool.and_true, Bool.or_eq_false_iff, beq_eq_false_iff_ne] at hplain
      omega
  | magnitude head magnitude split integer =>
    rcases bigInteger?_cases integer with ⟨n, rfl⟩ | ⟨n, rfl⟩ | ⟨rfl, -⟩ <;> cases hbytes
  | simple head simple =>
    rcases simple?_cases simple with ⟨_, rfl⟩ | ⟨_, rfl⟩ | rfl <;> cases hbytes
  | _ => cases hbytes

theorem isStable_of_readNested {levels : Nat} {s rest : Octets} {item : Item}
    (hplain : isStreamedMagnitude s = false) (h : readNested levels s = some (item, rest)) :
    isStable item = true := by
  cases readAs_of_readNested h with
  | unsigned head => rfl
  | negative head => rfl
  | bytes head string => rfl
  | text head string join => rfl
  | array hinner head counted => rfl
  | map hinner head counted => rfl
  | magnitude head magnitude split integer =>
    rcases bigInteger?_cases integer with ⟨n, rfl⟩ | ⟨n, rfl⟩ | ⟨rfl, hsize, hrange⟩
    · rfl
    · rfl
    · obtain ⟨hnumber, -⟩ := magnitude?_eq_some magnitude
      rw [isStable, bigInteger?_dropWhile hnumber hsize hrange, beq_self_eq_true, Bool.or_true]
  | tag hinner head magnitude enclosed =>
    obtain ⟨inner, rfl, rfl⟩ := enclosed_eq_some hinner
    apply isStable_of_isOrdinary
    rw [isOrdinary, isMagnitude_of_readNested hplain head magnitude enclosed, Bool.not_false]
  | simple head simple =>
    rcases simple?_cases simple with ⟨_, rfl⟩ | ⟨_, rfl⟩ | rfl <;> rfl

/-- Without streamed magnitudes, no tag that was read turns into an integer. -/
theorem every_isStable_of_readNested {levels : Nat} {s rest : Octets} {item : Item}
    (hplain : ∀ place ∈ places levels s, isStreamedMagnitude place = false)
    (h : readNested levels s = some (item, rest)) : every isStable item = true := by
  apply every_of_readNested _ _ h
  · intro place hplace left item rest hread
    exact isStable_of_readNested (hplain place hplace) hread
  · exact fun octets _ => rfl

end ClusterLink.Cbor.Item
