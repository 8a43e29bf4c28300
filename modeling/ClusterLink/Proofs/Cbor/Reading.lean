import Mathlib.Tactic
import ClusterLink.Proofs.Cbor.RoundTrip
/-!
What reading takes and gives, for octets of any kind. `ReadAs` lists the ways in which an item is
read; all that is known of a read item comes from them. Main statements: `advances_readNested`, an
item takes up at least one octet, and `nesting_le_of_readNested`, it nests no deeper than the levels
that were left for it.
-/
namespace ClusterLink

namespace Octets

theorem toNatLE_lt (s : Octets) : toNatLE s < capacity s.length := by
  induction s with
  | nil => decide
  | cons b rest ih =>
    have hb := b.toNat_lt
    simp only [toNatLE, capacity, List.length_cons]
    omega

theorem toNatBE_lt (s : Octets) : toNatBE s < capacity s.length := by
  have h := toNatLE_lt s.reverse
  rwa [← toNatBE_reverse, List.reverse_reverse, List.length_reverse] at h

/-- Leading zeros do not count. -/
theorem toNatBE_dropWhile (s : Octets) : toNatBE (s.dropWhile (· = 0)) = toNatBE s := by
  induction s with
  | nil => rfl
  | cons b rest ih =>
    rw [List.dropWhile_cons]
    split
    · next hb =>
      have hzero : b = 0 := by simpa using hb
      rw [ih, hzero]
      rfl
    · rfl

theorem ofText_of_text? {s : Octets} {text : String} (h : text? s = some text) :
    ofText text = s := by
  unfold text? String.fromUTF8? at h
  split at h
  · cases h
    simp [ofText, String.fromUTF8]
  · cases h

theorem ofText_join (texts : List String) :
    ofText (String.join texts) = (texts.map ofText).flatten := by
  induction texts with
  | nil => rfl
  | cons text rest ih =>
    rw [List.map_cons, List.flatten_cons, ← ih, String.join_cons]
    simp [ofText]

end Octets

namespace Cbor

theorem Head.read?_spec {s rest : Octets} {head : Head} (h : read? s = some (head, rest)) :
    rest.length < s.length ∧ ∀ width n, head.argument = .sized width n → n < UInt64.size := by
  cases s with
  | nil => cases h
  | cons initial tail =>
    simp only [read?] at h
    split at h
    · next hlow =>
      cases h
      refine ⟨by simp, ?_⟩
      rintro _ _ ⟨⟩
      exact hlow.trans (by decide)
    · split at h
      · next hlow =>
        obtain ⟨⟨front, behind⟩, hsplit, heq⟩ := Option.map_eq_some_iff.1 h
        cases heq
        obtain ⟨rfl, hlength⟩ := Octets.split?_eq_some hsplit
        have hwidths : ∀ k < 4, Octets.capacity (1 <<< k) ≤ UInt64.size := by decide
        have hcapacity := hwidths (initial.toNat % 32 - 24) (by omega)
        rw [← hlength] at hcapacity
        refine ⟨by simp, ?_⟩
        rintro _ _ ⟨⟩
        exact (Octets.toNatBE_lt front).trans_le hcapacity
      · split at h <;> cases h
        exact ⟨by simp, by rintro _ _ ⟨⟩⟩

namespace Reader

variable {α : Type} {reader : Reader α}

/-- Whatever is read takes up at least one octet. -/
def Advances (reader : Reader α) : Prop :=
  ∀ s a rest, reader s = some (a, rest) → rest.length < s.length

theorem length_parts {major limit depth : Nat} {s rest : Octets} {strings : List Octets}
    (h : parts major limit depth s = some (strings, rest)) :
    strings.flatten.length + rest.length ≤ s.length := by
  induction limit generalizing depth s strings with
  | zero => cases h
  | succ limit ih =>
    simp only [parts, Option.bind_eq_bind, Option.bind_eq_some_iff] at h
    obtain ⟨⟨⟨kind, argument⟩, behind⟩, hhead, h⟩ := h
    have hless := (Head.read?_spec hhead).1
    cases argument with
    | streamed =>
      simp only at h
      split at h
      · have := ih h
        omega
      · split at h
        · split at h
          · cases h
            simp; omega
          · have := ih h
            omega
        · cases h
    | sized width n =>
      simp only at h
      split at h
      · simp only [Option.bind_eq_some_iff, Prod.exists] at h
        obtain ⟨part, after, hsplit, more, last, hmore, heq⟩ := h
        cases heq
        obtain ⟨rfl, -⟩ := Octets.split?_eq_some hsplit
        have := ih hmore
        rw [List.length_append] at hless
        rw [List.flatten_cons, List.length_append]
        omega
      · cases h

theorem length_string {major : Nat} {argument : Argument} {s rest : Octets} {strings : List Octets}
    (h : string major argument s = some (strings, rest)) :
    strings.flatten.length + rest.length ≤ s.length := by
  cases argument with
  | sized width n =>
    obtain ⟨⟨part, behind⟩, hsplit, heq⟩ := Option.map_eq_some_iff.1 h
    cases heq
    obtain ⟨rfl, -⟩ := Octets.split?_eq_some hsplit
    simp
  | streamed => exact length_parts h

theorem ofText_of_joinText {strings : List Octets} {text : String}
    (h : joinText strings = some text) : Octets.ofText text = strings.flatten := by
  obtain ⟨texts, htexts, rfl⟩ := Option.map_eq_some_iff.1 h
  rw [Octets.ofText_join]
  congr 1
  clear h
  induction strings generalizing texts with
  | nil => cases htexts; rfl
  | cons part rest ih =>
    rw [List.mapM_cons] at htexts
    simp only [Option.bind_eq_bind, Option.bind_eq_some_iff] at htexts
    obtain ⟨first, hfirst, more, hmore, heq⟩ := htexts
    cases heq
    rw [List.map_cons, Octets.ofText_of_text? hfirst, ih more hmore]

/-! ### Lists -/

/-- Where the values that `times` reads start. -/
def starts (reader : Reader α) : Nat → Octets → List Octets
  | 0, _ => []
  | n + 1, s => s :: match reader s with
    | some (_, rest) => starts reader n rest
    | none => []

theorem times_succ_eq_some {n : Nat} {s rest : Octets} {values : List α}
    (h : times reader (n + 1) s = some (values, rest)) :
    ∃ first behind more, reader s = some (first, behind) ∧
      times reader n behind = some (more, rest) ∧ values = first :: more := by
  simp only [times, Option.bind_eq_bind, Option.bind_eq_some_iff, Prod.exists] at h
  obtain ⟨first, behind, hfirst, more, last, hmore, heq⟩ := h
  cases heq
  exact ⟨first, behind, more, hfirst, hmore, rfl⟩

theorem length_of_times {n : Nat} {s rest : Octets} {values : List α}
    (h : times reader n s = some (values, rest)) : values.length = n := by
  induction n generalizing s values with
  | zero =>
    cases h
    rfl
  | succ n ih =>
    obtain ⟨first, behind, more, -, hmore, rfl⟩ := times_succ_eq_some h
    rw [List.length_cons, ih hmore]

theorem exists_start_of_times {n : Nat} {s rest : Octets} {values : List α}
    (h : times reader n s = some (values, rest)) :
    ∀ value ∈ values, ∃ start ∈ starts reader n s,
      ∃ behind, reader start = some (value, behind) := by
  induction n generalizing s values with
  | zero =>
    cases h
    simp
  | succ n ih =>
    obtain ⟨first, behind, more, hfirst, hmore, rfl⟩ := times_succ_eq_some h
    rw [starts, hfirst, List.forall_mem_cons]
    refine ⟨⟨s, List.mem_cons_self, behind, hfirst⟩, fun value hvalue => ?_⟩
    obtain ⟨start, hstart, hread⟩ := ih hmore value hvalue
    exact ⟨start, List.mem_cons_of_mem _ hstart, hread⟩

theorem starts_subset {m n : Nat} (h : m ≤ n) (s : Octets) :
    starts reader m s ⊆ starts reader n s := by
  induction m generalizing n s with
  | zero => exact List.nil_subset _
  | succ m ih =>
    obtain ⟨n, rfl⟩ := Nat.exists_eq_add_one.2 (Nat.zero_lt_of_lt h)
    rw [starts, starts]
    apply List.cons_subset_cons
    split
    · exact ih (Nat.le_of_succ_le_succ h) _
    · exact List.nil_subset _

theorem Advances.length_le_of_mem_starts (hr : reader.Advances) {n : Nat} {s start : Octets}
    (h : start ∈ starts reader n s) : start.length ≤ s.length := by
  induction n generalizing s with
  | zero => cases h
  | succ n ih =>
    rw [starts, List.mem_cons] at h
    rcases h with rfl | h
    · exact Nat.le_refl _
    · split at h
      · next value rest hread => exact (ih h).trans (hr _ _ _ hread).le
      · cases h

theorem Advances.length_times (hr : reader.Advances) {n : Nat} {s rest : Octets}
    {values : List α} (h : times reader n s = some (values, rest)) :
    values.length + rest.length ≤ s.length := by
  induction n generalizing s values with
  | zero =>
    cases h
    simp
  | succ n ih =>
    obtain ⟨first, behind, more, hfirst, hmore, rfl⟩ := times_succ_eq_some h
    have hless := hr _ _ _ hfirst
    have hrest := ih hmore
    rw [List.length_cons]
    omega

theorem times_of_upToBreak {limit : Nat} {s rest : Octets} {values : List α}
    (h : upToBreak reader limit s = some (values, rest)) :
    values.length < limit ∧ ∃ last, times reader values.length s = some (values, last) ∧
      rest.length ≤ last.length := by
  induction limit generalizing s values with
  | zero => cases h
  | succ limit ih =>
    rw [upToBreak] at h
    split at h
    · cases h
      exact ⟨Nat.succ_pos _, s, rfl, by simp⟩
    · simp only [Option.bind_eq_bind, Option.bind_eq_some_iff, Prod.exists] at h
      obtain ⟨first, behind, hfirst, more, after, hmore, heq⟩ := h
      cases heq
      obtain ⟨hlimit, last, htimes, hle⟩ := ih hmore
      refine ⟨Nat.succ_lt_succ hlimit, last, ?_, hle⟩
      simp [times, hfirst, htimes]

end Reader

/-- How many values an argument allows for, in front of these octets. -/
def Argument.count : Argument → Octets → Nat
  | .sized _ n, _ => n
  | .streamed, s => s.length

namespace Reader

variable {α : Type} {reader : Reader α}

theorem times_of_counted {argument : Argument} {s rest : Octets} {values : List α}
    (h : counted reader argument s = some (values, rest)) :
    values.length ≤ argument.count s ∧
      ∃ last, times reader values.length s = some (values, last) ∧ rest.length ≤ last.length := by
  cases argument with
  | sized width n =>
    have hn : values.length = n := length_of_times h
    exact ⟨hn.le, rest, hn ▸ h, Nat.le_refl _⟩
  | streamed =>
    obtain ⟨hlimit, hlast⟩ := times_of_upToBreak h
    exact ⟨hlimit.le, hlast⟩

theorem times_of_pairs {n : Nat} {s rest : Octets} {pairs : List (α × α)}
    (h : times (pair reader reader) n s = some (pairs, rest)) :
    times reader (2 * n) s = some (pairs.flatMap fun entry => [entry.1, entry.2], rest) := by
  induction n generalizing s pairs with
  | zero =>
    cases h
    rfl
  | succ n ih =>
    obtain ⟨⟨key, value⟩, behind, more, hpair, hmore, rfl⟩ := times_succ_eq_some h
    simp only [pair, Option.bind_eq_bind, Option.bind_eq_some_iff, Prod.exists] at hpair
    obtain ⟨_, afterKey, hkey, _, afterValue, hvalue, heq⟩ := hpair
    cases heq
    simp [Nat.mul_succ, times, hkey, hvalue, ih hmore]

theorem Advances.pair (hr : reader.Advances) : (Reader.pair reader reader).Advances := by
  intro s entry rest h
  simp only [Reader.pair, Option.bind_eq_bind, Option.bind_eq_some_iff, Prod.exists] at h
  obtain ⟨key, behind, hkey, value, after, hvalue, heq⟩ := h
  cases heq
  exact (hr _ _ _ hvalue).trans (hr _ _ _ hkey)

theorem Advances.length_counted (hr : reader.Advances) {argument : Argument} {s rest : Octets}
    {values : List α} (h : counted reader argument s = some (values, rest)) :
    values.length + rest.length ≤ s.length := by
  obtain ⟨-, last, htimes, hle⟩ := times_of_counted h
  have := hr.length_times htimes
  omega

/-- Each value of a list is read where one of the list starts. -/
theorem exists_start_of_counted {argument : Argument} {s rest : Octets} {values : List α}
    (h : counted reader argument s = some (values, rest)) :
    ∀ value ∈ values, ∃ start ∈ starts reader (argument.count s) s,
      ∃ behind, reader start = some (value, behind) := by
  obtain ⟨hcount, last, htimes, -⟩ := times_of_counted h
  intro value hvalue
  obtain ⟨start, hstart, hread⟩ := exists_start_of_times htimes value hvalue
  exact ⟨start, starts_subset hcount s hstart, hread⟩

theorem exists_start_of_counted_pairs {argument : Argument} {s rest : Octets}
    {entries : List (α × α)}
    (h : counted (Reader.pair reader reader) argument s = some (entries, rest)) :
    ∀ entry ∈ entries, ∀ value ∈ [entry.1, entry.2],
      ∃ start ∈ starts reader (2 * argument.count s) s,
        ∃ behind, reader start = some (value, behind) := by
  obtain ⟨hcount, last, htimes, -⟩ := times_of_counted h
  intro entry hentry value hvalue
  have hmem : value ∈ entries.flatMap fun entry => [entry.1, entry.2] :=
    List.mem_flatMap.2 ⟨entry, hentry, hvalue⟩
  obtain ⟨start, hstart, hread⟩ := exists_start_of_times (times_of_pairs htimes) value hmem
  exact ⟨start, starts_subset (Nat.mul_le_mul_left 2 hcount) s hstart, hread⟩

end Reader

namespace Item

/-- The ways in which an item is read, given how to read what it encloses. -/
inductive ReadAs (inner : Option (Reader Item)) (s : Octets) : Item → Octets → Prop
  | unsigned {width n rest} (head : Head.read? s = some (⟨0, .sized width n⟩, rest)) :
    ReadAs inner s (.unsigned (UInt64.ofNat n)) rest
  | negative {width n rest} (head : Head.read? s = some (⟨1, .sized width n⟩, rest)) :
    ReadAs inner s (.negative (UInt64.ofNat n)) rest
  | bytes {argument behind strings rest} (head : Head.read? s = some (⟨2, argument⟩, behind))
    (string : Reader.string 2 argument behind = some (strings, rest)) :
    ReadAs inner s (.bytes strings.flatten) rest
  | text {argument behind strings text rest}
    (head : Head.read? s = some (⟨3, argument⟩, behind))
    (string : Reader.string 3 argument behind = some (strings, rest))
    (join : Reader.joinText strings = some text) : ReadAs inner s (.text text) rest
  | array {reader argument behind items rest} (hinner : inner = some reader)
    (head : Head.read? s = some (⟨4, argument⟩, behind))
    (counted : Reader.counted reader argument behind = some (items, rest)) :
    ReadAs inner s (.array items) rest
  | map {reader argument behind entries rest} (hinner : inner = some reader)
    (head : Head.read? s = some (⟨5, argument⟩, behind))
    (counted : Reader.counted (Reader.pair reader reader) argument behind = some (entries, rest)) :
    ReadAs inner s (.map entries) rest
  | magnitude {width number behind n start octets item rest}
    (head : Head.read? s = some (⟨6, .sized width number⟩, behind))
    (magnitude : magnitude? number behind = some (n, start))
    (split : Octets.split? n start = some (octets, rest))
    (integer : bigInteger? number octets = some item) : ReadAs inner s item rest
  | tag {reader width number behind content rest} (hinner : inner = some reader)
    (head : Head.read? s = some (⟨6, .sized width number⟩, behind))
    (magnitude : magnitude? number behind = none)
    (enclosed : reader behind = some (content, rest)) :
    ReadAs inner s (.tag (UInt64.ofNat number) content) rest
  | simple {argument item rest} (head : Head.read? s = some (⟨7, argument⟩, rest))
    (simple : simple? argument = some item) : ReadAs inner s item rest

theorem readAs_of_readWith {inner : Option (Reader Item)} {s rest : Octets} {item : Item}
    (h : readWith inner s = some (item, rest)) : ReadAs inner s item rest := by
  simp only [readWith, Option.bind_eq_bind, Option.bind_eq_some_iff, Prod.exists] at h
  obtain ⟨⟨major, argument⟩, behind, hhead, h⟩ := h
  dsimp only at h
  split at h
  · cases h
    exact .unsigned hhead
  · cases h
    exact .negative hhead
  · simp only [Option.bind_eq_some_iff, Prod.exists] at h
    obtain ⟨strings, last, hstring, heq⟩ := h
    cases heq
    exact .bytes hhead hstring
  · simp only [Option.bind_eq_some_iff, Prod.exists] at h
    obtain ⟨strings, last, hstring, text, hjoin, heq⟩ := h
    cases heq
    exact .text hhead hstring hjoin
  · simp only [Option.bind_eq_some_iff, Prod.exists] at h
    obtain ⟨reader, hreader, items, last, hcounted, heq⟩ := h
    cases heq
    exact .array hreader hhead hcounted
  · simp only [Option.bind_eq_some_iff, Prod.exists] at h
    obtain ⟨reader, hreader, second, hsecond, entries, last, hcounted, heq⟩ := h
    cases heq
    obtain rfl : reader = second := Option.some.inj (hreader.symm.trans hsecond)
    exact .map hreader hhead hcounted
  · split at h
    · next n start hmagnitude =>
      simp only [Option.bind_eq_some_iff, Prod.exists] at h
      obtain ⟨octets, last, hsplit, item, hinteger, heq⟩ := h
      cases heq
      exact .magnitude hhead hmagnitude hsplit hinteger
    · next hmagnitude =>
      simp only [Option.bind_eq_some_iff, Prod.exists] at h
      obtain ⟨reader, hreader, content, last, hcontent, heq⟩ := h
      cases heq
      exact .tag hreader hhead hmagnitude hcontent
  · obtain ⟨item, hsimple, heq⟩ := Option.map_eq_some_iff.1 h
    cases heq
    exact .simple hhead hsimple
  · cases h

theorem magnitude?_eq_some {number n : Nat} {s start : Octets}
    (h : magnitude? number s = some (n, start)) : (number = 2 ∨ number = 3) ∧ n ≤ 16 ∧
      ∃ width, Head.read? s = some (⟨2, .sized width n⟩, start) := by
  unfold magnitude? at h
  split at h
  · next hnumber =>
    split at h
    · next width n s hhead =>
      split at h
      · next hle =>
        cases h
        exact ⟨hnumber, hle, width, hhead⟩
      · cases h
    · cases h
  · cases h

theorem length_magnitude {number n : Nat} {s start octets rest : Octets}
    (h : magnitude? number s = some (n, start))
    (hsplit : Octets.split? n start = some (octets, rest)) :
    (octets.dropWhile (· = 0)).length ≤ 16 := by
  obtain ⟨-, hn, -⟩ := magnitude?_eq_some h
  obtain ⟨-, rfl⟩ := Octets.split?_eq_some hsplit
  exact (List.dropWhile_sublist _).length_le.trans hn

theorem bigInteger?_cases {number : Nat} {octets : Octets} {item : Item}
    (h : bigInteger? number octets = some item) :
    (∃ n, item = .unsigned n) ∨ (∃ n, item = .negative n) ∨
      (item = .tag (UInt64.ofNat number) (.bytes (octets.dropWhile (· = 0))) ∧
        UInt64.size ≤ Octets.toNatBE octets ∧
        ¬(number = 3 ∧ 1 <<< 127 ≤ Octets.toNatBE octets)) := by
  simp only [bigInteger?] at h
  split at h
  · split at h <;> cases h
    · exact .inl ⟨_, rfl⟩
    · exact .inr (.inl ⟨_, rfl⟩)
  · next hsize =>
    split at h
    · cases h
    · next hrange =>
      cases h
      exact .inr (.inr ⟨rfl, Nat.not_lt.1 hsize, hrange⟩)

theorem simple?_cases {argument : Argument} {item : Item} (h : simple? argument = some item) :
    (∃ bits, item = .float bits) ∨ (∃ value, item = .bool value) ∨ item = .null := by
  unfold simple? at h
  split at h <;> cases h <;> simp

theorem enclosed_eq_some {levels : Nat} {reader : Reader Item}
    (h : enclosed levels = some reader) :
    ∃ inner, levels = inner + 1 ∧ reader = readNested inner := by
  cases levels with
  | zero => cases h
  | succ inner => exact ⟨inner, rfl, (Option.some.inj h).symm⟩

theorem readAs_of_readNested {levels : Nat} {s rest : Octets} {item : Item}
    (h : readNested levels s = some (item, rest)) : ReadAs (enclosed levels) s item rest :=
  readAs_of_readWith (readNested_eq levels ▸ h)

/-- Every way of reading takes up an octet at least, if reading what is enclosed does. -/
theorem ReadAs.length_lt {inner : Option (Reader Item)} {s rest : Octets} {item : Item}
    (hadvances : ∀ reader, inner = some reader → reader.Advances) (h : ReadAs inner s item rest) :
    rest.length < s.length := by
  cases h with
  | unsigned head => exact (Head.read?_spec head).1
  | negative head => exact (Head.read?_spec head).1
  | bytes head string =>
    have := (Head.read?_spec head).1
    have := Reader.length_string string
    omega
  | text head string join =>
    have := (Head.read?_spec head).1
    have := Reader.length_string string
    omega
  | array hinner head counted =>
    have := (Head.read?_spec head).1
    have := (hadvances _ hinner).length_counted counted
    omega
  | map hinner head counted =>
    have := (Head.read?_spec head).1
    have := (hadvances _ hinner).pair.length_counted counted
    omega
  | magnitude head magnitude split integer =>
    have := (Head.read?_spec head).1
    obtain ⟨-, -, width, hstart⟩ := magnitude?_eq_some magnitude
    have := (Head.read?_spec hstart).1
    obtain ⟨rfl, -⟩ := Octets.split?_eq_some split
    rw [List.length_append] at this
    omega
  | tag hinner head magnitude enclosed =>
    have := (Head.read?_spec head).1
    have := hadvances _ hinner _ _ _ enclosed
    omega
  | simple head simple => exact (Head.read?_spec head).1

theorem advances_readNested (levels : Nat) : (readNested levels).Advances := by
  induction levels with
  | zero => exact fun _ _ _ h => (readAs_of_readNested h).length_lt (by rintro _ ⟨⟩)
  | succ levels ih =>
    refine fun _ _ _ h => (readAs_of_readNested h).length_lt ?_
    rintro _ ⟨⟩
    exact ih

/-- No more levels are used than were left. -/
theorem nesting_le_of_readNested {levels : Nat} {s rest : Octets} {item : Item}
    (h : readNested levels s = some (item, rest)) : item.nesting ≤ levels := by
  induction levels using Nat.strong_induction_on generalizing s rest item with
  | _ levels ih =>
    cases readAs_of_readNested h with
    | unsigned head => exact Nat.zero_le _
    | negative head => exact Nat.zero_le _
    | bytes head string => exact Nat.zero_le _
    | text head string join => exact Nat.zero_le _
    | array hinner head counted =>
      obtain ⟨inner, rfl, rfl⟩ := enclosed_eq_some hinner
      rw [nesting, Nat.add_le_add_iff_right, nestingAll_le_iff]
      intro item hitem
      obtain ⟨start, -, behind, hread⟩ := Reader.exists_start_of_counted counted item hitem
      exact ih inner (Nat.lt_succ_self inner) hread
    | map hinner head counted =>
      obtain ⟨inner, rfl, rfl⟩ := enclosed_eq_some hinner
      rw [nesting, Nat.add_le_add_iff_right, nestingEntries_le_iff]
      intro entry hentry
      have hvalue : ∀ value ∈ [entry.1, entry.2], value.nesting ≤ inner := by
        intro value hvalue
        obtain ⟨start, -, behind, hread⟩ :=
          Reader.exists_start_of_counted_pairs counted entry hentry value hvalue
        exact ih inner (Nat.lt_succ_self inner) hread
      exact ⟨hvalue _ (by simp), hvalue _ (by simp)⟩
    | magnitude head magnitude split integer =>
      rcases bigInteger?_cases integer with ⟨n, rfl⟩ | ⟨n, rfl⟩ | ⟨rfl, -⟩
      · exact Nat.zero_le _
      · exact Nat.zero_le _
      · obtain ⟨hnumber, -⟩ := magnitude?_eq_some magnitude
        have hlong := length_magnitude magnitude split
        rw [nesting, if_pos]
        · exact Nat.zero_le _
        · rcases hnumber with rfl | rfl <;> simpa [isMagnitude] using hlong
    | tag hinner head magnitude enclosed =>
      obtain ⟨inner, rfl, rfl⟩ := enclosed_eq_some hinner
      have hcontent := ih inner (Nat.lt_succ_self inner) enclosed
      rw [nesting]
      split
      · exact Nat.zero_le _
      · exact Nat.succ_le_succ hcontent
    | simple head simple =>
      rcases simple?_cases simple with ⟨_, rfl⟩ | ⟨_, rfl⟩ | rfl <;> exact Nat.zero_le _

end Item
end Cbor
end ClusterLink
