import ClusterLink.Cbor.Reader
/-!
What an item has to look like to be read back as it was written: how deep it nests, that its lengths
fit a head, and that none of its tags reads as an integer.
-/
namespace ClusterLink.Cbor.Item

/-- Whether a tagged item has the form of a big integer: tag 2 or 3 over at most 16 octets. -/
def isMagnitude (number : UInt64) : Item → Bool
  | .bytes value => (number == 2 || number == 3) && value.length ≤ 16
  | _ => false

mutual

/-- How many lists, maps and ordinary tags enclose one another. -/
def nesting : Item → Nat
  | .array items => nestingAll items + 1
  | .map entries => nestingEntries entries + 1
  | .tag number content => if isMagnitude number content then 0 else nesting content + 1
  | _ => 0

def nestingAll : List Item → Nat
  | [] => 0
  | item :: rest => max (nesting item) (nestingAll rest)

def nestingEntries : List (Item × Item) → Nat
  | [] => 0
  | (key, value) :: rest => max (max (nesting key) (nesting value)) (nestingEntries rest)

end

mutual

/-- Whether an item and everything in it satisfy a condition. -/
def every (p : Item → Bool) : Item → Bool
  | .array items => p (.array items) && everyItem p items
  | .map entries => p (.map entries) && everyEntry p entries
  | .tag number content => p (.tag number content) && every p content
  | item => p item

def everyItem (p : Item → Bool) : List Item → Bool
  | [] => true
  | item :: rest => every p item && everyItem p rest

def everyEntry (p : Item → Bool) : List (Item × Item) → Bool
  | [] => true
  | (key, value) :: rest => every p key && (every p value && everyEntry p rest)

end

/-- Whether the length of an item is a 64-bit number. -/
def lengthFits : Item → Bool
  | .text value => (Octets.ofText value).length < UInt64.size
  | .bytes value => value.length < UInt64.size
  | .array items => items.length < UInt64.size
  | .map entries => entries.length < UInt64.size
  | _ => true

def isOrdinary : Item → Bool
  | .tag number content => !isMagnitude number content
  | _ => true

/-- Whether a tag in the form of a big integer stands for one that is beyond the plain integers. -/
def isStable : Item → Bool
  | .tag number (.bytes value) => !isMagnitude number (.bytes value) ||
    bigInteger? number.toNat value == some (.tag number (.bytes value))
  | _ => true

theorem eq_bytes_of_isMagnitude {number : UInt64} {content : Item}
    (h : isMagnitude number content = true) : ∃ value, content = .bytes value := by
  cases content with
  | bytes value => exact ⟨value, rfl⟩
  | _ => contradiction

theorem isStable_of_isOrdinary {item : Item} (h : isOrdinary item = true) :
    isStable item = true := by
  unfold isStable
  split
  · exact Bool.or_eq_true_iff.2 (.inl h)
  · rfl

theorem of_every {p : Item → Bool} {item : Item} (h : every p item = true) : p item = true := by
  cases item <;> simp_all [every]

mutual

theorem every_imp {p q : Item → Bool} (hpq : ∀ item, p item = true → q item = true)
    (item : Item) (h : every p item = true) : every q item = true := by
  cases item with
  | array items =>
    simp only [every, Bool.and_eq_true] at h ⊢
    exact ⟨hpq _ h.1, everyItem_imp hpq items h.2⟩
  | map entries =>
    simp only [every, Bool.and_eq_true] at h ⊢
    exact ⟨hpq _ h.1, everyEntry_imp hpq entries h.2⟩
  | tag number content =>
    simp only [every, Bool.and_eq_true] at h ⊢
    exact ⟨hpq _ h.1, every_imp hpq content h.2⟩
  | _ =>
    simp only [every] at h ⊢
    exact hpq _ h

theorem everyItem_imp {p q : Item → Bool} (hpq : ∀ item, p item = true → q item = true)
    (items : List Item) (h : everyItem p items = true) : everyItem q items = true := by
  cases items with
  | nil => rfl
  | cons item rest =>
    simp only [everyItem, Bool.and_eq_true] at h ⊢
    exact ⟨every_imp hpq item h.1, everyItem_imp hpq rest h.2⟩

theorem everyEntry_imp {p q : Item → Bool} (hpq : ∀ item, p item = true → q item = true)
    (entries : List (Item × Item)) (h : everyEntry p entries = true) :
    everyEntry q entries = true := by
  match entries with
  | [] => rfl
  | (key, value) :: rest =>
    simp only [everyEntry, Bool.and_eq_true] at h ⊢
    exact ⟨every_imp hpq key h.1, every_imp hpq value h.2.1, everyEntry_imp hpq rest h.2.2⟩

end

theorem everyItem_iff {p : Item → Bool} {items : List Item} :
    everyItem p items = true ↔ ∀ item ∈ items, every p item = true := by
  induction items with
  | nil => simp [everyItem]
  | cons item rest ih => simp [everyItem, ih]

theorem everyEntry_iff {p : Item → Bool} {entries : List (Item × Item)} :
    everyEntry p entries = true ↔
      ∀ entry ∈ entries, every p entry.1 = true ∧ every p entry.2 = true := by
  induction entries with
  | nil => simp [everyEntry]
  | cons entry rest ih => simp [everyEntry, ih, and_assoc]

theorem nestingAll_le_iff {n : Nat} {items : List Item} :
    nestingAll items ≤ n ↔ ∀ item ∈ items, item.nesting ≤ n := by
  induction items with
  | nil => simp [nestingAll]
  | cons item rest ih => rw [nestingAll, Nat.max_le, ih, List.forall_mem_cons]

theorem nestingEntries_le_iff {n : Nat} {entries : List (Item × Item)} :
    nestingEntries entries ≤ n ↔ ∀ entry ∈ entries, entry.1.nesting ≤ n ∧ entry.2.nesting ≤ n := by
  induction entries with
  | nil => simp [nestingEntries]
  | cons entry rest ih =>
    rw [nestingEntries, Nat.max_le, Nat.max_le, ih, List.forall_mem_cons, and_assoc]

end ClusterLink.Cbor.Item
