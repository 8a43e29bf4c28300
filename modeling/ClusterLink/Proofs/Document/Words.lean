import ClusterLink.Document.Printer
import ClusterLink.Proofs.Document.Quoting
import Mathlib.Data.List.Basic
/-!
Values without brackets are read back: truth values, integers of 64 bits, and texts. Main statement:
`leaf_write`.
-/
namespace ClusterLink.Document

/-- What stands in front of the first character without a property, and what is left. -/
theorem takeWhile_dropWhile_append {p : Char → Bool} {w rest : List Char} (hw : ∀ c ∈ w, p c = true)
    (hrest : ∀ c ∈ rest.head?, p c = false) :
    (w ++ rest).takeWhile p = w ∧ (w ++ rest).dropWhile p = rest := by
  rw [List.takeWhile_append_of_pos hw, List.dropWhile_append_of_pos hw]
  cases rest with
  | nil => exact ⟨List.append_nil w, rfl⟩
  | cons c rest => simp [hrest c rfl]

namespace Scalar

/-! ### Words -/

theorem twoDigits_eq_some {limit n : Nat} {input rest : List Char}
    (h : twoDigits limit input = some (n, rest)) :
    ∃ a b, input = a :: b :: rest ∧ a.isDigit = true := by
  unfold twoDigits at h
  split at h
  case h_1 a b after =>
    dsimp only at h
    split at h
    case isTrue hdigits =>
      cases h
      exact ⟨a, b, rfl, hdigits.1⟩
    case isFalse => cases h
  case h_2 => cases h

/-- A date begins with a digit and has a hyphen in it. -/
theorem of_date_eq_some {w rest : List Char} (h : date w = some ((), rest)) :
    (∃ a after, w = a :: after ∧ a.isDigit = true) ∧ '-' ∈ w := by
  simp only [date, Option.bind_eq_bind, Option.bind_eq_some_iff, Prod.exists] at h
  obtain ⟨century, behind, hcentury, year, behind', hyear, _, behind'', hmark, -⟩ := h
  obtain ⟨a, b, rfl, ha⟩ := twoDigits_eq_some hcentury
  obtain ⟨c, d, rfl, -⟩ := twoDigits_eq_some hyear
  refine ⟨⟨a, _, rfl, ha⟩, ?_⟩
  cases behind' with
  | nil => cases hmark
  | cons next behind' =>
    have hnext : next = '-' := by
      by_contra hne
      rw [Reader.mark_ne hne] at hmark
      cases hmark
    simp [hnext]

/-- A word that is no date is taken up to its end. -/
theorem word_append {w rest : List Char} (hw : ∀ c ∈ w, isWordChar c = true)
    (hrest : ∀ c ∈ rest.head?, isWordChar c = false) (hdate : ∀ after, date w ≠ some ((), after)) :
    word (w ++ rest) = (w, rest) := by
  obtain ⟨htake, hdrop⟩ := takeWhile_dropWhile_append hw hrest
  unfold word
  rw [htake, hdrop]
  dsimp only
  split
  case h_1 hsome => exact absurd hsome (hdate [])
  case h_2 => rfl

/-! ### Integers -/

theorem isDigit_of_mem {n : Nat} {c : Char} (h : c ∈ Nat.toDigits 10 n) : c.isDigit = true :=
  Nat.isDigit_of_mem_toDigits (by decide) (by decide) h

theorem ofDigits_toDigits (n : Nat) : ofDigits 10 (Nat.toDigits 10 n) = n := by
  have hvalue : ∀ c ∈ Nat.toDigits 10 n, digitValue c = c.toNat - '0'.toNat := by
    intro c hc
    have hnine : c ≤ '9' := (Char.isDigit_iff_toNat.1 (isDigit_of_mem hc)).2
    exact if_pos hnine
  have hfold : ofDigits 10 (Nat.toDigits 10 n) = Nat.ofDigitChars 10 (Nat.toDigits 10 n) 0 := by
    rw [Nat.ofDigitChars_eq_foldl, ofDigits]
    apply List.foldl_ext
    intro sum c hc
    rw [hvalue c hc, Nat.mul_comm]
  rw [hfold, Nat.ofDigitChars_ten_toDigits]

/-- Digits with no underscore among them. -/
theorem digits?_of_all {isDigit : Char → Bool} (hunderscore : isDigit '_' = false)
    {word : List Char} (hne : word ≠ []) (h : ∀ c ∈ word, isDigit c = true) :
    digits? isDigit word = some word := by
  induction word with
  | nil => exact absurd rfl hne
  | cons c word ih =>
    have hc := h c List.mem_cons_self
    have hmore := fun hne => ih hne fun d hd => h d (List.mem_cons_of_mem c hd)
    match word with
    | [] => exact if_pos hc
    | '_' :: _ => simp [hunderscore] at h
    | d :: word =>
      by_cases hd : d = '_'
      · subst hd
        simp [hunderscore] at h
      · rw [digits?, if_pos hc, hmore (List.cons_ne_nil _ _), Option.map_some]
        · exact List.cons_ne_nil _ _
        · intro after heq
          exact hd (List.cons.inj heq).1

theorem head?_toDigits {n : Nat} (h : n ≠ 0) : (Nat.toDigits 10 n).head? ≠ some '0' := by
  induction n using Nat.strongRecOn with
  | _ n ih =>
    by_cases hlt : n < 10
    · rw [Nat.toDigits_of_lt_base hlt]
      simpa [Nat.digitChar_eq_zero] using h
    · have hle : 10 ≤ n := Nat.le_of_not_lt hlt
      rw [Nat.toDigits_of_base_le (by decide) hle,
        List.head?_append_of_ne_nil _ Nat.toDigits_ne_nil]
      exact ih (n / 10) (by omega) (by omega)

/-- A natural number has no zero before other digits. -/
theorem whole?_toDigits (n : Nat) : whole? (Nat.toDigits 10 n) = some (Nat.toDigits 10 n) := by
  have hdigits : digits? Char.isDigit (Nat.toDigits 10 n) = some (Nat.toDigits 10 n) :=
    digits?_of_all (by decide) Nat.toDigits_ne_nil fun c => isDigit_of_mem
  rw [whole?, hdigits]
  apply if_neg
  rintro ⟨hzero, hlength⟩
  by_cases h : n = 0
  · subst h
    exact hlength rfl
  · exact head?_toDigits h hzero

theorem toString_toList (n : Int) : (toString n).toList =
    if 0 ≤ n then Nat.toDigits 10 n.toNat else '-' :: Nat.toDigits 10 (-n).toNat := by
  change n.repr.toList = _
  rw [Int.repr_eq_if]
  split <;> simp [Nat.repr_eq_ofList_toDigits]

theorem signed_of_isDigit {word : List Char} (h : ∀ c ∈ word, c.isDigit = true) :
    signed word = (false, word) := by
  unfold signed
  split
  case h_1 => exact absurd (h '-' List.mem_cons_self) (by decide)
  case h_2 => exact absurd (h '+' List.mem_cons_self) (by decide)
  case h_3 => rfl

theorem magnitude?_toDigits (n : Nat) : magnitude? (Nat.toDigits 10 n) = some n := by
  -- A letter behind the first zero would name another base.
  have hletter {letter : Char} (hletter : letter.isDigit = false) (rest : List Char) :
      Nat.toDigits 10 n ≠ '0' :: letter :: rest := by
    intro heq
    have hdigit : letter.isDigit = true := isDigit_of_mem (n := n) (by simp [heq])
    rw [hletter] at hdigit
    cases hdigit
  unfold magnitude?
  split
  case h_1 rest heq => exact absurd heq (hletter (by decide) rest)
  case h_2 rest heq => exact absurd heq (hletter (by decide) rest)
  case h_3 rest heq => exact absurd heq (hletter (by decide) rest)
  case h_4 => rw [whole?_toDigits, Option.map_some, ofDigits_toDigits]

theorem integer?_toString {n : Int} (h : fits n = true) :
    integer? (toString n).toList = some n := by
  by_cases hn : 0 ≤ n
  · have hsame : ((n.toNat : Nat) : Int) = n := Int.toNat_of_nonneg hn
    rw [toString_toList, if_pos hn, integer?, signed_of_isDigit fun c => isDigit_of_mem]
    simp [magnitude?_toDigits, hsame, h]
  · have hsame : -max (-n) 0 = n := by omega
    rw [toString_toList, if_neg hn, integer?]
    simp [signed, whole?_toDigits, ofDigits_toDigits, hsame, h]

theorem toString_ne_nil (n : Int) : (toString n).toList ≠ [] := by
  rw [toString_toList]
  split
  · exact Nat.toDigits_ne_nil
  · exact List.cons_ne_nil _ _

theorem isWordChar_of_isDigit {c : Char} (h : c.isDigit = true) : isWordChar c = true := by
  simp [isWordChar, Char.isAlphanum, h]

theorem isWordChar_of_mem_toString {n : Int} {c : Char} (h : c ∈ (toString n).toList) :
    isWordChar c = true := by
  rw [toString_toList] at h
  split at h
  · exact isWordChar_of_isDigit (isDigit_of_mem h)
  · rcases List.mem_cons.1 h with rfl | hdigit
    · decide
    · exact isWordChar_of_isDigit (isDigit_of_mem hdigit)

/-- A hyphen stands in no integer but at its front, where no date has one. -/
theorem date_toString (n : Int) (after : List Char) :
    date (toString n).toList ≠ some ((), after) := by
  intro hdate
  obtain ⟨⟨first, behind, hfirst, hdigit⟩, hhyphen⟩ := of_date_eq_some hdate
  rw [toString_toList] at hfirst hhyphen
  split at hfirst
  case isTrue hn =>
    rw [if_pos hn] at hhyphen
    exact absurd (isDigit_of_mem hhyphen) (by decide)
  case isFalse =>
    rw [← (List.cons.inj hfirst).1] at hdigit
    exact absurd hdigit (by decide)

theorem ofWord?_toString {n : Int} (h : fits n = true) :
    ofWord? (toString n).toList = some (.integer n) := by
  have hinteger := integer?_toString h
  have htrue : (toString n).toList ≠ "true".toList := by
    intro heq
    rw [heq] at hinteger
    exact absurd hinteger nofun
  have hfalse : (toString n).toList ≠ "false".toList := by
    intro heq
    rw [heq] at hinteger
    exact absurd hinteger nofun
  rw [ofWord?, if_neg htrue, if_neg hfalse, hinteger]

end Scalar

/-! ### Values -/

/-- What can follow a value: the end of its line, and what separates or closes elements. -/
def EndsValue (rest : List Char) : Prop := ∀ c ∈ rest.head?, c = '\n' ∨ c = ',' ∨ c = ']'

theorem EndsValue.not_word {rest : List Char} (h : EndsValue rest) :
    ∀ c ∈ rest.head?, Scalar.isWordChar c = false := by
  intro c hc
  rcases h c hc with rfl | rfl | rfl <;> decide

theorem EndsValue.head?_ne {rest : List Char} (h : EndsValue rest) {quote : Char}
    (hquote : quote ≠ '\n' ∧ quote ≠ ',' ∧ quote ≠ ']') : rest.head? ≠ some quote := by
  intro hhead
  rcases h quote hhead with heq | heq | heq
  · exact hquote.1 heq
  · exact hquote.2.1 heq
  · exact hquote.2.2 heq

namespace Value

/-- Values that are written without brackets and read as the same. -/
def IsLeaf : Value → Prop
  | .text _ => True
  | .boolean _ => True
  | .integer n => Scalar.fits n = true
  | _ => False

end Value

theorem leaf_word {w rest : List Char} (hne : w ≠ []) (hw : ∀ c ∈ w, Scalar.isWordChar c = true)
    (hdate : ∀ after, Scalar.date w ≠ some ((), after)) (hrest : EndsValue rest) :
    leaf (w ++ rest) = (Scalar.ofWord? w).map (·, rest) := by
  have hquote {quote : Char} (hquote : Scalar.isWordChar quote = false) :
      (w ++ rest).head? ≠ some quote := by
    rw [List.head?_append_of_ne_nil _ hne]
    intro hhead
    rw [hw quote (List.mem_of_mem_head? hhead)] at hquote
    cases hquote
  rw [leaf, if_neg (not_or.2 ⟨hquote (by decide), hquote (by decide)⟩), Scalar.read,
    Scalar.word_append hw hrest.not_word hdate]

/-- A value without brackets is read back. -/
theorem leaf_write {v : Value} (hv : v.IsLeaf) {rest : List Char} (hrest : EndsValue rest) :
    leaf (v.write ++ rest) = some (v, rest) := by
  cases v with
  | text s =>
    have hquote : (Quoted.write s.toList ++ rest).head? = some '"' ∨
        (Quoted.write s.toList ++ rest).head? = some '\'' := by
      rcases Quoted.exists_write s.toList with ⟨body, hbody⟩ | ⟨body, hbody⟩
      · exact .inl (by rw [hbody]; rfl)
      · exact .inr (by rw [hbody]; rfl)
    rw [Value.write, leaf, if_pos hquote, Quoted.read_write s.toList
      (hrest.head?_ne (by decide)) (hrest.head?_ne (by decide)), Option.map_some]
    simp
  | integer n =>
    have hword := leaf_word (Scalar.toString_ne_nil n)
      (fun c => Scalar.isWordChar_of_mem_toString) (Scalar.date_toString n) hrest
    rw [Value.write, hword, Scalar.ofWord?_toString hv, Option.map_some]
  | boolean b =>
    cases b with
    | true =>
      have hw : "true".toList.all Scalar.isWordChar = true := rfl
      exact leaf_word (by decide) (List.all_eq_true.1 hw) nofun hrest
    | false =>
      have hw : "false".toList.all Scalar.isWordChar = true := rfl
      exact leaf_word (by decide) (List.all_eq_true.1 hw) nofun hrest
  | float | moment | array | table | tables => cases hv

end ClusterLink.Document
