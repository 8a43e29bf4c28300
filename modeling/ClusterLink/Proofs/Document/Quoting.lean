import ClusterLink.Document.Quoted
import Mathlib.Data.List.TakeWhile
/-!
Quoted texts are read back. Whatever form a text is written in, reading stops exactly behind its
last mark. Main statement: `read_write`.
-/
namespace ClusterLink.Document

/-- No fewer characters than parts, if every part is written. -/
theorem length_le_flatMap {α : Type} {write : α → List Char} (h : ∀ a, 0 < (write a).length)
    (as : List α) : as.length ≤ (as.flatMap write).length := by
  induction as with
  | nil => exact Nat.le_refl _
  | cons a as ih =>
    have hpos := h a
    rw [List.flatMap_cons, List.length_append, List.length_cons]
    omega

theorem Reader.mark_self (c : Char) (rest : List Char) :
    Reader.mark c (c :: rest) = some ((), rest) := if_pos rfl

theorem Reader.mark_ne {c next : Char} (h : next ≠ c) (rest : List Char) :
    Reader.mark c (next :: rest) = none := if_neg h

/-- Parts that are read one by one, in front of what closes them. -/
theorem Reader.upTo_flatMap {α β : Type} {close : Reader β} {part : Reader α}
    {write : α → List Char} {as : List α} {tail rest : List Char} {b : β}
    (hopen : ∀ a ∈ as, ∀ rest, close (write a ++ rest) = none)
    (hpart : ∀ a ∈ as, ∀ rest, part (write a ++ rest) = some (a, rest))
    (hclose : close tail = some (b, rest)) {limit : Nat} (hlimit : as.length < limit) :
    upTo close part limit (as.flatMap write ++ tail) = some ((as, b), rest) := by
  induction as generalizing limit with
  | nil =>
    cases limit with
    | zero => cases hlimit
    | succ limit => simp [upTo, hclose]
  | cons a as ih =>
    cases limit with
    | zero => cases hlimit
    | succ limit =>
      have hmore := ih (fun a ha => hopen a (List.mem_cons_of_mem _ ha))
        (fun a ha => hpart a (List.mem_cons_of_mem _ ha)) (Nat.lt_of_succ_lt_succ hlimit)
      rw [List.flatMap_cons, List.append_assoc, upTo, hopen a List.mem_cons_self,
        hpart a List.mem_cons_self]
      simp [hmore]

namespace Quoted

/-! ### One character -/

theorem hexValue?_hexDigit : ∀ n < 16, hexValue? (hexDigit n) = some n := by decide

/-- The four digits that stand for a character below `2 ^ 16`. -/
theorem codePoint_hexDigits {c : Char} (h : c.toNat < 65536) (rest : List Char) :
    codePoint 4 (hexDigit (c.toNat / 4096 % 16) :: hexDigit (c.toNat / 256 % 16) ::
      hexDigit (c.toNat / 16 % 16) :: hexDigit (c.toNat % 16) :: rest) = some (c, rest) := by
  have hdigit (n : Nat) : hexValue? (hexDigit (n % 16)) = some (n % 16) :=
    hexValue?_hexDigit _ (Nat.mod_lt _ (by decide))
  have hcode : ((c.toNat / 4096 % 16 * 16 + c.toNat / 256 % 16) * 16 + c.toNat / 16 % 16) * 16 +
      c.toNat % 16 = c.toNat := by omega
  have hvalid : c.toNat.isValidChar := c.valid
  simp [codePoint, List.mapM_cons, hdigit, hcode, hvalid]

theorem toNat_lt_of_not_printable {c : Char} (h : isPrintable c = false) : c.toNat < 128 := by
  simp only [isPrintable, Bool.or_eq_false_iff, Bool.and_eq_false_iff, decide_eq_false_iff_not,
    not_not] at h
  rcases h.2 with hlow | rfl
  · have hlt : c.toNat < ' '.toNat := Nat.lt_of_not_le hlow
    exact hlt.trans (by decide)
  · decide

/-- A character between double quotes stands there itself or is escaped by a letter. -/
theorem escape_cases (c : Char) :
    (escape c = [c] ∧ isPrintable c = true ∧ c ≠ '"' ∧ c ≠ '\\') ∨
      ∃ letter body, escape c = '\\' :: letter :: body ∧ isBlank letter = false ∧
        letter ≠ '\n' ∧ letter ≠ '\r' ∧
        ∀ rest, escaped (letter :: (body ++ rest)) = some (c, rest) := by
  unfold escape
  split
  case h_1 letter named hfind =>
    have hnamed : named = c := by simpa using List.find?_some hfind
    have hmem := List.mem_of_find?_eq_some hfind
    rw [hnamed] at hmem
    right
    refine ⟨letter, [], rfl, ?_⟩
    simp only [escapes, List.mem_cons, Prod.mk.injEq, List.not_mem_nil, or_false] at hmem
    rcases hmem with ⟨rfl, rfl⟩ | ⟨rfl, rfl⟩ | ⟨rfl, rfl⟩ | ⟨rfl, rfl⟩ | ⟨rfl, rfl⟩ | ⟨rfl, rfl⟩ |
      ⟨rfl, rfl⟩ <;> exact ⟨by decide, by decide, by decide, fun _ => rfl⟩
  case h_2 hfind =>
    have hne : c ≠ '"' ∧ c ≠ '\\' := by
      constructor <;> rintro rfl <;> cases hfind
    split
    case isTrue hprintable => exact .inl ⟨rfl, hprintable, hne⟩
    case isFalse hprintable =>
      rw [Bool.not_eq_true] at hprintable
      have hlt : c.toNat < 65536 := (toNat_lt_of_not_printable hprintable).trans (by decide)
      exact .inr ⟨'u', _, rfl, by decide, by decide, by decide, codePoint_hexDigits hlt⟩

theorem basicPart_escape (c : Char) (rest : List Char) :
    basicPart (escape c ++ rest) = some (c, rest) := by
  rcases escape_cases c with ⟨hescape, hprintable, -, hbackslash⟩ |
    ⟨letter, body, hescape, -, -, -, hread⟩
  · rw [hescape, List.singleton_append, basicPart, printable, if_pos hprintable]
    simpa using hbackslash
  · rw [hescape]
    exact hread rest

theorem afterNewline?_of_ne {c : Char} (hnewline : c ≠ '\n') (hreturn : c ≠ '\r')
    (rest : List Char) : afterNewline? (c :: rest) = none := by
  unfold afterNewline?
  split <;> simp_all

theorem literalLinePart_of_printable {c : Char} (h : isPrintable c = true) (rest : List Char) :
    literalLinePart (c :: rest) = some (c, rest) := by
  have hnewline : c ≠ '\n' := by rintro rfl; revert h; decide
  have hreturn : c ≠ '\r' := by rintro rfl; revert h; decide
  rw [literalLinePart, afterNewline?_of_ne hnewline hreturn, printable, if_pos h]

theorem literalLinePart_newline (rest : List Char) :
    literalLinePart ('\n' :: rest) = some ('\n', rest) := rfl

theorem basicLinePart_of_escaped {letter : Char} (hblank : isBlank letter = false)
    (hnewline : letter ≠ '\n') (hreturn : letter ≠ '\r') (rest : List Char) :
    basicLinePart ('\\' :: letter :: rest) =
      (escaped (letter :: rest)).map fun (c, rest) => ([c], rest) := by
  have hskip : skipBlanks (letter :: rest) = letter :: rest :=
    List.dropWhile_cons_of_neg (by simp [hblank])
  simp only [basicLinePart, hskip, afterNewline?_of_ne hnewline hreturn]

theorem basicLinePart_of_printable {c : Char} (h : isPrintable c = true) (hbackslash : c ≠ '\\')
    (rest : List Char) : basicLinePart (c :: rest) = some ([c], rest) := by
  rw [basicLinePart, literalLinePart_of_printable h]
  · rfl
  · simpa using hbackslash

theorem basicLinePart_escape (c : Char) (rest : List Char) :
    basicLinePart (escape c ++ rest) = some ([c], rest) := by
  rcases escape_cases c with ⟨hescape, hprintable, -, hbackslash⟩ |
    ⟨letter, body, hescape, hblank, hnewline, hreturn, hread⟩
  · rw [hescape]
    exact basicLinePart_of_printable hprintable hbackslash rest
  · rw [hescape, List.cons_append, List.cons_append,
      basicLinePart_of_escaped hblank hnewline hreturn, hread, Option.map_some]

/-! ### Texts on one line -/

theorem length_escape_pos (c : Char) : 1 ≤ (escape c).length := by
  rcases escape_cases c with ⟨hescape, -⟩ | ⟨letter, body, hescape, -⟩ <;> simp [hescape]

theorem mark_escape (c : Char) (rest : List Char) :
    Reader.mark '"' (escape c ++ rest) = none := by
  rcases escape_cases c with ⟨hescape, -, hquote, -⟩ | ⟨letter, body, hescape, -⟩
  · rw [hescape]
    exact Reader.mark_ne hquote rest
  · rw [hescape]
    exact Reader.mark_ne (by decide) _

/-- What does not begin with a mark three times stays on its line. -/
theorem read_eq_readLine {input : List Char} (hbasic : ∀ rest, input ≠ '"' :: '"' :: '"' :: rest)
    (hliteral : ∀ rest, input ≠ '\'' :: '\'' :: '\'' :: rest) : read input = readLine input := by
  unfold read
  split
  · exact absurd rfl (hbasic _)
  · exact absurd rfl (hliteral _)
  · rfl

theorem read_basic (s : List Char) {rest : List Char} (hrest : rest.head? ≠ some '"') :
    read ('"' :: s.flatMap escape ++ ['"'] ++ rest) = some (s, rest) := by
  have hinput : '"' :: s.flatMap escape ++ ['"'] ++ rest =
      '"' :: (s.flatMap escape ++ '"' :: rest) := by simp
  have hlimit : s.length < (s.flatMap escape ++ '"' :: rest).length := by
    have hle := length_le_flatMap length_escape_pos s
    rw [List.length_append, List.length_cons]
    omega
  have hline := Reader.upTo_flatMap (fun c _ => mark_escape c) (fun c _ => basicPart_escape c)
    (Reader.mark_self '"' rest) hlimit
  rw [hinput, read_eq_readLine, readLine, hline]
  · rfl
  · intro after h
    cases s with
    | nil => simp_all
    | cons c s =>
      have hmark := mark_escape c (s.flatMap escape ++ '"' :: rest)
      rw [List.flatMap_cons, List.append_assoc, List.cons.injEq] at h
      rw [h.2] at hmark
      cases hmark
  · nofun

theorem read_literal {s : List Char} (hne : s ≠ []) (hplain : isPlain s = true)
    (hquote : '\'' ∉ s) (hnewline : '\n' ∉ s) (rest : List Char) :
    read ('\'' :: s ++ ['\''] ++ rest) = some (s, rest) := by
  have hprintable : ∀ c ∈ s, isPrintable c = true := by
    intro c hc
    have hplain := List.all_eq_true.1 hplain c hc
    have hne : c ≠ '\n' := fun h => hnewline (h ▸ hc)
    simpa [hne] using hplain
  have hinput : '\'' :: s ++ ['\''] ++ rest = '\'' :: (s.flatMap ([·]) ++ '\'' :: rest) := by simp
  have hline : Reader.upTo (Reader.mark '\'') printable (s.flatMap ([·]) ++ '\'' :: rest).length
      (s.flatMap ([·]) ++ '\'' :: rest) = some ((s, ()), rest) := by
    apply Reader.upTo_flatMap
    · intro c hc after
      have hne : c ≠ '\'' := by
        rintro rfl
        exact hquote hc
      exact Reader.mark_ne hne after
    · intro c hc after
      exact if_pos (hprintable c hc)
    · exact Reader.mark_self '\'' rest
    · simp
  rw [hinput, read_eq_readLine, readLine, hline]
  · rfl
  · nofun
  · intro after h
    obtain ⟨c, s, rfl⟩ := List.exists_cons_of_ne_nil hne
    have hc : c = '\'' := by simpa using (List.cons.inj (List.cons.inj h).2).1
    exact hquote (hc ▸ List.mem_cons_self)

/-! ### Texts over several lines -/

/-- Up to two marks at the end of a text belong to it. Elsewhere they close nothing. -/
theorem closing_append {quote : Char} {w rest : List Char}
    (hrun : (w.takeWhile (· = quote)).length ≤ 2) (hrest : rest.head? ≠ some quote) :
    closing quote (w ++ [quote, quote, quote] ++ rest) =
      if w.all (· = quote) then some (w, rest) else none := by
  rw [List.append_assoc]
  by_cases hall : w.all (· = quote) = true
  · have hself : w.takeWhile (· = quote) = w :=
      List.takeWhile_eq_self_iff.2 (List.all_eq_true.1 hall)
    have hmarks : w = List.replicate w.length quote :=
      List.eq_replicate_iff.2 ⟨rfl, by simpa using hall⟩
    have hbehind : rest.takeWhile (· = quote) = [] := by
      cases rest with
      | nil => rfl
      | cons c rest => exact List.takeWhile_cons_of_neg (by simpa using hrest)
    have hlength : ((w ++ ([quote, quote, quote] ++ rest)).takeWhile (· = quote)).length =
        w.length + 3 := by
      simp [List.takeWhile_append, hself, hbehind]
    have hextra : min (w.length + 3 - 3) 2 = w.length := by
      rw [hself] at hrun
      omega
    have hdrop : (w ++ ([quote, quote, quote] ++ rest)).drop (w.length + 3) = rest := by
      rw [← List.append_assoc]
      exact List.drop_left' (by simp)
    simp only [closing, hlength, hextra, hdrop, ← hmarks, hall]
    simp
  · have hpart : (w.takeWhile (· = quote)).length ≠ w.length := by
      intro hlength
      have hself := (List.takeWhile_prefix (· = quote)).eq_of_length hlength
      exact hall (List.all_eq_true.2 (List.takeWhile_eq_self_iff.1 hself))
    rw [closing, List.takeWhile_append, if_neg hpart, if_neg hall]
    exact if_pos (by omega)

/-- In front of three marks, a text is over if only marks are left of it, and else goes on. -/
theorem upTo_closing {α : Type} {quote : Char} {w rest : List Char} (part : Reader α)
    (hrun : (w.takeWhile (· = quote)).length ≤ 2) (hrest : rest.head? ≠ some quote)
    (limit : Nat) :
    Reader.upTo (closing quote) part (limit + 1) (w ++ [quote, quote, quote] ++ rest) =
      if w.all (· = quote) then some (([], w), rest)
      else (part (w ++ [quote, quote, quote] ++ rest)).bind fun (a, after) =>
        (Reader.upTo (closing quote) part limit after).bind fun ((more, marks), last) =>
          some ((a :: more, marks), last) := by
  rw [Reader.upTo, closing_append hrun hrest]
  by_cases hall : w.all (· = quote) = true
  · rw [if_pos hall, if_pos hall]
  · rw [if_neg hall, if_neg hall]
    rfl

theorem run_le_of_not_isTripled {quote : Char} {s : List Char} (h : isTripled quote s = false) :
    (s.takeWhile (· = quote)).length ≤ 2 := by
  match s with
  | [] | [_] | [_, _] => exact (List.takeWhile_prefix _).length_le.trans (by simp)
  | a :: b :: d :: rest =>
    have hfront : ¬ (a = quote ∧ b = quote ∧ d = quote) := by
      rintro ⟨rfl, rfl, rfl⟩
      simp [isTripled] at h
    by_cases ha : a = quote
    · by_cases hb : b = quote
      · have hd : d ≠ quote := fun hd => hfront ⟨ha, hb, hd⟩
        simp [ha, hb, hd]
      · simp [ha, hb]
    · simp [ha]

theorem isTripled_tail {quote c : Char} {s : List Char} (h : isTripled quote (c :: s) = false) :
    isTripled quote s = false := by
  match s with
  | [] | [_] => rfl
  | _ :: _ :: _ => exact (Bool.or_eq_false_iff.1 h).2

theorem upTo_literalLines {s rest : List Char} (hplain : isPlain s = true)
    (htripled : isTripled '\'' s = false) (hrest : rest.head? ≠ some '\'') {limit : Nat}
    (hlimit : s.length < limit) :
    ∃ front marks, Reader.upTo (closing '\'') literalLinePart limit
        (s ++ ['\'', '\'', '\''] ++ rest) = some ((front, marks), rest) ∧ front ++ marks = s := by
  induction s generalizing limit with
  | nil =>
    obtain ⟨limit, rfl⟩ := Nat.exists_eq_add_one_of_ne_zero (by omega : limit ≠ 0)
    exact ⟨[], [], upTo_closing _ (by simp) hrest limit, rfl⟩
  | cons c s ih =>
    obtain ⟨limit, rfl⟩ := Nat.exists_eq_add_one_of_ne_zero (by omega : limit ≠ 0)
    rw [upTo_closing _ (run_le_of_not_isTripled htripled) hrest]
    split
    case isTrue => exact ⟨[], c :: s, rfl, rfl⟩
    case isFalse =>
      obtain ⟨hc, hplain⟩ := Bool.and_eq_true_iff.1 hplain
      obtain ⟨front, marks, hread, hsame⟩ := ih hplain (isTripled_tail htripled)
        (Nat.lt_of_succ_lt_succ hlimit)
      have hpart (after : List Char) : literalLinePart (c :: after) = some (c, after) := by
        rcases Bool.or_eq_true_iff.1 hc with hnewline | hprintable
        · rw [of_decide_eq_true hnewline, literalLinePart_newline]
        · exact literalLinePart_of_printable hprintable after
      refine ⟨c :: front, marks, ?_, congrArg (c :: ·) hsame⟩
      rw [List.cons_append, List.cons_append, hpart, Option.bind_some]
      dsimp only
      rw [hread, Option.bind_some]

/-- One character of a text over several lines: a mark as it is, if that is not the third in a row,
or what is no mark. -/
theorem escapeLines_cons (run : Nat) (c : Char) (s : List Char) :
    (c = '"' ∧ run < 2 ∧ escapeLines run (c :: s) = '"' :: escapeLines (run + 1) s) ∨
      ∃ first body, escapeLines run (c :: s) = first :: body ++ escapeLines 0 s ∧ first ≠ '"' ∧
        ∀ rest, basicLinePart (first :: body ++ rest) = some ([c], rest) := by
  by_cases hquote : c = '"'
  · subst hquote
    by_cases hrun : run < 2
    · exact .inl ⟨rfl, hrun, if_pos hrun⟩
    · exact .inr ⟨'\\', ['"'], if_neg hrun, by decide, fun _ => rfl⟩
  · right
    by_cases hnewline : c = '\n'
    · subst hnewline
      exact ⟨'\n', [], rfl, by decide, fun _ => rfl⟩
    · have hcons : escapeLines run (c :: s) = escape c ++ escapeLines 0 s := by
        rw [escapeLines]
        · exact hquote
        · exact hnewline
      have hread := basicLinePart_escape c
      rw [hcons]
      rcases escape_cases c with ⟨hescape, -⟩ | ⟨letter, body, hescape, -⟩
      · rw [hescape] at hread ⊢
        exact ⟨c, [], rfl, hquote, hread⟩
      · rw [hescape] at hread ⊢
        exact ⟨'\\', letter :: body, rfl, by decide, hread⟩

theorem run_escapeLines {run : Nat} (hrun : run ≤ 2) (s : List Char) :
    ((escapeLines run s).takeWhile (· = '"')).length + run ≤ 2 := by
  induction s generalizing run with
  | nil => simpa [escapeLines] using hrun
  | cons c s ih =>
    rcases escapeLines_cons run c s with ⟨-, hlt, hcons⟩ | ⟨first, body, hcons, hfirst, -⟩
    · have hmore : _ + (run + 1) ≤ 2 := ih hlt
      rw [hcons, List.takeWhile_cons_of_pos (by simp), List.length_cons]
      omega
    · rw [hcons, List.cons_append, List.takeWhile_cons_of_neg (by simpa using hfirst)]
      simpa using hrun

theorem escapeLines_of_all {run : Nat} {s : List Char}
    (h : (escapeLines run s).all (· = '"') = true) : escapeLines run s = s := by
  induction s generalizing run with
  | nil => rfl
  | cons c s ih =>
    rcases escapeLines_cons run c s with ⟨rfl, -, hcons⟩ | ⟨first, body, hcons, hfirst, -⟩
    · rw [hcons, List.all_cons, Bool.and_eq_true] at h
      rw [hcons, ih h.2]
    · rw [hcons] at h
      simp [hfirst] at h

theorem upTo_escapeLines {run : Nat} (hrun : run ≤ 2) {s rest : List Char}
    (hrest : rest.head? ≠ some '"') {limit : Nat} (hlimit : s.length < limit) :
    ∃ front marks, Reader.upTo (closing '"') basicLinePart limit
        (escapeLines run s ++ ['"', '"', '"'] ++ rest) = some ((front, marks), rest) ∧
      front.flatten ++ marks = s := by
  induction s generalizing run limit with
  | nil =>
    obtain ⟨limit, rfl⟩ := Nat.exists_eq_add_one_of_ne_zero (by omega : limit ≠ 0)
    exact ⟨[], [], upTo_closing _ (by simp [escapeLines]) hrest limit, rfl⟩
  | cons c s ih =>
    obtain ⟨limit, rfl⟩ := Nat.exists_eq_add_one_of_ne_zero (by omega : limit ≠ 0)
    have hmarks := run_escapeLines hrun (c :: s)
    rw [upTo_closing _ (by omega) hrest]
    split
    case isTrue hall => exact ⟨[], _, rfl, escapeLines_of_all hall⟩
    case isFalse =>
      have hpart : ∃ run' ≤ 2, basicLinePart (escapeLines run (c :: s) ++ ['"', '"', '"'] ++ rest) =
          some ([c], escapeLines run' s ++ ['"', '"', '"'] ++ rest) := by
        rcases escapeLines_cons run c s with ⟨rfl, hlt, hcons⟩ | ⟨first, body, hcons, -, hread⟩
        · refine ⟨run + 1, hlt, ?_⟩
          rw [hcons]
          exact basicLinePart_of_printable (by decide) (by decide) _
        · refine ⟨0, Nat.zero_le _, ?_⟩
          rw [hcons, List.append_assoc, List.append_assoc, hread, List.append_assoc]
      obtain ⟨run', hrun', hpart⟩ := hpart
      obtain ⟨front, marks, hread, hsame⟩ := ih hrun' (Nat.lt_of_succ_lt_succ hlimit)
      refine ⟨[c] :: front, marks, ?_, congrArg (c :: ·) hsame⟩
      rw [hpart, Option.bind_some]
      dsimp only
      rw [hread, Option.bind_some]

theorem length_le_escapeLines (run : Nat) (s : List Char) :
    s.length ≤ (escapeLines run s).length := by
  induction s generalizing run with
  | nil => exact Nat.le_refl _
  | cons c s ih =>
    rcases escapeLines_cons run c s with ⟨-, -, hcons⟩ | ⟨first, body, hcons, -⟩
    · rw [hcons]
      exact Nat.succ_le_succ (ih (run + 1))
    · have hmore := ih 0
      rw [hcons, List.length_append, List.length_cons, List.length_cons]
      omega

/-! ### The line break in front -/

theorem skipNewline_of_none {input : List Char} (h : afterNewline? input = none) :
    skipNewline input = input := by
  rw [skipNewline, h, Option.getD_none]

/-- The line break in front of a text is skipped, and nothing of a text without one. -/
theorem skipNewline_opening {s w : List Char} (h : '\n' ∉ s → afterNewline? w = none) :
    skipNewline (opening s ++ w) = w := by
  unfold opening
  by_cases hnewline : '\n' ∈ s
  · rw [if_pos (by simpa using hnewline)]
    rfl
  · rw [if_neg (by simpa using hnewline)]
    exact skipNewline_of_none (h hnewline)

theorem afterNewline?_of_printable {c : Char} (h : isPrintable c = true) (rest : List Char) :
    afterNewline? (c :: rest) = none := by
  apply afterNewline?_of_ne
  · rintro rfl
    revert h
    decide
  · rintro rfl
    revert h
    decide

theorem afterNewline?_escapeLines {s : List Char} (h : '\n' ∉ s) (rest : List Char) :
    afterNewline? (escapeLines 0 s ++ '"' :: rest) = none := by
  cases s with
  | nil => rfl
  | cons c s =>
    by_cases hquote : c = '"'
    · subst hquote
      rfl
    · have hnewline : c ≠ '\n' := fun hc => h (hc ▸ List.mem_cons_self)
      rw [escapeLines]
      · rcases escape_cases c with ⟨hescape, hprintable, -⟩ | ⟨letter, body, hescape, -⟩
        · rw [hescape]
          exact afterNewline?_of_printable hprintable _
        · rw [hescape]
          rfl
      · exact hquote
      · exact hnewline

theorem afterNewline?_of_isPlain {s : List Char} (hplain : isPlain s = true) (h : '\n' ∉ s)
    (rest : List Char) : afterNewline? (s ++ '\'' :: rest) = none := by
  cases s with
  | nil => rfl
  | cons c s =>
    have hc := (Bool.and_eq_true_iff.1 hplain).1
    have hnewline : c ≠ '\n' := fun hc => h (hc ▸ List.mem_cons_self)
    exact afterNewline?_of_printable (by simpa [hnewline] using hc) _

/-! ### Every form -/

theorem of_form_literal {s : List Char} (h : form s = .literal) :
    isPlain s = true ∧ '\'' ∉ s ∧ '\n' ∉ s ∧ s ≠ [] := by
  have hne : s ≠ [] := by
    rintro rfl
    cases h
  unfold form at h
  dsimp only at h
  split at h
  · cases h
  · split at h
    case isTrue hliteral =>
      simp only [Bool.and_eq_true, Bool.not_eq_true', List.contains_eq_mem,
        decide_eq_false_iff_not] at hliteral
      exact ⟨hliteral.1.1, hliteral.1.2, hliteral.2, hne⟩
    case isFalse =>
      split at h
      · cases h
      · split at h
        · cases h
        · split at h <;> cases h

theorem of_form_literalLines {s : List Char} (h : form s = .literalLines) :
    isPlain s = true ∧ isTripled '\'' s = false := by
  unfold form at h
  dsimp only at h
  split at h
  · cases h
  · split at h
    · cases h
    · split at h
      · cases h
      · split at h
        case isTrue hlines => simpa using hlines
        case isFalse => split at h <;> cases h

theorem read_basicLines (s : List Char) {rest : List Char} (hrest : rest.head? ≠ some '"') :
    read (['"', '"', '"'] ++ opening s ++ escapeLines 0 s ++ ['"', '"', '"'] ++ rest) =
      some (s, rest) := by
  have hinput : ['"', '"', '"'] ++ opening s ++ escapeLines 0 s ++ ['"', '"', '"'] ++ rest =
      '"' :: '"' :: '"' :: (opening s ++ (escapeLines 0 s ++ ['"', '"', '"'] ++ rest)) := by simp
  have hskip : skipNewline (opening s ++ (escapeLines 0 s ++ ['"', '"', '"'] ++ rest)) =
      escapeLines 0 s ++ ['"', '"', '"'] ++ rest := by
    apply skipNewline_opening
    intro hnewline
    rw [List.append_assoc]
    exact afterNewline?_escapeLines hnewline _
  have hlimit : s.length <
      (opening s ++ (escapeLines 0 s ++ ['"', '"', '"'] ++ rest)).length := by
    have hle := length_le_escapeLines 0 s
    simp only [List.length_append, List.length_cons]
    omega
  obtain ⟨front, marks, hread, hsame⟩ := upTo_escapeLines (Nat.zero_le 2) hrest hlimit
  rw [hinput, read, hskip, hread]
  exact congrArg (fun text => some (text, rest)) hsame

theorem read_literalLines {s : List Char} (hplain : isPlain s = true)
    (htripled : isTripled '\'' s = false) {rest : List Char} (hrest : rest.head? ≠ some '\'') :
    read (['\'', '\'', '\''] ++ opening s ++ s ++ ['\'', '\'', '\''] ++ rest) =
      some (s, rest) := by
  have hinput : ['\'', '\'', '\''] ++ opening s ++ s ++ ['\'', '\'', '\''] ++ rest =
      '\'' :: '\'' :: '\'' :: (opening s ++ (s ++ ['\'', '\'', '\''] ++ rest)) := by simp
  have hskip : skipNewline (opening s ++ (s ++ ['\'', '\'', '\''] ++ rest)) =
      s ++ ['\'', '\'', '\''] ++ rest := by
    apply skipNewline_opening
    intro hnewline
    rw [List.append_assoc]
    exact afterNewline?_of_isPlain hplain hnewline _
  have hlimit : s.length < (opening s ++ (s ++ ['\'', '\'', '\''] ++ rest)).length := by
    simp only [List.length_append, List.length_cons]
    omega
  obtain ⟨front, marks, hread, hsame⟩ := upTo_literalLines hplain htripled hrest hlimit
  rw [hinput, read, hskip, hread]
  exact congrArg (fun text => some (text, rest)) hsame

/-- A text stands in quotes of one kind or the other. -/
theorem exists_write (s : List Char) :
    (∃ body, write s = '"' :: body) ∨ ∃ body, write s = '\'' :: body := by
  unfold write
  cases form s with
  | basic | basicLines => exact .inl ⟨_, rfl⟩
  | literal | literalLines => exact .inr ⟨_, rfl⟩

/-- A text is read back, whatever it holds, unless a quotation mark follows it. -/
theorem read_write (s : List Char) {rest : List Char} (hbasic : rest.head? ≠ some '"')
    (hliteral : rest.head? ≠ some '\'') : read (write s ++ rest) = some (s, rest) := by
  unfold write
  cases hform : form s with
  | basic => exact read_basic s hbasic
  | literal =>
    obtain ⟨hplain, hquote, hnewline, hne⟩ := of_form_literal hform
    exact read_literal hne hplain hquote hnewline rest
  | basicLines => exact read_basicLines s hbasic
  | literalLines =>
    obtain ⟨hplain, htripled⟩ := of_form_literalLines hform
    exact read_literalLines hplain htripled hliteral

end Quoted
end ClusterLink.Document
