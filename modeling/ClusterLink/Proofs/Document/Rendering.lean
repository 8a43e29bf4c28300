import ClusterLink.Document.Parser
import ClusterLink.Proofs.Document.Words
import Mathlib.Data.List.Forall2
/-!
A document is read back from its text, line by line. Keys are bare, and values are texts, truth
values, integers of 64 bits and arrays of such values. Main statement: `parse?_render`.
-/
namespace ClusterLink.Document

/-! ### What begins a part of a line -/

/-- A character that no reader skips. -/
abbrev Opens (c : Char) : Prop := c ∉ [' ', '\t', '\n', '\r', '#']

theorem not_isBlank_of_opens {c : Char} (h : Opens c) : isBlank c = false := by
  simp_all [Opens, isBlank]

theorem skipBlanks_of_opens {c : Char} (h : Opens c) (rest : List Char) :
    skipBlanks (c :: rest) = c :: rest :=
  List.dropWhile_cons_of_neg (by simp [not_isBlank_of_opens h])

theorem skipTrivia_of_opens {c : Char} (h : Opens c) (rest : List Char) :
    skipTrivia false (c :: rest) = c :: rest := by
  have hblank := not_isBlank_of_opens h
  simp only [Opens, List.mem_cons, not_or] at h
  unfold skipTrivia
  split <;> simp_all

theorem afterLine?_of_opens {c : Char} (h : Opens c) (rest : List Char) :
    afterLine? (c :: rest) = none := by
  have hblank := skipBlanks_of_opens h rest
  simp only [Opens, List.mem_cons, not_or] at h
  have hnewline := Quoted.afterNewline?_of_ne h.2.2.1 h.2.2.2.1 rest
  unfold afterLine?
  rw [hblank]
  simp_all

theorem isKeyChar_opens {c : Char} (h : isKeyChar c = true) : Opens c := by
  intro hmem
  simp only [List.mem_cons, List.not_mem_nil, or_false] at hmem
  rcases hmem with rfl | rfl | rfl | rfl | rfl <;> exact absurd h (by decide)

/-! ### Keys -/

/-- A name that is written as it is. -/
structure IsBare (name : String) : Prop where
  ne : name.toList ≠ []
  chars : ∀ c ∈ name.toList, isKeyChar c = true

theorem IsBare.write {name : String} (h : IsBare name) : writeKeyPart name = name.toList := by
  have hall : name.toList.all isKeyChar = true := List.all_eq_true.2 h.chars
  simp [writeKeyPart, hall, h.ne]

theorem IsBare.exists_cons {name : String} (h : IsBare name) :
    ∃ c behind, name.toList = c :: behind ∧ isKeyChar c = true := by
  obtain ⟨c, behind, hname⟩ := List.exists_cons_of_ne_nil h.ne
  exact ⟨c, behind, hname, h.chars c (hname ▸ List.mem_cons_self)⟩

theorem readLine_of_isKeyChar {c : Char} (h : isKeyChar c = true) (rest : List Char) :
    Quoted.readLine (c :: rest) = none := by
  unfold Quoted.readLine
  split
  case h_1 heq => exact absurd ((List.cons.inj heq).1 ▸ h) (by decide)
  case h_2 heq => exact absurd ((List.cons.inj heq).1 ▸ h) (by decide)
  case h_3 => rfl

theorem keyPart_of_bare {name : String} (h : IsBare name) {rest : List Char}
    (hrest : ∀ c ∈ rest.head?, isKeyChar c = false) :
    keyPart (name.toList ++ rest) = some (name, rest) := by
  obtain ⟨c, behind, hname, hc⟩ := h.exists_cons
  have hquoted : Quoted.readLine (name.toList ++ rest) = none := by
    rw [hname]
    exact readLine_of_isKeyChar hc _
  obtain ⟨htake, hdrop⟩ := takeWhile_dropWhile_append h.chars hrest
  rw [keyPart, hquoted]
  simp [htake, hdrop, h.ne]

/-- The names of a key, which are not too many. -/
structure IsKey (path : List String) (key : String) : Prop where
  depth : path.length < depthLimit
  path_bare : ∀ name ∈ path, IsBare name
  bare : IsBare key

/-- A dotted key is read up to what follows it, blanks apart. -/
theorem keyWithin_write {path : List String} {key : String} (hpath : ∀ name ∈ path, IsBare name)
    (hkey : IsBare key) {rest : List Char} (hrest : ∀ c ∈ rest.head?, isKeyChar c = false)
    (hdot : (skipBlanks rest).head? ≠ some '.') {limit : Nat} (hlimit : path.length < limit) :
    keyWithin limit (writeKey path key ++ rest) = some ((path, key), skipBlanks rest) := by
  have hskip {name : String} (hname : IsBare name) (rest : List Char) :
      skipBlanks (name.toList ++ rest) = name.toList ++ rest := by
    obtain ⟨c, behind, hcons, hc⟩ := hname.exists_cons
    rw [hcons]
    exact skipBlanks_of_opens (isKeyChar_opens hc) _
  induction path generalizing limit with
  | nil =>
    obtain ⟨limit, rfl⟩ := Nat.exists_eq_add_one_of_ne_zero (by omega : limit ≠ 0)
    rw [writeKey, List.foldr_nil, hkey.write, keyWithin, hskip hkey, keyPart_of_bare hkey hrest]
    simp only [Option.bind_eq_bind, Option.bind_some]
    split
    case h_1 heq =>
      rw [heq] at hdot
      exact absurd rfl hdot
    case h_2 => rfl
  | cons name path ih =>
    obtain ⟨limit, rfl⟩ := Nat.exists_eq_add_one_of_ne_zero (by omega : limit ≠ 0)
    have hname := hpath name List.mem_cons_self
    have hmore := ih (fun name hmem => hpath name (List.mem_cons_of_mem _ hmem))
      (Nat.lt_of_succ_lt_succ hlimit)
    have hwrite : writeKey (name :: path) key ++ rest =
        name.toList ++ '.' :: (writeKey path key ++ rest) := by
      rw [writeKey, List.foldr_cons, hname.write, List.append_assoc]
      rfl
    rw [hwrite, keyWithin, hskip hname, keyPart_of_bare hname (by simp; decide)]
    simp only [Option.bind_eq_bind, Option.bind_some, skipBlanks_of_opens (c := '.') (by decide)]
    rw [hmore, Option.bind_some]

theorem key_write {path : List String} {key : String} (h : IsKey path key) {rest : List Char}
    (hrest : ∀ c ∈ rest.head?, isKeyChar c = false)
    (hdot : (skipBlanks rest).head? ≠ some '.') :
    Document.key (writeKey path key ++ rest) = some ((path, key), skipBlanks rest) :=
  keyWithin_write h.path_bare h.bare hrest hdot h.depth

/-- A key begins with a character of a name. -/
theorem IsKey.exists_cons {path : List String} {key : String} (h : IsKey path key) :
    ∃ c behind, writeKey path key = c :: behind ∧ isKeyChar c = true := by
  cases path with
  | nil =>
    obtain ⟨c, behind, hkey, hc⟩ := h.bare.exists_cons
    exact ⟨c, behind, h.bare.write.trans hkey, hc⟩
  | cons name path =>
    have hname := h.path_bare name List.mem_cons_self
    obtain ⟨c, behind, hcons, hc⟩ := hname.exists_cons
    refine ⟨c, behind ++ '.' :: writeKey path key, ?_, hc⟩
    rw [writeKey, List.foldr_cons, hname.write, hcons]
    rfl

/-! ### Values -/

theorem exists_writeElements (es : List (List Char)) :
    ∃ behind, writeElements es = '[' :: behind := by
  match es with
  | [] | [_] | _ :: _ :: _ => exact ⟨_, rfl⟩

namespace Value

/-- Values without brackets, and arrays of such values with at most `levels` arrays around any. -/
inductive IsPlain : (levels : Nat) → Value → Prop
  | leaf {levels : Nat} {v : Value} (h : v.IsLeaf) : IsPlain levels v
  | array {levels : Nat} {elements : List Value} (h : ∀ v ∈ elements, IsPlain levels v) :
      IsPlain (levels + 1) (.array elements)

theorem writeAll_eq_map (elements : List Value) : writeAll elements = elements.map write := by
  induction elements with
  | nil => rfl
  | cons v elements ih => rw [writeAll, ih, List.map_cons]

/-- What a value that is written begins with. -/
def Starts (c : Char) : Prop := Scalar.isWordChar c = true ∨ c = '"' ∨ c = '\''

theorem IsLeaf.exists_cons {v : Value} (h : v.IsLeaf) :
    ∃ c behind, v.write = c :: behind ∧ Starts c := by
  cases v with
  | text s =>
    rcases Quoted.exists_write s.toList with ⟨body, hbody⟩ | ⟨body, hbody⟩
    · exact ⟨'"', body, hbody, .inr (.inl rfl)⟩
    · exact ⟨'\'', body, hbody, .inr (.inr rfl)⟩
  | integer n =>
    obtain ⟨c, behind, hcons⟩ := List.exists_cons_of_ne_nil (Scalar.toString_ne_nil n)
    exact ⟨c, behind, hcons, .inl (Scalar.isWordChar_of_mem_toString (hcons ▸ List.mem_cons_self))⟩
  | boolean b => cases b <;> exact ⟨_, _, rfl, .inl (by decide)⟩
  | float | moment | array | table | tables => cases h

theorem Starts.not_mem {c : Char} (h : Starts c) {cs : List Char}
    (hcs : (cs.all fun c => !Scalar.isWordChar c && c != '"' && c != '\'') = true) : c ∉ cs := by
  intro hmem
  have hc := List.all_eq_true.1 hcs c hmem
  rcases h with h | rfl | rfl
  · simp [h] at hc
  · simp at hc
  · simp at hc

theorem IsPlain.exists_cons {levels : Nat} {v : Value} (h : v.IsPlain levels) :
    ∃ c behind, v.write = c :: behind ∧ Opens c ∧ c ≠ ']' := by
  cases h with
  | leaf h =>
    obtain ⟨c, behind, hcons, hc⟩ := h.exists_cons
    have hopens : Opens c := hc.not_mem rfl
    have hclose : c ∉ [']'] := hc.not_mem rfl
    exact ⟨c, behind, hcons, hopens, List.ne_of_not_mem_cons hclose⟩
  | @array _ elements _ =>
    obtain ⟨behind, hcons⟩ := exists_writeElements (writeAll elements)
    exact ⟨'[', behind, hcons, by decide⟩

end Value

/-- A value without brackets is read as such at any depth. -/
theorem value_leaf {levels : Nat} {v : Value} (hv : v.IsLeaf) {rest : List Char}
    (hrest : EndsValue rest) : value levels (v.write ++ rest) = some (v, rest) := by
  cases levels with
  | zero => exact leaf_write hv hrest
  | succ levels =>
    obtain ⟨c, behind, hcons, hc⟩ := hv.exists_cons
    have hmem : c ∉ ['[', '\x7b'] := hc.not_mem rfl
    simp only [List.mem_cons, List.not_mem_nil, or_false, not_or] at hmem
    have hleaf : value (levels + 1) (c :: (behind ++ rest)) = leaf (c :: (behind ++ rest)) := by
      unfold value
      split <;> simp_all
    rw [hcons, List.cons_append, hleaf, ← List.cons_append, ← hcons]
    exact leaf_write hv hrest

section

variable {read : Reader Value} {limit : Nat} {input behind rest : List Char} {c : Char} {v : Value}

/-- The element in front of the closing bracket. -/
theorem elements_last (hskip : skipTrivia false input = c :: behind) (hc : c ≠ ']')
    (hread : read (c :: behind) = some (v, ']' :: rest)) :
    elements read (limit + 1) input = some ([v], rest) := by
  rw [elements, hskip]
  split
  case h_1 heq => exact absurd (List.cons.inj heq).1 hc
  case h_2 =>
    simp only [hread, Option.bind_eq_bind, Option.bind_some,
      skipTrivia_of_opens (c := ']') (by decide)]

/-- An element in front of a comma, and those behind it. -/
theorem elements_comma (hskip : skipTrivia false input = c :: behind) (hc : c ≠ ']')
    {after : List Char} (hread : read (c :: behind) = some (v, ',' :: after)) {more : List Value}
    (hmore : elements read limit after = some (more, rest)) :
    elements read (limit + 1) input = some (v :: more, rest) := by
  rw [elements, hskip]
  split
  case h_1 heq => exact absurd (List.cons.inj heq).1 hc
  case h_2 =>
    simp only [hread, hmore, Option.bind_eq_bind, Option.bind_some,
      skipTrivia_of_opens (c := ',') (by decide)]

end

/-- An element on a line of its own. -/
def writeLine (e : List Char) : List Char := "    ".toList ++ e ++ ",\n".toList

theorem writeElements_lines (e f : List Char) (es : List (List Char)) :
    writeElements (e :: f :: es) = '[' :: '\n' :: ((e :: f :: es).flatMap writeLine ++ [']']) := rfl

/-- Elements on lines of their own are read up to the closing bracket. -/
theorem elements_lines {levels : Nat} {es : List Value} (hplain : ∀ v ∈ es, v.IsPlain levels)
    (hread : ∀ v ∈ es, ∀ rest, EndsValue rest → value levels (v.write ++ rest) = some (v, rest))
    {limit : Nat} (hlimit : es.length < limit) (rest : List Char) :
    elements (value levels) limit
        ('\n' :: ((es.map Value.write).flatMap writeLine ++ ']' :: rest)) = some (es, rest) := by
  induction es generalizing limit with
  | nil =>
    obtain ⟨limit, rfl⟩ := Nat.exists_eq_add_one_of_ne_zero (by omega : limit ≠ 0)
    rfl
  | cons v es ih =>
    obtain ⟨limit, rfl⟩ := Nat.exists_eq_add_one_of_ne_zero (by omega : limit ≠ 0)
    obtain ⟨c, behind, hcons, hc, hclose⟩ := (hplain v List.mem_cons_self).exists_cons
    have hmore := ih (fun w hw => hplain w (List.mem_cons_of_mem _ hw))
      (fun w hw => hread w (List.mem_cons_of_mem _ hw)) (Nat.lt_of_succ_lt_succ hlimit)
    generalize hlines : (es.map Value.write).flatMap writeLine = more at hmore
    have hfirst := hread v List.mem_cons_self (',' :: '\n' :: (more ++ ']' :: rest))
      (by simp [EndsValue])
    have hinput : '\n' :: (((v :: es).map Value.write).flatMap writeLine ++ ']' :: rest) =
        "\n    ".toList ++ (c :: (behind ++ ',' :: '\n' :: (more ++ ']' :: rest))) := by
      simp [writeLine, hcons, hlines]
    have hskip : skipTrivia false
        ("\n    ".toList ++ (c :: (behind ++ ',' :: '\n' :: (more ++ ']' :: rest)))) =
          c :: (behind ++ ',' :: '\n' :: (more ++ ']' :: rest)) :=
      skipTrivia_of_opens hc _
    rw [hcons, List.cons_append] at hfirst
    rw [hinput]
    exact elements_comma hskip hclose hfirst hmore

/-- An array is read back in each of its forms: without elements, with one on its line, or with a
line for each. -/
theorem value_array {levels : Nat} {es : List Value} (hplain : ∀ v ∈ es, v.IsPlain levels)
    (hread : ∀ v ∈ es, ∀ rest, EndsValue rest → value levels (v.write ++ rest) = some (v, rest))
    (rest : List Char) :
    value (levels + 1) (writeElements (es.map Value.write) ++ rest) = some (.array es, rest) := by
  have harray {body : List Char}
      (hbody : elements (value levels) body.length body = some (es, rest)) :
      value (levels + 1) ('[' :: body) = some (.array es, rest) := by
    rw [value, hbody, Option.map_some]
  match es with
  | [] => exact harray rfl
  | [v] =>
    obtain ⟨c, behind, hcons, hc, hclose⟩ := (hplain v List.mem_cons_self).exists_cons
    have hlast : value levels (v.write ++ ']' :: rest) = some (v, ']' :: rest) :=
      hread v List.mem_cons_self _ (by simp [EndsValue])
    rw [hcons, List.cons_append] at hlast
    have hwrite : writeElements ([v].map Value.write) ++ rest =
        '[' :: c :: (behind ++ ']' :: rest) := by
      simp [writeElements, hcons]
    rw [hwrite]
    apply harray
    exact elements_last (skipTrivia_of_opens hc _) hclose hlast
  | v :: w :: es =>
    have hwrite : writeElements ((v :: w :: es).map Value.write) ++ rest = '[' :: '\n' ::
        (((v :: w :: es).map Value.write).flatMap writeLine ++ ']' :: rest) := by
      rw [List.map_cons, List.map_cons, writeElements_lines, List.cons_append, List.cons_append,
        List.append_assoc]
      rfl
    have hline (e : List Char) : 0 < (writeLine e).length := by simp [writeLine]
    have hlength := length_le_flatMap hline ((v :: w :: es).map Value.write)
    rw [List.length_map] at hlength
    rw [hwrite]
    apply harray
    apply elements_lines hplain hread
    simp only [List.length_cons, List.length_append] at hlength ⊢
    omega

/-- A value is read back, with nothing of what follows it. -/
theorem value_write {levels : Nat} {v : Value} (hv : v.IsPlain levels) {rest : List Char}
    (hrest : EndsValue rest) : value levels (v.write ++ rest) = some (v, rest) := by
  induction hv generalizing rest with
  | leaf hv => exact value_leaf hv hrest
  | array hplain ih =>
    rw [Value.write, Value.writeAll_eq_map]
    apply value_array hplain
    intro v hv rest hrest
    exact ih v hv hrest

/-! ### Lines -/

structure Assignment.IsPlain (a : Assignment) : Prop where
  key : IsKey a.path a.key
  value : a.value.IsPlain depthLimit

structure Section.IsPlain (part : Section) : Prop where
  key : IsKey part.path part.key
  body : ∀ a ∈ part.body, a.IsPlain

theorem assignment_write {a : Assignment} (h : a.IsPlain) (rest : List Char) :
    assignment (value depthLimit) (a.write ++ rest) = some (a, '\n' :: rest) := by
  have hinput : a.write ++ rest =
      writeKey a.path a.key ++ ' ' :: '=' :: ' ' :: (a.value.write ++ '\n' :: rest) := by
    simp [Assignment.write]
  have hkey : key (writeKey a.path a.key ++ ' ' :: '=' :: ' ' :: (a.value.write ++ '\n' :: rest)) =
      some ((a.path, a.key), '=' :: ' ' :: (a.value.write ++ '\n' :: rest)) :=
    key_write h.key (by simp; decide) (by simp [skipBlanks, isBlank])
  have hvalue : value depthLimit (a.value.write ++ '\n' :: rest) = some (a.value, '\n' :: rest) :=
    value_write h.value (by simp [EndsValue])
  have hblanks : skipBlanks (' ' :: (a.value.write ++ '\n' :: rest)) =
      a.value.write ++ '\n' :: rest := by
    obtain ⟨c, behind, hcons, hc, -⟩ := h.value.exists_cons
    rw [hcons]
    exact skipBlanks_of_opens hc _
  rw [hinput, assignment, hkey]
  simp only [Option.bind_eq_bind, Option.bind_some, Reader.mark_self, hblanks, hvalue]

/-- The line of a heading, its end apart. -/
def Section.writeHeading (part : Section) : List Char :=
  match part.heading with
  | .table => '[' :: writeKey part.path part.key ++ [']']
  | .element => "[[".toList ++ writeKey part.path part.key ++ "]]".toList

theorem Section.write_eq (part : Section) :
    part.write = part.writeHeading ++ '\n' :: writeBody part.body := rfl

theorem heading_write {part : Section} (h : IsKey part.path part.key) (rest : List Char) :
    heading (part.writeHeading ++ rest) =
      some (.heading part.heading part.path part.key, rest) := by
  have hkey (rest : List Char) :
      key (writeKey part.path part.key ++ ']' :: rest) =
        some ((part.path, part.key), ']' :: rest) :=
    key_write h (by simp; decide) (by simp [skipBlanks, isBlank])
  unfold Section.writeHeading
  cases part.heading with
  | table =>
    obtain ⟨c, behind, hcons, hc⟩ := h.exists_cons
    have hbracket (behind : List Char) :
        writeKey part.path part.key ++ ']' :: rest ≠ '[' :: behind := by
      rw [hcons, List.cons_append]
      intro heq
      rw [(List.cons.inj heq).1] at hc
      exact absurd hc (by decide)
    dsimp only
    rw [List.cons_append, List.cons_append, List.append_assoc, List.singleton_append, heading]
    · simp only [hkey, Option.bind_eq_bind, Option.bind_some, Reader.mark_self]
    · exact hbracket
  | element =>
    have hinput : "[[".toList ++ writeKey part.path part.key ++ "]]".toList ++ rest =
        '[' :: '[' :: (writeKey part.path part.key ++ ']' :: ']' :: rest) := by simp
    dsimp only
    rw [hinput, heading]
    simp only [hkey, Option.bind_eq_bind, Option.bind_some, Reader.mark_self]

theorem afterLine?_newline (rest : List Char) : afterLine? ('\n' :: rest) = some rest := rfl

theorem line_newline (rest : List Char) : line ('\n' :: rest) = some (none, rest) := rfl

theorem line_assignment {a : Assignment} (h : a.IsPlain) (rest : List Char) :
    line (a.write ++ rest) = some (some (.assignment a), rest) := by
  obtain ⟨c, behind, hcons, hc⟩ := h.key.exists_cons
  obtain ⟨behind, hinput⟩ : ∃ behind, a.write ++ rest = c :: behind := by
    simp [Assignment.write, hcons]
  have hread := assignment_write h rest
  have hbracket : c ≠ '[' := by
    rintro rfl
    exact absurd hc (by decide)
  rw [hinput] at hread ⊢
  rw [line, afterLine?_of_opens (isKeyChar_opens hc)]
  simp [skipBlanks_of_opens (isKeyChar_opens hc), hbracket, hread, afterLine?_newline]

theorem line_heading {part : Section} (h : IsKey part.path part.key) (rest : List Char) :
    line (part.writeHeading ++ '\n' :: rest) =
      some (some (.heading part.heading part.path part.key), rest) := by
  obtain ⟨behind, hinput⟩ : ∃ behind, part.writeHeading ++ '\n' :: rest = '[' :: behind := by
    unfold Section.writeHeading
    cases part.heading <;> exact ⟨_, rfl⟩
  have hread := heading_write h ('\n' :: rest)
  rw [hinput] at hread ⊢
  rw [line, afterLine?_of_opens (by decide)]
  simp [skipBlanks_of_opens (c := '[') (by decide), hread, afterLine?_newline]

/-! ### Documents -/

/-- Whether the lines of a text say what is listed. No more lines are read than there are
characters. -/
def Lists (input : List Char) (content : List Line) : Prop :=
  ∀ limit, input.length ≤ limit → lines limit input = some content

/-- Whether some lines say what is listed, in front of any others. -/
def Says (w : List Char) (content : List Line) : Prop :=
  ∀ rest more, Lists rest more → Lists (w ++ rest) (content ++ more)

theorem lists_nil : Lists [] [] := by
  intro limit _
  unfold lines
  rfl

theorem Says.lists {w : List Char} {content : List Line} (h : Says w content) :
    Lists w content := by
  have hlists := h [] [] lists_nil
  rwa [List.append_nil, List.append_nil] at hlists

theorem says_nil : Says [] [] := fun _ _ h => h

theorem Says.append {v w : List Char} {content more : List Line} (hv : Says v content)
    (hw : Says w more) : Says (v ++ w) (content ++ more) := by
  intro rest last hrest
  rw [List.append_assoc, List.append_assoc]
  exact hv _ _ (hw _ _ hrest)

theorem says_line {w : List Char} (content : Option Line) (hne : w ≠ [])
    (hline : ∀ rest, line (w ++ rest) = some (content, rest)) : Says w content.toList := by
  intro rest more h limit hlimit
  have hread := hline rest
  obtain ⟨c, w, rfl⟩ := List.exists_cons_of_ne_nil hne
  rw [List.length_append, List.length_cons] at hlimit
  obtain ⟨limit, rfl⟩ := Nat.exists_eq_add_one_of_ne_zero (show limit ≠ 0 by omega)
  have hmore := h limit (by omega)
  rw [List.cons_append] at hread ⊢
  simp only [lines, hread, hmore, Option.bind_eq_bind, Option.bind_some]

theorem says_newline : Says ['\n'] [] :=
  says_line none (List.cons_ne_nil _ _) line_newline

theorem says_assignment {a : Assignment} (h : a.IsPlain) : Says a.write [.assignment a] :=
  says_line (some _) (by simp [Assignment.write]) (line_assignment h)

theorem says_body {body : List Assignment} (h : ∀ a ∈ body, a.IsPlain) :
    Says (writeBody body) (body.map .assignment) := by
  induction body with
  | nil => exact says_nil
  | cons a body ih =>
    have hmore := ih fun b hb => h b (List.mem_cons_of_mem _ hb)
    exact (says_assignment (h a List.mem_cons_self)).append hmore

/-- The lines of a section. -/
def Section.lines (part : Section) : List Line :=
  .heading part.heading part.path part.key :: part.body.map .assignment

theorem says_section {part : Section} (h : part.IsPlain) : Says part.write part.lines := by
  have hheading : Says (part.writeHeading ++ ['\n'])
      [.heading part.heading part.path part.key] := by
    apply says_line (some _) (by simp)
    intro rest
    rw [List.append_assoc]
    exact line_heading h.key rest
  have hinput : part.write = part.writeHeading ++ ['\n'] ++ writeBody part.body := by
    simp [Section.write_eq]
  rw [hinput]
  exact hheading.append (says_body h.body)

/-- Empty lines between parts say nothing. -/
theorem says_intercalate {parts : List (List Char)} {content : List (List Line)}
    (h : List.Forall₂ Says parts content) : Says (['\n'].intercalate parts) content.flatten := by
  induction h with
  | nil => exact says_nil
  | @cons w more parts content hw hparts ih =>
    cases hparts with
    | nil => simpa using hw
    | cons hnext hparts =>
      have hline := hw.append says_newline
      rw [List.append_nil] at hline
      rw [List.intercalate_cons_cons]
      exact hline.append ih

structure IsPlain (document : Document) : Prop where
  preamble : ∀ a ∈ document.preamble, a.IsPlain
  sections : ∀ part ∈ document.sections, part.IsPlain

/-- The lines of a document, without the empty ones. -/
def listing (document : Document) : List Line :=
  document.preamble.map .assignment ++ document.sections.flatMap Section.lines

theorem ofLines_assignments (body : List Assignment) (more : List Line) :
    ofLines (body.map .assignment ++ more) =
      { ofLines more with preamble := body ++ (ofLines more).preamble } := by
  induction body with
  | nil => rfl
  | cons a body ih => rw [List.map_cons, List.cons_append, ofLines, ih]; rfl

theorem ofLines_listing (document : Document) : ofLines document.listing = document := by
  have hsections (parts : List Section) :
      ofLines (parts.flatMap Section.lines) = ⟨[], parts⟩ := by
    induction parts with
    | nil => rfl
    | cons part parts ih =>
      rw [List.flatMap_cons, Section.lines, List.cons_append, ofLines, ofLines_assignments, ih]
      simp
  rw [listing, ofLines_assignments, hsections]
  simp

theorem lists_render {document : Document} (h : document.IsPlain) :
    Lists document.render.toList document.listing := by
  have hsections : List.Forall₂ Says (document.sections.map Section.write)
      (document.sections.map Section.lines) := by
    rw [List.forall₂_map_left_iff, List.forall₂_map_right_iff, List.forall₂_same]
    exact fun part hpart => says_section (h.sections part hpart)
  have hrender : Says document.render.toList document.listing := by
    rw [render, String.toList_ofList, listing, List.flatMap_def]
    cases hpreamble : document.preamble with
    | nil => exact says_intercalate hsections
    | cons a body =>
      have hbody : Says (writeBody (a :: body)) ((a :: body).map .assignment) :=
        says_body (hpreamble ▸ h.preamble)
      exact says_intercalate (.cons hbody hsections)
  exact hrender.lists

/-- No line begins with a byte order mark. -/
theorem not_lists_mark (rest : List Char) (content : List Line) :
    ¬ Lists ('\ufeff' :: rest) content := by
  intro h
  have hread := h _ (Nat.le_refl _)
  have hpart : keyPart ('\ufeff' :: rest) = none := by
    have hname : ('\ufeff' :: rest).takeWhile isKeyChar = [] :=
      List.takeWhile_cons_of_neg (by decide)
    have hquoted : Quoted.readLine ('\ufeff' :: rest) = none := rfl
    simp [keyPart, hquoted, hname]
  have hassignment : assignment (value depthLimit) ('\ufeff' :: rest) = none := by
    rw [assignment, Document.key, depthLimit, keyWithin, skipBlanks_of_opens (by decide), hpart]
    rfl
  have hline : line ('\ufeff' :: rest) = none := by
    rw [line, afterLine?_of_opens (by decide)]
    simp [skipBlanks_of_opens (c := '\ufeff') (by decide), hassignment]
  simp [lines, hline] at hread

/-- A document is read back from its text. -/
theorem parse?_render {document : Document} (h : document.IsPlain) :
    parse? document.render = some document := by
  have hlists := lists_render h
  unfold parse?
  dsimp only
  split
  case h_1 rest heq =>
    rw [heq] at hlists
    exact absurd hlists (not_lists_mark rest _)
  case h_2 =>
    rw [hlists _ (Nat.le_refl _), Option.map_some, ofLines_listing]

end ClusterLink.Document
