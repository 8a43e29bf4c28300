import ClusterLink.Frame.Run
import ClusterLink.Proofs.Connection.Framing
/-!
What is framed at one end of a stream arrives at the other: any front part of the stream, cut into
chunks in any way, brings exactly the bodies whose frames lie in it.
-/
namespace ClusterLink

namespace Frame

variable {buffer part more rest : Octets} {taken bodies : List Octets}

@[simp] theorem length_around (body : Octets) :
    (around body).length = headerSize + body.length := by
  rw [around, List.length_append, length_header]

theorem isPartial_nil : IsPartial [] := isPartial_of_length_lt (by decide)

/-- A partial frame is shorter than a frame of which it shares the front. -/
theorem IsPartial.length_lt {body tail : Octets} (h : IsPartial rest)
    (hsize : body.length ≤ maxBodySize) (heq : around body ++ tail = rest ++ more) :
    rest.length < (around body).length := by
  apply Nat.lt_of_not_le
  intro hle
  obtain ⟨behind, hfront⟩ : around body <+: rest :=
    List.prefix_of_prefix_length_le ⟨tail, heq⟩ ⟨more, rfl⟩ hle
  exact h body behind hsize hfront.symm

theorem IsLawful.of_frames_append (h : IsLawful (frames taken ++ rest))
    (htaken : ∀ body ∈ taken, body.length ≤ maxBodySize) : IsLawful rest := by
  intro bodies tail e hbodies hrest
  apply h (taken ++ bodies) tail e
  · exact List.forall_mem_append.2 ⟨htaken, hbodies⟩
  · rw [hrest, frames_append, List.append_assoc]

/-- A front part of whole frames holds no header that is refused. -/
theorem isLawful_of_append_eq_frames (hbodies : ∀ body ∈ bodies, body.length ≤ maxBodySize)
    (h : part ++ more = frames bodies) : IsLawful part := by
  intro taken rest e htaken hpart hrefuses
  have hrefused : Refuses (rest ++ more) e := hrefuses.append more
  rw [hpart, List.append_assoc, ← List.append_nil (frames bodies)] at h
  obtain ⟨-, hnone⟩ :=
    frames_append_inj htaken hbodies (isPartial_of_refuses hrefused) isPartial_nil h
  have hlength := hrefused.1
  rw [hnone] at hlength
  exact absurd hlength (by decide)

end Frame

open ClusterLink.Frame

/-! ### Feeding -/

namespace Splitter

variable {s : Splitter} {chunks : List Octets}

theorem new_sound : new.Sound := by simp [new, Sound]

theorem new_waits : new.Waits := by simp [new, Waits, Buffer.empty, Buffer.ofOctets, headerSize]

@[simp] theorem rest_new : new.rest = [] := rfl

/-- Draining takes whole frames off what is held, up to a header that is refused or to a frame
that is not complete. -/
theorem drain_spec (hsound : s.Sound) :
    s.rest = frames s.drain.bodies ++ s.drain.splitter.rest ∧
      (∀ body ∈ s.drain.bodies, body.length ≤ maxBodySize) ∧ s.drain.splitter.Sound ∧
      (s.drain.error = none → s.drain.splitter.Waits) ∧
      ∀ e, s.drain.error = some e → Refuses s.drain.splitter.rest e := by
  fun_induction drain s with
  | case1 s body t hnext hless rest ih =>
    obtain ⟨hrest, hsize, hnextSound⟩ := next_some hsound hnext
    obtain ⟨htail, hsizes, hlast, hend⟩ := ih hnextSound
    refine ⟨?_, ?_, hlast, hend⟩
    · rw [hrest, htail, frames_cons, List.append_assoc]
    · exact List.forall_mem_cons.2 ⟨hsize, hsizes⟩
  | case2 s t hnext =>
    obtain ⟨hrest, hnextSound, hwaits⟩ := next_none hsound hnext
    exact ⟨hrest.symm, List.forall_mem_nil _, hnextSound, fun _ => hwaits, nofun⟩
  | case3 s e t hnext =>
    obtain ⟨rfl, hrefuses⟩ := next_error hsound hnext
    refine ⟨rfl, List.forall_mem_nil _, hsound, nofun, ?_⟩
    rintro _ ⟨⟩
    exact hrefuses

theorem feed_spec (hsound : s.Sound) (chunk : Octets) :
    s.rest ++ chunk = frames (s.feed chunk).bodies ++ (s.feed chunk).splitter.rest ∧
      (∀ body ∈ (s.feed chunk).bodies, body.length ≤ maxBodySize) ∧
      (s.feed chunk).splitter.Sound ∧
      ((s.feed chunk).error = none → (s.feed chunk).splitter.Waits) ∧
      ∀ e, (s.feed chunk).error = some e → Refuses (s.feed chunk).splitter.rest e := by
  rw [← rest_push]
  exact drain_spec hsound

/-- Chunks of a lawful stream bring its whole frames, whatever the cuts, and no error. -/
theorem feedAll_spec (hsound : s.Sound) (hwaits : s.Waits)
    (hlawful : IsLawful (s.rest ++ chunks.flatten)) :
    ∃ rest, s.rest ++ chunks.flatten =
        frames ((s.feedAll chunks).flatMap (·.bodies)) ++ rest ∧ IsPartial rest ∧
      (∀ body ∈ (s.feedAll chunks).flatMap (·.bodies), body.length ≤ maxBodySize) ∧
      ∀ drained ∈ s.feedAll chunks, drained.error = none := by
  induction chunks generalizing s with
  | nil =>
    refine ⟨s.rest, ?_, hwaits.isPartial hsound, List.forall_mem_nil _, List.forall_mem_nil _⟩
    simp [feedAll, frames]
  | cons chunk chunks ih =>
    obtain ⟨hheld, hsizes, hnext, hwaits, hrefuses⟩ := feed_spec hsound chunk
    have hstream : s.rest ++ (chunk :: chunks).flatten = frames (s.feed chunk).bodies ++
        ((s.feed chunk).splitter.rest ++ chunks.flatten) := by
      rw [List.flatten_cons, ← List.append_assoc, hheld, List.append_assoc]
    rw [hstream] at hlawful ⊢
    have hnone : (s.feed chunk).error = none := by
      cases herror : (s.feed chunk).error with
      | none => rfl
      | some e => exact absurd ((hrefuses e herror).append _) (hlawful _ _ e hsizes rfl)
    obtain ⟨rest, hrest, hpartial, hlater, hnones⟩ :=
      ih hnext (hwaits hnone) (hlawful.of_frames_append hsizes)
    refine ⟨rest, ?_, hpartial, ?_, ?_⟩
    · rw [hrest, feedAll, List.flatMap_cons, frames_append, List.append_assoc]
    · rw [feedAll, List.flatMap_cons]
      exact List.forall_mem_append.2 ⟨hsizes, hlater⟩
    · rw [feedAll]
      exact List.forall_mem_cons.2 ⟨hnone, hnones⟩

end Splitter

/-! ### Framing -/

namespace FrameItem

/-- The bodies of the items that were framed and whose frames end within the first `size` octets
of the buffer. -/
def within (size : Nat) (items : List FrameItem) (answers : List (Except CodecError Nat)) :
    List Octets :=
  (items.zip answers).filterMap fun
    | (item, .ok ending) => if ending ≤ size then item.encode.toOption else none
    | (_, .error _) => none

theorem within_cons_ok {size ending : Nat} {item : FrameItem} {body : Octets}
    {items : List FrameItem} {answers : List (Except CodecError Nat)}
    (h : item.encode = .ok body) : within size (item :: items) (.ok ending :: answers) =
      if ending ≤ size then body :: within size items answers else within size items answers := by
  split
  case isTrue hsize => simp [within, h, hsize, Except.toOption]
  case isFalse hsize => simp [within, hsize]

/-- An item has no frame if it has no body or one that is too large; else the frame is
appended. -/
theorem frameOnto_cases (item : FrameItem) :
    (∃ e, (∀ buffer, item.frameOnto buffer = (.error e, buffer)) ∧
      (item.encode = .error e ∨
        ∃ body, item.encode = .ok body ∧ maxBodySize < body.length ∧
          e = .messageTooLarge body.length)) ∨
    ∃ body, item.encode = .ok body ∧ body.length ≤ maxBodySize ∧
      ∀ buffer, item.frameOnto buffer = (.ok (), buffer ++ around body) := by
  cases hencode : item.encode with
  | error e => exact .inl ⟨e, fun buffer => by simp [frameOnto, hencode], .inl rfl⟩
  | ok body =>
    by_cases hsize : body.length ≤ maxBodySize
    · exact .inr ⟨body, rfl, hsize, fun buffer => by simp [frameOnto, hencode, write_eq hsize]⟩
    · have hlarge : maxBodySize < body.length := by omega
      exact .inl ⟨.messageTooLarge body.length,
        fun buffer => by simp [frameOnto, hencode, Frame.write, hlarge],
        .inr ⟨body, rfl, hlarge, rfl⟩⟩

end FrameItem

namespace Frame

variable {buffer rest more : Octets} {taken : List Octets} {items : List FrameItem}

theorem frameAll_cons_error {item : FrameItem} {e : CodecError}
    (h : ∀ buffer, item.frameOnto buffer = (.error e, buffer)) :
    frameAll buffer (item :: items) =
      (.error e :: (frameAll buffer items).1, (frameAll buffer items).2) := by
  rw [frameAll, runSteps_cons, frameNext, h]
  rfl

theorem frameAll_cons_ok {item : FrameItem} {body : Octets}
    (h : ∀ buffer, item.frameOnto buffer = (.ok (), buffer ++ around body)) :
    frameAll buffer (item :: items) =
      (.ok (buffer ++ around body).length :: (frameAll (buffer ++ around body) items).1,
        (frameAll (buffer ++ around body) items).2) := by
  rw [frameAll, runSteps_cons, frameNext, h]
  rfl

/-- Framing appends whole frames. -/
theorem frameAll_wire (buffer : Octets) (items : List FrameItem) :
    ∃ bodies, (∀ body ∈ bodies, body.length ≤ maxBodySize) ∧
      (frameAll buffer items).2 = buffer ++ frames bodies := by
  induction items generalizing buffer with
  | nil => exact ⟨[], List.forall_mem_nil _, (List.append_nil _).symm⟩
  | cons item items ih =>
    obtain ⟨e, hfails, -⟩ | ⟨body, -, hsize, hframes⟩ := item.frameOnto_cases
    · rw [frameAll_cons_error hfails]
      exact ih buffer
    · obtain ⟨bodies, hbodies, hwire⟩ := ih (buffer ++ around body)
      refine ⟨body :: bodies, List.forall_mem_cons.2 ⟨hsize, hbodies⟩, ?_⟩
      rw [frameAll_cons_ok hframes, hwire, frames_cons, List.append_assoc]

/-- No frame ends before the buffer does that it is appended to. -/
theorem within_eq_nil {size : Nat} (h : size < buffer.length) :
    FrameItem.within size items (frameAll buffer items).1 = [] := by
  induction items generalizing buffer with
  | nil => rfl
  | cons item items ih =>
    obtain ⟨e, hfails, -⟩ | ⟨body, hencode, -, hframes⟩ := item.frameOnto_cases
    · rw [frameAll_cons_error hfails]
      exact ih h
    · have hbehind : size < (buffer ++ around body).length := by
        rw [List.length_append]
        omega
      rw [frameAll_cons_ok hframes, FrameItem.within_cons_ok hencode, if_neg (by omega)]
      exact ih hbehind

/-- If a front part of what is appended falls into frames and a partial rest, then these are the
frames that end in it. -/
theorem within_eq (htaken : ∀ body ∈ taken, body.length ≤ maxBodySize) (hrest : IsPartial rest)
    (hwire : (frameAll buffer items).2 = buffer ++ (frames taken ++ rest) ++ more) :
    FrameItem.within (buffer.length + (frames taken ++ rest).length) items
      (frameAll buffer items).1 = taken := by
  induction items generalizing buffer taken with
  | nil =>
    cases taken with
    | nil => rfl
    | cons body taken =>
      have hlength := congrArg List.length hwire
      simp [frameAll, frames_cons, headerSize] at hlength
  | cons item items ih =>
    obtain ⟨e, hfails, -⟩ | ⟨body, hencode, hsize, hframes⟩ := item.frameOnto_cases
    · rw [frameAll_cons_error hfails] at hwire ⊢
      exact ih htaken hwire
    · rw [frameAll_cons_ok hframes] at hwire ⊢
      rw [FrameItem.within_cons_ok hencode]
      obtain ⟨bodies, -, hbehind⟩ := frameAll_wire (buffer ++ around body) items
      have happended : around body ++ frames bodies = frames taken ++ rest ++ more := by
        rw [hbehind, List.append_assoc, List.append_assoc] at hwire
        exact List.append_cancel_left hwire
      cases taken with
      | nil =>
        have hlonger : rest.length < (around body).length := hrest.length_lt hsize happended
        have hbehind : buffer.length + rest.length < (buffer ++ around body).length := by
          rw [List.length_append]
          omega
        have hnone : frames [] ++ rest = rest := rfl
        rw [hnone, if_neg (by omega)]
        exact within_eq_nil hbehind
      | cons first taken =>
        obtain ⟨hfirst, hothers⟩ := List.forall_mem_cons.1 htaken
        rw [frames_cons, List.append_assoc, List.append_assoc] at happended
        obtain ⟨rfl, htail⟩ := around_append_inj hsize hfirst happended
        have hsum : buffer.length + (frames (body :: taken) ++ rest).length =
            (buffer ++ around body).length + (frames taken ++ rest).length := by
          simp only [frames_cons, List.append_assoc, List.length_append]
          omega
        rw [hsum, if_pos (Nat.le_add_right _ _)]
        congr 1
        refine ih hothers ?_
        rw [hbehind, htail]
        simp only [List.append_assoc]

/-- The answer to an item of a run, and the buffer behind it. -/
theorem frameAll_item (before : List FrameItem) (item : FrameItem) (after : List FrameItem)
    {outcome : Except CodecError Unit} {next : Octets}
    (h : item.frameOnto (frameAll [] before).2 = (outcome, next)) :
    (frameAll [] (before ++ item :: after)).1[before.length]? =
        some (outcome.map fun _ => next.length) ∧
      (frameAll [] (before ++ [item])).2 = next := by
  have hnext : frameNext (frameAll [] before).2 item =
      (outcome.map fun _ => next.length, next) := by
    rw [frameNext, h]
  rw [frameAll] at hnext
  constructor
  · rw [frameAll, runSteps_getElem?, List.getElem?_append_right (Nat.le_refl _), Nat.sub_self,
      List.take_left, List.getElem?_cons_zero, Option.map_some, hnext]
  · rw [frameAll, runSteps_snoc, hnext]

/-- Items are framed in turn onto an empty buffer. An item without a body, or with one that is too
large, leaves the buffer as it was; every other one appends eight octets and its body. Every front
part of what is then in the buffer brings exactly the bodies whose frames end in it, however it is
cut into chunks, and no error. -/
theorem framed_bodies_arrive (items : List FrameItem) :
    let (answers, wire) := frameAll [] items
    (∀ before item after, items = before ++ item :: after →
      let buffer := (frameAll [] before).2
      let next := (frameAll [] (before ++ [item])).2
      (∃ e, answers[before.length]? = some (.error e) ∧ next = buffer ∧
        (item.encode = .error e ∨ ∃ body, item.encode = .ok body ∧ maxBodySize < body.length ∧
          e = .messageTooLarge body.length)) ∨
      ∃ header body, answers[before.length]? = some (.ok next.length) ∧
        next = buffer ++ header ++ body ∧ header.length = 8 ∧
        item.encode = .ok body ∧ body.length ≤ maxBodySize) ∧
    ∀ chunks : List Octets, chunks.flatten <+: wire →
      let drained := Splitter.new.feedAll chunks
      (∀ d ∈ drained, d.error = none) ∧
        drained.flatMap (·.bodies) = FrameItem.within chunks.flatten.length items answers := by
  constructor
  · rintro before item after rfl
    obtain ⟨e, hfails, hcause⟩ | ⟨body, hencode, hsize, hframes⟩ := item.frameOnto_cases
    · obtain ⟨hanswer, hnext⟩ := frameAll_item before item after (hfails _)
      exact .inl ⟨e, hanswer, hnext, hcause⟩
    · obtain ⟨hanswer, hnext⟩ := frameAll_item before item after (hframes _)
      refine .inr ⟨header body.length, body, ?_, ?_, length_header _, hencode, hsize⟩
      · rw [hnext]
        exact hanswer
      · rw [hnext, around, List.append_assoc]
  · rintro chunks ⟨more, hmore⟩
    obtain ⟨bodies, hbodies, hwire⟩ := frameAll_wire [] items
    rw [List.nil_append] at hwire
    have hlawful : IsLawful chunks.flatten :=
      isLawful_of_append_eq_frames hbodies (hmore.trans hwire)
    obtain ⟨rest, hstream, hpartial, hsizes, hnone⟩ :=
      Splitter.feedAll_spec Splitter.new_sound Splitter.new_waits hlawful
    rw [Splitter.rest_new, List.nil_append] at hstream
    refine ⟨hnone, ?_⟩
    rw [hstream] at hmore ⊢
    have hwithin := within_eq hsizes hpartial hmore.symm
    rw [List.length_nil, Nat.zero_add] at hwithin
    exact hwithin.symm

end Frame
end ClusterLink
