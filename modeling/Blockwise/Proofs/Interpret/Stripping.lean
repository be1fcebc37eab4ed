/-
  Blockwise/Proofs/Interpret/Stripping.lean
  =========================================
  **Rendering twice is rendering once.**  With groups, comments and citations, a text that
  is accepted renders as the stripped text, but for the case of citation tags
  (`render_strips`): what the open blocks of a scan render as so far is what is left of the
  text read so far (`Sketch.Strips`).

  The stripped text has no comment and closes its braces.  So it is accepted, and stripping
  it again leaves it as it is (`rendering_stable`).
-/
import Blockwise.Proofs.Interpret.Counting
import Blockwise.Proofs.Interpret.Sketching
import Blockwise.Proofs.Text.Stripping

namespace Blockwise

/-! ### What open blocks render as -/

/-- What a block renders as that has not been closed yet, around the text inside it. -/
def BlockType.unclosed (type : BlockType) (inner : Text) : Text :=
  match type.kind with
  | .plain => inner
  | .delimited tags => tags.openTag ++ inner
  | .comment _ => []
  | .inclusion _ => inner

theorem BlockType.unclosed_append {type : BlockType} (h : type.isComment = false)
    (inner more : Text) : type.unclosed (inner ++ more) = type.unclosed inner ++ more := by
  unfold isComment at h
  unfold unclosed
  split
  · rfl
  · exact (List.append_assoc ..).symm
  · next hkind => simp [hkind] at h
  · rfl

/-! ### The frames of open blocks -/

theorem isComment_brace {type : BlockType} (h : type = Preset.bracket ∨ type = Preset.cite) :
    type.isComment = false := by
  rcases h with rfl | rfl <;> rfl

namespace Stacked

variable {before : Text} {stack : List Block}

/-- Two places with the same open blocks are both in a comment, or neither of them is. -/
theorem commented_eq {before' : Text} (h : Stacked before stack)
    (h' : Stacked before' stack) : before.tally.commented = before'.tally.commented := by
  have hdiffer : ∀ {before : Text} {braces : List Block} {block : Block},
      Braces before (block :: braces) → block.type ≠ Preset.comment := by
    intro before braces block hbraces htype
    have hbrace := isComment_brace (hbraces.types block (List.mem_cons_self ..))
    rw [htype] at hbrace
    cases hbrace
  cases h with
  | outside hout hbraces =>
    cases h' with
    | outside hout' => rw [hout, hout']
    | inside _ htype => exact absurd htype (hdiffer hbraces)
  | inside hin htype =>
    cases h' with
    | outside _ hbraces => exact absurd htype (hdiffer hbraces)
    | inside hin' => rw [hin, hin']

/-- A comment is open where the text is in one, and it is the innermost block. -/
theorem frames {frames : List Frame} (h : Stacked before stack)
    (htypes : frames.map Frame.type = stack.map Block.type) :
    (before.tally.commented = false ∧
      ∀ frame ∈ frames, frame.type = Preset.bracket ∨ frame.type = Preset.cite) ∨
    before.tally.commented = true ∧ ∃ frame outer, frames = frame :: outer ∧
      frame.type = Preset.comment := by
  cases h with
  | outside hout hbraces =>
    refine Or.inl ⟨hout, ?_⟩
    intro frame hframe
    obtain ⟨block, hblock, htype⟩ := List.mem_map.1 (htypes ▸ List.mem_map.2 ⟨frame, hframe, rfl⟩)
    rw [← htype]
    exact hbraces.types block hblock
  | inside hin hblock _ =>
    cases frames with
    | nil => cases htypes
    | cons frame outer =>
      exact Or.inr ⟨hin, frame, outer, rfl, (List.cons.inj htypes).1.trans hblock⟩

end Stacked

/-! ### Tags that are kept -/

/-- The tag of a group or a citation ends with its brace, and has no other marks. -/
theorem openTag_split {type : BlockType} {previous : Option Char} {rest : Text}
    (htype : type = Preset.bracket ∨ type = Preset.cite)
    (h : type.opensBetween previous rest = true) :
    ∃ name, rest.take type.openTag.length = name ++ ['{'] ∧ ∀ c ∈ name, c ∉ Preset.marks := by
  rcases htype with rfl | rfl
  · cases rest with
    | nil => cases h
    | cons c rest =>
      rw [Preset.opens_bracket, beq_iff_eq] at h
      rw [h]
      exact ⟨[], rfl, fun c hc => absurd hc List.not_mem_nil⟩
  · rw [Preset.opens_cite] at h
    obtain ⟨name, after, rfl, hname, hmarks⟩ := Preset.cite_split h
    have hlen : Preset.cite.openTag.length = (name ++ ['{']).length := by
      rw [List.length_append, hname]
      rfl
    rw [List.append_cons, hlen, List.take_left]
    exact ⟨name, rfl, hmarks⟩

/-- The tag of a block is in the text as it is, but for its case. -/
theorem openTag_sameLetter {type : BlockType} {previous : Option Char} {rest : Text}
    (htype : type = Preset.bracket ∨ type = Preset.cite)
    (h : type.opensBetween previous rest = true) :
    List.Forall₂ SameLetter type.openTag (rest.take type.openTag.length) := by
  have htags : ∃ tags, type.delimiters? = some tags ∧ tags.mode = .insensitive ∧
      (tags.openTag.all fun t => decide (t.toNat < 128)) = true := by
    rcases htype with rfl | rfl
    · exact ⟨_, rfl, rfl, by decide⟩
    · exact ⟨_, rfl, rfl, by decide⟩
  obtain ⟨tags, htags, hmode, hascii⟩ := htags
  simp only [List.all_eq_true, decide_eq_true_eq] at hascii
  obtain ⟨found, htags', hbegins⟩ := Scan.beginsWith_of_opensBetween h
  cases htags.symm.trans htags'
  rw [hmode] at hbegins
  obtain ⟨taken, more, rfl, htaken⟩ := Tag.forall₂_of_beginsWith hbegins
  rw [BlockType.openTag, htags]
  dsimp only
  rw [htaken.length_eq, List.take_left]
  refine ((List.forall₂_and_left _ _).2 ⟨hascii, htaken⟩).imp ?_
  rintro t c ⟨ht, hsame⟩
  exact .of_sameChar ht hsame

/-- Characters that are no marks are kept, and they change nothing. -/
theorem stripped_plain {before name : Text} (hout : before.tally.commented = false)
    (hname : ∀ c ∈ name, c ∉ Preset.marks) :
    (Text.tally (before ++ name)).commented = false ∧
      Text.stripped (before ++ name) = before.stripped ++ name := by
  induction name using List.reverseRecOn with
  | nil => simp [hout]
  | append_singleton name c ih =>
    obtain ⟨hcommented, hstripped⟩ := ih fun d hd => hname d (List.mem_append_left _ hd)
    have hstep := Text.tally_plain hcommented (hname c (by simp))
    rw [← List.append_assoc, Text.stripped_kept hcommented (by rw [hstep]), hstripped, hstep]
    exact ⟨rfl, List.append_assoc ..⟩

namespace Sketch

/-- What the open blocks render as, innermost first, around the text in them. -/
def around : List Frame → Text → Text
  | [], inner => inner
  | frame :: frames, inner => around frames (frame.before ++ frame.type.unclosed inner)

/-- What the text read so far renders as. -/
def written (s : Sketch) : Text := around s.frames (s.inner ++ s.run)

theorem around_append {frames : List Frame} (h : ∀ frame ∈ frames, frame.type.isComment = false)
    (inner more : Text) : around frames (inner ++ more) = around frames inner ++ more := by
  induction frames generalizing inner with
  | nil => rfl
  | cons frame frames ih =>
    rw [List.forall_mem_cons] at h
    rw [around, around, BlockType.unclosed_append h.1, ← List.append_assoc, ih h.2]

/-- A comment hides what is in it. -/
theorem around_comment {frame : Frame} (h : frame.type.isComment = true) (frames : List Frame)
    (inner : Text) : around (frame :: frames) inner = around frames frame.before := by
  unfold BlockType.isComment at h
  rw [around, BlockType.unclosed]
  split at h
  · next hkind =>
    rw [hkind]
    simp only [List.append_nil]
  · cases h

theorem text_eq_written {s : Sketch} (h : ∀ frame ∈ s.frames, frame.type.isComment = true) :
    s.text = s.written := by
  unfold written text
  generalize s.frames = frames, s.inner ++ s.run = inner at h
  induction frames generalizing inner with
  | nil => rfl
  | cons frame frames ih =>
    rw [List.forall_mem_cons] at h
    rw [around_comment h.1, ← ih _ h.2]
    cases frames with
    | nil => rfl
    | cons outer frames =>
      rw [List.getLast?_cons_cons, List.getLast?_eq_some_getLast (List.cons_ne_nil outer frames)]

theorem written_read {s : Sketch} (h : ∀ frame ∈ s.frames, frame.type.isComment = false) :
    s.read.written = s.written ++ s.rest.take 1 := by
  show around s.frames (s.inner ++ (s.run ++ s.rest.take 1)) = _
  rw [← List.append_assoc, around_append h]
  rfl

/-- In a comment, nothing is added. -/
theorem written_comment {s : Sketch} {frame : Frame} {outer : List Frame}
    (h : s.frames = frame :: outer) (hcomment : frame.type.isComment = true) :
    s.written = around outer frame.before := by
  rw [written, h, around_comment hcomment]

theorem written_enter {s : Sketch} (h : ∀ frame ∈ s.frames, frame.type.isComment = false)
    (type : BlockType) : (s.flush.enter type).written = s.written ++ type.unclosed [] :=
  around_append h _ _

theorem written_leave {s : Sketch} {frame : Frame} {outer : List Frame}
    (h : s.frames = frame :: outer) (type : BlockType) :
    (s.flush.leave type).written =
      around outer (frame.before ++ type.enclose (s.inner ++ s.run)) := by
  unfold written leave flush
  rw [h]
  exact congrArg _ (List.append_nil _)

/-! ### Sketches of groups, comments and citations -/

/-- The open blocks are those that counting finds behind `before`, and render as it does
    without its comments. -/
structure Strips (s : Sketch) (before : Text) (stack : List Block) : Prop where
  counts : Counts before s.rest stack
  types : s.frames.map Frame.type = stack.map Block.type
  previous : s.previous = before.getLast?
  written : List.Forall₂ SameLetter s.written before.stripped

namespace Strips

variable {interpreter : Interpreter} {s : Sketch} {before rest : Text} {stack : List Block}
  {c : Char} {type : BlockType}

theorem head_types (h : s.Strips before stack) :
    s.frames.head?.map Frame.type = stack.head?.map Block.type := by
  rw [← List.head?_map, h.types, List.head?_map]

/-- The innermost block has the type of the innermost frame. -/
theorem head_frame (h : s.Strips before stack) {block : Block} (hblock : block ∈ stack.head?) :
    ∃ frame ∈ s.frames.head?, frame.type = block.type :=
  Option.map_eq_some_iff.1 (h.head_types.trans (congrArg (Option.map Block.type) hblock))

theorem head_block (h : s.Strips before stack) {frame : Frame} (hframe : frame ∈ s.frames.head?) :
    ∃ block ∈ stack.head?, block.type = frame.type :=
  Option.map_eq_some_iff.1 (h.head_types.symm.trans (congrArg (Option.map Frame.type) hframe))

theorem advance_previous (h : s.Strips before stack) (count : Nat) :
    (s.advance count).previous = (before ++ s.rest.take count).getLast? := by
  rw [List.getLast?_append, ← h.previous]
  rfl

/-- A character is read. -/
theorem read (h : s.Strips before stack) (htypes : interpreter.types = Preset.braceTypes)
    (hrest : s.rest = c :: rest) (hopening : s.opening? interpreter = none)
    (hclosing : s.closing? = none) : s.read.Strips (before ++ [c]) stack := by
  have htaken : s.rest.take 1 = [c] := by
    rw [hrest]
    rfl
  have hcounts : Counts (before ++ [c]) rest stack := by
    have hbefore := h.counts
    have hopening := opening?_eq_none hopening
    have hclosing := closing?_eq_none hclosing
    rw [hrest, h.previous] at hopening hclosing
    rw [hrest] at hbefore
    rw [htypes] at hopening
    apply hbefore.read
    · apply hopening.imp_left
      rintro ⟨frame, hframe, hforbid⟩
      obtain ⟨block, hblock, htype⟩ := h.head_block hframe
      exact ⟨block, hblock, htype ▸ hforbid⟩
    · intro block hblock
      obtain ⟨frame, hframe, htype⟩ := h.head_frame hblock
      rw [← htype]
      exact hclosing frame hframe
  have hprevious := h.advance_previous 1
  rw [htaken] at hprevious
  refine ⟨?_, h.types, hprevious, ?_⟩
  · show Counts _ (s.rest.drop 1) _
    rwa [hrest]
  · have hsame := hcounts.stacked.commented_eq h.counts.stacked
    rcases h.counts.stacked.frames h.types with
      ⟨hout, houtside⟩ | ⟨hin, frame, outer, hframes, hcomment⟩
    · have houtside := fun frame hframe => isComment_brace (houtside frame hframe)
      rw [written_read houtside, htaken, Text.stripped_kept hout (hsame.trans hout)]
      exact List.rel_append h.written (.cons (.refl c) .nil)
    · have hcomment : frame.type.isComment = true := by
        rw [hcomment]
        rfl
      rw [written_comment (s := s.read) hframes hcomment, ← written_comment hframes hcomment,
        Text.stripped_left_out (Or.inl hin)]
      exact h.written

/-- The open tag of a group or a citation stays in the text. -/
theorem written_openTag (h : s.Strips before stack)
    (htype : type = Preset.bracket ∨ type = Preset.cite) (hout : before.tally.commented = false)
    (hopens : type.opensBetween before.getLast? s.rest = true) :
    List.Forall₂ SameLetter (s.written ++ type.unclosed [])
      (Text.stripped (before ++ s.rest.take type.openTag.length)) := by
  have htag := openTag_sameLetter htype hopens
  have hunclosed : type.unclosed [] = type.openTag := by
    rcases htype with rfl | rfl <;> rfl
  obtain ⟨name, htaken, hmarks⟩ := openTag_split htype hopens
  rw [htaken] at htag
  obtain ⟨hcommented, hstripped⟩ := stripped_plain hout hmarks
  have hkept := Text.stripped_kept hcommented (by rw [Text.tally_open hcommented])
  rw [htaken, ← List.append_assoc, hkept, hstripped, List.append_assoc, hunclosed]
  exact List.rel_append h.written htag

/-- A block opens. -/
theorem enter (h : s.Strips before stack) (htypes : interpreter.types = Preset.braceTypes)
    (hrest : s.rest ≠ []) (hopening : s.opening? interpreter = some type) :
    ∃ inside, (s.flush.enter type).Strips (before ++ s.rest.take type.openTag.length) inside := by
  obtain ⟨hfind, hallowed⟩ := opening?_eq_some hopening
  rw [htypes, h.previous] at hfind
  have hopens := List.find?_some hfind
  have hentered : Counts (before ++ s.rest.take type.openTag.length)
      (s.rest.drop type.openTag.length) (.opened type 0 before.byteLen :: stack) := by
    have hcounts := h.counts
    obtain ⟨c, rest, hsplit⟩ := List.exists_cons_of_ne_nil hrest
    rw [hsplit] at hcounts hfind ⊢
    refine hcounts.opened ?_ hfind
    intro block hblock
    obtain ⟨frame, hframe, htype⟩ := h.head_frame hblock
    rw [← htype]
    exact hallowed frame hframe
  have hinside : (s.flush.enter type).frames.map Frame.type =
      (Block.opened type 0 before.byteLen :: stack).map Block.type :=
    congrArg (type :: ·) h.types
  refine ⟨_, hentered, hinside, h.advance_previous _, ?_⟩
  rcases h.counts.stacked.frames h.types with
    ⟨hout, houtside⟩ | ⟨-, frame, outer, hframes, hcomment⟩
  · rw [written_enter fun frame hframe => isComment_brace (houtside frame hframe)]
    rcases Preset.mem_braceTypes (List.mem_of_find?_eq_some hfind) with rfl | rfl | rfl
    · exact h.written_openTag (Or.inl rfl) hout hopens
    · obtain ⟨c, rest, hsplit⟩ := List.exists_cons_of_ne_nil hrest
      have htaken : s.rest.take Preset.comment.openTag.length = [c] := by
        rw [hsplit]
        rfl
      rw [htaken] at hentered ⊢
      -- the percent sign begins the comment, and so it goes with it
      have hin : (Text.tally (before ++ [c])).commented = true := by
        rcases hentered.stacked.frames hinside with ⟨-, hbraces⟩ | ⟨hin, -⟩
        · have hbrace := isComment_brace (hbraces _ (List.mem_cons_self ..))
          cases hbrace
        · exact hin
      rw [Text.stripped_left_out (Or.inr hin)]
      exact (List.append_nil s.written).symm ▸ h.written
    · exact h.written_openTag (Or.inr rfl) hout hopens
  · have hforbid := hallowed frame (by rw [hframes]; rfl)
    rw [hcomment] at hforbid
    cases hforbid

/-- The close tag of a group or a citation stays in the text. -/
theorem written_closeTag {frame : Frame} {outer : List Frame} (h : s.Strips before stack)
    (hframes : s.frames = frame :: outer) (hrest : s.rest = c :: rest)
    (hbraces : ∀ frame ∈ s.frames, frame.type = Preset.bracket ∨ frame.type = Preset.cite)
    (hout : before.tally.commented = false)
    (hcloses : frame.type.closesBetween before.getLast? s.rest = true) :
    List.Forall₂ SameLetter (around outer (frame.before ++ frame.type.enclose (s.inner ++ s.run)))
      (Text.stripped (before ++ s.rest.take frame.type.closeTag.length)) := by
  rw [hframes, List.forall_mem_cons] at hbraces
  obtain ⟨hbrace, houter⟩ := hbraces
  obtain ⟨hclose, henclose⟩ : frame.type.closeTag = ['}'] ∧
      frame.type.enclose (s.inner ++ s.run) =
        frame.type.unclosed (s.inner ++ s.run) ++ ['}'] := by
    rcases hbrace with htype | htype
    · rw [htype]
      exact ⟨rfl, rfl⟩
    · rw [htype]
      exact ⟨rfl, (List.append_assoc ..).symm⟩
  have htaken : s.rest.take frame.type.closeTag.length = ['}'] := by
    rw [hrest, Preset.closes_brace hbrace, beq_iff_eq] at hcloses
    rw [hclose, hrest, hcloses]
    rfl
  have hwritten : s.written =
      around outer (frame.before ++ frame.type.unclosed (s.inner ++ s.run)) := by
    rw [Sketch.written, hframes]
    rfl
  have hkept := Text.stripped_kept hout (show (Text.tally (before ++ ['}'])).commented = false by
    rw [Text.tally_close hout])
  rw [htaken, hkept, henclose, ← List.append_assoc,
    around_append fun frame hframe => isComment_brace (houter frame hframe), ← hwritten]
  exact List.rel_append h.written (.cons (.refl _) .nil)

/-- The innermost block closes. -/
theorem leave (h : s.Strips before stack) (hrest : s.rest ≠ [])
    (hclosing : s.closing? = some type) :
    ∃ outside, (s.flush.leave type).Strips (before ++ s.rest.take type.closeTag.length)
      outside := by
  obtain ⟨frame, outer, hframes, rfl, hcloses⟩ := closing?_eq_some hclosing
  obtain ⟨block, hblock, htype⟩ :=
    h.head_block (show s.frames.head? = some frame by rw [hframes]; rfl)
  obtain ⟨outside, rfl⟩ := List.head?_eq_some_iff.1 hblock
  rw [h.previous] at hcloses
  have hleft : Counts (before ++ s.rest.take frame.type.closeTag.length)
      (s.rest.drop frame.type.closeTag.length) outside := by
    have hcounts := h.counts
    obtain ⟨c, rest, hsplit⟩ := List.exists_cons_of_ne_nil hrest
    rw [hsplit] at hcounts hcloses ⊢
    rw [← htype] at hcloses ⊢
    exact hcounts.closed hcloses
  have houtside : (s.flush.leave frame.type).frames.map Frame.type = outside.map Block.type := by
    have htypes := h.types
    rw [hframes] at htypes
    show s.frames.tail.map Frame.type = _
    rw [hframes]
    exact (List.cons.inj htypes).2
  refine ⟨outside, hleft, houtside, h.advance_previous _, ?_⟩
  rw [written_leave hframes]
  obtain ⟨c, rest, hsplit⟩ := List.exists_cons_of_ne_nil hrest
  rcases h.counts.stacked.frames h.types with
    ⟨hout, hbraces⟩ | ⟨hin, found, _, hfound, hcomment⟩
  · exact h.written_closeTag hframes hsplit hbraces hout hcloses
  · cases hframes.symm.trans hfound
    have htaken : s.rest.take frame.type.closeTag.length = [c] := by
      rw [hsplit, hcomment]
      rfl
    have hnothing : frame.before ++ frame.type.enclose (s.inner ++ s.run) = frame.before := by
      rw [hcomment]
      exact List.append_nil _
    rw [htaken, Text.stripped_left_out (Or.inl hin), hnothing,
      ← written_comment hframes (by rw [hcomment]; rfl)]
    exact h.written

theorem start (text : Text) : (Sketch.start text).Strips [] [] :=
  ⟨.start text, rfl, rfl, .nil⟩

/-- The end of input may close the open blocks if and only if no brace is open. -/
theorem closeable_iff (h : s.Strips before stack) :
    (∀ frame ∈ s.frames, frame.type.flags.closeableByEof = true) ↔ before.tally.depth = 0 := by
  have hsame : (∀ type ∈ s.frames.map Frame.type, type.flags.closeableByEof = true) ↔
      ∀ type ∈ stack.map Block.type, type.flags.closeableByEof = true := by rw [h.types]
  rw [List.forall_mem_map, List.forall_mem_map] at hsame
  rw [hsame, h.counts.stacked.closeable_iff]

end Strips

theorem inclusion?_eq_none {interpreter : Interpreter} {s : Sketch} {type : BlockType}
    (htypes : interpreter.types = Preset.braceTypes) (hknown : s.Known interpreter)
    (hclosing : s.closing? = some type) : type.inclusion? = none := by
  obtain ⟨frame, outer, hframes, rfl, -⟩ := closing?_eq_some hclosing
  apply Preset.inclusion?_eq_none
  rw [← htypes]
  exact hknown frame (hframes ▸ List.mem_cons_self ..)

/-- No step fails, since no file is read. -/
theorem exists_next {interpreter : Interpreter} {s : Sketch}
    (htypes : interpreter.types = Preset.braceTypes) (hknown : s.Known interpreter)
    (fetch : Fetch) : ∃ s', s.next interpreter fetch = .ok s' := by
  unfold next
  cases s.opening? interpreter with
  | some type => exact ⟨_, rfl⟩
  | none =>
    cases hclosing : s.closing? with
    | some type =>
      simp only [follow, inclusion?_eq_none htypes hknown hclosing]
      exact ⟨_, rfl⟩
    | none => exact ⟨_, rfl⟩

/-- **Every sketch strips the text that has been read.** -/
theorem Steps.strips {interpreter : Interpreter} {fetch : Fetch} {text : Text} {s : Sketch}
    (htypes : interpreter.types = Preset.braceTypes)
    (h : Steps interpreter fetch (.start text) s) :
    ∃ before stack, text = before ++ s.rest ∧ s.Strips before stack := by
  induction h with
  | refl => exact ⟨[], [], rfl, .start text⟩
  | @tail s s' hsteps hstep ih =>
    obtain ⟨before, stack, htext, hstrips⟩ := ih
    have hrest := hstep.1
    have hsplit : ∀ count, text = (before ++ s.rest.take count) ++ s.rest.drop count := by
      intro count
      rw [List.append_assoc, List.take_append_drop, htext]
    rcases hstep.cases with ⟨type, hopening, rfl⟩ |
      ⟨type, followed, hopening, hclosing, hfollow, rfl⟩ | ⟨hopening, hclosing, rfl⟩
    · obtain ⟨inside, hinside⟩ := hstrips.enter htypes hrest hopening
      exact ⟨_, inside, hsplit _, hinside⟩
    · obtain ⟨outside, houtside⟩ := hstrips.leave hrest hclosing
      have hknown := Steps.known hsteps (known_start text)
      unfold follow at hfollow
      rw [inclusion?_eq_none htypes hknown hclosing] at hfollow
      cases hfollow
      exact ⟨_, outside, hsplit _, houtside⟩
    · obtain ⟨c, rest, hcons⟩ := List.exists_cons_of_ne_nil hrest
      refine ⟨_, stack, hsplit 1, ?_⟩
      rw [hcons]
      exact hstrips.read htypes hcons hopening hclosing

end Sketch

namespace Interpreter

open Scan

/-- **Rendering is stripping.** -/
theorem render_strips (disk : Disk) {interpreter : Interpreter}
    (htypes : interpreter.types = Preset.braceTypes) {text : Text}
    (hlen : text.byteLen < offsetLimit) :
    (∃ out, (interpreter.render disk text).result = .ok out ∧ text.tally.depth = 0 ∧
      List.Forall₂ SameLetter out text.stripped) ∨
    ∃ cause, (interpreter.render disk text).result = .error cause ∧ text.tally.depth ≠ 0 := by
  have horderly : interpreter.Orderly := by
    apply Preset.orderly_of_latexTypes
    rw [htypes]
    exact fun type htype => List.mem_of_mem_take (i := 3) htype
  obtain ⟨s, hsteps, hends⟩ := render_sketched disk horderly hlen
  obtain ⟨before, stack, htext, hstrips⟩ := hsteps.strips htypes
  have hknown := hsteps.known (Sketch.known_start text)
  generalize (interpreter.render disk text).result = outcome at hends
  cases hends with
  | failed hrest hcause =>
    obtain ⟨s', hnext⟩ := Sketch.exists_next htypes hknown (interpreter.fetched disk)
    cases hnext.symm.trans hcause
  | accepted hnil hall =>
    rw [hnil, List.append_nil] at htext
    subst htext
    refine Or.inl ⟨_, rfl, hstrips.closeable_iff.1 hall, ?_⟩
    rw [Sketch.text_eq_written]
    · exact hstrips.written
    · intro frame hframe
      exact horderly.ends _ (hknown frame hframe) (hall frame hframe)
  | unterminated hnil hopen =>
    rw [hnil, List.append_nil] at htext
    subst htext
    exact Or.inr ⟨_, rfl, mt hstrips.closeable_iff.2 hopen⟩

theorem textual_of_braceTypes {interpreter : Interpreter}
    (htypes : interpreter.types = Preset.braceTypes) : interpreter.Textual := by
  intro type htype
  rw [htypes] at htype
  rcases Preset.mem_braceTypes htype with rfl | rfl | rfl
  · exact Or.inl ⟨_, rfl⟩
  · exact Or.inr ⟨_, rfl⟩
  · exact Or.inl ⟨_, rfl⟩

/-- Where no comment is met by counting, none opens. -/
theorem comment_opens_eq_false {text : Text} (h : text.Uncommented) (pos : Nat) :
    Preset.comment.opens text pos = false := by
  rw [Bool.eq_false_iff]
  intro hopens
  unfold BlockType.opens at hopens
  split at hopens
  · next before rest hcut =>
    obtain ⟨rfl, -⟩ := Text.cut?_eq_some_iff.1 hcut
    cases rest with
    | nil =>
      rw [BlockType.opensBetween, Bool.and_eq_true] at hopens
      cases hopens.2
    | cons c rest =>
      rw [Preset.opens_comment] at hopens
      have hout := h before (List.prefix_append ..)
      have hnext := h (before ++ [c]) ⟨rest, by simp⟩
      obtain rfl : c = '%' := by simpa using (Bool.and_eq_true_iff.1 hopens).2
      rw [Text.tally_other hout (by decide) (by decide), hopens] at hnext
      cases hnext
  · cases hopens

theorem no_comments {disk : Disk} {interpreter : Interpreter} {text : Text} {doc : Document}
    (htypes : interpreter.types = Preset.braceTypes) (h : text.Uncommented)
    (hdoc : (interpreter.interpret disk text).result = .ok doc) :
    ∀ id block, doc.blockOf? id = some block → block.type.isComment = false := by
  obtain ⟨-, -, hwritten, -⟩ :=
    (textual_of_braceTypes htypes).written (registered_of_braceTypes htypes) (Or.inl hdoc)
  intro id block hblock
  rw [Bool.eq_false_iff]
  intro hcomment
  obtain ⟨htype, hopens⟩ :=
    (hwritten id block hblock).opens (BlockType.isPlain_of_isComment hcomment)
  rw [htypes] at htype
  rcases Preset.mem_braceTypes htype with htype | htype | htype
  · rw [htype] at hcomment
    cases hcomment
  · rw [htype, comment_opens_eq_false h] at hopens
    cases hopens
  · rw [htype] at hcomment
    cases hcomment

/-- **Rendering twice is rendering once.**  With groups, comments and citations, what a text
    renders as is accepted in turn.  Its document has no comments, and it renders as the same
    text but for the case of letters. -/
theorem rendering_stable (disk : Disk) (interpreter : Interpreter)
    (htypes : interpreter.types = Preset.braceTypes) (text out : Text)
    (hlen : text.byteLen < offsetLimit) (h : (interpreter.render disk text).result = .ok out) :
    ∃ doc, (interpreter.interpret disk out).result = .ok doc ∧
      (∀ id block, doc.blockOf? id = some block → block.type.isComment = false) ∧
      ∃ again, (interpreter.render disk out).result = .ok again ∧
        again.byteLen = out.byteLen ∧ again.length = out.length ∧
        List.Forall₂ SameLetter again out := by
  rcases render_strips disk htypes hlen with ⟨found, hfound, hdepth, hsame⟩ | ⟨cause, hcause, -⟩
  · cases hfound.symm.trans h
    have hstripped := Text.keepsTally_stripped text
    have huncommented : out.Uncommented := hstripped.uncommented.of_sameLetter hsame
    have hbalanced : out.tally.depth = 0 := by
      rw [(Text.tally_alike hsame).depth, hstripped.depth, hdepth]
    have hshort : out.byteLen < offsetLimit := by
      rw [SameLetter.byteLen_eq hsame]
      exact Nat.lt_of_le_of_lt (Text.byteLen_strippedFrom_le _ _) hlen
    rcases render_strips disk htypes hshort with ⟨again, hagain, -, hsame'⟩ | ⟨_, -, hopen⟩
    · rw [huncommented.stripped_eq] at hsame'
      obtain ⟨doc, hdoc, -⟩ := bind_eq_ok_iff.1 ((Traced.result_bind _ _).symm.trans hagain)
      exact ⟨doc, hdoc, no_comments htypes huncommented hdoc, again, hagain,
        SameLetter.byteLen_eq hsame', hsame'.length_eq, hsame'⟩
    · exact absurd hbalanced hopen
  · cases hcause.symm.trans h

/-- Without the comment the name of a citation comes together, and its tag is rendered in the
    case that it is registered in. -/
theorem rendering_stable_cite :
    (sampleBraces.render ⟨[], []⟩ ("\\ci%\nTe\x7ba\x7d".toList)).result =
      .ok ("\\ciTe\x7ba\x7d".toList) ∧
    ∃ doc, (sampleBraces.interpret ⟨[], []⟩ ("\\ciTe\x7ba\x7d".toList)).result = .ok doc ∧
      (∀ id block, doc.blockOf? id = some block → block.type.isComment = false) ∧
      ∃ again, (sampleBraces.render ⟨[], []⟩ ("\\ciTe\x7ba\x7d".toList)).result = .ok again ∧
        again.byteLen = Text.byteLen ("\\ciTe\x7ba\x7d".toList) ∧
        again.length = "\\ciTe\x7ba\x7d".toList.length ∧
        List.Forall₂ SameLetter again ("\\ciTe\x7ba\x7d".toList) := by
  have hrender : (sampleBraces.render ⟨[], []⟩ ("\\ci%\nTe\x7ba\x7d".toList)).result =
      .ok ("\\ciTe\x7ba\x7d".toList) :=
    eq_ok_of_toOption (by decide +kernel)
  exact ⟨hrender, rendering_stable ⟨[], []⟩ sampleBraces rfl _ _ (by decide) hrender⟩

end Interpreter

end Blockwise
