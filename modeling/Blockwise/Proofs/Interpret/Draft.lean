/-
  Blockwise/Proofs/Interpret/Draft.lean
  =====================================
  **Where a scan stands, and what it has built so far.**  Two invariants of every
  state that a scan passes through:

    * `Scan.At` — the position is a cut of the source text: the characters before it
      have been read, the rest is still to come, so recognition between two characters
      is recognition at a byte position (`At.opens_eq`, `At.closes_eq`), and moving by
      characters is what a cursor does with bytes (`At.cursor_advance`,
      `At.skipBytes_tag`);
    * `Document.Draft` — the document is a tree with a path of open nodes, its first
      source is the one being scanned, and the open blocks are those on the path, all
      of the interpreter's types.

  `Reached.standing` proves both for every state, and `finish_holds` says what the end
  of input makes of the last one.  So a scan is the walk of a cursor through its text
  (`Reached.cursor_steps`).
-/
import Blockwise.Proofs.Document.Family
import Blockwise.Proofs.Interpret.Reached
import Blockwise.Proofs.Text.Cursor

namespace Blockwise

/-! ### Registered interpreters -/

theorem forM_validate_eq_ok_iff (types : List BlockType) :
    types.forM BlockType.validate = .ok () ↔
      (types.all fun type => !type.hasEmptyOpenTag) = true := by
  induction types with
  | nil => simp [List.forM, pure, Except.pure]
  | cons type types ih =>
    rw [List.forM, bind_eq_ok_iff, List.all_cons, Bool.and_eq_true, ← ih]
    unfold BlockType.validate
    by_cases hempty : type.hasEmptyOpenTag = true <;> simp [hempty]

theorem Interpreter.isValid_of_ofTypes {types : List BlockType} {reader : Reader}
    {interpreter : Interpreter} (h : ofTypes types reader = .ok interpreter) :
    interpreter = ⟨types, defaultSelfCloseSkip, reader⟩ ∧ interpreter.isValid = true := by
  obtain ⟨⟨⟩, hforM, hret⟩ := bind_eq_ok_iff.1 h
  cases hret
  exact ⟨rfl, (forM_validate_eq_ok_iff types).1 hforM⟩

/-- The types of the interpreter were accepted when it was made, and so were those of
    the interpreters nested in it. -/
inductive Interpreter.Registered : Interpreter → Prop
  | intro {interpreter base : Interpreter}
      (accepted : ofTypes interpreter.types interpreter.reader = .ok base)
      (nested : ∀ type ∈ interpreter.types, ∀ settings inner, type.inclusion? = some settings →
        settings.override = some inner → inner.Registered) : interpreter.Registered

theorem Interpreter.Registered.openTag_ne_nil {interpreter : Interpreter}
    (h : interpreter.Registered) {type : BlockType} (htype : type ∈ interpreter.types)
    {tags : Delimiters} (htags : type.delimiters? = some tags) : tags.openTag ≠ [] := by
  cases h with
  | intro accepted nested =>
    obtain ⟨rfl, hvalid⟩ := isValid_of_ofTypes accepted
    have := List.all_eq_true.1 hvalid type htype
    simpa [BlockType.hasEmptyOpenTag, htags] using this

/-- The interpreter of an included file is registered, too. -/
theorem Interpreter.Registered.inner {interpreter : Interpreter} (h : interpreter.Registered)
    {type : BlockType} {settings : Inclusion} (htype : type ∈ interpreter.types)
    (hinc : type.inclusion? = some settings) :
    (settings.override.getD interpreter).Registered := by
  rcases hover : settings.override with _ | inner
  · exact h
  · cases h with
    | intro accepted nested => exact nested type htype settings inner hinc hover

/-- Whether an interpreter is registered lies in its types. -/
theorem Interpreter.Registered.of_types_eq {interpreter other : Interpreter}
    (h : interpreter.Registered) (htypes : other.types = interpreter.types) :
    other.Registered := by
  cases h with
  | intro accepted nested =>
    obtain ⟨⟨⟩, hforM, -⟩ := bind_eq_ok_iff.1 accepted
    rw [← htypes] at hforM nested
    exact .intro (bind_eq_ok_iff.2 ⟨(), hforM, rfl⟩) nested

/-- A small interpreter with a type of each kind and one file in memory. -/
def Interpreter.sample : Interpreter :=
  ⟨[(BlockType.comment ['c'] ['%']).caseSensitive,
    (BlockType.delimited ['b'] ['['] [']']).caseSensitive,
    (BlockType.inclusion ['i'] (.ofTags ['<'] ['>'])).caseSensitive],
    1, .memory ⟨[(⟨['f']⟩, ['x', '[', 'y', ']'])]⟩⟩

theorem Interpreter.sample_registered : Interpreter.sample.Registered := by
  refine @Registered.intro _ _ rfl ?_
  intro type htype settings inner hinc hover
  simp only [sample, List.mem_cons, List.not_mem_nil, or_false] at htype
  rcases htype with rfl | rfl | rfl <;> cases hinc
  cases hover

/-! ### Positions -/

namespace Scan

/-- The position is a cut of the text, right after character `previous`. -/
def At (scan : Scan) (text : Text) : Prop :=
  ∃ before, text = before ++ scan.rest ∧ Text.byteLen before = scan.pos ∧
    before.getLast? = scan.previous

/-- The cursor that stands in the text where the scan does. -/
def cursor (scan : Scan) (text : Text) : Cursor := ⟨text, scan.pos⟩

namespace At

variable {scan : Scan} {text : Text}

theorem cut?_eq (h : scan.At text) : ∃ before, text.cut? scan.pos = some (before, scan.rest) ∧
    before.getLast? = scan.previous := by
  obtain ⟨before, rfl, hlen, hlast⟩ := h
  exact ⟨before, hlen ▸ Text.cut?_of_append before scan.rest, hlast⟩

theorem isBoundary (h : scan.At text) : text.isBoundary scan.pos = true := by
  obtain ⟨before, hcut, -⟩ := h.cut?_eq
  rw [Text.isBoundary, hcut]
  rfl

theorem opens_eq (h : scan.At text) (type : BlockType) :
    type.opens text scan.pos = type.opensBetween scan.previous scan.rest := by
  obtain ⟨before, hcut, hlast⟩ := h.cut?_eq
  rw [BlockType.opens, hcut, ← hlast]

theorem closes_eq (h : scan.At text) (type : BlockType) :
    type.closes text scan.pos = type.closesBetween scan.previous scan.rest := by
  obtain ⟨before, hcut, hlast⟩ := h.cut?_eq
  rw [BlockType.closes, hcut, ← hlast]

theorem advance (h : scan.At text) (count : Nat) : (scan.advance count).At text := by
  obtain ⟨before, htext, hlen, hlast⟩ := h
  refine ⟨before ++ scan.rest.take count, ?_, ?_, ?_⟩
  · rw [htext, List.append_assoc]
    simp [Scan.advance]
  · rw [Text.byteLen_append, hlen]
    rfl
  · rw [List.getLast?_append, hlast]
    rfl

theorem of_split {before : Text} (h : scan.At text) (htext : text = before ++ scan.rest) :
    Text.byteLen before = scan.pos ∧ before.getLast? = scan.previous := by
  obtain ⟨found, hfound, hpos, hprevious⟩ := h
  rw [htext, List.append_left_inj] at hfound
  rw [hfound]
  exact ⟨hpos, hprevious⟩

theorem pos_add_byteLen (h : scan.At text) :
    scan.pos + Text.byteLen scan.rest = Text.byteLen text := by
  obtain ⟨before, htext, hlen, -⟩ := h
  rw [htext, Text.byteLen_append, hlen]

theorem rest?_cursor (h : scan.At text) : (scan.cursor text).rest? = some scan.rest := by
  obtain ⟨before, hcut, -⟩ := h.cut?_eq
  rw [Cursor.rest?, cursor, hcut]
  rfl

/-- A scan advances by characters as a cursor does. -/
theorem cursor_advance (h : scan.At text) (count : Nat) :
    (scan.advance count).cursor text = (scan.cursor text).skipChars count := by
  rw [Cursor.skipChars, h.rest?_cursor]
  rfl

/-- It passes as many bytes as the characters have. -/
theorem skipBytes_take (h : scan.At text) (hword : text.byteLen < offsetLimit) (count : Nat) :
    (scan.cursor text).skipBytes (Text.byteLen (scan.rest.take count)) =
      .ok ((scan.advance count).cursor text) := by
  have hle := Text.le_of_isBoundary (h.advance count).isBoundary
  exact Cursor.skipBytes_eq_ok_iff.2 ⟨Nat.lt_of_le_of_lt hle hword, rfl⟩

/-- **Moving over the characters of a tag is moving over its bytes,** where the tag stands. -/
theorem skipBytes_tag (h : scan.At text) (hword : text.byteLen < offsetLimit) {mode : CaseMode}
    {tag : Text} (hbegins : Tag.beginsWith mode tag scan.rest = true) :
    (scan.cursor text).skipBytes (Text.byteLen tag) =
      .ok ((scan.advance tag.length).cursor text) := by
  rw [← byteLen_take_of_beginsWith hbegins]
  exact h.skipBytes_take hword tag.length

end At

end Scan

/-! ### Drafts -/

namespace Document

/-- A document that is being made from `source`: its open blocks are those on the
    path of open nodes, all of registered types and in the main source. -/
structure Draft (doc : Document) (interpreter : Interpreter) (source : Source) : Prop where
  building : doc.Building
  main : doc.sources[0]? = some source
  settled : ∀ id block, doc.blockOf? id = some block → block.stop = none → id ∈ doc.openBlocks
  registered : ∀ id ∈ doc.openBlocks, ∀ block, doc.blockOf? id = some block →
    block.type ∈ interpreter.types ∧ block.source = 0

theorem draft_ofSource (interpreter : Interpreter) (source : Source) :
    (ofSource source).Draft interpreter source := by
  refine ⟨building_ofSource source, rfl, ?_, ?_⟩
  · intro id block hblock
    cases id <;> cases hblock
  · intro id hid
    cases hid

theorem text_eq {doc : Document} {source : Source} (h : doc.sources[0]? = some source) :
    doc.text = source.text := by
  simp [text, mainSource, h]

namespace Draft

variable {doc doc' : Document} {interpreter : Interpreter} {source : Source} {block : Block}

theorem push (h : doc.Draft interpreter source) (hstop : block.stop = none)
    (htype : block.type ∈ interpreter.types ∧ block.source = 0) :
    (doc.push block).Draft interpreter source := by
  have hin := h.building.innermost_lt
  refine ⟨h.building.push hstop, h.main, ?_, ?_⟩
  · intro id found hfound hopen
    rw [blockOf?_push block hin] at hfound
    rw [openBlocks_push]
    split at hfound
    · next hid => exact hid ▸ List.mem_cons_self ..
    · exact List.mem_cons_of_mem _ (h.settled id found hfound hopen)
  · intro id hid found hfound
    rw [blockOf?_push block hin] at hfound
    rw [openBlocks_push] at hid
    split at hfound
    · cases hfound
      exact htype
    · next hne =>
      rcases List.mem_cons.1 hid with hid | hid
      · exact absurd hid hne
      · exact h.registered id hid found hfound

theorem close {id pos markerLen : Nat} {outer : List Nat} (h : doc.Draft interpreter source)
    (hopen : doc.openBlocks = id :: outer)
    (hclose : doc.closeInnermost pos markerLen = .ok doc') : doc'.Draft interpreter source := by
  obtain ⟨hsources, hopen', hclosed, -⟩ := closeInnermost_eq_ok hopen hclose
  have hnodup := h.building.spine.nodup h.building.arena
  rw [hopen, List.nodup_cons] at hnodup
  refine ⟨h.building.close hopen hopen' hclosed, ?_, ?_, ?_⟩
  · rw [hsources]
    exact h.main
  · intro j found hfound hstop
    rw [hclosed.blockOf?] at hfound
    rw [hopen']
    split at hfound
    · obtain ⟨old, -, rfl⟩ := Option.map_eq_some_iff.1 hfound
      cases hstop
    · next hne =>
      have hmem := h.settled j found hfound hstop
      rw [hopen] at hmem
      rcases List.mem_cons.1 hmem with hj | hj
      · exact absurd (List.mem_singleton.2 hj) hne
      · exact hj
  · intro j hj found hfound
    rw [hopen'] at hj
    have hne : j ∉ [id] := by
      rw [List.mem_singleton]
      rintro rfl
      exact hnodup.1 hj
    rw [hclosed.blockOf?, if_neg hne] at hfound
    exact h.registered j (hopen ▸ List.mem_cons_of_mem _ hj) found hfound

/-- A leaf that is opened and closed at once leaves the open nodes and all blocks
    that were there as they are. -/
theorem leaf {pos markerLen : Nat} (h : doc.Draft interpreter source) (hstop : block.stop = none)
    (hclose : (doc.push block).closeInnermost pos markerLen = .ok doc') :
    doc'.Draft interpreter source ∧ doc'.sources = doc.sources ∧
      doc'.openBlocks = doc.openBlocks ∧
      ∀ id < doc.nodes.size, doc'.blockOf? id = doc.blockOf? id := by
  have hin := h.building.innermost_lt
  obtain ⟨hsources, hopen', hclosed, -⟩ := closeInnermost_eq_ok (openBlocks_push doc block) hclose
  have hkeep : ∀ id < doc.nodes.size, doc'.blockOf? id = doc.blockOf? id := by
    intro id hid
    have hne : id ≠ doc.nodes.size := Nat.ne_of_lt hid
    rw [hclosed.blockOf?, if_neg (by simpa using hne), blockOf?_push block hin, if_neg hne]
  refine ⟨⟨?_, ?_, ?_, ?_⟩, hsources, hopen', hkeep⟩
  · exact (h.building.push hstop).close (openBlocks_push doc block) hopen' hclosed
  · rw [hsources]
    exact h.main
  · intro id found hfound hnone
    rw [hopen']
    by_cases hnew : id = doc.nodes.size
    · rw [hclosed.blockOf?, if_pos (by simpa using hnew)] at hfound
      obtain ⟨old, -, rfl⟩ := Option.map_eq_some_iff.1 hfound
      cases hnone
    · rw [hclosed.blockOf?, if_neg (by simpa using hnew), blockOf?_push block hin,
        if_neg hnew] at hfound
      exact h.settled id found hfound hnone
  · intro id hid found hfound
    rw [hopen'] at hid
    rw [hkeep id (h.building.spine.lt_size h.building.arena id hid)] at hfound
    exact h.registered id hid found hfound

theorem graft {sub : Document} (h : doc.Draft interpreter source) (hsub : sub.Arena)
    (hclosed : ∀ id block, sub.blockOf? id = some block → block.stop ≠ none)
    (hgraft : doc.Grafted sub doc' doc.innermost) : doc'.Draft interpreter source := by
  refine ⟨h.building.graft hsub hgraft, ?_, ?_, ?_⟩
  · obtain ⟨hlt, -⟩ := Array.getElem?_eq_some_iff.1 h.main
    rw [hgraft.sources, Array.getElem?_append_left hlt]
    exact h.main
  · intro id found hfound hnone
    rw [hgraft.openBlocks]
    by_cases hold : id < doc.nodes.size
    · rw [hgraft.blockOf? id hold] at hfound
      exact h.settled id found hfound hnone
    · obtain ⟨i, rfl⟩ := exists_add_of_not_lt hold
      rw [hgraft.blockOf?_new] at hfound
      obtain ⟨old, hold, rfl⟩ := Option.map_eq_some_iff.1 hfound
      exact absurd hnone (hclosed _ old hold)
  · intro id hid found hfound
    rw [hgraft.openBlocks] at hid
    rw [hgraft.blockOf? id (h.building.spine.lt_size h.building.arena id hid)] at hfound
    exact h.registered id hid found hfound

end Draft

end Document

/-! ### The invariant of every state -/

namespace Scan

/-- Node `id`, of the given type, is the innermost open one, and no plain text is
    waiting. -/
def Innermost (scan : Scan) (id : Nat) (type : BlockType) : Prop :=
  scan.runStart = scan.pos ∧ ∃ outer block, scan.doc.openBlocks = id :: outer ∧
    scan.doc.blockOf? id = some block ∧ block.type = type

def Phase.Pending : Phase → Scan → Prop
  | .scanning, _ => True
  | .closing id type _, scan => scan.Innermost id type
  | .followed id type _, scan => scan.Innermost id type

structure Standing (scan : Scan) (interpreter : Interpreter) (source : Source) (phase : Phase) :
    Prop where
  draft : scan.doc.Draft interpreter source
  place : scan.At source.text
  runBoundary : source.text.isBoundary scan.runStart = true
  runStart_le : scan.runStart ≤ scan.pos
  pending : phase.Pending scan

/-- Making a leaf of the waiting text keeps all but the document, and of that the open
    nodes and the blocks that were there. -/
theorem flush_draft {scan flushed : Scan} {interpreter : Interpreter} {source : Source}
    (h : scan.doc.Draft interpreter source) (hflush : scan.flush = .ok flushed) :
    flushed = { scan with doc := flushed.doc } ∧ flushed.doc.Draft interpreter source ∧
      flushed.doc.sources = scan.doc.sources ∧ flushed.doc.openBlocks = scan.doc.openBlocks ∧
      ∀ id < scan.doc.nodes.size, flushed.doc.blockOf? id = scan.doc.blockOf? id := by
  obtain ⟨doc, rfl, ⟨-, hclose⟩ | ⟨-, rfl⟩⟩ := flush_eq_ok hflush
  · obtain ⟨hdraft, hsources, hopen, hkeep⟩ := h.leaf rfl hclose
    exact ⟨rfl, hdraft, hsources, hopen, hkeep⟩
  · exact ⟨rfl, h, rfl, rfl, fun _ _ => rfl⟩

/-- The outcome holds a document: all of it, or what had been built when the input
    ended inside a block. -/
def Holds (outcome : Except Failure Document) (doc : Document) : Prop :=
  outcome = .ok doc ∨ ∃ label, outcome = .error (.unterminated label doc)

theorem finish_eq_ok {scan : Scan} {doc : Document} (h : scan.finish.result = .ok doc) :
    ∃ flushed, scan.flush = .ok flushed ∧ flushed.doc.closeAtEof = .ok (doc, none) := by
  have hmeets : scan.finish.Meets 0 (fun _ _ => True) fun _ doc =>
      ∃ flushed, scan.flush = .ok flushed ∧ flushed.doc.closeAtEof = .ok (doc, none) :=
    finish_meets (by simp) (by simp) (fun flushed _ hflush hclose => ⟨flushed, hflush, hclose⟩)
      (by simp)
  exact hmeets.of_ok h

/-- The end of a scan fails with a fault or an open block only. -/
theorem finish_eq_error {scan : Scan} {cause : Failure} (h : scan.finish.result = .error cause) :
    (∃ fault, cause = .fault fault) ∨ ∃ label doc, cause = .unterminated label doc := by
  have hmeets : scan.finish.Meets 0
      (fun _ cause => (∃ fault, cause = .fault fault) ∨ ∃ label doc, cause = .unterminated label doc)
      fun _ _ => True :=
    finish_meets (by simp) (by simp) (by simp) (by simp)
  exact hmeets.of_error h

theorem finish_unterminated {scan : Scan} {label : Text} {doc : Document}
    (h : scan.finish.result = .error (.unterminated label doc)) :
    ∃ flushed id, scan.flush = .ok flushed ∧ flushed.doc.closeAtEof = .ok (doc, some id) := by
  have hmeets : scan.finish.Meets 0 (fun _ cause => ∀ label doc, cause = .unterminated label doc →
      ∃ flushed id, scan.flush = .ok flushed ∧ flushed.doc.closeAtEof = .ok (doc, some id))
      fun _ _ => True := by
    refine finish_meets (by simp) (by simp) (by simp) ?_
    rintro flushed closed id _ hflush hclose label doc ⟨⟩
    exact ⟨flushed, id, hflush, hclose⟩
  exact hmeets.of_error h label doc rfl

/-- The end of input: the waiting text becomes a leaf, and the outer open blocks end
    with the text, all of them if the outcome is a success. -/
theorem finish_holds {scan : Scan} {doc : Document} (h : Holds scan.finish.result doc)
    {interpreter : Interpreter} {source : Source} (hdraft : scan.doc.Draft interpreter source) :
    ∃ flushed closed left, scan.flush = .ok flushed ∧ doc.sources = flushed.doc.sources ∧
      flushed.doc.openBlocks.reverse = closed ++ left ∧ doc.openBlocks = left.reverse ∧
      flushed.doc.ClosedAlong doc closed source.text.byteLen 0 ∧
      (∀ id ∈ closed, flushed.doc.isCloseableByEof id = true) ∧
      (∀ id ∈ left.head?, flushed.doc.isCloseableByEof id = false) ∧
      (scan.finish.result = .ok doc → left = []) := by
  obtain ⟨flushed, blocked, hflush, hclose, hblocked⟩ : ∃ flushed blocked,
      scan.flush = .ok flushed ∧ flushed.doc.closeAtEof = .ok (doc, blocked) ∧
      (scan.finish.result = .ok doc → blocked = none) := by
    rcases h with h | ⟨label, h⟩
    · obtain ⟨flushed, hflush, hclose⟩ := finish_eq_ok h
      exact ⟨flushed, none, hflush, hclose, fun _ => rfl⟩
    · obtain ⟨flushed, id, hflush, hclose⟩ := finish_unterminated h
      refine ⟨flushed, some id, hflush, hclose, ?_⟩
      rw [h]
      intro hok
      cases hok
  obtain ⟨-, hdraft', -, -, -⟩ := flush_draft hdraft hflush
  have hnodup := hdraft'.building.spine.nodup hdraft'.building.arena
  obtain ⟨hsources, closed, left, hsplit, hopen, rfl, halong, hall, hleft⟩ :=
    Document.closeAtEof_eq_ok hclose hnodup
  rw [Document.text_eq hdraft'.main] at halong
  refine ⟨flushed, closed, left, hflush, hsources, hsplit, hopen, halong, hall, hleft, ?_⟩
  intro hok
  have hnone := hblocked hok
  cases left with
  | nil => rfl
  | cons id rest => cases hnone

/-- A document that was finished has no open block. -/
theorem closed_of_finish {scan : Scan} {doc : Document} {interpreter : Interpreter}
    {source : Source} (hdraft : scan.doc.Draft interpreter source)
    (h : scan.finish.result = .ok doc) :
    doc.Arena ∧ doc.sources[0]? = some source ∧
      ∀ id block, doc.blockOf? id = some block → block.stop ≠ none := by
  obtain ⟨flushed, closed, left, hflush, hsources, hsplit, -, halong, -, -, hleft⟩ :=
    finish_holds (Or.inl h) hdraft
  obtain ⟨-, hdraft', -, -, -⟩ := flush_draft hdraft hflush
  rw [hleft h, List.append_nil] at hsplit
  refine ⟨hdraft'.building.arena.closedAlong halong, ?_, ?_⟩
  · rw [hsources]
    exact hdraft'.main
  · intro id block hblock hstop
    rw [halong.blockOf?] at hblock
    split at hblock
    · obtain ⟨old, -, rfl⟩ := Option.map_eq_some_iff.1 hblock
      cases hstop
    · next hnotin =>
      have hmem := hdraft'.settled id block hblock hstop
      rw [← List.mem_reverse, hsplit] at hmem
      exact hnotin hmem

theorem Standing.innermost_eq {scan : Scan} {interpreter : Interpreter} {source : Source}
    {phase : Phase} {id : Nat} {type : BlockType} (h : scan.Innermost id type)
    (hdraft : scan.Standing interpreter source phase) :
    scan.doc.innermost = id ∧ type ∈ interpreter.types := by
  obtain ⟨-, outer, block, hopen, hblock, rfl⟩ := h
  refine ⟨?_, ?_⟩
  · rw [Document.innermost_eq, hopen]
    rfl
  · exact (hdraft.draft.registered id (hopen ▸ List.mem_cons_self ..) block hblock).1

theorem opening?_eq_some {scan : Scan} {interpreter : Interpreter} {type : BlockType}
    (h : scan.opening? interpreter = some type) :
    interpreter.types.find? (fun type => type.opensBetween scan.previous scan.rest) = some type ∧
      ∀ block, scan.doc.activeBlock? = some block →
        block.type.flags.forbidNewOpenings = false := by
  unfold opening? at h
  rcases hactive : scan.doc.activeBlock? with _ | block
  · rw [hactive] at h
    exact ⟨by simpa using h, by simp⟩
  · rw [hactive] at h
    by_cases hforbid : block.type.flags.forbidNewOpenings = true
    · simp [hforbid] at h
    · refine ⟨by simpa [hforbid] using h, ?_⟩
      intro found hfound
      cases hfound
      simpa using hforbid

/-- A type that opens has a tag that is not empty, and stands there with all its bytes. -/
theorem tag_of_opening {scan : Scan} {interpreter : Interpreter} {type : BlockType}
    (hreg : interpreter.Registered) (h : scan.opening? interpreter = some type) :
    type ∈ interpreter.types ∧ type.delimiters? ≠ none ∧ 0 < type.openLen ∧
      Text.byteLen (scan.rest.take type.openTag.length) = type.openLen := by
  obtain ⟨hfind, -⟩ := opening?_eq_some h
  have hopens : type.opensBetween scan.previous scan.rest = true := by
    simpa using List.find?_some hfind
  obtain ⟨tags, htags, hbegins⟩ := beginsWith_of_opensBetween hopens
  have htype := List.mem_of_find?_eq_some hfind
  have htag : type.openTag = tags.openTag := by
    rw [BlockType.openTag, htags]
  refine ⟨htype, by simp [htags], ?_, ?_⟩
  · rw [BlockType.openLen, htag, Nat.pos_iff_ne_zero, Ne, Text.byteLen_eq_zero]
    exact hreg.openTag_ne_nil htype htags
  · rw [BlockType.openLen, htag]
    exact byteLen_take_of_beginsWith hbegins

theorem enter_runStart {scan : Scan} {type : BlockType}
    (h : Text.byteLen (scan.rest.take type.openTag.length) = type.openLen) :
    (scan.enter type).runStart = scan.pos + type.openLen := by
  rw [← h]
  rfl

/-- **Every state of a scan stands on a draft.** -/
theorem Reached.standing {disk : Disk} {interpreter : Interpreter} {source : Source}
    {phase : Phase} {scan : Scan} (h : Reached disk interpreter source phase scan) :
    scan.Standing interpreter source phase := by
  induction h with
  | start interpreter source =>
    refine ⟨Document.draft_ofSource interpreter source, ⟨[], rfl, rfl, rfl⟩, ?_, Nat.le_refl _,
      trivial⟩
    simp [Scan.start, Text.isBoundary]
  | read _ _ _ _ ih =>
    obtain ⟨hdraft, hplace, hrun, hle, -⟩ := ih
    exact ⟨hdraft, hplace.advance 1, hrun, Nat.le_trans hle (Nat.le_add_right _ _), trivial⟩
  | @opened interpreter source scan type flushed _ hrest hopening hflush ih =>
    obtain ⟨hdraft, hplace, -, -, -⟩ := ih
    obtain ⟨hsame, hdraft', -, -, -⟩ := flush_draft hdraft hflush
    have htype := List.mem_of_find?_eq_some (opening?_eq_some hopening).1
    have hplace' : flushed.At source.text := by
      rw [hsame]
      exact hplace
    have hinside := hplace'.advance type.openTag.length
    refine ⟨hdraft'.push rfl ⟨htype, rfl⟩, hinside, hinside.isBoundary, Nat.le_refl _, ?_⟩
    unfold Phase.afterOpen
    split
    · refine ⟨rfl, flushed.doc.openBlocks, .opened type 0 flushed.pos, rfl, ?_, rfl⟩
      show (flushed.doc.push _).blockOf? _ = _
      rw [Document.blockOf?_push _ hdraft'.building.innermost_lt, if_pos rfl]
    · trivial
  | @closing interpreter source scan id type flushed _ hrest hopening hclosing hflush ih =>
    obtain ⟨hdraft, hplace, -, -, -⟩ := ih
    obtain ⟨hsame, hdraft', -, hopen, hkeep⟩ := flush_draft hdraft hflush
    have hplace' : flushed.At source.text := by
      rw [hsame]
      exact hplace
    refine ⟨hdraft', hplace', hplace'.isBoundary, Nat.le_refl _, rfl, ?_⟩
    -- the innermost block is not touched by the leaf before the close tag
    obtain ⟨hactive, block, hblock, htype, -⟩ := closing?_eq_some hclosing
    obtain ⟨outer, houter⟩ : ∃ outer, scan.doc.openBlocks = id :: outer := by
      unfold Document.active? at hactive
      exact List.head?_eq_some_iff.1 hactive
    have hlt := hdraft.building.spine.lt_size hdraft.building.arena id
      (houter ▸ List.mem_cons_self ..)
    refine ⟨outer, block, hopen.trans houter, ?_, htype⟩
    show flushed.doc.blockOf? id = some block
    rw [hkeep id hlt]
    simpa [Document.activeBlock?, hactive, Document.blockOf?] using hblock
  | passed _ hinc ih =>
    obtain ⟨hdraft, hplace, hrun, hle, hpending⟩ := ih
    exact ⟨hdraft, hplace, hrun, hle, hpending⟩
  | @included interpreter source scan id type count settings reference text ended sub doc
      _ hinc href hread _ hend hfinish hsplice ih ihsub =>
    have hstanding := ih
    obtain ⟨hin, -⟩ := hstanding.innermost_eq hstanding.pending
    obtain ⟨harena, -, hclosed⟩ := closed_of_finish ihsub.draft hfinish
    subst hin
    have hgraft := hstanding.draft.building.grafted harena hsplice
    obtain ⟨hdraft, hplace, hrun, hle, hrunStart, outer, block, hopen, hblock, hty⟩ := hstanding
    refine ⟨hdraft.graft harena hclosed hgraft, hplace, hrun, hle, hrunStart, outer, block, ?_, ?_,
      hty⟩
    · exact hgraft.openBlocks.trans hopen
    · exact (hgraft.blockOf? _ hdraft.building.innermost_lt).trans hblock
  | @closed interpreter source scan id type count after _ hclose ih =>
    obtain ⟨hdraft, hplace, hrun, hle, hrunStart, outer, block, hopen, hblock, hty⟩ := ih
    obtain ⟨doc, hdoc, rfl⟩ := changeDoc_eq_ok_iff.1 hclose
    have hplace' := hplace.advance count
    refine ⟨hdraft.close hopen hdoc, hplace', hplace'.isBoundary, Nat.le_refl _, trivial⟩

/-- **A scan walks through its source as a cursor does,** from the start of the text. -/
theorem Reached.cursor_steps {disk : Disk} {interpreter : Interpreter} {source : Source}
    {phase : Phase} {scan : Scan} (h : Reached disk interpreter source phase scan) :
    Relation.ReflTransGen Cursor.Step (.ofText source.text) (scan.cursor source.text) := by
  induction h with
  | start => exact .refl
  | @read interpreter source scan hscan _ _ _ ih =>
    have hnext := hscan.standing.place.cursor_advance 1
    rw [hnext]
    exact ih.tail (.chars _ 1)
  | @opened interpreter source scan type flushed hscan _ _ hflush ih =>
    obtain ⟨doc, rfl, -⟩ := flush_eq_ok hflush
    have hnext := hscan.standing.place.cursor_advance type.openTag.length
    have hstep := ih.tail (.chars _ type.openTag.length)
    rw [← hnext] at hstep
    exact hstep
  | closing _ _ _ _ hflush ih =>
    obtain ⟨doc, rfl, -⟩ := flush_eq_ok hflush
    exact ih
  | passed _ _ ih => exact ih
  | included _ _ _ _ _ _ _ _ ih => exact ih
  | @closed interpreter source scan id type count after hscan hclose ih =>
    obtain ⟨doc, -, rfl⟩ := changeDoc_eq_ok_iff.1 hclose
    have hnext := hscan.standing.place.cursor_advance count
    have hstep := ih.tail (.chars _ count)
    rw [← hnext] at hstep
    exact hstep

end Scan

end Blockwise
