/-
  Blockwise/Proofs/Interpret/Counting.lean
  ========================================
  **Groups, comments and citations are accepted by counting braces.**  The open blocks of a
  scan are those that the tally of the text read so far has open (`Reached.tallied`).  At the
  end of input a comment may be closed and the others may not.  So a text is accepted if and
  only if its tally ends without open braces, and the block of the outermost one is named
  otherwise (`interpretation_counts`).
-/
import Blockwise.Proofs.Interpret.Braces
import Blockwise.Proofs.Interpret.EndOfInput
import Blockwise.Proofs.Interpret.Recognition

namespace Blockwise

namespace Document

variable {doc doc' : Document} {block : Block} {stack : List Block}

/-- The blocks that are open, innermost first. -/
def HasOpen (doc : Document) (stack : List Block) : Prop :=
  List.Forall₂ (fun id block => doc.blockOf? id = some block) doc.openBlocks stack

namespace HasOpen

theorem activeBlock? (h : doc.HasOpen stack) : doc.activeBlock? = stack.head? := by
  obtain ⟨sources, nodes, openBlocks⟩ := doc
  cases h with
  | nil => rfl
  | cons hblock _ => exact hblock

theorem kept (h : doc.HasOpen stack) (hopen : doc'.openBlocks = doc.openBlocks)
    (hkeep : ∀ id < doc.nodes.size, doc'.blockOf? id = doc.blockOf? id) : doc'.HasOpen stack := by
  unfold HasOpen
  rw [hopen]
  refine h.imp ?_
  intro id block hblock
  rw [hkeep id (lt_size_of_block hblock), hblock]

theorem push (h : doc.HasOpen stack) (hin : doc.innermost < doc.nodes.size) :
    (doc.push block).HasOpen (block :: stack) := by
  refine .cons ?_ (h.imp ?_)
  · rw [blockOf?_push block hin, if_pos rfl]
  · intro id outer houter
    have hid := lt_size_of_block houter
    rw [blockOf?_push block hin, if_neg (Nat.ne_of_lt hid), houter]

theorem closed {id pos markerLen : Nat} {outer : List Nat} (h : doc.HasOpen stack)
    (hnodup : doc.openBlocks.Nodup) (hopen : doc.openBlocks = id :: outer)
    (hopen' : doc'.openBlocks = outer) (hclosed : doc.ClosedAlong doc' [id] pos markerLen) :
    ∃ block outside, stack = block :: outside ∧ doc.blockOf? id = some block ∧
      doc'.HasOpen outside := by
  unfold HasOpen at h
  rw [hopen] at h hnodup
  obtain ⟨block, outside, hblock, houtside, rfl⟩ := List.forall₂_cons_left_iff.1 h
  refine ⟨block, outside, rfl, hblock, ?_⟩
  unfold HasOpen
  rw [hopen']
  -- the block that is closed is none of those outside of it
  have hne : ∀ j ∈ outer, j ∉ [id] := by
    intro j hj hmem
    rw [List.mem_singleton.1 hmem] at hj
    exact (List.nodup_cons.1 hnodup).1 hj
  refine ((List.forall₂_and_left _ _).2 ⟨hne, houtside⟩).imp ?_
  rintro j found ⟨hj, hfound⟩
  rw [hclosed.blockOf?, if_neg hj, hfound]

theorem closeable_iff (h : doc.HasOpen stack) :
    (∀ id ∈ doc.openBlocks, doc.isCloseableByEof id = true) ↔
      ∀ block ∈ stack, block.type.flags.closeableByEof = true := by
  unfold HasOpen at h
  generalize doc.openBlocks = ids at h
  induction h with
  | nil => simp
  | cons hblock _ ih =>
    rw [List.forall_mem_cons, List.forall_mem_cons, ih, isCloseableByEof_eq hblock]

theorem outermost (h : doc.HasOpen stack) (hlast : stack.getLast? = some block) :
    ∃ id inside, doc.openBlocks.reverse = id :: inside ∧ doc.blockOf? id = some block := by
  have hreverse := List.forall₂_reverse_iff.2 h
  rw [← List.head?_reverse, List.head?_eq_some_iff] at hlast
  obtain ⟨more, hstack⟩ := hlast
  rw [hstack] at hreverse
  obtain ⟨id, inside, hblock, -, hopen⟩ := List.forall₂_cons_right_iff.1 hreverse
  exact ⟨id, inside, hopen, hblock⟩

end HasOpen

end Document

namespace Scan

open Document

variable {disk : Disk} {interpreter : Interpreter} {source : Source} {phase : Phase}
  {scan : Scan}

/-- The open blocks of the scan are those that counting finds. -/
def Tallied (scan : Scan) (text : Text) : Prop :=
  ∃ before stack, text = before ++ scan.rest ∧ scan.doc.HasOpen stack ∧
    Counts before scan.rest stack

/-- The tag that the innermost block is closed with stands here. -/
def Phase.Closes (scan : Scan) : Phase → Prop
  | .scanning => True
  | .closing _ type count => scan.rest ≠ [] ∧ count = type.closeTag.length ∧
      type.closesBetween scan.previous scan.rest = true
  | .followed _ type count => scan.rest ≠ [] ∧ count = type.closeTag.length ∧
      type.closesBetween scan.previous scan.rest = true

theorem Tallied.advance {doc : Document} {text before : Text} {stack : List Block} {count : Nat}
    (htext : text = before ++ scan.rest) (hopen : doc.HasOpen stack)
    (h : Counts (before ++ scan.rest.take count) (scan.rest.drop count) stack) :
    (({ scan with doc := doc } : Scan).advance count).Tallied text := by
  refine ⟨before ++ scan.rest.take count, stack, ?_, hopen, h⟩
  rw [htext, List.append_assoc]
  show _ = before ++ (scan.rest.take count ++ scan.rest.drop count)
  rw [List.take_append_drop]

theorem Tallied.flush {flushed : Scan} {text : Text} (h : scan.Tallied text)
    (hdraft : scan.doc.Draft interpreter source) (hflush : scan.flush = .ok flushed) :
    flushed.Tallied text := by
  obtain ⟨before, stack, htext, hopen, hcounts⟩ := h
  obtain ⟨hsame, -, -, hopenBlocks, hkeep⟩ := flush_draft hdraft hflush
  have hrest : flushed.rest = scan.rest := by rw [hsame]
  refine ⟨before, stack, ?_, hopen.kept hopenBlocks hkeep, ?_⟩
  · rw [hrest, htext]
  · rwa [hrest]

/-- If the end of input may not close the outermost block, that one is named. -/
theorem Decides.outermost {doc : Document} {outcome : Except Failure Document} {block : Block}
    {stack : List Block} (h : Decides doc outcome) (hopen : doc.HasOpen stack)
    (hlast : stack.getLast? = some block) (hblock : block.type.flags.closeableByEof = false) :
    ∃ partly, outcome = .error (.unterminated block.label partly) := by
  obtain ⟨first, more, hopenBlocks, hfirst⟩ := hopen.outermost hlast
  have hblocked : doc.isCloseableByEof first = false := by rw [isCloseableByEof_eq hfirst, hblock]
  have hmem : first ∈ doc.openBlocks := by
    rw [← List.mem_reverse, hopenBlocks]
    exact List.mem_cons_self ..
  obtain ⟨label, partly, hresult⟩ := h.unterminated_iff.2 ⟨first, hmem, hblocked⟩
  obtain ⟨outside, id, inside, found, hsplit, houtside, -, hfound, rfl⟩ := h.label _ _ hresult
  rw [openNodes, hopenBlocks] at hsplit
  cases outside with
  | nil =>
    cases hsplit
    cases hfirst.symm.trans hfound
    exact ⟨partly, hresult⟩
  | cons j outside =>
    cases hsplit
    rw [houtside first (List.mem_cons_self ..)] at hblocked
    cases hblocked

theorem Reached.inclusion?_eq_none {id count : Nat} {type : BlockType}
    (h : Reached disk interpreter source (.closing id type count) scan)
    (htypes : interpreter.types = Preset.braceTypes) : type.inclusion? = none := by
  have htype := (h.standing.innermost_eq h.standing.pending).2
  rw [htypes] at htype
  exact Preset.inclusion?_eq_none htype

/-- **Every scan of groups, comments and citations counts.** -/
theorem Reached.tallied (h : Reached disk interpreter source phase scan)
    (htypes : interpreter.types = Preset.braceTypes) :
    scan.Tallied source.text ∧ phase.Closes scan := by
  induction h with
  | start interpreter source => exact ⟨⟨[], [], rfl, .nil, .start _⟩, trivial⟩
  | @read interpreter source scan hscan hrest hopening hclosing ih =>
    obtain ⟨⟨before, stack, htext, hopen, hcounts⟩, -⟩ := ih htypes
    obtain ⟨-, hprevious⟩ := hscan.standing.place.of_split htext
    have hactive := hopen.activeBlock?
    obtain ⟨c, rest, hsplit⟩ := List.exists_cons_of_ne_nil hrest
    refine ⟨Tallied.advance htext hopen ?_, trivial⟩
    rw [hsplit] at hcounts ⊢
    refine hcounts.read ?_ ?_
    · rw [hprevious, ← hsplit, ← hactive, ← htypes]
      exact opening?_eq_none hopening
    · intro block hblock
      rw [← hactive] at hblock
      rw [hprevious, ← hsplit]
      exact closing?_eq_none hclosing hblock
  | @opened interpreter source scan type flushed hscan hrest hopening hflush ih =>
    have hstanding := hscan.standing
    obtain ⟨hfind, hallowed⟩ := opening?_eq_some hopening
    rw [htypes] at hfind
    obtain ⟨before, stack, htext, hopen, hcounts⟩ := (ih htypes).1
    obtain ⟨hpos, hprevious⟩ := hstanding.place.of_split htext
    obtain ⟨c, rest, hsplit⟩ := List.exists_cons_of_ne_nil hrest
    rw [hsplit] at hcounts
    rw [hsplit, ← hprevious] at hfind
    have hentered := hcounts.opened (by rwa [hopen.activeBlock?] at hallowed) hfind
    rw [← hsplit, hpos] at hentered
    -- the leaf before the tag is closed, so the new block comes on top of the old ones
    obtain ⟨hsame, hdraft, -, hkept, hkeep⟩ := flush_draft hstanding.draft hflush
    have hpushed : (flushed.doc.push (.opened type 0 scan.pos)).HasOpen
        (.opened type 0 scan.pos :: stack) :=
      (hopen.kept hkept hkeep).push hdraft.building.innermost_lt
    constructor
    · rw [hsame]
      exact Tallied.advance htext hpushed hentered
    · rw [Phase.afterOpen, Preset.not_closeImmediately (List.mem_of_find?_eq_some hfind)]
      trivial
  | closing hscan hrest hopening hclosing hflush ih =>
    have hflushed := (ih htypes).1.flush hscan.standing.draft hflush
    obtain ⟨hsame, -⟩ := flush_draft hscan.standing.draft hflush
    obtain ⟨-, -, -, -, hcloses⟩ := closing?_eq_some hclosing
    refine ⟨hflushed, ?_, rfl, ?_⟩
    · rw [hsame]
      exact hrest
    · rw [hsame]
      exact hcloses
  | passed _ _ ih => exact ih htypes
  | included hscan hinc =>
    rw [hscan.inclusion?_eq_none htypes] at hinc
    cases hinc
  | @closed interpreter source scan id type count after hscan hclose ih =>
    have hstanding := hscan.standing
    obtain ⟨-, outer, block, houter, hblock, rfl⟩ := hstanding.pending
    obtain ⟨⟨before, stack, htext, hopen, hcounts⟩, hrest, rfl, hcloses⟩ := ih htypes
    obtain ⟨-, hprevious⟩ := hstanding.place.of_split htext
    obtain ⟨doc, hdoc, rfl⟩ := changeDoc_eq_ok_iff.1 hclose
    obtain ⟨-, hopen', hclosed, -⟩ := closeInnermost_eq_ok houter hdoc
    have hbuilding := hstanding.draft.building
    obtain ⟨found, outside, rfl, hfound, houtside⟩ :=
      hopen.closed (hbuilding.spine.nodup hbuilding.arena) houter hopen' hclosed
    cases hblock.symm.trans hfound
    obtain ⟨c, rest, hsplit⟩ := List.exists_cons_of_ne_nil hrest
    refine ⟨Tallied.advance htext houtside ?_, trivial⟩
    rw [hsplit] at hcounts hcloses ⊢
    rw [← hprevious] at hcloses
    exact hcounts.closed hcloses

end Scan

namespace Interpreter

open Scan Document

theorem registered_of_braceTypes {interpreter : Interpreter}
    (htypes : interpreter.types = Preset.braceTypes) : interpreter.Registered := by
  refine @Registered.intro interpreter _ (by rw [htypes]; rfl) ?_
  intro type htype settings inner hinc
  rw [htypes] at htype
  rw [Preset.inclusion?_eq_none htype] at hinc
  cases hinc

/-- **Acceptance is counting.**  With groups, comments and citations, a text is accepted if
    and only if no brace is open at its end.  If one is, there is an outermost one, and the
    failure names its block. -/
theorem interpretation_counts (disk : Disk) (interpreter : Interpreter)
    (htypes : interpreter.types = Preset.braceTypes) (text : Text)
    (hlen : text.byteLen < offsetLimit) :
    ((∃ doc, (interpreter.interpret disk text).result = .ok doc) ↔ text.tally.depth = 0) ∧
      (0 < text.tally.depth →
        ∃ before after, text = before ++ '{' :: after ∧ Outermost before after) ∧
      ∀ before after, text = before ++ '{' :: after → Outermost before after →
        ∃ partly, (interpreter.interpret disk text).result =
          .error (.unterminated (braceBlock before).label partly) := by
  rcases interpret_decides disk interpreter (registered_of_braceTypes htypes) hlen with
    ⟨cause, -, hbreaks, -⟩ | ⟨ended, -, hended, hrest, -, hdecides⟩
  · -- there is no include on the way
    obtain ⟨scan, id, type, count, settings, hscan, hinc, -⟩ := hbreaks
    rw [hscan.inclusion?_eq_none htypes] at hinc
    cases hinc
  obtain ⟨⟨before, stack, htext, hopen, hcounts⟩, -⟩ := hended.tallied htypes
  rw [hrest, List.append_nil] at htext
  subst htext
  have hstacked := hcounts.stacked
  have hrefused : 0 < text.tally.depth → ∃ first after partly, text = first ++ '{' :: after ∧
      Outermost first after ∧ (interpreter.interpret disk text).result =
        .error (.unterminated (braceBlock first).label partly) := by
    intro hpos
    obtain ⟨first, after, hsplit, houtermost, hlast⟩ := hstacked.outermost hpos
    obtain ⟨partly, hresult⟩ :=
      hdecides.outermost hopen hlast (by rw [flags_of_brace braceBlock_type])
    exact ⟨first, after, partly, hsplit, houtermost, hresult⟩
  refine ⟨⟨?_, ?_⟩, ?_, ?_⟩
  · rintro ⟨doc, hdoc⟩
    by_contra hdepth
    obtain ⟨_, _, _, -, -, hresult⟩ := hrefused (Nat.pos_of_ne_zero hdepth)
    rw [hdoc] at hresult
    cases hresult
  · intro hdepth
    exact hdecides.accepted ((hopen.closeable_iff.trans hstacked.closeable_iff).2 hdepth)
  · intro hpos
    obtain ⟨first, after, _, hsplit, houtermost, -⟩ := hrefused hpos
    exact ⟨first, after, hsplit, houtermost⟩
  · intro first after hsplit houtermost
    have hpos := houtermost.unclosed after (List.prefix_refl after)
    rw [← hsplit] at hpos
    obtain ⟨other, rest, partly, hother, hothers, hresult⟩ := hrefused hpos
    obtain ⟨rfl, -⟩ := houtermost.unique hothers (hsplit.symm.trans hother)
    exact ⟨partly, hresult⟩

/-- An interpreter of groups, comments and citations. -/
def sampleBraces : Interpreter := ⟨Preset.braceTypes, 1, .memory .empty⟩

theorem sampleBraces_outermost :
    Outermost ['%', '{', '\n', '\\', 'C', 'i', 't', 'e'] ['a'] := by
  have hopen : Outermost ['%', '{', '\n', '\\', 'C', 'i', 't', 'e'] [] :=
    .nil (by decide) (by decide)
  exact hopen.concat (by decide)

/-- Comments hide a brace from either text, and a citation is not closed in the second. -/
theorem sampleBraces_counts :
    (∃ doc, (sampleBraces.interpret ⟨[], []⟩ ['{', 'a', '}', '}', '%', '{']).result = .ok doc) ∧
    ∃ partly, (sampleBraces.interpret ⟨[], []⟩
        ['%', '{', '\n', '\\', 'C', 'i', 't', 'e', '{', 'a']).result =
      .error (.unterminated ['c', 'i', 't', 'e', ' ', '3', '.', '.'] partly) := by
  constructor
  · have hdepth : (Text.tally ['{', 'a', '}', '}', '%', '{']).depth = 0 := by decide
    exact (interpretation_counts ⟨[], []⟩ sampleBraces rfl _ (by decide)).1.2 hdepth
  · have hlabel : (braceBlock ['%', '{', '\n', '\\', 'C', 'i', 't', 'e']).label =
        ['c', 'i', 't', 'e', ' ', '3', '.', '.'] := by decide +kernel
    rw [← hlabel]
    exact (interpretation_counts ⟨[], []⟩ sampleBraces rfl _ (by decide)).2.2 _ _ rfl
      sampleBraces_outermost

end Interpreter

end Blockwise
