/-
  Blockwise/Proofs/Interpret/Unfollowed.lean
  ==========================================
  **Includes that were not followed.**  An include block is followed when its close tag is
  met, or at once if its type asks for that, and from then on it is spliced.  So one that
  is not spliced was left open: the input has ended inside it, and either that has closed
  it or it stays open (`Reached.includesFollowed`).

  Such a node is its own source text, open tag included, only if nothing was found inside
  it.  Otherwise it renders as its children do, without the tag (`unfollowed_includes`).
  So of `a<f`, with `<` opening an include that the end of input may close, `af` is left
  (`unfollowed_include_loses_tag`).
-/
import Blockwise.Proofs.Document.Composition
import Blockwise.Proofs.Interpret.Faults

namespace Blockwise

/-- The end of its text came before the end of the block. -/
def Block.LeftOpen (text : Text) (block : Block) : Prop :=
  block.stop = none ∨ block.stop = some text.byteLen ∧ block.closeLen = 0

theorem Block.LeftOpen.bodyStop {text : Text} {block : Block} (h : block.LeftOpen text)
    (hplaced : block.Placed text) : block.bodyStop text.byteLen = text.byteLen := by
  rcases h with hopen | ⟨hstop, hclose⟩
  · simp [Block.bodyStop, Block.stopIn, hopen, hplaced.closeLen_eq hopen]
  · simp [Block.bodyStop, Block.stopIn, hstop, hclose]

namespace Document

/-- The includes of a document that are not spliced were left open. -/
def IncludesFollowed (doc : Document) : Prop :=
  ∀ id block settings, doc.blockOf? id = some block → block.type.inclusion? = some settings →
    doc.splicedAt id = false →
    ∃ source, doc.sources[block.source]? = some source ∧ block.LeftOpen source.text

theorem includesFollowed_ofSource (source : Source) : (ofSource source).IncludesFollowed := by
  intro id block _ hblock
  cases id <;> cases hblock

namespace IncludesFollowed

variable {doc doc' sub : Document} {block : Block} {source : Source} {target : Nat}

theorem push (h : doc.IncludesFollowed) (hin : doc.innermost < doc.nodes.size)
    (hopen : block.stop = none) (hsource : doc.sources[block.source]? = some source) :
    (doc.push block).IncludesFollowed := by
  intro id found settings hfound hinc hspliced
  rw [blockOf?_push block hin] at hfound
  rw [splicedAt_push block hin] at hspliced
  split at hfound
  · cases hfound
    exact ⟨source, hsource, Or.inl hopen⟩
  · exact h id found settings hfound hinc hspliced

/-- Closing blocks is allowed for all but includes that have not been followed, and for
    these at the end of their text. -/
theorem closedAlong {ids : List Nat} {pos markerLen : Nat} (h : doc.IncludesFollowed)
    (hclosed : doc.ClosedAlong doc' ids pos markerLen) (hsources : doc'.sources = doc.sources)
    (hids : ∀ id ∈ ids, ∀ block settings source, doc.blockOf? id = some block →
      block.type.inclusion? = some settings → doc.splicedAt id = false →
      doc.sources[block.source]? = some source →
      (block.closedAt pos markerLen).LeftOpen source.text) : doc'.IncludesFollowed := by
  intro id found settings hfound hinc hspliced
  rw [hclosed.blockOf?] at hfound
  rw [hclosed.splicedAt] at hspliced
  rw [hsources]
  split at hfound
  · next hid =>
    obtain ⟨old, hold, rfl⟩ := Option.map_eq_some_iff.1 hfound
    obtain ⟨source, hsource, -⟩ := h id old settings hold hinc hspliced
    exact ⟨source, hsource, hids id hid old settings source hold hinc hspliced hsource⟩
  · exact h id found settings hfound hinc hspliced

theorem graft (h : doc.IncludesFollowed) (hsub : sub.IncludesFollowed)
    (hgraft : doc.Grafted sub doc' target) : doc'.IncludesFollowed := by
  intro id found settings hfound hinc hspliced
  rw [hgraft.sources]
  by_cases hold : id < doc.nodes.size
  · rw [hgraft.blockOf? id hold] at hfound
    rw [hgraft.splicedAt id hold, Bool.or_eq_false_iff] at hspliced
    obtain ⟨source, hsource, hleft⟩ := h id found settings hfound hinc hspliced.2
    obtain ⟨hlt, -⟩ := Array.getElem?_eq_some_iff.1 hsource
    exact ⟨source, by rw [Array.getElem?_append_left hlt, hsource], hleft⟩
  · obtain ⟨i, rfl⟩ := exists_add_of_not_lt hold
    rw [hgraft.blockOf?_new] at hfound
    rw [hgraft.splicedAt_new] at hspliced
    obtain ⟨before, hbefore, rfl⟩ := Option.map_eq_some_iff.1 hfound
    obtain ⟨source, hsource, hleft⟩ := hsub (i + 1) before settings hbefore hinc hspliced
    refine ⟨source, ?_, hleft⟩
    rw [Block.shifted, Array.getElem?_append_right (Nat.le_add_left ..), Nat.add_sub_cancel,
      hsource]

end IncludesFollowed

end Document

/-! ### Every scan follows its includes -/

namespace Scan

open Document

/-- Between following a block and closing it, an include is spliced. -/
def Phase.Follows (doc : Document) : Phase → Prop
  | .followed id type _ => type.inclusion? ≠ none → doc.splicedAt id = true
  | _ => True

variable {disk : Disk} {interpreter : Interpreter} {source : Source} {phase : Phase}
  {scan : Scan}

theorem flush_includesFollowed {flushed : Scan} (hscan : scan.Standing interpreter source phase)
    (h : scan.doc.IncludesFollowed) (hflush : scan.flush = .ok flushed) :
    flushed.doc.IncludesFollowed := by
  have hin := hscan.draft.building.innermost_lt
  obtain ⟨doc, rfl, ⟨-, hclose⟩ | ⟨-, rfl⟩⟩ := flush_eq_ok hflush
  · obtain ⟨hsources, -, hclosed, -⟩ := closeInnermost_eq_ok (openBlocks_push ..) hclose
    refine (h.push hin rfl hscan.draft.main).closedAlong hclosed hsources ?_
    intro id hid block settings _ hblock hinc
    -- the leaf is plain text
    rw [List.mem_singleton.1 hid, blockOf?_push _ hin, if_pos rfl] at hblock
    cases hblock
    cases hinc
  · exact h

/-- What the end of input closes ends with the text. -/
theorem finish_includesFollowed {doc : Document} (hscan : scan.Standing interpreter source phase)
    (h : scan.doc.IncludesFollowed) (hend : Holds scan.finish.result doc) :
    doc.IncludesFollowed := by
  obtain ⟨flushed, closed, left, hflush, hsources, hsplit, -, halong, -⟩ :=
    finish_holds hend hscan.draft
  obtain ⟨-, hdraft, -⟩ := flush_draft hscan.draft hflush
  refine (flush_includesFollowed hscan h hflush).closedAlong halong hsources ?_
  intro id hid block _ content hblock _ _ hcontent
  have hmem : id ∈ flushed.doc.openBlocks := by
    rw [← List.mem_reverse, hsplit]
    exact List.mem_append_left _ hid
  rw [(hdraft.registered id hmem block hblock).2, hdraft.main] at hcontent
  cases hcontent
  exact Or.inr ⟨rfl, rfl⟩

theorem Reached.includesFollowed (h : Reached disk interpreter source phase scan) :
    scan.doc.IncludesFollowed ∧ phase.Follows scan.doc := by
  induction h with
  | start interpreter source => exact ⟨includesFollowed_ofSource source, trivial⟩
  | read _ _ _ _ ih => exact ih
  | @opened _ source scan type flushed hscan _ _ hflush ih =>
    have hstanding := hscan.standing
    obtain ⟨-, hdraft, -⟩ := flush_draft hstanding.draft hflush
    have hflushed := flush_includesFollowed hstanding ih.1 hflush
    constructor
    · exact hflushed.push hdraft.building.innermost_lt rfl hdraft.main
    · unfold Phase.afterOpen
      split <;> trivial
  | closing hscan _ _ _ hflush ih =>
    have hflushed := flush_includesFollowed hscan.standing ih.1 hflush
    exact ⟨hflushed, trivial⟩
  | passed _ hinc ih => exact ⟨ih.1, fun hsome => absurd hinc hsome⟩
  | included hscan _ _ _ hended _ hfinish hsplice ih ihsub =>
    have hstanding := hscan.standing
    obtain ⟨harena, -⟩ := closed_of_finish hended.standing.draft hfinish
    obtain ⟨rfl, -⟩ := hstanding.innermost_eq hstanding.pending
    have hgraft := hstanding.draft.building.grafted harena hsplice
    have hsub := finish_includesFollowed hended.standing ihsub.1 (Or.inl hfinish)
    refine ⟨ih.1.graft hsub hgraft, fun _ => ?_⟩
    rw [mapDoc, hgraft.splicedAt _ hstanding.draft.building.innermost_lt, decide_eq_true rfl,
      Bool.true_or]
  | @closed _ _ scan id type count after hscan hclose ih =>
    obtain ⟨-, outer, block, hopen, hblock, rfl⟩ := hscan.standing.pending
    obtain ⟨doc, hdoc, rfl⟩ := changeDoc_eq_ok_iff.1 hclose
    obtain ⟨hsources, -, hclosed, -⟩ := closeInnermost_eq_ok hopen hdoc
    refine ⟨ih.1.closedAlong hclosed hsources ?_, trivial⟩
    intro j hj found settings _ hfound hinc hspliced
    -- an include that is closed here has been followed
    rw [List.mem_singleton.1 hj] at hfound hspliced
    cases hblock.symm.trans hfound
    rw [ih.2 (by simp [hinc])] at hspliced
    cases hspliced

end Scan

/-! ### What is left of them -/

namespace Document

variable {doc : Document} {id : Nat} {block : Block} {settings : Inclusion} {source : Source}

/-- A node without children that is not spliced renders as its source text. -/
theorem renderNode_of_childless (harena : doc.Arena) (hblock : doc.blockOf? id = some block)
    (hinc : block.type.inclusion? = some settings)
    (hsource : doc.sources[block.source]? = some source) (hspliced : doc.splicedAt id = false)
    (hchildren : doc.childrenOf id = []) : doc.renderNode id = block.rawText source.text := by
  have hid := lt_size_of_block hblock
  have hcompose : doc.compose id [] = block.render source.text none := by
    rw [compose_eq hid, hblock]
    simp only [textOf_eq_ok hsource, hchildren, hspliced, bind, Except.bind, and_self, if_true]
  rw [renderNode_eq_compose harena hid, hchildren]
  exact hcompose.trans (Block.render_inclusion hinc source.text none)

/-- An include that has children renders as they do. -/
theorem renderNode_of_children (harena : doc.Arena) (hblock : doc.blockOf? id = some block)
    (hinc : block.type.inclusion? = some settings)
    (hsource : doc.sources[block.source]? = some source) (hchildren : doc.childrenOf id ≠ []) :
    doc.renderNode id = doc.renderChildren id := by
  have hid := lt_size_of_block hblock
  rw [renderChildren_eq hid]
  apply renderNode_eq_renders harena hid
  intro inner
  rw [compose_eq hid, hblock]
  simp only [textOf_eq_ok hsource, hchildren, bind, Except.bind, false_and, if_false]
  exact Block.render_inclusion hinc source.text (some inner)

/-- The include node is not spliced: what it is, and what it renders as. -/
structure Unfollowed (doc : Document) (id : Nat) (block : Block) (source : Source) : Prop where
  leftOpen : block.LeftOpen source.text
  childless : doc.childrenOf id = [] ↔ block.bodyStart = source.text.byteLen
  asWritten : doc.childrenOf id = [] →
    ∃ text, block.rawText source.text = .ok text ∧ doc.renderNode id = .ok text
  asChildren : doc.childrenOf id ≠ [] →
    ∃ text, doc.renderChildren id = .ok text ∧ doc.renderNode id = .ok text

end Document

namespace Scan

open Document

theorem Ended.unfollowed {disk : Disk} {interpreter : Interpreter} {source : Source}
    {outcome : Except Failure Document} {doc : Document} {id : Nat} {block : Block}
    {settings : Inclusion} (h : Ended disk interpreter source outcome)
    (hreg : interpreter.Registered) (hdoc : Holds outcome doc)
    (hblock : doc.blockOf? id = some block) (hinc : block.type.inclusion? = some settings)
    (hspliced : doc.splicedAt id = false) :
    ∃ content, doc.sources[block.source]? = some content ∧ doc.Unfollowed id block content := by
  obtain ⟨ended, hended, hrest, rfl⟩ := h
  have hstanding := hended.standing
  obtain ⟨harena, -, htiled⟩ := finish_tiled hstanding hrest (hended.tiling hreg) hdoc
  obtain ⟨content, hcontent, hleft⟩ :=
    finish_includesFollowed hstanding hended.includesFollowed.1 hdoc id block settings hblock hinc
      hspliced
  have hid := lt_size_of_block hblock
  obtain ⟨found, hfound, hplaced, htiles⟩ :=
    (htiled id hid).of_body hblock (BlockType.isPlain_of_inclusion hinc) hspliced
  cases hcontent.symm.trans hfound
  rw [hleft.bodyStop hplaced] at htiles
  refine ⟨content, hcontent, hleft, ?_, ?_, ?_⟩
  · exact ((harena.hasChildren id).eq_nil_iff).trans htiles.eq_nil_iff
  · intro hchildren
    obtain ⟨text, htext⟩ := hplaced.exists_rawText
    exact ⟨text, htext,
      (renderNode_of_childless harena hblock hinc hcontent hspliced hchildren).trans htext⟩
  · intro hchildren
    have hlegible : doc.LegibleFrom (id + 1) := legibleFrom_of_tiled fun j _ hj => htiled j hj
    obtain ⟨text, htext⟩ := exists_renderChildren harena hlegible hid
    exact ⟨text, htext,
      (renderNode_of_children harena hblock hinc hcontent hchildren).trans htext⟩

end Scan

namespace Interpreter

open Scan Document

/-- **An include that was not followed** is its source text if it is childless, and loses its
    open tag otherwise: in the document of a text, and in what had been built of a text or an
    included file whose block is not terminated. -/
theorem unfollowed_includes (disk : Disk) (interpreter : Interpreter)
    (hreg : interpreter.Registered) (text : Text) (doc : Document)
    (hdoc : Holds (interpreter.interpret disk text).result doc) (id : Nat) (block : Block)
    (settings : Inclusion) (hblock : doc.blockOf? id = some block)
    (hinc : block.type.inclusion? = some settings) (hspliced : doc.splicedAt id = false) :
    ∃ source, doc.sources[block.source]? = some source ∧ doc.Unfollowed id block source := by
  obtain ⟨hok, hpartial⟩ := interpretSource_endsIn .checked disk (interpreter.depthLimit disk)
    interpreter [] ⟨none, text⟩
  rcases hdoc with hresult | ⟨label, hresult⟩
  · exact (hok doc hresult).unfollowed hreg (Or.inl rfl) hblock hinc hspliced
  · obtain ⟨inner, content, hleads, hended⟩ := hpartial label doc hresult
    have hinner := hleads.within.1.registered hreg
    exact hended.unfollowed hinner (Or.inr ⟨label, rfl⟩) hblock hinc hspliced

/-- An include that the end of input may close. -/
def sampleTrailing : Interpreter :=
  ⟨[(BlockType.inclusion ['i'] (.ofTags ['<'] ['>'])).mapFlags fun flags =>
    { flags with closeableByEof := true }], 1, .memory .empty⟩

theorem sampleTrailing_registered : sampleTrailing.Registered := by
  refine @Registered.intro _ _ rfl ?_
  intro type htype settings inner hinc hover
  rw [sampleTrailing, List.mem_singleton] at htype
  subst htype
  cases hinc
  cases hover

/-- Node 2 is an include that is not spliced.  It covers the text from the open tag on, and
    renders as what follows the tag. -/
def losesTag : Except Failure Document → Bool
  | .ok doc =>
    decide (2 ∈ doc.childrenOf root) && doc.splicedAt 2 == false &&
      (doc.blockOf? 2).any (fun block => block.type.inclusion?.isSome &&
        (block.rawText doc.text).toOption == some ['<', 'f']) &&
      (doc.renderNode 2).toOption == some ['f'] && doc.render.toOption == some ['a', 'f']
  | .error _ => false

theorem exists_of_losesTag {outcome : Except Failure Document} (h : losesTag outcome = true) :
    ∃ doc block settings, outcome = .ok doc ∧ doc.Reachable 2 ∧ doc.blockOf? 2 = some block ∧
      block.type.inclusion? = some settings ∧ doc.splicedAt 2 = false ∧
      block.rawText doc.text = .ok ['<', 'f'] ∧ doc.renderNode 2 = .ok ['f'] ∧
      doc.render = .ok ['a', 'f'] := by
  rcases outcome with cause | doc
  · cases h
  simp only [losesTag, Bool.and_eq_true, decide_eq_true_eq, beq_iff_eq, Option.any_eq_true,
    Option.isSome_iff_exists] at h
  obtain ⟨⟨⟨⟨hchild, hspliced⟩, block, hblock, ⟨settings, hinc⟩, hraw⟩, hnode⟩, hrender⟩ := h
  exact ⟨doc, block, settings, rfl, .child .root hchild, hblock, hinc, hspliced,
    eq_ok_of_toOption hraw, eq_ok_of_toOption hnode, eq_ok_of_toOption hrender⟩

theorem sampleTrailing_losesTag :
    losesTag (sampleTrailing.interpret ⟨[], []⟩ ['a', '<', 'f']).result = true := by
  decide +kernel

theorem sampleTrailing_unfollowed :
    ∃ doc block source, (sampleTrailing.interpret ⟨[], []⟩ ['a', '<', 'f']).result = .ok doc ∧
      doc.Reachable 2 ∧ doc.sources[block.source]? = some source ∧
      doc.Unfollowed 2 block source := by
  obtain ⟨doc, block, settings, hdoc, hreach, hblock, hinc, hspliced, -⟩ :=
    exists_of_losesTag sampleTrailing_losesTag
  obtain ⟨source, hsource, hunfollowed⟩ := unfollowed_includes ⟨[], []⟩ sampleTrailing
    sampleTrailing_registered _ doc (Or.inl hdoc) 2 block settings hblock hinc hspliced
  exact ⟨doc, block, source, hdoc, hreach, hsource, hunfollowed⟩

/-- The include of `a<f` is `<f`, and the end of input closes it.  It renders as `f`. -/
theorem unfollowed_include_loses_tag :
    sampleTrailing.Registered ∧ ∃ doc block settings,
      (sampleTrailing.interpret ⟨[], []⟩ ['a', '<', 'f']).result = .ok doc ∧ doc.Reachable 2 ∧
      doc.blockOf? 2 = some block ∧ block.type.inclusion? = some settings ∧
      doc.splicedAt 2 = false ∧ block.rawText doc.text = .ok ['<', 'f'] ∧
      doc.renderNode 2 = .ok ['f'] ∧ doc.render = .ok ['a', 'f'] :=
  ⟨sampleTrailing_registered, exists_of_losesTag sampleTrailing_losesTag⟩

end Interpreter

end Blockwise
