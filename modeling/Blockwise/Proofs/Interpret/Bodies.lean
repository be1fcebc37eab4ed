/-
  Blockwise/Proofs/Interpret/Bodies.lean
  ======================================
  **The text inside a block, and what the block renders as.**  Both are made of the
  children of the node, or of the source text if it has none, but they ask for that in
  different ways: the inner text looks at the children only, rendering also at whether a
  file has been spliced in.

  For a block between two tags that makes no difference, since it is childless only if
  there is nothing between its tags.  It renders as the configured tags around its inner
  text, without the close tag if the end of its text has closed it
  (`Reached.concluded`).

  An include that was followed renders as its inner text if the file brought in a node.
  Of an empty file nothing is rendered, but the inner text is the reference as it was
  typed (`inner_texts`, `empty_include_keeps_reference`).
-/
import Blockwise.Proofs.Interpret.EndOfInput
import Blockwise.Proofs.Interpret.Recognition
import Blockwise.Proofs.Interpret.Unfollowed

namespace Blockwise

/-! ### How blocks end -/

namespace Block

/-- The block ends behind its close tag. -/
def ClosedByTag (text : Text) (block : Block) : Prop :=
  ∃ pos < text.byteLen, block.type.closes text pos = true ∧
    block.closeLen = block.type.closeLen ∧ block.stop = some (pos + block.closeLen)

/-- The end of its text has closed the block. -/
def ClosedByEnd (text : Text) (block : Block) : Prop :=
  block.type.flags.closeableByEof = true ∧ block.closeLen = 0 ∧ block.stop = some text.byteLen

/-- The end of the block is a word.  It is behind the close tag or with the text, unless the
    block is plain text or closes immediately. -/
def Concluded (text : Text) (block : Block) : Prop :=
  ∀ stop, block.stop = some stop → stop < offsetLimit ∧
    (block.type.isPlain = false → block.type.flags.closeImmediately = false →
      block.ClosedByTag text ∨ block.ClosedByEnd text)

end Block

namespace Document

/-- All blocks of a document end in one of these ways, each in the text it was found in. -/
def Concluded (doc : Document) : Prop :=
  ∀ id block, doc.blockOf? id = some block →
    ∃ source, doc.sources[block.source]? = some source ∧ block.Concluded source.text

theorem concluded_ofSource (source : Source) : (ofSource source).Concluded := by
  intro id block hblock
  cases id <;> cases hblock

variable {doc doc' sub : Document} {block : Block} {source : Source} {id : Nat}

namespace Concluded

theorem push (h : doc.Concluded) (hin : doc.innermost < doc.nodes.size)
    (hopen : block.stop = none) (hsource : doc.sources[block.source]? = some source) :
    (doc.push block).Concluded := by
  intro id found hfound
  rw [blockOf?_push block hin] at hfound
  split at hfound
  · cases hfound
    refine ⟨source, hsource, ?_⟩
    intro stop hstop
    rw [hopen] at hstop
    cases hstop
  · exact h id found hfound

theorem closedAlong {ids : List Nat} {pos markerLen : Nat} (h : doc.Concluded)
    (hclosed : doc.ClosedAlong doc' ids pos markerLen) (hsources : doc'.sources = doc.sources)
    (hids : ∀ id ∈ ids, ∀ block source, doc.blockOf? id = some block →
      doc.sources[block.source]? = some source →
      (block.closedAt pos markerLen).Concluded source.text) : doc'.Concluded := by
  intro id found hfound
  rw [hclosed.blockOf?] at hfound
  rw [hsources]
  split at hfound
  · next hid =>
    obtain ⟨old, hold, rfl⟩ := Option.map_eq_some_iff.1 hfound
    obtain ⟨source, hsource, -⟩ := h id old hold
    exact ⟨source, hsource, hids id hid old source hold hsource⟩
  · exact h id found hfound

theorem graft {target : Nat} (h : doc.Concluded) (hsub : sub.Concluded)
    (hgraft : doc.Grafted sub doc' target) : doc'.Concluded := by
  intro id found hfound
  rw [hgraft.sources]
  by_cases hold : id < doc.nodes.size
  · rw [hgraft.blockOf? id hold] at hfound
    obtain ⟨source, hsource, hends⟩ := h id found hfound
    obtain ⟨hlt, -⟩ := Array.getElem?_eq_some_iff.1 hsource
    exact ⟨source, by rw [Array.getElem?_append_left hlt, hsource], hends⟩
  · obtain ⟨i, rfl⟩ := exists_add_of_not_lt hold
    rw [hgraft.blockOf?_new] at hfound
    obtain ⟨before, hbefore, rfl⟩ := Option.map_eq_some_iff.1 hfound
    obtain ⟨source, hsource, hends⟩ := hsub (i + 1) before hbefore
    refine ⟨source, ?_, hends⟩
    rw [Block.shifted, Array.getElem?_append_right (Nat.le_add_left ..), Nat.add_sub_cancel,
      hsource]

end Concluded

/-! ### Ends are words -/

theorem closeNode_lt {pos markerLen : Nat} (hblock : doc.blockOf? id = some block)
    (h : doc.closeNode id pos markerLen = .ok doc') : pos + markerLen < offsetLimit := by
  obtain ⟨node, hnode, hhead, -⟩ := exists_node (lt_size_of_block hblock)
  rw [← hhead] at hblock
  unfold closeNode at h
  obtain ⟨found, hfound, hrest⟩ := bind_eq_ok_iff.1 h
  cases hnode.symm.trans hfound
  rw [hblock] at hrest
  obtain ⟨closed, hclosed, -⟩ := bind_eq_ok_iff.1 hrest
  rw [Block.close] at hclosed
  split at hclosed
  · cases hclosed
  · obtain ⟨stop, hstop, -⟩ := bind_eq_ok_iff.1 hclosed
    exact (addOffsets_eq_ok_iff.1 hstop).1

theorem closeInnermost_lt {pos markerLen : Nat} {outer : List Nat}
    (hopen : doc.openBlocks = id :: outer) (hblock : doc.blockOf? id = some block)
    (h : doc.closeInnermost pos markerLen = .ok doc') : pos + markerLen < offsetLimit := by
  obtain ⟨sources, nodes, openBlocks⟩ := doc
  cases hopen
  exact @closeNode_lt ⟨sources, nodes, outer⟩ doc' block id pos markerLen hblock h

theorem closeWhile_lt {stop : Nat} {ids left : List Nat}
    (hcloseable : doc.isCloseableByEof id = true)
    (h : doc.closeWhile stop (id :: ids) = .ok (doc', left)) : stop < offsetLimit := by
  rw [closeWhile, if_pos hcloseable] at h
  obtain ⟨closed, hclosed, -⟩ := bind_eq_ok_iff.1 h
  rcases hblock : doc.blockOf? id with _ | block
  · unfold isCloseableByEof blockOf? at *
    rw [hblock] at hcloseable
    cases hcloseable
  · exact closeNode_lt hblock hclosed

end Document

/-! ### Every scan concludes its blocks -/

namespace Scan

open Document

/-- The close tag of the block that is about to be closed stands here, unless that one
    closes immediately. -/
def Phase.AtTag (text : Text) (pos : Nat) : Phase → Prop
  | .scanning => True
  | .closing _ type count => type.flags.closeImmediately = false →
      pos < text.byteLen ∧ type.closes text pos = true ∧ count = type.closeTag.length
  | .followed _ type count => type.flags.closeImmediately = false →
      pos < text.byteLen ∧ type.closes text pos = true ∧ count = type.closeTag.length

variable {disk : Disk} {interpreter : Interpreter} {source : Source} {phase : Phase}
  {scan : Scan}

theorem flush_concluded {flushed : Scan} (hscan : scan.Standing interpreter source phase)
    (h : scan.doc.Concluded) (hflush : scan.flush = .ok flushed) : flushed.doc.Concluded := by
  have hin := hscan.draft.building.innermost_lt
  obtain ⟨doc, rfl, ⟨-, hclose⟩ | ⟨-, rfl⟩⟩ := flush_eq_ok hflush
  · obtain ⟨hsources, -, hclosed, -⟩ := closeInnermost_eq_ok (openBlocks_push ..) hclose
    apply (h.push hin rfl hscan.draft.main).closedAlong hclosed hsources
    intro id hid block _ hblock _ stop hstop
    -- the leaf is plain text
    have hlt := closeInnermost_lt (openBlocks_push ..) (List.mem_singleton.1 hid ▸ hblock) hclose
    rw [List.mem_singleton.1 hid, blockOf?_push _ hin, if_pos rfl] at hblock
    cases hblock
    cases hstop
    exact ⟨hlt, nofun⟩
  · exact h

/-- What the end of input closes ends with the text. -/
theorem finish_concluded {doc : Document} (hscan : scan.Standing interpreter source phase)
    (h : scan.doc.Concluded) (hfinish : scan.finish.result = .ok doc) : doc.Concluded := by
  obtain ⟨flushed, hflush, hclose⟩ := finish_eq_ok hfinish
  obtain ⟨-, hdraft, -⟩ := flush_draft hscan.draft hflush
  have hnodup := hdraft.building.spine.nodup hdraft.building.arena
  obtain ⟨hsources, closed, left, hsplit, -, -, halong, hcloseable, -⟩ :=
    closeAtEof_eq_ok hclose hnodup
  obtain ⟨⟨_, _⟩, hwhile, -⟩ := bind_eq_ok_iff.1 hclose
  rw [text_eq hdraft.main] at halong hwhile
  apply (flush_concluded hscan h hflush).closedAlong halong hsources
  intro id hid block content hblock hcontent stop hstop
  cases hstop
  have hmem : id ∈ flushed.doc.openBlocks := by
    rw [← List.mem_reverse, hsplit]
    exact List.mem_append_left _ hid
  rw [(hdraft.registered id hmem block hblock).2, hdraft.main] at hcontent
  cases hcontent
  constructor
  · -- the outermost block is one of those that are closed
    obtain ⟨first, more, rfl⟩ := List.exists_cons_of_ne_nil (List.ne_nil_of_mem hid)
    rw [hsplit] at hwhile
    exact closeWhile_lt (hcloseable first (List.mem_cons_self ..)) hwhile
  · intro _ _
    refine Or.inr ⟨?_, rfl, rfl⟩
    rw [← hcloseable id hid, isCloseableByEof_eq hblock]
    rfl

theorem Reached.concluded (h : Reached disk interpreter source phase scan) :
    scan.doc.Concluded ∧ phase.AtTag source.text scan.pos := by
  induction h with
  | start interpreter source => exact ⟨concluded_ofSource source, trivial⟩
  | read _ _ _ _ ih => exact ⟨ih.1, trivial⟩
  | @opened _ source scan type flushed hscan _ _ hflush ih =>
    have hstanding := hscan.standing
    obtain ⟨-, hdraft, -⟩ := flush_draft hstanding.draft hflush
    have hflushed := flush_concluded hstanding ih.1 hflush
    constructor
    · exact hflushed.push hdraft.building.innermost_lt rfl hdraft.main
    · unfold Phase.afterOpen
      split
      · next himm =>
        intro hnot
        rw [himm] at hnot
        cases hnot
      · trivial
  | @closing _ source scan id type flushed hscan hrest _ hclosing hflush ih =>
    have hstanding := hscan.standing
    obtain ⟨hsame, -⟩ := flush_draft hstanding.draft hflush
    have hflushed := flush_concluded hstanding ih.1 hflush
    refine ⟨hflushed, fun _ => ?_⟩
    obtain ⟨-, _, -, -, hcloses⟩ := closing?_eq_some hclosing
    have hpos : flushed.startRun.pos = scan.pos := by
      rw [hsame]
      rfl
    rw [hpos, hstanding.place.closes_eq]
    refine ⟨?_, hcloses, rfl⟩
    have htotal := hstanding.place.pos_add_byteLen
    have hmore : Text.byteLen scan.rest ≠ 0 := mt Text.byteLen_eq_zero.1 hrest
    omega
  | passed _ _ ih => exact ih
  | included hscan _ _ _ hended _ hfinish hsplice ih ihsub =>
    have hstanding := hscan.standing
    obtain ⟨harena, -⟩ := closed_of_finish hended.standing.draft hfinish
    obtain ⟨rfl, -⟩ := hstanding.innermost_eq hstanding.pending
    have hgraft := hstanding.draft.building.grafted harena hsplice
    exact ⟨ih.1.graft (finish_concluded hended.standing ihsub.1 hfinish) hgraft, ih.2⟩
  | @closed _ source scan id type count after hscan hclose ih =>
    have hstanding := hscan.standing
    obtain ⟨-, outer, block, hopen, hblock, rfl⟩ := hstanding.pending
    obtain ⟨doc, hdoc, rfl⟩ := changeDoc_eq_ok_iff.1 hclose
    obtain ⟨hsources, -, hclosed, -⟩ := closeInnermost_eq_ok hopen hdoc
    refine ⟨ih.1.closedAlong hclosed hsources ?_, trivial⟩
    intro j hj found content hfound hcontent stop hstop
    rw [List.mem_singleton.1 hj] at hfound
    cases hblock.symm.trans hfound
    have hmain := (hstanding.draft.registered id (hopen ▸ List.mem_cons_self ..) block hblock).2
    rw [hmain, hstanding.draft.main] at hcontent
    cases hcontent
    cases hstop
    refine ⟨closeInnermost_lt hopen hblock hdoc, fun _ himm => Or.inl ?_⟩
    obtain ⟨hlt, hcloses, rfl⟩ := ih.2 himm
    obtain ⟨before, hcut, -⟩ := hstanding.place.cut?_eq
    exact ⟨scan.pos, hlt, hcloses, take_of_closes hcloses hcut, rfl⟩

end Scan

/-! ### Inner texts -/

namespace Document

variable {doc : Document} {id : Nat} {block : Block} {source : Source}

theorem innerText_of_children (hblock : doc.blockOf? id = some block)
    (hchildren : doc.childrenOf id ≠ []) : doc.innerText id = doc.renderChildren id := by
  obtain ⟨node, hnode, hhead, -, -, hnodes⟩ := exists_node (lt_size_of_block hblock)
  rw [← hhead] at hblock
  rw [← hnodes] at hchildren
  have hmore : node.isChildless = false := by
    simpa [Node.isChildless] using hchildren
  simp only [innerText, hnode, hblock, bind, Except.bind, hmore]
  rfl

theorem innerText_of_childless {stop : Nat} {body : Text} (hblock : doc.blockOf? id = some block)
    (hsource : doc.sources[block.source]? = some source) (hplaced : block.Placed source.text)
    (hstop : block.stop = some stop) (hlt : stop < offsetLimit)
    (hbody : source.text.Between block.bodyStart (block.bodyStop source.text.byteLen) body)
    (hchildren : doc.childrenOf id = []) : doc.innerText id = .ok body := by
  obtain ⟨node, hnode, hhead, -, -, hnodes⟩ := exists_node (lt_size_of_block hblock)
  rw [← hhead] at hblock
  rw [← hnodes] at hchildren
  have hnone : node.isChildless = true := by
    simpa [Node.isChildless] using hchildren
  simp only [innerText, hnode, hblock, bind, Except.bind, hnone, if_true,
    hplaced.bodySpan?_eq hstop hlt, textOf_eq_ok hsource]
  exact hbody.slice

/-- A delimited block renders as its tags around its children, without the close tag if no
    marker has closed it. -/
theorem renderNode_delimited {tags : Delimiters} {inner : Text} (harena : doc.Arena)
    (hblock : doc.blockOf? id = some block) (hsource : doc.sources[block.source]? = some source)
    (hkind : block.type.kind = .delimited tags)
    (himm : block.type.flags.closeImmediately = false)
    (hinner : doc.renders (doc.childrenOf id) = .ok inner) :
    doc.renderNode id = .ok (if 0 < block.closeLen then tags.openTag ++ (inner ++ tags.closeTag)
      else tags.openTag ++ inner) := by
  have hid := lt_size_of_block hblock
  have hchildless : doc.childrenOf id = [] → inner = [] := by
    intro hchildren
    rw [hchildren] at hinner
    cases hinner
    rfl
  rw [renderNode_eq_compose harena hid, hinner]
  show doc.compose id inner = _
  rw [compose_eq hid, hblock]
  simp only [textOf_eq_ok hsource, bind, Except.bind, Block.render_delimited hkind himm]
  split
  · next hleaf =>
    rw [hchildless hleaf.1]
    rfl
  · rfl

/-- What is inside a block of the node, and what the node renders as. -/
structure Inside (doc : Document) (id : Nat) (block : Block) (source : Source)
    (file : Inclusion → Source → Prop) : Prop where
  /-- A delimited block renders as its tags around what is inside, and has a close tag if
      that has been met. -/
  delimited : ∀ tags, block.type.kind = .delimited tags →
    block.type.flags.closeImmediately = false → ∃ inner, doc.innerText id = .ok inner ∧
      (block.ClosedByTag source.text →
        doc.renderNode id = .ok (tags.openTag ++ (inner ++ tags.closeTag))) ∧
      (¬ block.ClosedByTag source.text → block.ClosedByEnd source.text ∧
        doc.renderNode id = .ok (tags.openTag ++ inner))
  /-- An include that was followed has children unless its file is empty. -/
  spliced : doc.splicedAt id = true → ∃ (settings : Inclusion) (s : Nat) (content : Source),
    block.type.inclusion? = some settings ∧ block.source < s ∧
      doc.sources[s]? = some content ∧ file settings content ∧
      (doc.childrenOf id = [] ↔ content.text = [])
  /-- It renders as what is inside, -/
  filled : doc.splicedAt id = true → doc.childrenOf id ≠ [] →
    ∃ inner, doc.innerText id = .ok inner ∧ doc.renderNode id = .ok inner
  /-- but of an empty file as nothing, while the source text is inside. -/
  empty : doc.splicedAt id = true → doc.childrenOf id = [] →
    ∃ body, source.text.Between block.bodyStart (block.bodyStop source.text.byteLen) body ∧
      doc.innerText id = .ok body ∧ doc.renderNode id = .ok []

end Document

namespace Scan

open Document

variable {disk : Disk} {interpreter : Interpreter} {source content : Source} {doc : Document}
  {id : Nat} {block : Block}

theorem Ended.concluded (h : Ended disk interpreter source (.ok doc)) : doc.Concluded := by
  obtain ⟨ended, hended, -, hfinish⟩ := h
  exact finish_concluded hended.standing hended.concluded.1 hfinish

/-- What is inside a delimited block are its children, also if there are none. -/
theorem Ended.innerText_delimited {tags : Delimiters}
    (h : Ended disk interpreter source (.ok doc)) (hreg : interpreter.Registered)
    (hblock : doc.blockOf? id = some block) (hkind : block.type.kind = .delimited tags) :
    doc.splicedAt id = false ∧ ∃ inner, doc.innerText id = .ok inner ∧
      doc.renders (doc.childrenOf id) = .ok inner := by
  obtain ⟨hbuilding, -, hclosed, htiled⟩ := h.finished hreg
  have hid := lt_size_of_block hblock
  have hspliced : doc.splicedAt id = false := by
    refine Bool.eq_false_iff.2 fun hspliced => ?_
    obtain ⟨found, settings, -, -, hfound, hinc, -⟩ := (htiled id hid).of_spliced hspliced
    rw [family_head] at hfound
    cases hblock.symm.trans hfound
    simp [BlockType.inclusion?, hkind] at hinc
  have hplain : block.type.isPlain = false := by
    rw [BlockType.isPlain, hkind]
  refine ⟨hspliced, ?_⟩
  by_cases hchildren : doc.childrenOf id = []
  · obtain ⟨stop, hstop⟩ := Option.ne_none_iff_exists'.1 (hclosed id block hblock)
    obtain ⟨content, hcontent, hends⟩ := h.concluded id block hblock
    obtain ⟨found, hfound, hplaced, htiles⟩ := (htiled id hid).of_body hblock hplain hspliced
    cases hcontent.symm.trans hfound
    -- without children there is nothing between the tags
    obtain ⟨body, hbody⟩ := hplaced.exists_between
    have hnil := ((hbuilding.arena.hasChildren id).eq_nil_iff).1 hchildren
    have hnone := hbody.eq_nil (htiles.eq_nil_iff.1 hnil)
    refine ⟨body, innerText_of_childless hblock hcontent hplaced hstop (hends stop hstop).1 hbody
      hchildren, ?_⟩
    rw [hchildren, hnone]
    rfl
  · have hlegible : doc.LegibleFrom (id + 1) := legibleFrom_of_tiled fun j _ hj => htiled j hj
    obtain ⟨inner, hinner⟩ := exists_renderChildren hbuilding.arena hlegible hid
    refine ⟨inner, (innerText_of_children hblock hchildren).trans hinner, ?_⟩
    rw [← renderChildren_eq hid, hinner]

theorem Ended.inside (h : Ended disk interpreter source (.ok doc))
    (hreg : interpreter.Registered) (hblock : doc.blockOf? id = some block)
    (hcontent : doc.sources[block.source]? = some content) :
    doc.Inside id block content (interpreter.Includes disk) := by
  obtain ⟨hbuilding, -, hclosed, htiled⟩ := h.finished hreg
  have harena := hbuilding.arena
  have hid := lt_size_of_block hblock
  obtain ⟨stop, hstop⟩ := Option.ne_none_iff_exists'.1 (hclosed id block hblock)
  obtain ⟨found, hfound, hconcluded⟩ := h.concluded id block hblock
  cases hcontent.symm.trans hfound
  obtain ⟨hlt, hends⟩ := hconcluded stop hstop
  obtain ⟨⟨found, hfound, hplaced⟩, -⟩ := (htiled id hid).of_head hblock
  cases hcontent.symm.trans hfound
  constructor
  · intro tags hkind himm
    obtain ⟨-, inner, hinner, hrenders⟩ := h.innerText_delimited hreg hblock hkind
    have hnode := renderNode_delimited harena hblock hcontent hkind himm hrenders
    have hplain : block.type.isPlain = false := by
      rw [BlockType.isPlain, hkind]
    refine ⟨inner, hinner, ?_, ?_⟩
    · rintro ⟨-, -, -, hclose, -⟩
      -- an empty close tag adds nothing
      have htag : block.closeLen = tags.closeTag.byteLen := by
        rw [hclose, BlockType.closeLen, BlockType.closeTag, BlockType.delimiters?, hkind]
      rw [hnode, htag]
      split
      · rfl
      · next hzero =>
        rw [Text.byteLen_eq_zero.1 (Nat.eq_zero_of_not_pos hzero), List.append_nil]
    · intro hnot
      have hend := (hends hplain himm).resolve_left hnot
      refine ⟨hend, ?_⟩
      rw [hnode, hend.2.1]
      rfl
  · intro hspliced
    obtain ⟨head, settings, s, file, hhead, hinc, hlater, hsource, hfile, htiles⟩ :=
      (htiled id hid).of_spliced hspliced
    rw [family_head] at hhead
    cases hblock.symm.trans hhead
    refine ⟨settings, s, file, hinc, hlater, hsource, hfile, ?_⟩
    rw [(harena.hasChildren id).eq_nil_iff, htiles.eq_nil_iff, eq_comm, Text.byteLen_eq_zero]
  · intro hspliced hchildren
    obtain ⟨head, settings, -, -, hhead, hinc, -⟩ := (htiled id hid).of_spliced hspliced
    rw [family_head] at hhead
    cases hblock.symm.trans hhead
    have hlegible : doc.LegibleFrom (id + 1) := legibleFrom_of_tiled fun j _ hj => htiled j hj
    obtain ⟨inner, hinner⟩ := exists_renderChildren harena hlegible hid
    refine ⟨inner, (innerText_of_children hblock hchildren).trans hinner, ?_⟩
    rw [renderNode_of_children harena hblock hinc hcontent hchildren, hinner]
  · intro hspliced hchildren
    obtain ⟨head, settings, -, -, hhead, hinc, -⟩ := (htiled id hid).of_spliced hspliced
    rw [family_head] at hhead
    cases hblock.symm.trans hhead
    obtain ⟨body, hbody⟩ := hplaced.exists_between
    refine ⟨body, hbody, innerText_of_childless hblock hcontent hplaced hstop hlt hbody hchildren,
      ?_⟩
    rw [renderNode_eq_compose harena hid, hchildren]
    show doc.compose id [] = _
    rw [compose_eq hid, hblock]
    simp only [textOf_eq_ok hcontent, hspliced, bind, Except.bind, Bool.true_eq_false, and_false,
      if_false]
    exact Block.render_inclusion hinc content.text (some [])

end Scan

namespace Interpreter

open Scan Document

/-- **The text inside a block and its rendering:** they agree for delimited blocks, up to the
    tags, and for includes that brought something in.  An include of an empty file renders
    as nothing, and its inner text is the reference. -/
theorem inner_texts (disk : Disk) (interpreter : Interpreter) (hreg : interpreter.Registered)
    (text : Text) (doc : Document) (hdoc : (interpreter.interpret disk text).result = .ok doc)
    (id : Nat) (block : Block) (hblock : doc.blockOf? id = some block) :
    ∃ source, doc.sources[block.source]? = some source ∧
      doc.Inside id block source (interpreter.Includes disk) := by
  have hended := (interpretSource_endsIn .checked disk (interpreter.depthLimit disk) interpreter []
    ⟨none, text⟩).1 doc hdoc
  obtain ⟨source, hsource, -⟩ := hended.concluded id block hblock
  exact ⟨source, hsource, hended.inside hreg hblock hsource⟩

/-- Brackets, and an include that names an empty file. -/
def sampleEmptyFile : Interpreter :=
  ⟨[BlockType.delimited ['b'] ['['] [']'], BlockType.inclusion ['i'] (.ofTags ['<'] ['>'])], 1,
    .memory ⟨[(⟨['f']⟩, [])]⟩⟩

theorem sampleEmptyFile_registered : sampleEmptyFile.Registered := by
  refine @Registered.intro _ _ rfl ?_
  intro type htype settings inner hinc hover
  simp only [sampleEmptyFile, List.mem_cons, List.not_mem_nil, or_false] at htype
  rcases htype with rfl | rfl <;> cases hinc
  cases hover

/-- Node 1 is an include that is spliced.  Inside it is text, but it renders as nothing. -/
def keepsReference : Except Failure Document → Bool
  | .ok doc =>
    decide (1 ∈ doc.childrenOf root) && doc.splicedAt 1 &&
      (doc.blockOf? 1).any (fun block => block.type.inclusion?.isSome) &&
      (doc.innerText 1).toOption == some ['f'] && (doc.renderNode 1).toOption == some []
  | .error _ => false

theorem exists_of_keepsReference {outcome : Except Failure Document}
    (h : keepsReference outcome = true) :
    ∃ doc block settings, outcome = .ok doc ∧ doc.Reachable 1 ∧ doc.blockOf? 1 = some block ∧
      block.type.inclusion? = some settings ∧ doc.splicedAt 1 = true ∧
      doc.innerText 1 = .ok ['f'] ∧ doc.renderNode 1 = .ok [] := by
  rcases outcome with cause | doc
  · cases h
  simp only [keepsReference, Bool.and_eq_true, decide_eq_true_eq, beq_iff_eq, Option.any_eq_true,
    Option.isSome_iff_exists] at h
  obtain ⟨⟨⟨⟨hchild, hspliced⟩, block, hblock, settings, hinc⟩, hinner⟩, hnode⟩ := h
  exact ⟨doc, block, settings, rfl, .child .root hchild, hblock, hinc, hspliced,
    eq_ok_of_toOption hinner, eq_ok_of_toOption hnode⟩

theorem sampleEmptyFile_keepsReference :
    keepsReference (sampleEmptyFile.interpret ⟨[], []⟩ ['<', 'f', '>']).result = true := by
  decide +kernel

theorem sampleEmptyFile_inner_texts :
    ∃ doc block source, (sampleEmptyFile.interpret ⟨[], []⟩ ['<', 'f', '>']).result = .ok doc ∧
      doc.Reachable 1 ∧ doc.sources[block.source]? = some source ∧
      doc.Inside 1 block source (sampleEmptyFile.Includes ⟨[], []⟩) := by
  obtain ⟨doc, block, -, hdoc, hreach, hblock, -⟩ :=
    exists_of_keepsReference sampleEmptyFile_keepsReference
  obtain ⟨source, hsource, hinside⟩ := inner_texts ⟨[], []⟩ sampleEmptyFile
    sampleEmptyFile_registered _ doc hdoc 1 block hblock
  exact ⟨doc, block, source, hdoc, hreach, hsource, hinside⟩

/-- The include of `<f>` names an empty file.  It renders as nothing, but inside it is `f`. -/
theorem empty_include_keeps_reference :
    sampleEmptyFile.Registered ∧ ∃ doc block settings,
      (sampleEmptyFile.interpret ⟨[], []⟩ ['<', 'f', '>']).result = .ok doc ∧ doc.Reachable 1 ∧
      doc.blockOf? 1 = some block ∧ block.type.inclusion? = some settings ∧
      doc.splicedAt 1 = true ∧ doc.innerText 1 = .ok ['f'] ∧ doc.renderNode 1 = .ok [] :=
  ⟨sampleEmptyFile_registered, exists_of_keepsReference sampleEmptyFile_keepsReference⟩

end Interpreter

end Blockwise
