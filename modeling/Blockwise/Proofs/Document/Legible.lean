/-
  Blockwise/Proofs/Document/Legible.lean
  ======================================
  **What can be read off a document without a fault.**  A block is legible if it stands
  where its offsets mean something: its source exists, and its markers lie between
  boundaries of that source's text.  If all nodes from some index on are legible, then so
  is all that is below them, and rendering and drawing such a node never stops
  (`exists_renderNode`, `Legible.exists_drawing`).  Reading the inner text of a block adds
  offsets, so it takes a text that is short enough for them to be words
  (`exists_innerText`).
-/
import Blockwise.Document.Structure
import Blockwise.Proofs.Document.Outline
import Blockwise.Proofs.Document.Tiling
import Blockwise.Proofs.Text.Parts

namespace Blockwise

namespace Block

variable {block : Block} {text : Text}

/-- The block can be read in the text that it points into. -/
def Legible (sources : Array Source) (block : Block) : Prop :=
  ∃ source, sources[block.source]? = some source ∧ block.Placed source.text

theorem Placed.exists_rawText (h : block.Placed text) : ∃ raw, block.rawText text = .ok raw := by
  obtain ⟨part, hpart⟩ :=
    Text.exists_between h.start_boundary h.stop_boundary (Nat.le_of_lt h.start_lt)
  exact ⟨part, hpart.slice⟩

theorem Placed.exists_render (h : block.Placed text) (children : Option Text) :
    ∃ out, block.render text children = .ok out := by
  have hwritten : ∃ out, children.elim (block.rawText text) .ok = .ok out := by
    cases children with
    | none => exact h.exists_rawText
    | some inner => exact ⟨inner, rfl⟩
  unfold render
  dsimp only
  split
  · exact ⟨[], rfl⟩
  · split
    · cases children <;> exact hwritten
    · split
      · exact ⟨_, rfl⟩
      · exact ⟨_, rfl⟩
  · cases children <;> exact hwritten
  · cases children <;> exact hwritten

/-- The text between the markers of a closed block. -/
theorem Placed.bodySpan?_eq {stop : Nat} (h : block.Placed text) (hstop : block.stop = some stop)
    (hlt : stop < offsetLimit) :
    block.bodySpan? = .ok (some ⟨block.bodyStart, block.bodyStop text.byteLen⟩) := by
  have hbody : block.bodyStart + block.closeLen ≤ stop := by
    have hmarkers := h.markers_le
    rwa [stopIn, hstop] at hmarkers
  have hend : block.bodyStop text.byteLen = stop - block.closeLen := by
    rw [bodyStop, stopIn, hstop]
    rfl
  have hfits : block.start + block.type.openLen < offsetLimit :=
    Nat.lt_of_le_of_lt (Nat.le_of_add_right_le hbody) hlt
  have hmin : min (block.start + block.type.openLen) stop = block.bodyStart :=
    Nat.min_eq_left (Nat.le_of_add_right_le hbody)
  have hmax : max (stop - block.closeLen) block.bodyStart = stop - block.closeLen :=
    Nat.max_eq_left (by omega)
  rw [bodySpan?, hstop]
  simp only [addOffsets_eq_ok hfits, bind, Except.bind, pure, Except.pure, hmin, hmax, hend]

/-- It can be cut out. -/
theorem Placed.exists_between (h : block.Placed text) :
    ∃ body, text.Between block.bodyStart (block.bodyStop text.byteLen) body := by
  refine Text.exists_between h.bodyStart_boundary h.bodyStop_boundary ?_
  have hmarkers := h.markers_le
  rw [bodyStop]
  omega

theorem Placed.exists_body (h : block.Placed text) (hlen : text.byteLen < offsetLimit) :
    ∃ span?, block.bodySpan? = .ok span? ∧
      ∀ span, span? = some span → ∃ body, span.slice text = .ok body := by
  rcases hstop : block.stop with _ | stop
  · refine ⟨none, ?_, nofun⟩
    rw [bodySpan?, hstop]
    rfl
  · have hle : stop ≤ text.byteLen := by
      have hboundary := Text.le_of_isBoundary h.stop_boundary
      rwa [stopIn, hstop] at hboundary
    refine ⟨_, h.bodySpan?_eq hstop (Nat.lt_of_le_of_lt hle hlen), ?_⟩
    rintro span ⟨⟩
    obtain ⟨body, hbody⟩ := h.exists_between
    exact ⟨body, hbody.slice⟩

/-- An include adds nothing to what its children render as, and without them it is its
    source text. -/
theorem render_inclusion {settings : Inclusion} (h : block.type.inclusion? = some settings)
    (text : Text) (children : Option Text) :
    block.render text children = children.elim (block.rawText text) .ok := by
  unfold BlockType.inclusion? at h
  unfold render
  split at h
  · next hkind =>
    rw [hkind]
    cases children <;> rfl
  · cases h

/-- A delimited block puts its tags around its content, the close tag if it was met. -/
theorem render_delimited {tags : Delimiters} (h : block.type.kind = .delimited tags)
    (himm : block.type.flags.closeImmediately = false) (text : Text) (children : Option Text) :
    block.render text children = .ok (if 0 < block.closeLen
      then tags.openTag ++ (children.getD [] ++ tags.closeTag)
      else tags.openTag ++ children.getD []) := by
  unfold render
  simp only [h, himm, Bool.false_eq_true, if_false]
  split <;> rfl

end Block

/-- All sources are short enough for offsets in them to be words. -/
def ShortSources (sources : Array Source) : Prop :=
  ∀ (i : Nat) (source : Source), sources[i]? = some source → source.text.byteLen < offsetLimit

namespace Document

/-- All blocks from some index on can be read. -/
def LegibleFrom (doc : Document) (first : Nat) : Prop :=
  ∀ id block, first ≤ id → doc.blockOf? id = some block → block.Legible doc.sources

section

variable {doc : Document} {first id : Nat}

theorem LegibleFrom.mono {later : Nat} (h : doc.LegibleFrom first) (hle : first ≤ later) :
    doc.LegibleFrom later :=
  fun id block hlater hblock => h id block (Nat.le_trans hle hlater) hblock

/-- Tiled families are made of blocks that can be read. -/
theorem legibleFrom_of_tiled {file : Inclusion → Source → Prop}
    (htiled : ∀ id, first ≤ id → id < doc.nodes.size → (doc.family id).Tiled doc.sources file) :
    doc.LegibleFrom first := by
  intro id block hfirst hblock
  exact ((htiled id hfirst (lt_size_of_block hblock)).of_head hblock).1

theorem textOf_eq_ok {source : Source} {block : Block}
    (h : doc.sources[block.source]? = some source) : doc.textOf block = .ok source.text := by
  simp only [textOf, Document.source, h]
  rfl

theorem exists_compose (h : doc.LegibleFrom first) (hfirst : first ≤ id)
    (hid : id < doc.nodes.size) (children : Text) :
    ∃ text, doc.compose id children = .ok text := by
  obtain ⟨node, hnode, hhead, -⟩ := exists_node hid
  unfold compose
  simp only [hnode, bind, Except.bind]
  rcases hblock : node.block with _ | block
  · exact ⟨children, rfl⟩
  · obtain ⟨source, hsource, hplaced⟩ :=
      h id block hfirst (hhead.symm.trans hblock)
    simp only [textOf_eq_ok hsource]
    split
    · exact hplaced.exists_render _
    · exact hplaced.exists_render _

theorem exists_render_forest (h : doc.LegibleFrom first) (forest : Forest)
    (hids : ∀ j ∈ forest.ids, first ≤ j ∧ j < doc.nodes.size) :
    ∃ texts, forest.render doc = .ok texts := by
  induction forest with
  | nil => exact ⟨[], rfl⟩
  | cons id below rest ihbelow ihrest =>
    simp only [Forest.ids, List.mem_cons, List.mem_append] at hids
    obtain ⟨hfirst, hid⟩ := hids id (Or.inl rfl)
    unfold Forest.render
    refine exists_bind_ok (ihbelow fun j hj => hids j (Or.inr (Or.inl hj))) fun inner _ => ?_
    refine exists_bind_ok (exists_compose h hfirst hid _) fun text _ => ?_
    refine exists_bind_ok (ihrest fun j hj => hids j (Or.inr (Or.inr hj))) fun texts _ => ?_
    exact ⟨_, rfl⟩

/-- What is below a node comes later in the array. -/
theorem Arena.le_of_mem_forest (h : doc.Arena) {forest : Forest}
    {roots : List Nat} (hspells : forest.Spells doc roots)
    (hroots : ∀ id ∈ roots, first ≤ id) : ∀ j ∈ forest.ids, first ≤ j := by
  intro j hj
  obtain ⟨id, hid, hunder⟩ := hspells.under h j hj
  exact Nat.le_trans (hroots id hid) (h.under_le hunder)

theorem exists_renderNode (harena : doc.Arena) (h : doc.LegibleFrom first) (hfirst : first ≤ id)
    (hid : id < doc.nodes.size) : ∃ text, doc.renderNode id = .ok text := by
  have hroots : ∀ j ∈ [id], first ≤ j ∧ j < doc.nodes.size := by simp [hfirst, hid]
  obtain ⟨forest, hspells⟩ := harena.exists_forest fun j hj => (hroots j hj).2
  obtain ⟨texts, htexts⟩ := exists_render_forest h forest fun j hj =>
    ⟨harena.le_of_mem_forest hspells (fun j hj => (hroots j hj).1) j hj,
      hspells.lt_size harena (fun j hj => (hroots j hj).2) j hj⟩
  rw [renderNode_eq harena hspells hid, htexts]
  exact ⟨_, rfl⟩

/-- The children of a node can be rendered, even if the node itself is not legible. -/
theorem exists_renderChildren (harena : doc.Arena) (h : doc.LegibleFrom (id + 1))
    (hid : id < doc.nodes.size) : ∃ text, doc.renderChildren id = .ok text := by
  obtain ⟨node, hnode, -, -, -, hchildren⟩ := exists_node hid
  unfold renderChildren
  refine exists_bind_ok ⟨node, hnode⟩ fun found hfound => ?_
  cases hnode.symm.trans hfound
  refine exists_bind_ok (exists_mapM_ok ?_) fun texts _ => ⟨texts.flatten, rfl⟩
  intro c hc
  rw [hchildren] at hc
  obtain ⟨hlt, hsize, -⟩ := harena.child id c hc
  exact exists_renderNode harena h hlt hsize

/-- The text inside an open block can be read as soon as all that is below it can. -/
theorem exists_innerText (harena : doc.Arena) (h : doc.LegibleFrom (id + 1))
    (hid : id < doc.nodes.size)
    (hbounded : ShortSources doc.sources)
    (hself : ∀ block, doc.blockOf? id = some block →
      block.stop = none ∨ block.Legible doc.sources) :
    ∃ text, doc.innerText id = .ok text := by
  have hchildren := exists_renderChildren harena h hid
  obtain ⟨node, hnode, hhead, -⟩ := exists_node hid
  unfold innerText
  simp only [hnode, bind, Except.bind]
  rcases hblock : node.block with _ | block
  · exact hchildren
  · dsimp only
    split
    · rcases hself block (hhead.symm.trans hblock) with hopen |
        ⟨source, hsource, hplaced⟩
      · simp only [Block.bodySpan?, hopen, pure, Except.pure]
        exact ⟨[], rfl⟩
      · obtain ⟨span?, hspan, hslice⟩ := hplaced.exists_body (hbounded _ source hsource)
        simp only [hspan]
        cases span? with
        | none => exact ⟨[], rfl⟩
        | some span =>
          simp only [textOf_eq_ok hsource]
          exact hslice span rfl
    · exact hchildren

end

/-! ### Whole documents -/

/-- The nodes form a tree, and all of them can be read. -/
structure Legible (doc : Document) : Prop where
  arena : doc.Arena
  bounded : ShortSources doc.sources
  blocks : doc.LegibleFrom 0

namespace Legible

variable {doc : Document} {id : Nat}

theorem exists_nodeLabel (h : doc.Legible) (hid : id < doc.nodes.size) :
    ∃ label, doc.nodeLabel id = .ok label := by
  obtain ⟨node, hnode, hhead, -⟩ := exists_node hid
  unfold nodeLabel block?
  rw [hnode]
  rcases hblock : node.block with _ | block
  · simp only [Except.map, hblock]
    exact ⟨_, rfl⟩
  · obtain ⟨source, hsource, hplaced⟩ :=
      h.blocks id block (Nat.zero_le id) (hhead.symm.trans hblock)
    obtain ⟨raw, hraw⟩ := hplaced.exists_rawText
    simp only [Except.map, hblock, bind, Except.bind, textOf_eq_ok hsource, hraw]
    exact ⟨_, rfl⟩

theorem exists_isLastChild (h : doc.Legible) (hid : id < doc.nodes.size) :
    ∃ isLast, doc.isLastChild id = .ok isLast := by
  obtain ⟨node, hnode, -, habove, -⟩ := exists_node hid
  unfold isLastChild
  simp only [hnode, bind, Except.bind]
  rcases hparent : node.parent with _ | parent
  · exact ⟨true, rfl⟩
  · have hchild := h.arena.parent id parent (habove.symm.trans hparent)
    obtain ⟨above, hnode', -⟩ := exists_node (lt_size_of_child hchild)
    simp only [hnode']
    exact ⟨_, rfl⟩

theorem exists_drawLines (h : doc.Legible) (visits : List Visit)
    (hvisits : ∀ visit ∈ visits, visit.id < doc.nodes.size) (ancestors : List Bool) :
    ∃ lines, doc.drawLines ancestors visits = .ok lines := by
  induction visits generalizing ancestors with
  | nil => exact ⟨[], rfl⟩
  | cons visit visits ih =>
    have hid := hvisits visit (List.mem_cons_self ..)
    have hrest := ih fun later hlater => hvisits later (List.mem_cons_of_mem _ hlater)
    unfold drawLines
    refine exists_bind_ok (h.exists_nodeLabel hid) fun label _ => ?_
    split
    · refine exists_bind_ok (hrest _) fun lines _ => ⟨_, rfl⟩
    · refine exists_bind_ok (h.exists_isLastChild hid) fun isLast _ => ?_
      refine exists_bind_ok (hrest _) fun lines _ => ⟨_, rfl⟩

/-- **A legible document can be drawn.** -/
theorem exists_drawing (h : doc.Legible) : ∃ text, doc.drawing = .ok text := by
  have hroots : ∀ j ∈ [root], j < doc.nodes.size := by simp [root, h.arena.size_pos]
  obtain ⟨forest, hspells⟩ := h.arena.exists_forest hroots
  unfold drawing preorder
  rw [preorderFrom_eq h.arena hspells h.arena.size_pos]
  refine exists_bind_ok ⟨_, rfl⟩ fun visits hvisits => ?_
  cases hvisits
  refine exists_bind_ok (h.exists_drawLines _ ?_ _) fun lines _ => ⟨_, rfl⟩
  intro visit hvisit
  have hmem : visit.id ∈ forest.ids := by
    rw [← forest.outline_ids 0]
    exact List.mem_map_of_mem hvisit
  exact hspells.lt_size h.arena hroots _ hmem

end Legible

end Document

end Blockwise
