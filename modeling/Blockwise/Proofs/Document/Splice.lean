/-
  Blockwise/Proofs/Document/Splice.lean
  =====================================
  **Splicing replaces one subtree and nothing else.**  The nodes of the document that is
  spliced in are appended behind the others, all but its root, and their sources behind
  the other sources, so both are renumbered.  What a node renders as does not depend on
  these numbers: it is read off what the node and those below it look like
  (`renderNode_move`).

  So each node of the other document renders from its new place as it did before, and so
  does each node of the document that the place of the splice is not below
  (`splice_replaces`).  Nothing is asked of the offsets of the blocks: a node that cannot
  be rendered stops with the same fault as before.
-/
import Blockwise.Proofs.Document.Composition

namespace Blockwise

/-! ### Nodes under other numbers -/

namespace Forest

/-- The forest with its nodes renumbered. -/
def map (move : Nat → Nat) : Forest → Forest
  | nil => nil
  | cons id below rest => cons (move id) (below.map move) (rest.map move)

variable {doc doc' : Document} {move : Nat → Nat} {forest : Forest}

theorem Spells.map {roots : List Nat} (hspells : forest.Spells doc roots)
    (hchildren : ∀ j ∈ forest.ids, doc'.childrenOf (move j) = (doc.childrenOf j).map move) :
    (forest.map move).Spells doc' (roots.map move) := by
  induction hspells with
  | nil => exact .nil
  | @cons id below rest roots _ _ ihbelow ihrest =>
    simp only [ids, List.mem_cons, List.mem_append] at hchildren
    refine .cons ?_ (ihrest fun j hj => hchildren j (Or.inr (Or.inr hj)))
    rw [hchildren id (Or.inl rfl)]
    exact ihbelow fun j hj => hchildren j (Or.inr (Or.inl hj))

theorem render_map (hcompose : ∀ j ∈ forest.ids, doc'.compose (move j) = doc.compose j) :
    (forest.map move).render doc' = forest.render doc := by
  induction forest with
  | nil => rfl
  | cons id below rest ihbelow ihrest =>
    simp only [ids, List.mem_cons, List.mem_append] at hcompose
    have hbelow := ihbelow fun j hj => hcompose j (Or.inr (Or.inl hj))
    have hrest := ihrest fun j hj => hcompose j (Or.inr (Or.inr hj))
    simp only [map, render, hbelow, hrest, hcompose id (Or.inl rfl)]

end Forest

namespace Document

variable {doc doc' : Document} {id id' : Nat}

/-- What a node makes of the text of its children is read off its block, the text that the
    block points into, and whether it has children or was spliced. -/
theorem compose_congr (shift : Nat) (hid : id < doc.nodes.size) (hid' : id' < doc'.nodes.size)
    (hblock : doc'.blockOf? id' = (doc.blockOf? id).map (Block.shifted shift))
    (htext : ∀ block, doc.blockOf? id = some block →
      doc'.textOf (block.shifted shift) = doc.textOf block)
    (hchildren : doc'.childrenOf id' = [] ↔ doc.childrenOf id = [])
    (hspliced : doc'.splicedAt id' = doc.splicedAt id) : doc'.compose id' = doc.compose id := by
  funext inner
  rw [compose_eq hid, compose_eq hid', hblock]
  rcases hfound : doc.blockOf? id with _ | block
  · rfl
  · simp only [Option.map_some, htext block hfound, hchildren, hspliced]
    rfl

/-- **A node renders alike wherever it is moved,** if all nodes below it are moved with it. -/
theorem renderNode_move (move : Nat → Nat) (h : doc.Arena) (h' : doc'.Arena)
    (hid : id < doc.nodes.size) (hid' : move id < doc'.nodes.size)
    (hkeep : ∀ j, doc.Under id j → doc'.childrenOf (move j) = (doc.childrenOf j).map move ∧
      doc'.compose (move j) = doc.compose j) :
    doc'.renderNode (move id) = doc.renderNode id := by
  have hroots : ∀ j ∈ [id], j < doc.nodes.size := by simp [hid]
  obtain ⟨forest, hspells⟩ := h.exists_forest hroots
  have hunder : ∀ j ∈ forest.ids, doc.Under id j := by
    intro j hj
    obtain ⟨top, htop, hbelow⟩ := hspells.under h j hj
    rw [List.mem_singleton.1 htop] at hbelow
    exact hbelow
  have hmoved : (forest.map move).Spells doc' [move id] :=
    hspells.map fun j hj => (hkeep j (hunder j hj)).1
  rw [renderNode_eq h' hmoved hid', renderNode_eq h hspells hid,
    Forest.render_map fun j hj => (hkeep j (hunder j hj)).2]

theorem renders_map {move : Nat → Nat} {ids : List Nat}
    (h : ∀ id ∈ ids, doc'.renderNode (move id) = doc.renderNode id) :
    doc'.renders (ids.map move) = doc.renders ids := by
  have htexts : (ids.map move).mapM doc'.renderNode = ids.mapM doc.renderNode := by
    induction ids with
    | nil => rfl
    | cons id ids ih =>
      rw [List.map_cons, List.mapM_cons, List.mapM_cons, h id (List.mem_cons_self ..),
        ih fun j hj => h j (List.mem_cons_of_mem _ hj)]
  unfold renders
  rw [htexts]

/-! ### Well-formed documents -/

/-- The nodes form a tree, and every block points into one of the sources. -/
structure WellFormed (doc : Document) : Prop where
  arena : doc.Arena
  sources_pos : 0 < doc.sources.size
  source_lt : ∀ id block, doc.blockOf? id = some block → block.source < doc.sources.size

theorem WellFormed.exists_textOf (h : doc.WellFormed) {block : Block}
    (hblock : doc.blockOf? id = some block) : ∃ text, doc.textOf block = .ok text :=
  ⟨_, textOf_eq_ok (Array.getElem?_eq_getElem (h.source_lt id block hblock))⟩

/-- A node below node `id` is one of the document, as `id` is. -/
theorem Arena.under_lt_size (h : doc.Arena) {j : Nat} (hid : id < doc.nodes.size)
    (hj : doc.Under id j) : j < doc.nodes.size := by
  rcases Relation.ReflTransGen.cases_head hj with rfl | ⟨parent, hparent, -⟩
  · exact hid
  · exact (h.child _ _ (h.parent _ _ hparent)).2.1

/-! ### The document after a splice -/

section Splice

variable {sub : Document} {target : Nat}

/-- Only the number of sources may stand in the way of a splice. -/
theorem WellFormed.exists_splice (hsub : sub.WellFormed) (htarget : target < doc.nodes.size)
    (hcount : doc.sources.size + sub.sources.size ≤ offsetLimit) :
    ∃ doc', doc.splice target sub = .ok doc' := by
  rcases hsplice : doc.splice target sub with fault | doc'
  · obtain ⟨-, id, block, hblock, hlimit⟩ := splice_eq_error htarget hsplice
    have hlt := hsub.source_lt id block hblock
    omega
  · exact ⟨doc', rfl⟩

theorem WellFormed.grafted (h : doc.WellFormed) (hsub : sub.WellFormed)
    (htarget : target < doc.nodes.size) (hsplice : doc.splice target sub = .ok doc') :
    doc.Grafted sub doc' target :=
  splice_eq_ok hsplice htarget hsub.arena.size_pos fun _ hc =>
    ⟨(h.arena.child _ _ hc).1, (h.arena.child _ _ hc).2.1⟩

/-- What a splice leaves is well-formed, so that it can be spliced into or elsewhere. -/
theorem WellFormed.splice (h : doc.WellFormed) (hsub : sub.WellFormed)
    (htarget : target < doc.nodes.size) (hsplice : doc.splice target sub = .ok doc') :
    doc'.WellFormed := by
  have hgraft := h.grafted hsub htarget hsplice
  have hsources : doc'.sources.size = doc.sources.size + sub.sources.size := by
    rw [hgraft.sources, Array.size_append]
  refine ⟨h.arena.graft hsub.arena hgraft htarget, ?_, ?_⟩
  · rw [hsources]
    exact Nat.add_pos_left h.sources_pos _
  · intro id block hblock
    rw [hsources]
    by_cases hold : id < doc.nodes.size
    · rw [hgraft.blockOf? id hold] at hblock
      exact Nat.lt_add_right _ (h.source_lt id block hblock)
    · obtain ⟨i, rfl⟩ := exists_add_of_not_lt hold
      rw [hgraft.blockOf?_new] at hblock
      obtain ⟨before, hbefore, rfl⟩ := Option.map_eq_some_iff.1 hblock
      have hlt := hsub.source_lt _ before hbefore
      simp only [Block.shifted]
      omega

namespace Grafted

variable (hgraft : doc.Grafted sub doc' target)
include hgraft

theorem textOf_old {block : Block} (hlt : block.source < doc.sources.size) :
    doc'.textOf block = doc.textOf block := by
  unfold textOf source
  rw [hgraft.sources, Array.getElem?_append_left hlt]

theorem textOf_new {block : Block} (hlt : block.source < sub.sources.size) :
    doc'.textOf (block.shifted doc.sources.size) = sub.textOf block := by
  have hsource := Array.getElem?_eq_getElem hlt
  have hshifted : doc'.sources[(block.shifted doc.sources.size).source]? =
      some sub.sources[block.source] := by
    rw [hgraft.sources, ← hsource, Block.shifted,
      Array.getElem?_append_right (Nat.le_add_left ..)]
    simp only [Nat.add_sub_cancel]
  rw [textOf_eq_ok hsource, textOf_eq_ok hshifted]

theorem compose_old (h : doc.WellFormed) (hid : id < doc.nodes.size) (hne : id ≠ target) :
    doc'.compose id = doc.compose id := by
  refine compose_congr 0 hid ?_ ?_ ?_ ?_ ?_
  · rw [hgraft.size]
    exact Nat.lt_add_right _ hid
  · rw [hgraft.blockOf? id hid, map_shifted_zero]
  · intro block hblock
    exact hgraft.textOf_old (h.source_lt id block hblock)
  · rw [hgraft.childrenOf id hid, if_neg hne]
  · rw [hgraft.splicedAt id hid, decide_eq_false hne, Bool.false_or]

theorem compose_new (hsub : sub.WellFormed) {i : Nat} (hi : i + 1 < sub.nodes.size) :
    doc'.compose (doc.nodes.size + i) = sub.compose (i + 1) := by
  refine compose_congr doc.sources.size hi ?_ (hgraft.blockOf?_new i) ?_ ?_ (hgraft.splicedAt_new i)
  · rw [hgraft.size]
    omega
  · intro block hblock
    exact hgraft.textOf_new (hsub.source_lt _ block hblock)
  · rw [hgraft.childrenOf_new, List.map_eq_nil_iff]

/-- Spliced nodes render around their children, even when they have none. -/
theorem compose_target (h : doc.WellFormed) (htarget : target < doc.nodes.size) {block : Block}
    {settings : Inclusion} (hblock : doc.blockOf? target = some block)
    (hinc : block.type.inclusion? = some settings) (inner : Text) :
    doc'.compose target inner = .ok inner := by
  have hsize : target < doc'.nodes.size := by
    rw [hgraft.size]
    exact Nat.lt_add_right _ htarget
  have hspliced : doc'.splicedAt target = true := by
    rw [hgraft.splicedAt target htarget, decide_eq_true rfl, Bool.true_or]
  obtain ⟨text, htext⟩ := h.exists_textOf hblock
  have htext' : doc'.textOf block = .ok text := by
    rw [hgraft.textOf_old (h.source_lt target block hblock), htext]
  rw [compose_eq hsize, hgraft.blockOf? target htarget, hblock]
  simp only [htext', hspliced, bind, Except.bind, Bool.true_eq_false, and_false, if_false]
  exact Block.render_inclusion hinc text (some inner)

end Grafted

/-- Node `id` has its place in `doc'` at `move id`: the same block, found in the same text, and
    the same nodes below it. -/
structure Image (doc doc' : Document) (move : Nat → Nat) (id : Nat) : Prop where
  block : ∃ block image text, doc.blockOf? id = some block ∧ doc'.blockOf? (move id) = some image ∧
    image = { block with source := image.source } ∧
    doc.textOf block = .ok text ∧ doc'.textOf image = .ok text
  spliced : doc'.splicedAt (move id) = doc.splicedAt id
  children : doc'.childrenOf (move id) = (doc.childrenOf id).map move
  render : doc'.renderNode (move id) = doc.renderNode id

/-- The children of `target` are those of the root of `sub`, with all below them, and all
    else is as in `doc`. -/
structure Replaced (doc sub doc' : Document) (target : Nat) : Prop where
  target_children : doc'.childrenOf target = (sub.childrenOf root).map (landing doc.nodes.size)
  image : ∀ id < sub.nodes.size, id ≠ root → sub.Image doc' (landing doc.nodes.size) id
  inclusion : ∀ block settings, doc.blockOf? target = some block →
    block.type.inclusion? = some settings → doc'.renderNode target = sub.render
  children : ∀ id < doc.nodes.size, id ≠ target → doc'.childrenOf id = doc.childrenOf id
  render : ∀ id < doc.nodes.size, ¬ doc.Under id target → doc'.renderNode id = doc.renderNode id
  mainSource : doc'.mainSource = doc.mainSource
  openNodes : doc'.openNodes = doc.openNodes

theorem Grafted.image (hgraft : doc.Grafted sub doc' target) (h : doc.WellFormed)
    (hsub : sub.WellFormed) (htarget : target < doc.nodes.size) (hid : id < sub.nodes.size)
    (hroot : id ≠ root) : sub.Image doc' (landing doc.nodes.size) id := by
  have harena' : doc'.Arena := h.arena.graft hsub.arena hgraft htarget
  have hlands : ∀ j, sub.Under id j → ∃ i, j = i + 1 ∧ i + 1 < sub.nodes.size := by
    intro j hj
    have hle := hsub.arena.under_le hj
    have hlt := hsub.arena.under_lt_size hid hj
    have hpos : 0 < id := Nat.pos_of_ne_zero hroot
    exact ⟨j - 1, by omega, by omega⟩
  obtain ⟨i, rfl, hi⟩ := hlands id .refl
  constructor
  · obtain ⟨block, hblock⟩ := hsub.arena.block _ hroot hid
    obtain ⟨text, htext⟩ := hsub.exists_textOf hblock
    refine ⟨block, block.shifted doc.sources.size, text, hblock, ?_, rfl, htext, ?_⟩
    · rw [landing_succ, hgraft.blockOf?_new, hblock, Option.map_some]
    · rw [hgraft.textOf_new (hsub.source_lt _ block hblock), htext]
  · rw [landing_succ, hgraft.splicedAt_new]
  · rw [landing_succ, hgraft.childrenOf_new]
  · apply renderNode_move _ hsub.arena harena' hid
    · rw [landing_succ, hgraft.size]
      omega
    · intro j hj
      obtain ⟨k, rfl, hk⟩ := hlands j hj
      rw [landing_succ]
      exact ⟨hgraft.childrenOf_new k, hgraft.compose_new hsub hk⟩

theorem Grafted.render_target (hgraft : doc.Grafted sub doc' target) (h : doc.WellFormed)
    (hsub : sub.WellFormed) (htarget : target < doc.nodes.size) {block : Block}
    {settings : Inclusion} (hblock : doc.blockOf? target = some block)
    (hinc : block.type.inclusion? = some settings) : doc'.renderNode target = sub.render := by
  have harena' : doc'.Arena := h.arena.graft hsub.arena hgraft htarget
  have hsize : target < doc'.nodes.size := by
    rw [hgraft.size]
    exact Nat.lt_add_right _ htarget
  have hroot : sub.render = sub.renders (sub.childrenOf root) :=
    renderNode_eq_renders hsub.arena hsub.arena.size_pos hsub.arena.compose_root
  rw [hroot, renderNode_eq_renders harena' hsize (hgraft.compose_target h htarget hblock hinc),
    hgraft.childrenOf target htarget, if_pos rfl]
  apply renders_map
  intro c hc
  obtain ⟨hlt, hcsize, -⟩ := hsub.arena.child root c hc
  exact (hgraft.image h hsub htarget hcsize (Nat.ne_of_gt hlt)).render

theorem Grafted.renderNode_old (hgraft : doc.Grafted sub doc' target) (h : doc.WellFormed)
    (hsub : sub.WellFormed) (htarget : target < doc.nodes.size) (hid : id < doc.nodes.size)
    (hnot : ¬ doc.Under id target) : doc'.renderNode id = doc.renderNode id := by
  have harena' : doc'.Arena := h.arena.graft hsub.arena hgraft htarget
  apply renderNode_move (fun j => j) h.arena harena' hid
  · rw [hgraft.size]
    exact Nat.lt_add_right _ hid
  · -- the place of the splice is not among the nodes below
    intro j hj
    have hlt := h.arena.under_lt_size hid hj
    have hne : j ≠ target := by
      rintro rfl
      exact hnot hj
    rw [hgraft.childrenOf j hlt, if_neg hne, List.map_id']
    exact ⟨rfl, hgraft.compose_old h hlt hne⟩

/-- **Splicing replaces one subtree and nothing else,** at any node, and fails only if the
    sources of both documents are too many to be numbered. -/
theorem splice_replaces (h : doc.WellFormed) (hsub : sub.WellFormed)
    (htarget : target < doc.nodes.size) :
    (doc.sources.size + sub.sources.size ≤ offsetLimit →
      ∃ doc', doc.splice target sub = .ok doc') ∧
    ∀ doc', doc.splice target sub = .ok doc' → doc.Replaced sub doc' target := by
  refine ⟨hsub.exists_splice htarget, ?_⟩
  intro doc' hsplice
  have hgraft := h.grafted hsub htarget hsplice
  constructor
  case target_children => rw [hgraft.childrenOf target htarget, if_pos rfl]
  case image =>
    intro id hid hroot
    exact hgraft.image h hsub htarget hid hroot
  case inclusion =>
    intro block settings hblock hinc
    exact hgraft.render_target h hsub htarget hblock hinc
  case children =>
    intro id hid hne
    rw [hgraft.childrenOf id hid, if_neg hne]
  case render =>
    intro id hid hnot
    exact hgraft.renderNode_old h hsub htarget hid hnot
  case mainSource => rw [mainSource, mainSource, hgraft.sources,
    Array.getElem?_append_left h.sources_pos]
  case openNodes => rw [openNodes, openNodes, hgraft.openBlocks]

/-- An open include with some text in it. -/
def sampleInclude : Document :=
  ((ofSource ⟨none, ['<', 'a']⟩).push (.opened (.inclusion ['i'] (.ofTags ['<'] ['>'])) 0 0)).push
    (.opened .plain 0 1)

theorem sampleInclude_wellFormed : sampleInclude.WellFormed := by
  have hbuilt : Built (fun _ => True) sampleInclude :=
    .push (.push (.ofSource _) trivial) trivial
  refine ⟨hbuilt.building.arena, by decide, ?_⟩
  intro id block hblock
  have hall : ∀ id < sampleInclude.nodes.size, ∀ block ∈ sampleInclude.blockOf? id,
      block.source < sampleInclude.sources.size := by decide +kernel
  exact hall id (lt_size_of_block hblock) block hblock

/-- The include of the sample takes the place of its own text, and that document is spliced
    in again: it has a spliced node, and a node without a parent. -/
theorem sampleInclude_replaced :
    ∃ sub doc', sampleInclude.splice 1 sampleInclude = .ok sub ∧
      sampleInclude.splice 1 sub = .ok doc' ∧ sampleInclude.Replaced sub doc' 1 := by
  have h := sampleInclude_wellFormed
  have htarget : 1 < sampleInclude.nodes.size := by decide
  obtain ⟨sub, hsub⟩ := (splice_replaces h h htarget).1 (by decide)
  have hboth := splice_replaces h (h.splice h htarget hsub) htarget
  obtain ⟨doc', hdoc'⟩ := hboth.1 (by
    rw [(h.grafted h htarget hsub).sources]
    decide)
  exact ⟨sub, doc', hsub, hdoc', hboth.2 doc' hdoc'⟩

end Splice

end Document

end Blockwise
