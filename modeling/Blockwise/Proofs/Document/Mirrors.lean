/-
  Blockwise/Proofs/Document/Mirrors.lean
  ======================================
  **Nodes of two documents that look the same.**  `Mirrors doc doc' ids ids'` says that
  the nodes `ids` of one document and `ids'` of the other, with all below them, have the
  same shape, and that nodes in the same place show the same card: the block, up to the
  number of its source, the text of that source, and whether the node was spliced.
  Such nodes render alike (`Mirrors.renders`), and a walk tells the same of what is below
  them (`Mirrors.rowsBelow`).

  A building operation moves nodes and numbers of sources, but not what a node that is
  settled looks like: it embeds the settled nodes of a document in the next one
  (`Embeds`, `Mirrors.embed`).
-/
import Blockwise.Proofs.Document.Legible

namespace Blockwise

/-- What a node shows, wherever its source is. -/
structure Card where
  block : Block
  text : Text
  spliced : Bool

/-- What a walk tells of a node: its depth, its label, the text that the block covers, and
    the text of its source. -/
structure Row where
  depth : Nat
  label : Text
  raw : Text
  text : Text

namespace Document

def card? (doc : Document) (id : Nat) : Option Card :=
  (doc.blockOf? id).bind fun block => doc.sources[block.source]?.map fun source =>
    ⟨{ block with source := 0 }, source.text, doc.splicedAt id⟩

theorem card?_eq_some {doc : Document} {id : Nat} {card : Card} (h : doc.card? id = some card) :
    ∃ block source, doc.blockOf? id = some block ∧ doc.sources[block.source]? = some source ∧
      card = ⟨{ block with source := 0 }, source.text, doc.splicedAt id⟩ := by
  obtain ⟨block, hblock, hmap⟩ := Option.bind_eq_some_iff.1 h
  obtain ⟨source, hsource, rfl⟩ := Option.map_eq_some_iff.1 hmap
  exact ⟨block, source, hblock, hsource, rfl⟩

theorem card?_of_block {doc : Document} {id : Nat} {block : Block} {source : Source}
    (hblock : doc.blockOf? id = some block) (hsource : doc.sources[block.source]? = some source) :
    doc.card? id = some ⟨{ block with source := 0 }, source.text, doc.splicedAt id⟩ := by
  rw [card?, hblock, Option.bind_some, hsource, Option.map_some]

/-- Some nodes, rendered one after the other. -/
def renders (doc : Document) (ids : List Nat) : Except Fault Text := do
  let texts ← ids.mapM doc.renderNode
  return texts.flatten

def row (doc : Document) (visit : Visit) : Except Fault Row := do
  match ← doc.block? visit.id with
  | none => return ⟨visit.depth, [], [], []⟩
  | some block =>
    let text ← doc.textOf block
    let raw ← block.rawText text
    return ⟨visit.depth, block.label, raw, text⟩

/-- What a walk tells of the nodes below one, parents first. -/
def rowsBelow (doc : Document) (id : Nat) : Except Fault (List Row) := do
  let visits ← doc.preorderFrom id
  visits.tail.mapM doc.row

/-! ### What a card tells -/

theorem node_of_card {doc : Document} {id : Nat} {card : Card} (h : doc.card? id = some card) :
    ∃ (node : Node) (block : Block) (source : Source), doc.node id = .ok node ∧
      node.block = some block ∧ doc.textOf block = .ok source.text ∧
      node.spliced = doc.splicedAt id ∧ node.isChildless = (doc.childrenOf id).isEmpty ∧
      card = ⟨{ block with source := 0 }, source.text, doc.splicedAt id⟩ := by
  obtain ⟨block, source, hblock, hsource, rfl⟩ := card?_eq_some h
  obtain ⟨node, hnode, hhead, -, hspliced, hchildren⟩ := exists_node (lt_size_of_block hblock)
  refine ⟨node, block, source, hnode, hhead.trans hblock, textOf_eq_ok hsource, hspliced, ?_, rfl⟩
  rw [← hchildren]
  simp [Node.isChildless]

theorem compose_of_card {doc : Document} {id : Nat} {card : Card} (h : doc.card? id = some card)
    (inner : Text) :
    doc.compose id inner =
      if (doc.childrenOf id).isEmpty && !card.spliced then card.block.render card.text none
      else card.block.render card.text (some inner) := by
  obtain ⟨node, block, source, hnode, hblock, htext, hspliced, hchildless, rfl⟩ := node_of_card h
  unfold compose
  simp only [hnode, bind, Except.bind, hblock, htext, hspliced, hchildless]
  rfl

theorem row_of_card {doc : Document} {id : Nat} {card : Card} (h : doc.card? id = some card)
    (depth : Nat) :
    doc.row ⟨id, depth⟩ = do
      let raw ← card.block.rawText card.text
      return ⟨depth, card.block.label, raw, card.text⟩ := by
  obtain ⟨node, block, source, hnode, hblock, htext, -, -, rfl⟩ := node_of_card h
  unfold row block?
  simp only [hnode, Except.map, hblock, bind, Except.bind, htext]
  rfl

/-! ### Mirrors -/

inductive Mirrors (doc doc' : Document) : List Nat → List Nat → Prop
  | nil : Mirrors doc doc' [] []
  | cons {id id' ids ids' card} : doc.card? id = some card → doc'.card? id' = some card →
      Mirrors doc doc' (doc.childrenOf id) (doc'.childrenOf id') → Mirrors doc doc' ids ids' →
      Mirrors doc doc' (id :: ids) (id' :: ids')

theorem Mirrors.isEmpty {doc doc' : Document} {ids ids' : List Nat}
    (h : doc.Mirrors doc' ids ids') : ids.isEmpty = ids'.isEmpty := by
  cases h <;> rfl

/-- Forests of nodes that mirror each other have the same texts and the same rows. -/
theorem Mirrors.forests {doc doc' : Document} {ids ids' : List Nat}
    (h : doc.Mirrors doc' ids ids') :
    ∃ forest forest' : Forest, forest.Spells doc ids ∧ forest'.Spells doc' ids' ∧
      forest.render doc = forest'.render doc' ∧
      ∀ depth, (forest.outline depth).mapM doc.row = (forest'.outline depth).mapM doc'.row := by
  induction h with
  | nil => exact ⟨.nil, .nil, .nil, .nil, rfl, fun _ => rfl⟩
  | @cons id id' ids ids' card hcard hcard' hchildren _ ihbelow ihrest =>
    obtain ⟨below, below', hbelow, hbelow', htexts, hrows⟩ := ihbelow
    obtain ⟨rest, rest', hrest, hrest', htexts', hrows'⟩ := ihrest
    refine ⟨.cons id below rest, .cons id' below' rest', .cons hbelow hrest, .cons hbelow' hrest',
      ?_, ?_⟩
    · simp only [Forest.render, htexts, htexts', compose_of_card hcard, compose_of_card hcard',
        hchildren.isEmpty]
    · intro depth
      simp only [Forest.outline, List.mapM_cons, List.mapM_append, hrows, hrows',
        row_of_card hcard, row_of_card hcard']

theorem Mirrors.card {doc doc' : Document} {ids ids' : List Nat} (h : doc.Mirrors doc' ids ids') :
    ∀ id ∈ ids, ∃ card, doc.card? id = some card := by
  induction h with
  | nil =>
    intro id hid
    cases hid
  | cons hcard _ _ _ _ ihrest =>
    intro id hid
    rcases List.mem_cons.1 hid with rfl | hid
    · exact ⟨_, hcard⟩
    · exact ihrest id hid

theorem mirrors_self {doc : Document} {forest : Forest} {ids : List Nat}
    (hspells : forest.Spells doc ids) (h : ∀ j ∈ forest.ids, ∃ card, doc.card? j = some card) :
    doc.Mirrors doc ids ids := by
  induction hspells with
  | nil => exact .nil
  | @cons id below rest roots _ _ ihbelow ihrest =>
    simp only [Forest.ids, List.mem_cons, List.mem_append] at h
    obtain ⟨card, hcard⟩ := h id (Or.inl rfl)
    exact .cons hcard hcard (ihbelow fun j hj => h j (Or.inr (Or.inl hj)))
      (ihrest fun j hj => h j (Or.inr (Or.inr hj)))

section

variable {doc doc' : Document} {id : Nat}

theorem Arena.exists_below (harena : doc.Arena) (id : Nat) :
    ∃ below : Forest, below.Spells doc (doc.childrenOf id) :=
  harena.exists_forest fun c hc => (harena.child id c hc).2.1

theorem legible_below (harena : doc.Arena) (h : doc.LegibleFrom (id + 1)) {below : Forest}
    (hbelow : below.Spells doc (doc.childrenOf id)) {j : Nat} (hj : j ∈ below.ids) :
    ∃ block source, doc.blockOf? j = some block ∧ doc.sources[block.source]? = some source ∧
      block.Placed source.text := by
  have hlater := harena.le_of_mem_forest hbelow (fun c hc => (harena.child id c hc).1) j hj
  have hsize := hbelow.lt_size harena (fun c hc => (harena.child id c hc).2.1) j hj
  obtain ⟨block, hblock⟩ := harena.block j (Nat.ne_of_gt (Nat.zero_lt_of_lt hlater)) hsize
  obtain ⟨source, hsource, hplaced⟩ := h j block hlater hblock
  exact ⟨block, source, hblock, hsource, hplaced⟩

/-- What can be read below a node mirrors itself. -/
theorem mirrors_children (harena : doc.Arena) (h : doc.LegibleFrom (id + 1)) :
    doc.Mirrors doc (doc.childrenOf id) (doc.childrenOf id) := by
  obtain ⟨below, hbelow⟩ := harena.exists_below id
  refine mirrors_self hbelow ?_
  intro j hj
  obtain ⟨block, source, hblock, hsource, -⟩ := legible_below harena h hbelow hj
  exact ⟨_, card?_of_block hblock hsource⟩

/-! ### What nodes that mirror each other have in common -/

theorem renders_eq (harena : doc.Arena) {forest : Forest} {ids : List Nat}
    (hspells : forest.Spells doc ids) (hids : ∀ id ∈ ids, id < doc.nodes.size) :
    doc.renders ids = (forest.render doc).map List.flatten := by
  unfold renders
  induction hspells with
  | nil => rfl
  | @cons id below rest roots hbelow _ _ ihrest =>
    have hid := hids id (List.mem_cons_self ..)
    have hnode := renderNode_eq harena (.cons hbelow .nil) hid
    have hrest := ihrest fun other hother => hids other (List.mem_cons_of_mem _ hother)
    simp only [Forest.render, bind, Except.bind, pure, Except.pure] at hnode hrest ⊢
    rw [List.mapM_cons]
    simp only [bind, Except.bind, pure, Except.pure, hnode]
    rcases below.render doc with fault | inner
    · rfl
    dsimp only
    rcases doc.compose id inner.flatten with fault | text
    · rfl
    simp only [Except.map]
    rcases hmapM : roots.mapM doc.renderNode with fault | texts
    · rw [hmapM] at hrest
      rcases hrender : rest.render doc with fault' | texts'
      · rw [hrender] at hrest
        exact hrest
      · rw [hrender] at hrest
        cases hrest
    · rw [hmapM] at hrest
      rcases hrender : rest.render doc with fault' | texts'
      · rw [hrender] at hrest
        cases hrest
      · rw [hrender] at hrest
        simp only [Except.map, Except.ok.injEq] at hrest
        simp [hrest]

theorem renderChildren_eq (hid : id < doc.nodes.size) :
    doc.renderChildren id = doc.renders (doc.childrenOf id) := by
  obtain ⟨node, hnode, -, -, -, hchildren⟩ := exists_node hid
  unfold renderChildren renders
  simp only [hnode, bind, Except.bind, hchildren]

/-- The text inside an open block is that of its children. -/
theorem innerText_of_open {block : Block} (hblock : doc.blockOf? id = some block)
    (hopen : block.stop = none) : doc.innerText id = doc.renders (doc.childrenOf id) := by
  have hid := lt_size_of_block hblock
  obtain ⟨node, hnode, hhead, -, -, hchildren⟩ := exists_node hid
  rw [← hhead] at hblock
  unfold innerText
  simp only [hnode, bind, Except.bind, hblock]
  split
  · next hchildless =>
    have hnone : doc.childrenOf id = [] := by
      rw [← hchildren]
      simpa [Node.isChildless] using hchildless
    rw [hnone]
    simp only [Block.bodySpan?, hopen]
    rfl
  · exact renderChildren_eq hid

/-- A node is composed around the texts of its children. -/
theorem renderNode_eq_compose (harena : doc.Arena) (hid : id < doc.nodes.size) :
    doc.renderNode id = doc.renders (doc.childrenOf id) >>= doc.compose id := by
  obtain ⟨below, hbelow⟩ := harena.exists_below id
  rw [renderNode_eq harena (.cons hbelow .nil) hid,
    renders_eq harena hbelow fun c hc => (harena.child id c hc).2.1]
  simp only [Forest.render, bind, Except.bind, pure, Except.pure]
  rcases below.render doc with fault | inner
  · rfl
  · simp only [Except.map]
    cases doc.compose id inner.flatten <;> simp

/-- A node that adds nothing to the text of its children renders as they do. -/
theorem renderNode_eq_renders (harena : doc.Arena) (hid : id < doc.nodes.size)
    (h : ∀ inner, doc.compose id inner = .ok inner) :
    doc.renderNode id = doc.renders (doc.childrenOf id) := by
  rw [renderNode_eq_compose harena hid]
  cases doc.renders (doc.childrenOf id) with
  | error fault => rfl
  | ok inner => exact h inner

theorem Mirrors.renders {ids ids' : List Nat} (h : doc.Mirrors doc' ids ids') (harena : doc.Arena)
    (harena' : doc'.Arena) (hids : ∀ id ∈ ids, id < doc.nodes.size)
    (hids' : ∀ id ∈ ids', id < doc'.nodes.size) : doc.renders ids = doc'.renders ids' := by
  obtain ⟨forest, forest', hspells, hspells', htexts, -⟩ := h.forests
  rw [renders_eq harena hspells hids, renders_eq harena' hspells' hids', htexts]

/-- Nodes whose children mirror each other have the same below them. -/
theorem Mirrors.rowsBelow {id' : Nat}
    (h : doc.Mirrors doc' (doc.childrenOf id) (doc'.childrenOf id')) (harena : doc.Arena)
    (harena' : doc'.Arena) (hid : id < doc.nodes.size) (hid' : id' < doc'.nodes.size) :
    doc.rowsBelow id = doc'.rowsBelow id' := by
  obtain ⟨below, below', hbelow, hbelow', -, hrows⟩ := h.forests
  unfold Document.rowsBelow
  rw [preorderFrom_eq harena (.cons hbelow .nil) hid,
    preorderFrom_eq harena' (.cons hbelow' .nil) hid']
  have hrows := hrows 1
  simpa [Forest.outline, bind, Except.bind] using hrows

theorem exists_rowsBelow (harena : doc.Arena) (h : doc.LegibleFrom (id + 1))
    (hid : id < doc.nodes.size) : ∃ rows, doc.rowsBelow id = .ok rows := by
  obtain ⟨below, hbelow⟩ := harena.exists_below id
  unfold Document.rowsBelow
  rw [preorderFrom_eq harena (.cons hbelow .nil) hid]
  refine exists_bind_ok ⟨_, rfl⟩ fun visits hvisits => exists_mapM_ok ?_
  cases hvisits
  simp only [Forest.outline, List.tail_cons, List.append_nil]
  intro visit hvisit
  have hmem : visit.id ∈ below.ids := by
    rw [← below.outline_ids 1]
    exact List.mem_map_of_mem hvisit
  obtain ⟨block, source, hblock, hsource, hplaced⟩ := legible_below harena h hbelow hmem
  obtain ⟨raw, hraw⟩ := hplaced.exists_rawText
  have hcard := row_of_card (card?_of_block hblock hsource) visit.depth
  refine ⟨⟨visit.depth, block.label, raw, source.text⟩, hcard.trans ?_⟩
  show (block.rawText source.text >>= fun raw => _) = _
  rw [hraw]
  rfl

end

/-! ### Settled nodes -/

/-- The node is below the root and not open, so building goes on elsewhere. -/
structure Settled (doc : Document) (id : Nat) : Prop where
  ne_root : id ≠ root
  lt_size : id < doc.nodes.size
  not_open : id ∉ doc.openBlocks

/-- The blocks of settled nodes point into sources of the document. -/
def Sourced (doc : Document) : Prop :=
  ∀ id block, doc.Settled id → doc.blockOf? id = some block → block.source < doc.sources.size

theorem Spine.parentOf? {P : Block → Prop} {doc : Document} (h : doc.Arena) {ids : List Nat}
    (hspine : doc.Spine P ids) :
    ∀ id ∈ ids, ∃ parent, doc.parentOf? id = some parent ∧ (parent = root ∨ parent ∈ ids) := by
  induction ids with
  | nil =>
    intro id hid
    cases hid
  | cons first outer ih =>
    intro id hid
    rcases List.mem_cons.1 hid with rfl | hid
    · refine ⟨_, (h.child _ _ (List.mem_of_getLast? hspine.2.1)).2.2, ?_⟩
      cases outer with
      | nil => exact Or.inl rfl
      | cons next rest => exact Or.inr (by simp)
    · obtain ⟨parent, hparent, hopen⟩ := ih hspine.2.2 id hid
      exact ⟨parent, hparent, hopen.imp_right (List.mem_cons_of_mem _)⟩

section

variable {doc : Document} {id c : Nat}

theorem Settled.ne_innermost (h : doc.Settled id) : id ≠ doc.innermost := by
  rintro rfl
  cases hopen : doc.openBlocks with
  | nil => exact h.ne_root (by rw [innermost_eq, hopen]; rfl)
  | cons first outer =>
    refine h.not_open ?_
    rw [innermost_eq, hopen]
    exact List.mem_cons_self ..

theorem Building.settled_child (h : doc.Building) (hid : doc.Settled id)
    (hc : c ∈ doc.childrenOf id) : doc.Settled c := by
  obtain ⟨hlt, hsize, hparent⟩ := h.arena.child id c hc
  refine ⟨Nat.ne_of_gt (Nat.zero_lt_of_lt hlt), hsize, ?_⟩
  intro hopen
  obtain ⟨parent, hparent', hroot | hmem⟩ := h.spine.parentOf? h.arena c hopen
  · cases hparent.symm.trans hparent'
    exact hid.ne_root hroot
  · cases hparent.symm.trans hparent'
    exact hid.not_open hmem

theorem Building.settled_of_closed (h : doc.Building) {block : Block}
    (hblock : doc.blockOf? id = some block) (hclosed : block.stop ≠ none) : doc.Settled id := by
  refine ⟨h.arena.ne_root hblock, lt_size_of_block hblock, ?_⟩
  intro hopen
  obtain ⟨found, hfound, hstop⟩ := h.spine.exists_block id hopen
  cases hblock.symm.trans hfound
  exact hclosed hstop

/-- The open nodes are not below the innermost one. -/
theorem Building.settled_of_innermost (h : doc.Building) (hc : c ∈ doc.childrenOf doc.innermost) :
    doc.Settled c := by
  obtain ⟨hlt, hsize, -⟩ := h.arena.child _ c hc
  refine ⟨Nat.ne_of_gt (Nat.zero_lt_of_lt hlt), hsize, ?_⟩
  have hpairwise := h.spine.pairwise h.arena
  rw [innermost_eq] at hlt
  cases hopen : doc.openBlocks with
  | nil => exact List.not_mem_nil
  | cons first outer =>
    rw [hopen] at hlt hpairwise
    intro hmem
    rcases List.mem_cons.1 hmem with rfl | hmem
    · exact Nat.lt_irrefl _ hlt
    · have hgt := List.rel_of_pairwise_cons hpairwise hmem
      exact Nat.lt_asymm hlt hgt

end

/-! ### Embedding one document in another -/

/-- The settled nodes of `doc` stand in `doc'` as they are, moved by `move`, with `shift`
    sources before those of `doc`. -/
structure Embeds (doc doc' : Document) (move : Nat → Nat) (shift : Nat) : Prop where
  sources : ∀ (s : Nat) (source : Source), doc.sources[s]? = some source →
    doc'.sources[s + shift]? = some source
  settled : ∀ j, doc.Settled j → doc'.Settled (move j)
  blockOf? : ∀ j, doc.Settled j →
    doc'.blockOf? (move j) = (doc.blockOf? j).map (Block.shifted shift)
  splicedAt : ∀ j, doc.Settled j → doc'.splicedAt (move j) = doc.splicedAt j
  childrenOf : ∀ j, doc.Settled j → doc'.childrenOf (move j) = (doc.childrenOf j).map move
  detached : ∀ j, doc.Settled j → doc.parentOf? j = none → doc'.parentOf? (move j) = none

theorem map_shifted_zero (block? : Option Block) : block?.map (Block.shifted 0) = block? := by
  cases block? <;> rfl

section Embed

variable {doc doc' other : Document} {move move' : Nat → Nat} {shift shift' : Nat}

theorem Embeds.trans (h : doc.Embeds doc' move shift) (h' : doc'.Embeds other move' shift') :
    doc.Embeds other (move' ∘ move) (shift + shift') := by
  refine ⟨?_, ?_, ?_, ?_, ?_, ?_⟩
  · intro s source hs
    rw [← Nat.add_assoc]
    exact h'.sources _ _ (h.sources s source hs)
  · intro j hj
    exact h'.settled _ (h.settled j hj)
  · intro j hj
    rw [Function.comp_apply, h'.blockOf? _ (h.settled j hj), h.blockOf? j hj, Option.map_map]
    congr 1
    funext block
    simp only [Function.comp_apply, Block.shifted, Nat.add_assoc]
  · intro j hj
    exact (h'.splicedAt _ (h.settled j hj)).trans (h.splicedAt j hj)
  · intro j hj
    rw [Function.comp_apply, h'.childrenOf _ (h.settled j hj), h.childrenOf j hj, List.map_map]
  · intro j hj hnone
    exact h'.detached _ (h.settled j hj) (h.detached j hj hnone)

theorem Building.embeds_push (h : doc.Building) (block : Block) :
    doc.Embeds (doc.push block) id 0 := by
  have hin := h.innermost_lt
  have hold : ∀ j, doc.Settled j → j ≠ doc.nodes.size := fun j hj => Nat.ne_of_lt hj.lt_size
  refine ⟨fun _ _ hs => hs, ?_, ?_, fun j _ => splicedAt_push block hin j, ?_, ?_⟩
  · intro j hj
    refine ⟨hj.ne_root, Nat.lt_of_lt_of_le hj.lt_size ?_, ?_⟩
    · rw [size_push]
      exact Nat.le_succ _
    · rw [openBlocks_push, List.mem_cons, not_or]
      exact ⟨hold j hj, hj.not_open⟩
  · intro j hj
    rw [map_shifted_zero, id_eq, blockOf?_push block hin, if_neg (hold j hj)]
  · intro j hj
    rw [List.map_id, id_eq, childrenOf_push block hin, if_neg hj.ne_innermost]
  · intro j hj hnone
    rw [id_eq, parentOf?_push block hin, if_neg (hold j hj), hnone]

/-- Closing open blocks leaves the settled nodes alone. -/
theorem ClosedAlong.embeds {ids : List Nat} {pos markerLen : Nat}
    (h : doc.ClosedAlong doc' ids pos markerLen) (hsources : doc'.sources = doc.sources)
    (hids : ∀ j ∈ ids, j ∈ doc.openBlocks) (hopen : doc'.openBlocks ⊆ doc.openBlocks) :
    doc.Embeds doc' id 0 := by
  refine ⟨?_, ?_, ?_, fun j _ => h.splicedAt j, ?_, ?_⟩
  · intro s source hs
    rw [hsources]
    exact hs
  · intro j hj
    exact ⟨hj.ne_root, h.size_eq.symm ▸ hj.lt_size, fun hmem => hj.not_open (hopen hmem)⟩
  · intro j hj
    have hne : j ∉ ids := fun hmem => hj.not_open (hids j hmem)
    rw [map_shifted_zero, id_eq, h.blockOf?, if_neg hne]
  · intro j _
    rw [List.map_id]
    exact h.childrenOf j
  · intro j _ hnone
    exact (h.parentOf? j).trans hnone

/-- A leaf that is opened and closed at once. -/
theorem Building.embeds_leaf {block : Block} {pos markerLen : Nat} (h : doc.Building)
    (hclose : (doc.push block).closeInnermost pos markerLen = .ok doc') : doc.Embeds doc' id 0 := by
  obtain ⟨hsources, hopen, hclosed, -⟩ := closeInnermost_eq_ok (openBlocks_push doc block) hclose
  refine (h.embeds_push block).trans (hclosed.embeds hsources ?_ ?_)
  · intro j hj
    rw [List.mem_singleton.1 hj]
    exact List.mem_cons_self ..
  · rw [hopen]
    exact List.subset_cons_self ..

theorem Grafted.embeds_old {sub : Document} {target : Nat} (h : doc.Grafted sub doc' target)
    (htarget : target ∈ doc.openBlocks) : doc.Embeds doc' id 0 := by
  refine ⟨?_, ?_, ?_, ?_, ?_, ?_⟩
  · intro s source hs
    obtain ⟨hlt, -⟩ := Array.getElem?_eq_some_iff.1 hs
    rw [h.sources, Nat.add_zero, Array.getElem?_append_left hlt, hs]
  · intro j hj
    have hsize := h.size
    have hlt := hj.lt_size
    exact ⟨hj.ne_root, by rw [id_eq]; omega, h.openBlocks.symm ▸ hj.not_open⟩
  · intro j hj
    rw [map_shifted_zero]
    exact h.blockOf? j hj.lt_size
  · intro j hj
    have hne : j ≠ target := fun heq => hj.not_open (heq ▸ htarget)
    rw [id_eq, h.splicedAt j hj.lt_size, decide_eq_false hne, Bool.false_or]
  · intro j hj
    have hne : j ≠ target := fun heq => hj.not_open (heq ▸ htarget)
    rw [id_eq, h.childrenOf j hj.lt_size, if_neg hne, List.map_id]
  · intro j hj hnone
    rw [id_eq, h.parentOf? j hj.lt_size, hnone, ite_self]

theorem Grafted.embeds_new {sub : Document} {target : Nat} (h : doc.Grafted sub doc' target)
    (hdoc : doc.Building) :
    sub.Embeds doc' (landing doc.nodes.size) doc.sources.size := by
  have hsucc : ∀ j, sub.Settled j → ∃ i, j = i + 1 :=
    fun j hj => Nat.exists_eq_succ_of_ne_zero hj.ne_root
  refine ⟨?_, ?_, ?_, ?_, ?_, ?_⟩
  · intro s source hs
    rw [h.sources, Array.getElem?_append_right (Nat.le_add_left ..), Nat.add_sub_cancel, hs]
  · intro j hj
    have hsize := h.size
    have hlt := hj.lt_size
    have hpos := hdoc.arena.size_pos
    obtain ⟨i, rfl⟩ := hsucc j hj
    rw [landing_succ]
    refine ⟨?_, by omega, ?_⟩
    · rw [root]
      omega
    · -- what is open was there before
      rw [h.openBlocks]
      intro hopen
      have := hdoc.spine.lt_size hdoc.arena _ hopen
      omega
  · intro j hj
    obtain ⟨i, rfl⟩ := hsucc j hj
    rw [landing_succ, h.blockOf?_new]
  · intro j hj
    obtain ⟨i, rfl⟩ := hsucc j hj
    rw [landing_succ, h.splicedAt_new]
  · intro j hj
    obtain ⟨i, rfl⟩ := hsucc j hj
    rw [landing_succ, h.childrenOf_new]
  · intro j hj hnone
    obtain ⟨i, rfl⟩ := hsucc j hj
    rw [landing_succ, h.parentOf?_new, hnone, Option.map_none]

theorem Embeds.card? (h : doc.Embeds doc' move shift) {id : Nat} (hid : doc.Settled id)
    {card : Card} (hcard : doc.card? id = some card) : doc'.card? (move id) = some card := by
  obtain ⟨block, source, hblock, hsource, rfl⟩ := card?_eq_some hcard
  have hmoved : doc'.blockOf? (move id) = some (block.shifted shift) := by
    rw [h.blockOf? id hid, hblock, Option.map_some]
  rw [card?_of_block hmoved (h.sources _ _ hsource), h.splicedAt id hid]
  rfl

theorem Embeds.blocks (h : doc.Embeds doc' move shift) {ids : List Nat}
    (hids : ∀ id ∈ ids, doc.Settled id) :
    (ids.map move).filterMap doc'.blockOf? =
      (ids.filterMap doc.blockOf?).map (Block.shifted shift) := by
  rw [List.filterMap_map, List.map_filterMap]
  refine List.filterMap_congr fun id hid => ?_
  exact h.blockOf? id (hids id hid)

/-- **What mirrors settled nodes of a document mirrors them wherever they are moved.** -/
theorem Mirrors.embed {ids ids' : List Nat} (h : doc.Mirrors other ids ids')
    (hembeds : doc.Embeds doc' move shift) (hdoc : doc.Building)
    (hids : ∀ id ∈ ids, doc.Settled id) : doc'.Mirrors other (ids.map move) ids' := by
  induction h with
  | nil => exact .nil
  | @cons id id' ids ids' card hcard hcard' _ _ ihbelow ihrest =>
    have hid := hids id (List.mem_cons_self ..)
    refine .cons (hembeds.card? hid hcard) hcard' ?_ ?_
    · rw [hembeds.childrenOf id hid]
      exact ihbelow fun c hc => hdoc.settled_child hid hc
    · exact ihrest fun j hj => hids j (List.mem_cons_of_mem _ hj)

end Embed

end Document

end Blockwise
