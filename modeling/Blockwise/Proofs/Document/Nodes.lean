/-
  Blockwise/Proofs/Document/Nodes.lean
  ====================================
  **What building a document does to its nodes.**  A document is looked at through
  four views of an index: the block, the parent and the children of the node, and
  whether it was spliced.  Each operation is described by what it does to them, and
  those that can stop with a fault are described for the case that they do not:

    * `childrenOf_push`, `blockOf?_push`, … — one more leaf, and one more child of
      the innermost node;
    * `closeInnermost_eq_ok`, `closeAtEof_eq_ok` — some blocks have their end, and
      nothing else changes (`ClosedAlong`);
    * `splice_eq_ok` — the nodes of another document, renumbered, and its top nodes
      in place of the children of one node (`Grafted`); the numbers of their sources may
      not fit a word, and nothing else can go wrong (`splice_eq_error`).

  No later proof looks into the arrays again.
-/
import Blockwise.Document.Basic
import Mathlib.Data.List.Nodup

namespace Blockwise

/-! ### Results that are not faults -/

/-- A sequence of two steps gives a result exactly when both do. -/
theorem bind_eq_ok_iff {ε α β : Type} {first : Except ε α} {next : α → Except ε β} {b : β} :
    first >>= next = .ok b ↔ ∃ a, first = .ok a ∧ next a = .ok b := by
  cases first with
  | error cause =>
    constructor
    · intro h
      cases h
    · rintro ⟨a, ha, _⟩
      cases ha
  | ok a =>
    constructor
    · intro h
      exact ⟨a, rfl, h⟩
    · rintro ⟨a', ha, h⟩
      cases ha
      exact h

theorem map_eq_ok_iff {ε α β : Type} {first : Except ε α} {f : α → β} {b : β} :
    first.map f = .ok b ↔ ∃ a, first = .ok a ∧ f a = b := by
  cases first with
  | error cause => simp [Except.map]
  | ok a => simp [Except.map]

theorem exists_eq_ok {ε α : Type} {result : Except ε α} (h : result.isOk = true) :
    ∃ a, result = .ok a := by
  cases result with
  | error cause => cases h
  | ok a => exact ⟨a, rfl⟩

theorem eq_ok_of_toOption {ε α : Type} {result : Except ε α} {a : α}
    (h : result.toOption = some a) : result = .ok a := by
  cases result with
  | error cause => cases h
  | ok b =>
    cases h
    rfl

theorem exists_bind_ok {ε α β : Type} {first : Except ε α} {next : α → Except ε β}
    (h : ∃ a, first = .ok a) (hnext : ∀ a, first = .ok a → ∃ b, next a = .ok b) :
    ∃ b, first >>= next = .ok b := by
  obtain ⟨a, rfl⟩ := h
  exact hnext a rfl

theorem mapM_eq_error {ε α β : Type} {f : α → Except ε β} {xs : List α} {cause : ε}
    (h : xs.mapM f = .error cause) : ∃ x ∈ xs, f x = .error cause := by
  induction xs with
  | nil => cases h
  | cons x xs ih =>
    rw [List.mapM_cons] at h
    rcases hfirst : f x with why | y
    · rw [hfirst] at h
      cases h
      exact ⟨x, List.mem_cons_self .., hfirst⟩
    · rw [hfirst] at h
      rcases hrest : xs.mapM f with why | ys
      · rw [hrest] at h
        cases h
        obtain ⟨z, hz, hfz⟩ := ih hrest
        exact ⟨z, List.mem_cons_of_mem _ hz, hfz⟩
      · rw [hrest] at h
        cases h

theorem exists_mapM_ok {ε α β : Type} {f : α → Except ε β} {xs : List α}
    (h : ∀ x ∈ xs, ∃ y, f x = .ok y) : ∃ ys, xs.mapM f = .ok ys := by
  rcases hxs : xs.mapM f with cause | ys
  · obtain ⟨x, hx, hcause⟩ := mapM_eq_error hxs
    obtain ⟨y, hy⟩ := h x hx
    cases hy.symm.trans hcause
  · exact ⟨ys, rfl⟩

theorem mapM_eq_ok {ε α β : Type} {f : α → Except ε β} {xs : List α} {ys : List β}
    (h : xs.mapM f = .ok ys) : ∀ x ∈ xs, ∃ y, f x = .ok y := by
  induction xs generalizing ys with
  | nil => simp
  | cons x xs ih =>
    rw [List.mapM_cons] at h
    obtain ⟨y, hy, hrest⟩ := bind_eq_ok_iff.1 h
    obtain ⟨ys', hys, -⟩ := bind_eq_ok_iff.1 hrest
    exact List.forall_mem_cons.2 ⟨⟨y, hy⟩, ih hys⟩

/-- If every result of `f` is the value of a total function, then so is a list of them. -/
theorem mapM_eq_map_of_ok {ε α β : Type} {f : α → Except ε β} {g : α → β}
    (h : ∀ a b, f a = .ok b → b = g a) {xs : List α} {ys : List β}
    (hxs : xs.mapM f = .ok ys) : ys = xs.map g := by
  induction xs generalizing ys with
  | nil =>
    cases hxs
    rfl
  | cons x xs ih =>
    rw [List.mapM_cons] at hxs
    obtain ⟨y, hy, hrest⟩ := bind_eq_ok_iff.1 hxs
    obtain ⟨ys', hys, hret⟩ := bind_eq_ok_iff.1 hrest
    cases hret
    rw [List.map_cons, h x y hy, ih hys]

theorem addOffsets_eq_ok_iff {a b c : Nat} :
    addOffsets a b = .ok c ↔ a + b < offsetLimit ∧ c = a + b := by
  unfold addOffsets
  split
  · next h => simp [h, eq_comm]
  · next h => simp [h]

/-! ### Blocks -/

namespace Block

/-- The block with its end: a marker of `markerLen` bytes at `pos`. -/
def closedAt (block : Block) (pos markerLen : Nat) : Block :=
  { block with stop := some (pos + markerLen), closeLen := markerLen }

/-- The block as part of a document that has `shift` sources before its own. -/
def shifted (shift : Nat) (block : Block) : Block :=
  { block with source := block.source + shift }

theorem close_eq_ok {block closed : Block} {pos markerLen : Nat}
    (h : block.close pos markerLen = .ok closed) :
    block.start ≤ pos ∧ closed = block.closedAt pos markerLen := by
  unfold close at h
  by_cases hlt : pos < block.start
  · simp [hlt, throw, throwThe, MonadExceptOf.throw, bind, Except.bind] at h
  · rw [if_neg hlt] at h
    obtain ⟨stop, hstop, hret⟩ := bind_eq_ok_iff.1 h
    obtain ⟨-, rfl⟩ := addOffsets_eq_ok_iff.1 hstop
    cases hret
    exact ⟨Nat.le_of_not_lt hlt, rfl⟩

end Block

/-- The node with the end of its block. -/
def Node.closedAt (node : Node) (pos markerLen : Nat) : Node :=
  { node with block := node.block.map (·.closedAt pos markerLen) }

/-- The node behind `count` others, in a document with `shift` sources before its
    own; the children of its root go below `target`. -/
def Node.moved (count shift target : Nat) (node : Node) : Node :=
  { node with
    block := node.block.map (Block.shifted shift)
    parent := node.parent.map fun id =>
      if id = Document.root then target else Document.landing count id
    children := node.children.map (Document.landing count) }

namespace Document

/-! ### Views of a node -/

def childrenOf (doc : Document) (id : Nat) : List Nat :=
  (doc.nodes[id]?.map fun node => node.children.toList).getD []

def blockOf? (doc : Document) (id : Nat) : Option Block := doc.nodes[id]?.bind Node.block

def parentOf? (doc : Document) (id : Nat) : Option Nat := doc.nodes[id]?.bind Node.parent

def splicedAt (doc : Document) (id : Nat) : Bool := (doc.nodes[id]?.map Node.spliced).getD false

theorem lt_size_of_child {doc : Document} {id c : Nat} (h : c ∈ doc.childrenOf id) :
    id < doc.nodes.size := by
  by_contra hle
  rw [childrenOf, Array.getElem?_eq_none (Nat.le_of_not_lt hle)] at h
  cases h

theorem lt_size_of_block {doc : Document} {id : Nat} {block : Block}
    (h : doc.blockOf? id = some block) : id < doc.nodes.size := by
  by_contra hle
  rw [blockOf?, Array.getElem?_eq_none (Nat.le_of_not_lt hle)] at h
  cases h

theorem exists_node {doc : Document} {id : Nat} (hid : id < doc.nodes.size) :
    ∃ node, doc.node id = .ok node ∧ node.block = doc.blockOf? id ∧
      node.parent = doc.parentOf? id ∧ node.spliced = doc.splicedAt id ∧
      node.children.toList = doc.childrenOf id := by
  have hlookup := Array.getElem?_eq_getElem hid
  refine ⟨doc.nodes[id], by rw [node, hlookup], ?_, ?_, ?_, ?_⟩
  · rw [blockOf?, hlookup, Option.bind_some]
  · rw [parentOf?, hlookup, Option.bind_some]
  · rw [splicedAt, hlookup]
    rfl
  · rw [childrenOf, hlookup]
    rfl

/-! ### Opening a block -/

theorem nodes_push (doc : Document) (block : Block) (h : doc.innermost < doc.nodes.size)
    (id : Nat) :
    (doc.push block).nodes[id]? =
      if id = doc.nodes.size then some (.leaf (some block) (some doc.innermost))
      else doc.nodes[id]?.map fun node =>
        if id = doc.innermost then node.addChild doc.nodes.size else node := by
  obtain ⟨sources, nodes, openBlocks⟩ := doc
  simp only [push, Array.getElem?_modify, Array.getElem?_push]
  grind

@[simp]
theorem sources_push (doc : Document) (block : Block) : (doc.push block).sources = doc.sources :=
  rfl

@[simp]
theorem openBlocks_push (doc : Document) (block : Block) :
    (doc.push block).openBlocks = doc.nodes.size :: doc.openBlocks := rfl

@[simp]
theorem innermost_push (doc : Document) (block : Block) :
    (doc.push block).innermost = doc.nodes.size := rfl

@[simp]
theorem size_push (doc : Document) (block : Block) :
    (doc.push block).nodes.size = doc.nodes.size + 1 := by
  simp [push]

section Push

variable {doc : Document} (block : Block) (h : doc.innermost < doc.nodes.size) (id : Nat)
include h

theorem childrenOf_push :
    (doc.push block).childrenOf id =
      if id = doc.innermost then doc.childrenOf id ++ [doc.nodes.size]
      else doc.childrenOf id := by
  unfold childrenOf
  rw [nodes_push doc block h]
  by_cases hnew : id = doc.nodes.size
  · have hne : id ≠ doc.innermost := by omega
    simp [hnew, hnew ▸ hne, Node.leaf]
  · by_cases hin : id = doc.innermost
    · rw [if_neg hnew, if_pos hin, hin, Array.getElem?_eq_getElem h]
      simp [Node.addChild]
    · simp [hnew, hin]

theorem blockOf?_push :
    (doc.push block).blockOf? id =
      if id = doc.nodes.size then some block else doc.blockOf? id := by
  unfold blockOf?
  rw [nodes_push doc block h]
  by_cases hnew : id = doc.nodes.size
  · simp [hnew, Node.leaf]
  · rw [if_neg hnew, if_neg hnew]
    rcases doc.nodes[id]? with _ | node
    · rfl
    · by_cases hin : id = doc.innermost <;> simp [hin, Node.addChild]

theorem parentOf?_push :
    (doc.push block).parentOf? id =
      if id = doc.nodes.size then some doc.innermost else doc.parentOf? id := by
  unfold parentOf?
  rw [nodes_push doc block h]
  by_cases hnew : id = doc.nodes.size
  · simp [hnew, Node.leaf]
  · rw [if_neg hnew, if_neg hnew]
    rcases doc.nodes[id]? with _ | node
    · rfl
    · by_cases hin : id = doc.innermost <;> simp [hin, Node.addChild]

theorem splicedAt_push : (doc.push block).splicedAt id = doc.splicedAt id := by
  unfold splicedAt
  rw [nodes_push doc block h]
  by_cases hnew : id = doc.nodes.size
  · simp [hnew, Node.leaf]
  · rw [if_neg hnew]
    rcases doc.nodes[id]? with _ | node
    · rfl
    · by_cases hin : id = doc.innermost <;> simp [hin, Node.addChild]

end Push

/-! ### Closing blocks -/

/-- The nodes of the list `ids` have their end; the others are as they were. -/
def ClosedAlong (doc doc' : Document) (ids : List Nat) (pos markerLen : Nat) : Prop :=
  ∀ j, doc'.nodes[j]? = doc.nodes[j]?.map fun node =>
    if j ∈ ids then node.closedAt pos markerLen else node

namespace ClosedAlong

variable {doc doc' : Document} {ids : List Nat} {pos markerLen : Nat}
  (h : doc.ClosedAlong doc' ids pos markerLen)
include h

theorem size_eq : doc'.nodes.size = doc.nodes.size := by
  have hnone : ∀ j, doc'.nodes.size ≤ j ↔ doc.nodes.size ≤ j := by
    intro j
    rw [← Array.getElem?_eq_none_iff, ← Array.getElem?_eq_none_iff, h j, Option.map_eq_none_iff]
  have h1 := (hnone doc.nodes.size).2 (Nat.le_refl _)
  have h2 := (hnone doc'.nodes.size).1 (Nat.le_refl _)
  omega

theorem childrenOf (id : Nat) : doc'.childrenOf id = doc.childrenOf id := by
  unfold Document.childrenOf
  rw [h id, Option.map_map]
  congr 2
  funext node
  by_cases hid : id ∈ ids <;> simp [hid, Node.closedAt]

theorem blockOf? (id : Nat) :
    doc'.blockOf? id =
      if id ∈ ids then (doc.blockOf? id).map (·.closedAt pos markerLen) else doc.blockOf? id := by
  unfold Document.blockOf?
  rw [h id]
  rcases doc.nodes[id]? with _ | node
  · simp
  · by_cases hid : id ∈ ids <;> simp [hid, Node.closedAt]

theorem parentOf? (id : Nat) : doc'.parentOf? id = doc.parentOf? id := by
  unfold Document.parentOf?
  rw [h id]
  rcases doc.nodes[id]? with _ | node
  · rfl
  · by_cases hid : id ∈ ids <;> simp [hid, Node.closedAt]

theorem splicedAt (id : Nat) : doc'.splicedAt id = doc.splicedAt id := by
  unfold Document.splicedAt
  rw [h id, Option.map_map]
  congr 2
  funext node
  by_cases hid : id ∈ ids <;> simp [hid, Node.closedAt]

end ClosedAlong

theorem closeNode_eq_ok {doc doc' : Document} {id pos markerLen : Nat}
    (h : doc.closeNode id pos markerLen = .ok doc') :
    doc'.sources = doc.sources ∧ doc'.openBlocks = doc.openBlocks ∧
      doc.ClosedAlong doc' [id] pos markerLen ∧
      ∀ block ∈ doc.blockOf? id, block.start ≤ pos := by
  obtain ⟨node, hnode, hrest⟩ := bind_eq_ok_iff.1 h
  have hlookup : doc.nodes[id]? = some node := by
    unfold Document.node at hnode
    split at hnode <;> simp_all
  cases hblock : node.block with
  | none =>
    rw [hblock] at hrest
    cases hrest
    have hself : node.closedAt pos markerLen = node := by
      obtain ⟨block, parent, children, spliced⟩ := node
      cases hblock
      rfl
    refine ⟨rfl, rfl, ?_, ?_⟩
    · intro j
      by_cases hj : j = id
      · rw [hj, hlookup, Option.map_some, if_pos (List.mem_singleton.2 rfl), hself]
      · simp [hj]
    · simp [blockOf?, hlookup, hblock]
  | some block =>
    rw [hblock] at hrest
    obtain ⟨closed, hclosed, hret⟩ := bind_eq_ok_iff.1 hrest
    obtain ⟨hstart, rfl⟩ := Block.close_eq_ok hclosed
    cases hret
    obtain ⟨hlt, -⟩ := Array.getElem?_eq_some_iff.1 hlookup
    refine ⟨rfl, rfl, ?_, ?_⟩
    · intro j
      simp only [setNode, Array.getElem?_setIfInBounds, List.mem_singleton]
      by_cases hj : j = id
      · rw [hj, hlookup, if_pos rfl, if_pos hlt, Option.map_some, if_pos rfl]
        simp [Node.closedAt, hblock]
      · simp [hj, Ne.symm hj]
    · simpa [blockOf?, hlookup, hblock] using hstart

/-- Closing the innermost open block changes that block and the stack. -/
theorem closeInnermost_eq_ok {doc doc' : Document} {id pos markerLen : Nat} {outer : List Nat}
    (hopen : doc.openBlocks = id :: outer) (h : doc.closeInnermost pos markerLen = .ok doc') :
    doc'.sources = doc.sources ∧ doc'.openBlocks = outer ∧
      doc.ClosedAlong doc' [id] pos markerLen ∧
      ∀ block ∈ doc.blockOf? id, block.start ≤ pos := by
  obtain ⟨sources, nodes, openBlocks⟩ := doc
  cases hopen
  exact closeNode_eq_ok h

theorem openBlocks_closeInnermost {doc doc' : Document} {pos markerLen : Nat}
    (h : doc.closeInnermost pos markerLen = .ok doc') :
    doc'.openBlocks = doc.openBlocks.tail := by
  obtain ⟨sources, nodes, openBlocks⟩ := doc
  cases openBlocks with
  | nil =>
    cases h
    rfl
  | cons id outer => exact (closeInnermost_eq_ok rfl h).2.1

/-- The end of input closes an initial part of the list, up to the first node that
    it may not close. -/
theorem closeWhile_eq_ok {doc doc' : Document} {stop : Nat} {ids blocked : List Nat}
    (h : doc.closeWhile stop ids = .ok (doc', blocked)) (hnodup : ids.Nodup) :
    doc'.sources = doc.sources ∧
      ∃ closed, ids = closed ++ blocked ∧ doc.ClosedAlong doc' closed stop 0 ∧
        (∀ id ∈ closed, doc.isCloseableByEof id = true) ∧
        ∀ id ∈ blocked.head?, doc.isCloseableByEof id = false := by
  induction ids generalizing doc with
  | nil =>
    cases h
    exact ⟨rfl, [], rfl, by simp [ClosedAlong], by simp, by simp⟩
  | cons id inner ih =>
    unfold closeWhile at h
    by_cases hclose : doc.isCloseableByEof id = true
    · rw [if_pos hclose] at h
      obtain ⟨mid, hmid, hrest⟩ := bind_eq_ok_iff.1 h
      obtain ⟨hsources, -, hnodes, -⟩ := closeNode_eq_ok hmid
      obtain ⟨hnotin, hinner⟩ := List.nodup_cons.1 hnodup
      obtain ⟨hsources', closed, rfl, halong, hall, hblocked⟩ := ih hrest hinner
      -- closing one node leaves open whether the others may be closed
      have hsame : ∀ j, mid.isCloseableByEof j = doc.isCloseableByEof j := by
        intro j
        simp only [isCloseableByEof, hnodes j]
        rcases doc.nodes[j]? with _ | node
        · rfl
        · by_cases hj : j = id
          · rcases hb : node.block with _ | block <;>
              simp [hj, Node.closedAt, hb, Block.closedAt]
          · simp [hj]
      refine ⟨hsources'.trans hsources, id :: closed, rfl, ?_, ?_, ?_⟩
      · intro j
        rw [halong j, hnodes j, Option.map_map]
        congr 1
        funext node
        by_cases hj : j = id
        · subst hj
          have : j ∉ closed := fun hmem => hnotin (List.mem_append_left _ hmem)
          simp [this]
        · simp [hj]
      · intro j hj
        rcases List.mem_cons.1 hj with rfl | hj
        · exact hclose
        · rw [← hsame]
          exact hall j hj
      · intro j hj
        rw [← hsame]
        exact hblocked j hj
    · rw [if_neg hclose] at h
      cases h
      refine ⟨rfl, [], rfl, by simp [ClosedAlong], by simp, ?_⟩
      intro j hj
      simp only [List.head?_cons, Option.mem_def, Option.some.injEq] at hj
      subst hj
      simpa using hclose

/-- At the end of input the outer open blocks are closed, as far as that is
    allowed; the others stay open. -/
theorem closeAtEof_eq_ok {doc doc' : Document} {blocked : Option Nat}
    (h : doc.closeAtEof = .ok (doc', blocked)) (hnodup : doc.openBlocks.Nodup) :
    doc'.sources = doc.sources ∧
      ∃ closed left, doc.openBlocks.reverse = closed ++ left ∧ doc'.openBlocks = left.reverse ∧
        blocked = left.head? ∧ doc.ClosedAlong doc' closed doc.text.byteLen 0 ∧
        (∀ id ∈ closed, doc.isCloseableByEof id = true) ∧
        ∀ id ∈ left.head?, doc.isCloseableByEof id = false := by
  obtain ⟨⟨mid, left⟩, hmid, hret⟩ := bind_eq_ok_iff.1 h
  cases hret
  obtain ⟨hsources, closed, heq, halong, hall, hleft⟩ :=
    closeWhile_eq_ok hmid (List.nodup_reverse.2 hnodup)
  exact ⟨hsources, closed, left, heq, rfl, rfl, halong, hall, hleft⟩

/-! ### Splicing -/

/-- The document `doc'` is `doc` with the top nodes of `sub` in place of the
    children of `target`. -/
structure Grafted (doc sub doc' : Document) (target : Nat) : Prop where
  sources : doc'.sources = doc.sources ++ sub.sources
  openBlocks : doc'.openBlocks = doc.openBlocks
  size : doc'.nodes.size = doc.nodes.size + (sub.nodes.size - 1)
  childrenOf : ∀ j < doc.nodes.size, doc'.childrenOf j =
    if j = target then (sub.childrenOf root).map (landing doc.nodes.size) else doc.childrenOf j
  blockOf? : ∀ j < doc.nodes.size, doc'.blockOf? j = doc.blockOf? j
  parentOf? : ∀ j < doc.nodes.size, doc'.parentOf? j =
    if j ∈ doc.childrenOf target then none else doc.parentOf? j
  splicedAt : ∀ j < doc.nodes.size, doc'.splicedAt j = (decide (j = target) || doc.splicedAt j)
  childrenOf_new : ∀ i, doc'.childrenOf (doc.nodes.size + i) =
    (sub.childrenOf (i + 1)).map (landing doc.nodes.size)
  blockOf?_new : ∀ i, doc'.blockOf? (doc.nodes.size + i) =
    (sub.blockOf? (i + 1)).map (Block.shifted doc.sources.size)
  parentOf?_new : ∀ i, doc'.parentOf? (doc.nodes.size + i) =
    (sub.parentOf? (i + 1)).map fun id =>
      if id = root then target else landing doc.nodes.size id
  splicedAt_new : ∀ i, doc'.splicedAt (doc.nodes.size + i) = sub.splicedAt (i + 1)

theorem transplant_eq_ok {count shift target : Nat} {node moved : Node}
    (h : transplant count shift target node = .ok moved) :
    moved = node.moved count shift target := by
  unfold transplant at h
  unfold Node.moved
  rcases hblock : node.block with _ | old
  · rw [hblock] at h
    cases h
    rfl
  · rw [hblock] at h
    obtain ⟨block, hmap, hret⟩ := bind_eq_ok_iff.1 h
    obtain ⟨new, hnew, rfl⟩ := map_eq_ok_iff.1 hmap
    obtain ⟨source, hsource, rfl⟩ := map_eq_ok_iff.1 hnew
    obtain ⟨-, rfl⟩ := addOffsets_eq_ok_iff.1 hsource
    cases hret
    rfl

theorem getElem?_foldl_detach (ids : List Nat) (nodes : Array Node) (j : Nat) :
    (ids.foldl (fun nodes id => nodes.modify id Node.detach) nodes)[j]? =
      nodes[j]?.map fun node => if j ∈ ids then node.detach else node := by
  induction ids generalizing nodes with
  | nil => simp
  | cons id ids ih =>
    rw [List.foldl_cons, ih, Array.getElem?_modify]
    rcases nodes[j]? with _ | node
    · simp
    · by_cases hj : j = id
      · subst hj
        by_cases hmem : j ∈ ids <;> simp [hmem, Node.detach]
      · simp [hj, Ne.symm hj]

theorem size_foldl_detach (ids : List Nat) (nodes : Array Node) :
    (ids.foldl (fun nodes id => nodes.modify id Node.detach) nodes).size = nodes.size := by
  induction ids generalizing nodes with
  | nil => rfl
  | cons id ids ih => rw [List.foldl_cons, ih, Array.size_modify]

theorem nodes_splice {doc sub doc' : Document} {target : Nat} {node top : Node}
    (h : doc.splice target sub = .ok doc') (hnode : doc.nodes[target]? = some node)
    (htop : sub.nodes[0]? = some top)
    (hold : ∀ id ∈ node.children.toList, target < id ∧ id < doc.nodes.size) :
    doc'.sources = doc.sources ++ sub.sources ∧ doc'.openBlocks = doc.openBlocks ∧
      doc'.nodes.size = doc.nodes.size + (sub.nodes.size - 1) ∧
      (∀ j < doc.nodes.size, doc'.nodes[j]? = doc.nodes[j]?.map fun old =>
        if j = target then
          { old with children := top.children.map (landing doc.nodes.size), spliced := true }
        else if j ∈ node.children.toList then old.detach
        else old) ∧
      ∀ i, doc'.nodes[doc.nodes.size + i]? =
        sub.nodes[i + 1]?.map (Node.moved doc.nodes.size doc.sources.size target) := by
  unfold splice at h
  simp only [htop] at h
  obtain ⟨moved, hmoved, hrest⟩ := bind_eq_ok_iff.1 h
  have hmap := mapM_eq_map_of_ok (fun _ _ => transplant_eq_ok) hmoved
  obtain ⟨htarget, -⟩ := Array.getElem?_eq_some_iff.1 hnode
  have hfound : (doc.nodes ++ moved.toArray)[target]? = some node := by
    rw [Array.getElem?_append_left htarget, hnode]
  rw [hfound] at hrest
  cases hrest
  have hself : target ∉ node.children.toList := fun hmem => Nat.lt_irrefl _ (hold _ hmem).1
  have hlookup : ∀ j, (Array.modify
      (node.children.foldl (fun nodes id => nodes.modify id Node.detach)
        (doc.nodes ++ moved.toArray)) target
      fun old => { old with
        children := top.children.map (landing doc.nodes.size), spliced := true })[j]? =
      (doc.nodes ++ moved.toArray)[j]?.map fun old =>
        if j = target then
          { old with children := top.children.map (landing doc.nodes.size), spliced := true }
        else if j ∈ node.children.toList then old.detach
        else old := by
    intro j
    rw [Array.getElem?_modify, ← Array.foldl_toList, getElem?_foldl_detach]
    by_cases hj : j = target
    · subst hj
      rcases (doc.nodes ++ moved.toArray)[j]? with _ | old <;> simp [hself]
    · simp [hj, Ne.symm hj]
  refine ⟨rfl, rfl, ?_, ?_, ?_⟩
  · rw [Array.size_modify, ← Array.foldl_toList, size_foldl_detach, hmap]
    simp
  · intro j hj
    rw [hlookup, Array.getElem?_append_left hj]
  · intro i
    have hne : doc.nodes.size + i ≠ target := by omega
    have hnotold : doc.nodes.size + i ∉ node.children.toList := fun hmem =>
      absurd (hold _ hmem).2 (by omega)
    rw [hlookup, Array.getElem?_append_right (by omega), Nat.add_sub_cancel_left, hmap]
    simp only [if_neg hne, if_neg hnotold, Option.map_id_fun', List.getElem?_toArray,
      List.getElem?_map, List.getElem?_drop, Array.getElem?_toList, id_eq, Nat.add_comm 1 i]

/-- Splicing appends the sources and leaves the stack as it is. -/
theorem frame_splice {doc sub doc' : Document} {target : Nat}
    (h : doc.splice target sub = .ok doc') :
    doc'.sources = doc.sources ++ sub.sources ∧ doc'.openBlocks = doc.openBlocks := by
  unfold splice at h
  obtain ⟨moved, -, hrest⟩ := bind_eq_ok_iff.1 h
  rcases hnode : (doc.nodes ++ moved.toArray)[target]? with _ | node
  · simp only [hnode] at hrest
    cases hrest
  · simp only [hnode] at hrest
    cases hrest
    exact ⟨rfl, rfl⟩

/-- Splicing is grafting, provided that the children of `target` come after it. -/
theorem splice_eq_ok {doc sub doc' : Document} {target : Nat}
    (h : doc.splice target sub = .ok doc') (htarget : target < doc.nodes.size)
    (hsub : 0 < sub.nodes.size)
    (hold : ∀ id ∈ doc.childrenOf target, target < id ∧ id < doc.nodes.size) :
    doc.Grafted sub doc' target := by
  obtain ⟨node, hnode⟩ : ∃ node, doc.nodes[target]? = some node :=
    ⟨_, Array.getElem?_eq_getElem htarget⟩
  obtain ⟨top, htop⟩ : ∃ top, sub.nodes[0]? = some top := ⟨_, Array.getElem?_eq_getElem hsub⟩
  have hchildren : doc.childrenOf target = node.children.toList := by simp [childrenOf, hnode]
  rw [hchildren] at hold
  obtain ⟨hsources, hopen, hsize, hleft, hright⟩ := nodes_splice h hnode htop hold
  have hself : target ∉ node.children.toList := fun hmem => Nat.lt_irrefl _ (hold _ hmem).1
  refine ⟨hsources, hopen, hsize, ?_, ?_, ?_, ?_, ?_, ?_, ?_, ?_⟩
  · intro j hj
    unfold childrenOf
    rw [hleft j hj, Array.getElem?_eq_getElem hj]
    by_cases hj' : j = target
    · simp [hj', root, htop]
    · by_cases hmem : j ∈ node.children.toList <;> simp [hj', hmem, Node.detach]
  · intro j hj
    unfold blockOf?
    rw [hleft j hj, Array.getElem?_eq_getElem hj]
    by_cases hj' : j = target
    · simp [hj']
    · by_cases hmem : j ∈ node.children.toList <;> simp [hj', hmem, Node.detach]
  · intro j hj
    rw [hchildren]
    unfold parentOf?
    rw [hleft j hj, Array.getElem?_eq_getElem hj]
    by_cases hj' : j = target
    · simp [hj', hself]
    · by_cases hmem : j ∈ node.children.toList <;> simp [hj', hmem, Node.detach]
  · intro j hj
    unfold splicedAt
    rw [hleft j hj, Array.getElem?_eq_getElem hj]
    by_cases hj' : j = target
    · simp [hj']
    · by_cases hmem : j ∈ node.children.toList <;> simp [hj', hmem, Node.detach]
  · intro i
    rcases hi : sub.nodes[i + 1]? with _ | old <;> simp [childrenOf, hright, hi, Node.moved]
  · intro i
    rcases hi : sub.nodes[i + 1]? with _ | old <;> simp [blockOf?, hright, hi, Node.moved]
  · intro i
    rcases hi : sub.nodes[i + 1]? with _ | old <;> simp [parentOf?, hright, hi, Node.moved]
  · intro i
    rcases hi : sub.nodes[i + 1]? with _ | old <;> simp [splicedAt, hright, hi, Node.moved]

theorem transplant_eq_error {count shift target : Nat} {node : Node} {fault : Fault}
    (h : transplant count shift target node = .error fault) :
    fault = .offsetOverflow ∧ ∃ block, node.block = some block ∧
      offsetLimit ≤ block.source + shift := by
  unfold transplant at h
  rcases hblock : node.block with _ | block
  · rw [hblock] at h
    cases h
  · rw [hblock] at h
    dsimp only [shiftSource, addOffsets] at h
    split at h
    · cases h
    · next hsum =>
      cases h
      exact ⟨rfl, block, rfl, Nat.not_lt.1 hsum⟩

/-- Splicing below a node fails only for want of an index for a source. -/
theorem splice_eq_error {doc sub : Document} {target : Nat} {fault : Fault}
    (htarget : target < doc.nodes.size) (h : doc.splice target sub = .error fault) :
    fault = .offsetOverflow ∧ ∃ id block, sub.blockOf? id = some block ∧
      offsetLimit ≤ block.source + doc.sources.size := by
  unfold splice at h
  rcases hmoved : (sub.nodes.toList.drop 1).mapM
      (transplant doc.nodes.size doc.sources.size target) with why | moved
  · simp only [hmoved, bind, Except.bind] at h
    cases h
    obtain ⟨node, hnode, hfault⟩ := mapM_eq_error hmoved
    obtain ⟨hwhy, block, hblock, hsum⟩ := transplant_eq_error hfault
    obtain ⟨id, hid⟩ := List.getElem?_of_mem (List.mem_of_mem_drop hnode)
    rw [Array.getElem?_toList] at hid
    refine ⟨hwhy, id, block, ?_, hsum⟩
    rw [blockOf?, hid]
    exact hblock
  · have hnode : (doc.nodes ++ moved.toArray)[target]? = some doc.nodes[target] := by
      rw [Array.getElem?_append_left htarget, Array.getElem?_eq_getElem htarget]
    simp only [hmoved, bind, Except.bind, hnode] at h
    cases h

/-- The sources of all blocks that are spliced in have got an index. -/
theorem splice_lt {doc sub doc' : Document} {target id : Nat} {block : Block} (hid : id ≠ root)
    (hblock : sub.blockOf? id = some block) (h : doc.splice target sub = .ok doc') :
    block.source + doc.sources.size < offsetLimit := by
  obtain ⟨moved, hmoved, -⟩ := bind_eq_ok_iff.1 h
  obtain ⟨i, rfl⟩ := Nat.exists_eq_succ_of_ne_zero hid
  obtain ⟨node, hnode, hhead⟩ := Option.bind_eq_some_iff.1 hblock
  have hmem : node ∈ sub.nodes.toList.drop 1 := by
    have hdrop : (sub.nodes.toList.drop 1)[i]? = some node := by
      rw [List.getElem?_drop, Nat.add_comm, Array.getElem?_toList, hnode]
    exact List.mem_of_getElem? hdrop
  obtain ⟨found, hfound⟩ := mapM_eq_ok hmoved node hmem
  unfold transplant at hfound
  rw [hhead] at hfound
  obtain ⟨_, hmap, -⟩ := bind_eq_ok_iff.1 hfound
  obtain ⟨_, hshift, -⟩ := map_eq_ok_iff.1 hmap
  obtain ⟨source, hsource, -⟩ := map_eq_ok_iff.1 hshift
  exact (addOffsets_eq_ok_iff.1 hsource).1

end Document

end Blockwise
