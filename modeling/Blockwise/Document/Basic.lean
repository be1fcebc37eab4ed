/-
  Blockwise/Document/Basic.lean
  =============================
  **The document tree.**  All nodes of a document stand in one array and refer to
  each other by index: node 0 is the root, which has no block, and every other
  node wraps a block, knows its parent and lists its children in order.  While a
  document is being built the nodes that are still open form a stack.

  A document starts with one source text.  Splicing the document of an included
  file below a node brings in that file's nodes and sources, renumbered, so every
  block keeps pointing at the text it was found in.
-/
import Blockwise.Block

namespace Blockwise

/-- A text that blocks point into, and the file it came from. -/
structure Source where
  path : Option Path
  text : Text
deriving Repr

/-- One node of a document. -/
structure Node where
  /-- The block; the root has none. -/
  block : Option Block
  parent : Option Nat
  children : Array Nat
  /-- The children came from an included file. -/
  spliced : Bool

namespace Node

/-- A node without children. -/
def leaf (block : Option Block) (parent : Option Nat) : Node := ⟨block, parent, #[], false⟩

/-- The node has no children. -/
def isChildless (node : Node) : Bool := node.children.isEmpty

/-- The node with one more child at the end. -/
def addChild (node : Node) (id : Nat) : Node := { node with children := node.children.push id }

/-- The node without a parent. -/
def detach (node : Node) : Node := { node with parent := none }

end Node

/-- Nodes, sources and the stack of open nodes. -/
structure Document where
  sources : Array Source
  nodes : Array Node
  /-- The open nodes below the root, innermost first. -/
  openBlocks : List Nat

namespace Document

/-- The document of a source in which nothing has been found yet. -/
def ofSource (source : Source) : Document := ⟨#[source], #[.leaf none none], []⟩

/-- Index of the root. -/
def root : Nat := 0

/-! ### Reading -/

/-- The node with an index. -/
def node (doc : Document) (id : Nat) : Except Fault Node :=
  match doc.nodes[id]? with
  | some node => .ok node
  | none => .error (.noSuchNode id)

/-- The block of a node. -/
def block? (doc : Document) (id : Nat) : Except Fault (Option Block) :=
  (doc.node id).map Node.block

/-- The source with an index. -/
def source (doc : Document) (id : Nat) : Except Fault Source :=
  match doc.sources[id]? with
  | some source => .ok source
  | none => .error (.noSuchSource id)

/-- The text that a block was found in. -/
def textOf (doc : Document) (block : Block) : Except Fault Text :=
  (doc.source block.source).map Source.text

/-- The source that the document was made from. -/
def mainSource (doc : Document) : Source := doc.sources[0]?.getD ⟨none, []⟩

/-- The text that the document was made from. -/
def text (doc : Document) : Text := doc.mainSource.text

/-- The open nodes from the root inwards. -/
def openNodes (doc : Document) : List Nat := root :: doc.openBlocks.reverse

/-- The innermost open node; `none` if only the root is open. -/
def active? (doc : Document) : Option Nat := doc.openBlocks.head?

/-- The innermost open node, the root if no other is open. -/
def innermost (doc : Document) : Nat := doc.active?.getD root

/-- The block of the innermost open node. -/
def activeBlock? (doc : Document) : Option Block :=
  doc.active?.bind fun id => doc.nodes[id]?.bind Node.block

/-! ### Building -/

/-- Opens a block as the last child of the innermost open node.  Its index is
    the number of nodes before. -/
def push (doc : Document) (block : Block) : Document :=
  let parent := doc.innermost
  let ⟨sources, nodes, openBlocks⟩ := doc
  let id := nodes.size
  ⟨sources, (nodes.push (.leaf (some block) (some parent))).modify parent (·.addChild id),
    id :: openBlocks⟩

/-- The document with another node at an index. -/
def setNode (doc : Document) (id : Nat) (node : Node) : Document :=
  let ⟨sources, nodes, openBlocks⟩ := doc
  ⟨sources, nodes.setIfInBounds id node, openBlocks⟩

/-- Closes the block of a node with a marker of `markerLen` bytes at `pos`. -/
def closeNode (doc : Document) (id pos markerLen : Nat) : Except Fault Document := do
  let node ← doc.node id
  match node.block with
  | none => return doc
  | some block =>
    let closed ← block.close pos markerLen
    return doc.setNode id { node with block := some closed }

/-- Closes the innermost open block; does nothing if only the root is open. -/
def closeInnermost (doc : Document) (pos markerLen : Nat) : Except Fault Document :=
  let ⟨sources, nodes, openBlocks⟩ := doc
  match openBlocks with
  | [] => .ok ⟨sources, nodes, []⟩
  | id :: outer => closeNode ⟨sources, nodes, outer⟩ id pos markerLen

/-- Closes the innermost open block and tells its index; `none` if only the root is open. -/
def close (doc : Document) (pos markerLen : Nat) : Except Fault (Document × Option Nat) :=
  let id := doc.active?
  (doc.closeInnermost pos markerLen).map fun closed => (closed, id)

/-- The block of a node may be closed because the input ends. -/
def isCloseableByEof (doc : Document) (id : Nat) : Bool :=
  match doc.nodes[id]?.bind Node.block with
  | some block => block.type.flags.closeableByEof
  | none => false

/-- Closes nodes, outermost first, at `stop`, as long as the end of input may
    close them.  Answers with the nodes that stay open. -/
def closeWhile (doc : Document) (stop : Nat) : List Nat → Except Fault (Document × List Nat)
  | [] => .ok (doc, [])
  | id :: inner =>
    if doc.isCloseableByEof id then do
      let closed ← doc.closeNode id stop 0
      closed.closeWhile stop inner
    else .ok (doc, id :: inner)

/-- Closes all open blocks at the end of the main text, outermost first.  Stops
    at the first one that the end of input may not close and tells its index;
    that one and all inside it stay open. -/
def closeAtEof (doc : Document) : Except Fault (Document × Option Nat) := do
  let (closed, blocked) ← doc.closeWhile doc.text.byteLen doc.openBlocks.reverse
  return ({ closed with openBlocks := blocked.reverse }, blocked.head?)

/-! ### Splicing -/

/-- A block whose source index is shifted by `shift`. -/
def shiftSource (shift : Nat) (block : Block) : Except Fault Block :=
  (addOffsets block.source shift).map fun source => { block with source }

/-- Where node `id` of a spliced document lands, behind `count` nodes: the root is dropped. -/
def landing (count id : Nat) : Nat := count + id - 1

/-- A node of a spliced document, renumbered; children of its root go below `target`. -/
def transplant (count shift target : Nat) (node : Node) : Except Fault Node := do
  let block ← match node.block with
    | some block => (shiftSource shift block).map some
    | none => .ok none
  return { node with
    block
    parent := node.parent.map fun id => if id = root then target else landing count id
    children := node.children.map (landing count) }

/-- Replaces the children of `target` by those of another document's root.  The
    nodes and sources of that document are appended first, so that `target` may
    also be one of them; the old children stay behind without a parent. -/
def splice (doc : Document) (target : Nat) (sub : Document) : Except Fault Document := do
  let count := doc.nodes.size
  let children := match sub.nodes[0]? with
    | some top => top.children.map (landing count)
    | none => #[]
  let moved ← (sub.nodes.toList.drop 1).mapM (transplant count doc.sources.size target)
  let nodes := doc.nodes ++ moved.toArray
  match nodes[target]? with
  | none => .error (.noSuchNode target)
  | some node =>
    let detached := node.children.foldl (fun nodes id => nodes.modify id Node.detach) nodes
    return { doc with
      sources := doc.sources ++ sub.sources
      nodes := detached.modify target fun node => { node with children, spliced := true } }

end Document

end Blockwise
