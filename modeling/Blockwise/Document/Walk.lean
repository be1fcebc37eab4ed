/-
  Blockwise/Document/Walk.lean
  ============================
  **Walks through a document.**  A walk visits the nodes below a start node, each
  with its distance from there: parents before their children (`Preorder`), or
  after them (`Postorder`).  A walk is a value that holds what is still to be
  visited, so it can be stopped and taken up again, any number of times.

  Every node but the root stands in the list of one parent, so a walk visits each
  node at most once; the number of nodes bounds its length.
-/
import Blockwise.Document.Basic

namespace Blockwise

/-- A visited node and its distance from the start of the walk. -/
structure Visit where
  id : Nat
  depth : Nat
deriving DecidableEq, Repr

/-! ### Parents first -/

/-- A walk that visits parents before their children. -/
structure Preorder where
  /-- What is still to be visited, with all below it, next first. -/
  pending : List Visit
deriving DecidableEq, Repr

namespace Preorder

/-- The walk from a node. -/
def start (id : Nat) : Preorder := ⟨[⟨id, 0⟩]⟩

/-- One step of the walk. -/
def next? (doc : Document) (walk : Preorder) : Except Fault (Option (Visit × Preorder)) :=
  match walk.pending with
  | [] => .ok none
  | visit :: pending => do
    let node ← doc.node visit.id
    let below := node.children.toList.map (⟨·, visit.depth + 1⟩)
    return some (visit, ⟨below ++ pending⟩)

/-- The walk after `count` more visits. -/
def skip (doc : Document) (walk : Preorder) : (count : Nat) → Except Fault Preorder
  | 0 => .ok walk
  | count + 1 => do
    match ← walk.next? doc with
    | none => return walk
    | some (_, after) => after.skip doc count

/-- At most `limit` visits of what is left of the walk. -/
def visitsWithin (doc : Document) (walk : Preorder) : (limit : Nat) → Except Fault (List Visit)
  | 0 => .ok []
  | limit + 1 => do
    match ← walk.next? doc with
    | none => return []
    | some (visit, after) => return visit :: (← after.visitsWithin doc limit)

/-- All visits that are left of the walk. -/
def visits (doc : Document) (walk : Preorder) : Except Fault (List Visit) :=
  walk.visitsWithin doc (doc.nodes.size + 1)

end Preorder

/-! ### Children first -/

/-- A node on the way of a walk that visits children first. -/
structure Stop where
  visit : Visit
  /-- The children are behind: the node itself is next. -/
  expanded : Bool
deriving DecidableEq, Repr

/-- A walk that visits children before their parent. -/
structure Postorder where
  /-- What is still to be visited, next first. -/
  pending : List Stop
deriving DecidableEq, Repr

namespace Postorder

/-- The walk from a node. -/
def start (id : Nat) : Postorder := ⟨[⟨⟨id, 0⟩, false⟩]⟩

/-- A walk goes down at most once for each node. -/
def stepLimit (doc : Document) : Nat := doc.nodes.size + 1

/-- One step of the walk, which first goes down at most `limit` levels. -/
def nextWithin (doc : Document) (walk : Postorder) :
    (limit : Nat) → Except Fault (Option (Visit × Postorder))
  | 0 => .ok none
  | limit + 1 =>
    match walk.pending with
    | [] => .ok none
    | stop :: pending => do
      let node ← doc.node stop.visit.id
      if stop.expanded || node.children.isEmpty then
        return some (stop.visit, ⟨pending⟩)
      else
        let below := node.children.toList.map fun id => Stop.mk ⟨id, stop.visit.depth + 1⟩ false
        nextWithin doc ⟨below ++ { stop with expanded := true } :: pending⟩ limit

/-- One step of the walk. -/
def next? (doc : Document) (walk : Postorder) : Except Fault (Option (Visit × Postorder)) :=
  walk.nextWithin doc (stepLimit doc)

/-- The walk after `count` more visits. -/
def skip (doc : Document) (walk : Postorder) : (count : Nat) → Except Fault Postorder
  | 0 => .ok walk
  | count + 1 => do
    match ← walk.next? doc with
    | none => return walk
    | some (_, after) => after.skip doc count

/-- At most `limit` visits of what is left of the walk. -/
def visitsWithin (doc : Document) (walk : Postorder) : (limit : Nat) → Except Fault (List Visit)
  | 0 => .ok []
  | limit + 1 => do
    match ← walk.next? doc with
    | none => return []
    | some (visit, after) => return visit :: (← after.visitsWithin doc limit)

/-- All visits that are left of the walk. -/
def visits (doc : Document) (walk : Postorder) : Except Fault (List Visit) :=
  walk.visitsWithin doc (doc.nodes.size + 1)

end Postorder

namespace Document

/-- All nodes below and including `id`, parents first. -/
def preorderFrom (doc : Document) (id : Nat) : Except Fault (List Visit) :=
  (Preorder.start id).visits doc

/-- All nodes below and including `id`, children first. -/
def postorderFrom (doc : Document) (id : Nat) : Except Fault (List Visit) :=
  (Postorder.start id).visits doc

/-- All nodes of the document, parents first. -/
def preorder (doc : Document) : Except Fault (List Visit) := doc.preorderFrom root

/-- All nodes of the document, children first. -/
def postorder (doc : Document) : Except Fault (List Visit) := doc.postorderFrom root

/-- The nodes whose block has a name, parents first. -/
def matching (doc : Document) (name : Text) : Except Fault (List Nat) := do
  let visits ← doc.preorder
  return (visits.map Visit.id).filter fun id =>
    match doc.nodes[id]?.bind Node.block with
    | some block => block.name == name
    | none => false

end Document

end Blockwise
