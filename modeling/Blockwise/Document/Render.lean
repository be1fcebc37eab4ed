/-
  Blockwise/Document/Render.lean
  ==============================
  **Rendering.**  A node renders as its block around the rendered text of its
  children; the root renders as its children alone.  The walk that visits
  children first is followed once, with the finished texts of each level kept
  apart, so that nesting costs no call depth.
-/
import Blockwise.Document.Walk

namespace Blockwise

/-- Finished texts by depth, the latest first on each level. -/
structure Levels where
  texts : Array (List Text)

namespace Levels

/-- Nothing is finished yet. -/
def empty : Levels := ⟨#[]⟩

/-- Texts, the latest first, put together in order.  A single one is not copied. -/
def join : List Text → Text
  | [] => []
  | [text] => text
  | texts => texts.reverse.flatten

theorem join_eq (texts : List Text) : join texts = texts.reverse.flatten := by
  cases texts with
  | nil => rfl
  | cons text texts => cases texts <;> simp [join]

/-- The texts of a level in order, put together. -/
def concat (levels : Levels) (depth : Nat) : Text := join (levels.texts[depth]?.getD [])

/-- The levels with `depth + 2` of them at least. -/
def grow (levels : Levels) (depth : Nat) : Levels :=
  ⟨levels.texts ++ Array.replicate (depth + 2 - levels.texts.size) []⟩

/-- Empties the level below `depth` and puts a finished text on level `depth`. -/
def finish (levels : Levels) (depth : Nat) (text : Text) : Levels :=
  ⟨((levels.grow depth).texts.modify (depth + 1) fun _ => []).modify depth (text :: ·)⟩

end Levels

namespace Document

/-- Renders a node around the text of its children. -/
def compose (doc : Document) (id : Nat) (children : Text) : Except Fault Text := do
  let node ← doc.node id
  match node.block with
  | none => return children
  | some block =>
    let text ← doc.textOf block
    if node.isChildless && !node.spliced then block.render text none
    else block.render text (some children)

/-- One visit of the rendering walk. -/
def renderVisit (doc : Document) (levels : Levels) (visit : Visit) : Except Fault Levels := do
  let text ← doc.compose visit.id (levels.concat (visit.depth + 1))
  return levels.finish visit.depth text

/-- Renders a node with all below it. -/
def renderNode (doc : Document) (id : Nat) : Except Fault Text := do
  let visits ← doc.postorderFrom id
  let levels ← visits.foldlM doc.renderVisit .empty
  return levels.concat 0

/-- Renders the whole document. -/
def render (doc : Document) : Except Fault Text := doc.renderNode root

/-- The children of a node, rendered one after the other. -/
def renderChildren (doc : Document) (id : Nat) : Except Fault Text := do
  let node ← doc.node id
  let texts ← node.children.toList.mapM doc.renderNode
  return texts.flatten

/-- The text inside a block: its rendered children, or the source between its
    markers if it has none, which is empty while the block is open. -/
def innerText (doc : Document) (id : Nat) : Except Fault Text := do
  let node ← doc.node id
  match node.block with
  | none => doc.renderChildren id
  | some block =>
    if node.isChildless then
      match ← block.bodySpan? with
      | none => return []
      | some span => span.slice (← doc.textOf block)
    else doc.renderChildren id

end Document

end Blockwise
