/-
  Blockwise/Document/Structure.lean
  =================================
  **The drawing of a document,** one line for each node:

      <Root>
      ├── <plain 0..4 "aaaa">
      └── <comment 4..9 "%bbbb">
          └── <plain 5..9 "bbbb">

  A line holds a bar for every ancestor that has later siblings, a connector, and
  the block's label with a preview of its source text.
-/
import Blockwise.Document.Walk

namespace Blockwise.Document

/-- Characters of a preview before it is cut. -/
def previewChars : Nat := 30

/-- A line break as the two characters that write it. -/
def escapeBreak (c : Char) : Text := if c = '\n' then ['\\', 'n'] else [c]

/-- A text on one line, cut after `previewChars` characters. -/
def preview (text : Text) : Text :=
  let line := text.flatMap escapeBreak
  if previewChars < line.length then line.take previewChars ++ "...".toList else line

/-- What is drawn for a node. -/
def nodeLabel (doc : Document) (id : Nat) : Except Fault Text := do
  match ← doc.block? id with
  | none => return "<Root>".toList
  | some block =>
    let raw ← block.rawText (← doc.textOf block)
    return '<' :: block.label ++ " \"".toList ++ preview raw ++ "\">".toList

/-- The node is the last child of its parent; a node without parent counts as last. -/
def isLastChild (doc : Document) (id : Nat) : Except Fault Bool := do
  match (← doc.node id).parent with
  | none => return true
  | some parent => return (← doc.node parent).children.back? == some id

/-- The part of a line that an ancestor takes. -/
def bar (isLast : Bool) : Text := if isLast then "    ".toList else "│   ".toList

/-- The part of a line that leads to the label. -/
def connector (isLast : Bool) : Text := if isLast then "└── ".toList else "├── ".toList

/-- Draws the lines of the visited nodes.  `ancestors` tells of each node on the
    way to the last one drawn, the start left out, whether it was a last child. -/
def drawLines (doc : Document) (ancestors : List Bool) : List Visit → Except Fault (List Text)
  | [] => .ok []
  | visit :: visits => do
    let label ← doc.nodeLabel visit.id
    if visit.depth = 0 then
      return label :: (← doc.drawLines ancestors visits)
    else
      let above := ancestors.take (visit.depth - 1)
      let isLast ← doc.isLastChild visit.id
      let line := above.flatMap bar ++ connector isLast ++ label
      return line :: (← doc.drawLines (above ++ [isLast]) visits)

/-- Lines put together with line breaks between them. -/
def joinLines : List Text → Text
  | [] => []
  | [line] => line
  | line :: next :: lines => line ++ '\n' :: joinLines (next :: lines)

/-- The drawing of a whole document. -/
def drawing (doc : Document) : Except Fault Text := do
  return joinLines (← doc.drawLines [] (← doc.preorder))

end Blockwise.Document
