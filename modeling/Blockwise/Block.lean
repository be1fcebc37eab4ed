/-
  Blockwise/Block.lean
  ====================
  **Blocks.**  A block is a block type found at a place of some source text: where
  it begins, and, once it is closed, where it ends and how long its close marker
  was.  It holds offsets only; the text they point into is handed to the
  operations.
-/
import Blockwise.BlockType
import Blockwise.Text.Cursor

namespace Blockwise

/-- A block type found in a source. -/
structure Block where
  type : BlockType
  /-- Index of the source the offsets point into. -/
  source : Nat
  /-- Where the open tag begins. -/
  start : Nat
  /-- Where the close marker ends; `none` while the block is open. -/
  stop : Option Nat
  /-- Bytes of the close marker that was met. -/
  closeLen : Nat

namespace Block

/-- A block that has just been opened. -/
def opened (type : BlockType) (source start : Nat) : Block := ⟨type, source, start, none, 0⟩

/-- Name of the block's type. -/
def name (block : Block) : Text := block.type.name

/-- The block has its end. -/
def isClosed (block : Block) : Bool := block.stop.isSome

/-- Closes the block with a marker of `markerLen` bytes that begins at `pos`. -/
def close (block : Block) (pos markerLen : Nat) : Except Fault Block := do
  if pos < block.start then throw .closedBeforeBegin
  let stop ← addOffsets pos markerLen
  return { block with stop := some stop, closeLen := markerLen }

/-- The whole block, markers included; `none` while it is open. -/
def span? (block : Block) : Option Span := block.stop.map fun stop => ⟨block.start, stop⟩

/-- The text between the markers; `none` while the block is open. -/
def bodySpan? (block : Block) : Except Fault (Option Span) := do
  match block.stop with
  | none => return none
  | some stop =>
    let afterOpen ← addOffsets block.start block.type.openLen
    let start := min afterOpen stop
    return some ⟨start, max (stop - block.closeLen) start⟩

/-- The source text of the block; an open one runs to the end of `text`. -/
def rawText (block : Block) (text : Text) : Except Fault Text :=
  Span.slice ⟨block.start, block.stop.getD text.byteLen⟩ text

/-- Renders the block around the rendered text of its children, or without
    children.  Comments vanish, delimited blocks put their own tags around their
    content, and what has no children is its source text. -/
def render (block : Block) (text : Text) (children : Option Text) : Except Fault Text :=
  let asWritten := match children with
    | some inner => .ok inner
    | none => block.rawText text
  match block.type.kind with
  | .comment _ => .ok []
  | .delimited tags =>
    if block.type.flags.closeImmediately then asWritten
    else if 0 < block.closeLen then .ok (tags.openTag ++ (children.getD [] ++ tags.closeTag))
    else .ok (tags.openTag ++ children.getD [])
  | .plain => asWritten
  | .inclusion _ => asWritten

/-- Name and offsets: `name begin..end`, without the end while the block is open. -/
def label (block : Block) : Text :=
  block.name ++ ' ' :: Text.ofNat block.start ++ ['.', '.'] ++
    match block.stop with
    | some stop => Text.ofNat stop
    | none => []

end Block

end Blockwise
