/-
  Blockwise/Interpret/Scan.lean
  =============================
  **One pass over a text.**  At each position the scanner

    1. opens a block of the first registered type whose open tag stands there,
       unless the innermost open block forbids it;
    2. otherwise closes the innermost open block if its close tag stands there;
    3. otherwise takes the character as plain text.

  A run of plain text becomes a leaf when the next block opens or closes, and at
  the end.  What an include block stands for is not the scanner's business: it
  calls `follow` before such a block is closed.

  Each step reads a character or closes a block, and no block opens without
  reading its tag, so twice the length of the text bounds the number of steps.

  Why an interpretation can end without a document is said once, in `Failure`.  Its
  first four causes lie in the text and its files.  The others cannot arise when
  registered types are interpreted with a guard against cycles; they make the
  definitions total.
-/
import Blockwise.Log

namespace Blockwise

/-! ### Failures -/

/-- Why an interpretation ended without a document. -/
inductive Failure where
  /-- The input ended inside a block that it may not close. -/
  | unterminated (label : Text) (doc : Document)
  /-- An included file cannot be read. -/
  | unresolvedInclude (path : Path) (cause : FileError)
  /-- A file includes itself, directly or through others. -/
  | cyclicInclude (path : Path)
  /-- The file to be interpreted cannot be read. -/
  | unreadableSource (path : Path) (cause : FileError)
  /-- An operation on the document stopped. -/
  | fault (cause : Fault)
  /-- Includes are nested deeper than the bound that was set. -/
  | tooDeep
  /-- The scan took more steps than the bound that was set. -/
  | stalled

/-- The wording of a failure. -/
def Failure.message : Failure → Text
  | .unterminated label _ => label ++ " is open, but is not allowed to be closed by EOF".toList
  | .unresolvedInclude path cause =>
    "failed to read included file ".toList ++ path.spelling ++ ": ".toList ++ cause.message
  | .cyclicInclude path => "cyclic include of ".toList ++ path.spelling
  | .unreadableSource path cause =>
    "failed to read ".toList ++ path.spelling ++ ": ".toList ++ cause.message
  | .fault _ => "internal fault".toList
  | .tooDeep => "includes are nested too deeply".toList
  | .stalled => "the scan does not advance".toList

/-! ### The scanner -/

/-- Where a scan stands: what it has built, the text around its position, and
    where the current run of plain text began. -/
structure Scan where
  doc : Document
  previous : Option Char
  rest : Text
  pos : Nat
  runStart : Nat

namespace Scan

/-- The scan of a source before its first step. -/
def start (source : Source) : Scan := ⟨.ofSource source, none, source.text, 0, 0⟩

/-- The scan with its document changed. -/
def mapDoc (scan : Scan) (change : Document → Document) : Scan :=
  let ⟨doc, previous, rest, pos, runStart⟩ := scan
  ⟨change doc, previous, rest, pos, runStart⟩

/-- The scan with its document changed, if that is possible. -/
def changeDoc (scan : Scan) (change : Document → Except Fault Document) : Except Fault Scan :=
  let ⟨doc, previous, rest, pos, runStart⟩ := scan
  (change doc).map fun doc => ⟨doc, previous, rest, pos, runStart⟩

/-- The scan moved over up to `count` characters. -/
def advance (scan : Scan) (count : Nat) : Scan :=
  let taken := scan.rest.take count
  { scan with
    previous := taken.getLast?.or scan.previous
    rest := scan.rest.drop count
    pos := scan.pos + Text.byteLen taken }

/-- The scan with a new run of plain text that begins here. -/
def startRun (scan : Scan) : Scan := { scan with runStart := scan.pos }

/-- Makes the current run of plain text a closed leaf; an empty run leaves nothing. -/
def flush (scan : Scan) : Except Fault Scan :=
  let start := scan.runStart
  let stop := scan.pos
  if start < stop then
    scan.changeDoc fun doc => (doc.push (.opened .plain 0 start)).closeInnermost stop 0
  else .ok scan

/-- The type of the block that opens here. -/
def opening? (interpreter : Interpreter) (scan : Scan) : Option BlockType :=
  let forbidden := match scan.doc.activeBlock? with
    | some block => block.type.flags.forbidNewOpenings
    | none => false
  if forbidden then none
  else interpreter.types.find? fun type => type.opensBetween scan.previous scan.rest

/-- The innermost open node and its type, if it closes here. -/
def closing? (scan : Scan) : Option (Nat × BlockType) := do
  let id ← scan.doc.active?
  let block ← scan.doc.activeBlock?
  if block.type.closesBetween scan.previous scan.rest then some (id, block.type) else none

/-- How the reference of an include node is followed: the document with the
    node's children replaced. -/
abbrev Follow := Document → Nat → Inclusion → Traced Failure Document

/-- Follows the reference of node `id` if its type is an include type. -/
def followNode (follow : Follow) (scan : Scan) (id : Nat) (type : BlockType) :
    Traced Failure Scan :=
  match type.inclusion? with
  | none => pure scan
  | some settings => do
    let doc ← follow scan.doc id settings
    return scan.mapDoc fun _ => doc

/-- An operation on the document, within the scan. -/
def lift {α : Type} (result : Except Fault α) : Traced Failure α :=
  .ofExcept (result.mapError .fault)

/-- Opens a block here and moves behind its open tag.  A type that closes
    immediately takes in the next characters as its close marker. -/
def openBlock (interpreter : Interpreter) (follow : Follow) (scan : Scan) (type : BlockType) :
    Traced Failure Scan := do
  let start := scan.pos
  let flushed ← lift scan.flush
  let id := flushed.doc.nodes.size
  let opened := flushed.mapDoc (·.push (.opened type 0 start))
  let inside := opened.advance type.openTag.length
  if type.flags.closeImmediately then
    let followed ← inside.followNode follow id type
    let pos := followed.pos
    let skipped := followed.advance interpreter.selfCloseSkip
    let markerLen := skipped.pos - pos
    let closed ← lift (skipped.changeDoc (·.closeInnermost pos markerLen))
    return closed.startRun
  else return inside.startRun

/-- Closes node `id` of the given type here and moves behind its close tag. -/
def closeBlock (follow : Follow) (scan : Scan) (id : Nat) (type : BlockType) :
    Traced Failure Scan := do
  let flushed ← lift scan.flush
  let followed ← flushed.followNode follow id type
  let pos := followed.pos
  let closed ← lift (followed.changeDoc (·.closeInnermost pos type.closeLen))
  return (closed.advance type.closeTag.length).startRun

/-- Scans to the end of the text, in at most `limit` steps. -/
def loop (interpreter : Interpreter) (follow : Follow) :
    (limit : Nat) → Scan → Traced Failure Scan
  | 0, _ => .fail .stalled
  | limit + 1, scan =>
    if scan.rest.isEmpty then pure scan
    else
      match scan.opening? interpreter with
      | some type => do
        let after ← scan.openBlock interpreter follow type
        loop interpreter follow limit after
      | none =>
        match scan.closing? with
        | some (id, type) => do
          let after ← scan.closeBlock follow id type
          loop interpreter follow limit after
        | none => loop interpreter follow limit (scan.advance 1)

/-- A bound on the steps over a text. -/
def stepLimit (text : Text) : Nat := 2 * text.length + 1

/-- Ends a scan: closes what the end of input may close, and fails if an open
    block is left. -/
def finish (scan : Scan) : Traced Failure Document := do
  let flushed ← lift scan.flush
  let (closed, blocked) ← lift flushed.doc.closeAtEof
  match blocked with
  | none => return closed
  | some id =>
    let label := match closed.nodes[id]?.bind Node.block with
      | some block => block.label
      | none => []
    .report (.openAtEnd label)
    .report (.partialDocument closed)
    .fail (.unterminated label closed)

/-- The document of a source. -/
def run (interpreter : Interpreter) (follow : Follow) (source : Source) :
    Traced Failure Document := do
  let ended ← loop interpreter follow (stepLimit source.text) (start source)
  ended.finish

end Scan

end Blockwise
