/-
  Blockwise/Interpret/Include.lean
  ================================
  **Interpretation with includes.**  When an include block closes, the text inside
  it is resolved to a file, the file is interpreted as a document of its own, and
  that document's nodes become the block's children.  The files that are being
  interpreted form a chain; a file on the chain is not entered again.

  The chain holds different readable files only, so the number of files within
  reach bounds the depth of includes.  The bound is an argument of
  `interpretSource`, and so is the guard: without it, a text that includes itself
  runs into the bound, however large.
-/
import Blockwise.Document.Render
import Blockwise.Interpret.Scan

namespace Blockwise

/-- Whether files that are being interpreted already are refused. -/
inductive Guard where
  | checked
  | unchecked
deriving DecidableEq, Repr

/-- The chain of files with one more, unless the guard refuses it. -/
def Guard.enter (guard : Guard) (chain : List Path) (key : Path) : Except Failure (List Path) :=
  match guard with
  | .unchecked => .ok (key :: chain)
  | .checked =>
    if chain.any (·.same key) then .error (.cyclicInclude key) else .ok (key :: chain)

namespace Interpreter

/-- The document of a source, with includes nested less than `depth` deep. -/
def interpretSource (guard : Guard) (disk : Disk) :
    (depth : Nat) → Interpreter → (chain : List Path) → Source → Traced Failure Document
  | 0, _, _, _ => .fail .tooDeep
  | depth + 1, interpreter, chain, source =>
    Scan.run interpreter
      (fun doc id settings => do
        let reference ← Scan.lift (doc.innerText id)
        let path := settings.resolve reference
        .report (.including path (Text.trim reference))
        let inner := settings.override.getD interpreter
        let longer ← .ofExcept (guard.enter chain (inner.reader.identity disk path))
        match inner.reader.read disk path with
        | .error cause => .fail (.unresolvedInclude path cause)
        | .ok text => do
          let sub ← interpretSource guard disk depth inner longer ⟨some path, text⟩
          Scan.lift (doc.splice id sub))
      source

/-- A bound on the depth of includes: one level for each file within reach, and
    one for the text itself. -/
def depthLimit (disk : Disk) (interpreter : Interpreter) : Nat := interpreter.reach disk + 2

/-- Interprets a file as the start of a chain. -/
def interpretFileWithin (guard : Guard) (disk : Disk) (depth : Nat) (interpreter : Interpreter)
    (path : Path) : Traced Failure Document :=
  match interpreter.reader.read disk path with
  | .error cause => .fail (.unreadableSource path cause)
  | .ok text => do
    let chain ← .ofExcept (guard.enter [] (interpreter.reader.identity disk path))
    interpretSource guard disk depth interpreter chain ⟨some path, text⟩

/-- Interprets a text. -/
def interpret (disk : Disk) (interpreter : Interpreter) (text : Text) : Traced Failure Document :=
  interpretSource .checked disk (interpreter.depthLimit disk) interpreter [] ⟨none, text⟩

/-- Interprets a file. -/
def interpretFile (disk : Disk) (interpreter : Interpreter) (path : Path) :
    Traced Failure Document :=
  interpretFileWithin .checked disk (interpreter.depthLimit disk) interpreter path

/-- Interprets a text and renders its document. -/
def render (disk : Disk) (interpreter : Interpreter) (text : Text) : Traced Failure Text := do
  let doc ← interpreter.interpret disk text
  Scan.lift doc.render

end Interpreter

end Blockwise
