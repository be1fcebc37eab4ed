/-
  Blockwise/Config/Entry.lean
  ===========================
  **Block types as configuration entries.**  An entry describes a block type by
  name, kind and open tag, and by those settings that differ from what its kind
  starts with.  `BlockEntry.ofType?` writes a type down as an entry; an include
  type's own interpreter cannot be written down.
-/
import Blockwise.Log
import Blockwise.Preset

namespace Blockwise

/-- The kinds of blocks that can be configured. -/
inductive EntryKind where
  | delimited
  | comment
  | inclusion
deriving DecidableEq, Repr

namespace EntryKind

/-- The name of a kind in a configuration. -/
def name : EntryKind → Text
  | .delimited => "delimited".toList
  | .comment => "comment".toList
  | .inclusion => "include".toList

/-- The kind with a name. -/
def ofName? (name : Text) : Option EntryKind :=
  [EntryKind.delimited, .comment, .inclusion].find? fun kind => kind.name == name

/-- The flags that a type of this kind starts with. -/
def defaultFlags : EntryKind → Flags
  | .comment => { closeableByEof := true, forbidNewOpenings := true }
  | .delimited | .inclusion => {}

end EntryKind

/-- A configured block type.  What is not set follows from the kind. -/
structure BlockEntry where
  name : Text
  kind : EntryKind
  openTag : Text
  /-- Needed except for a comment, where it replaces the end of the line. -/
  closeTag : Option Text := none
  escape : Option Char := none
  caseSensitive : Option Bool := none
  closeableByEof : Option Bool := none
  forbidNewOpenings : Option Bool := none
  closeImmediately : Option Bool := none
  /-- For includes only, as are the two below. -/
  baseDir : Option Path := none
  extension : Option Text := none
  /-- The configuration of the interpreter for included files. -/
  subinterpreter : Option Path := none
deriving DecidableEq, Repr

namespace BlockEntry

/-- A flag that is worth writing down. -/
def changed (value default : Bool) : Option Bool := if value = default then none else some value

/-- The entry of a type of some kind with some tags. -/
def describe (type : BlockType) (kind : EntryKind) (tags : Delimiters) : BlockEntry :=
  let defaults := kind.defaultFlags
  { name := type.name
    kind
    openTag := tags.openTag
    closeTag :=
      if kind = .comment ∧ tags.closeTag = BlockType.lineEnd then none else some tags.closeTag
    escape := type.escape
    caseSensitive := if tags.mode = .sensitive then some true else none
    closeableByEof := changed type.flags.closeableByEof defaults.closeableByEof
    forbidNewOpenings := changed type.flags.forbidNewOpenings defaults.forbidNewOpenings
    closeImmediately := changed type.flags.closeImmediately defaults.closeImmediately
    baseDir := type.inclusion?.bind Inclusion.baseDir
    extension := type.inclusion?.bind Inclusion.extension }

/-- The entry of a type; plain text has none. -/
def ofType? (type : BlockType) : Option BlockEntry :=
  match type.kind with
  | .plain => none
  | .delimited tags => some (describe type .delimited tags)
  | .comment tags => some (describe type .comment tags)
  | .inclusion settings => some (describe type .inclusion settings.delimiters)

/-- What is lost when a type is written down as an entry. -/
def losses (type : BlockType) : List Event :=
  match type.inclusion?.bind Inclusion.override with
  | some _ => [.overrideNotSaved type.name]
  | none => []

/-- The settings of an entry that only mean something for includes, if it is none. -/
def ignoredFields (entry : BlockEntry) : List Text :=
  if entry.kind = .inclusion then []
  else
    (if entry.baseDir.isSome then ["base_dir".toList] else []) ++
      (if entry.extension.isSome then ["extension".toList] else []) ++
      (if entry.subinterpreter.isSome then ["subinterpreter".toList] else [])

end BlockEntry

end Blockwise
