/-
  Blockwise/BlockType.lean
  ========================
  **Block types and the interpreters made of them.**  A block type says what a
  block looks like in a text (its tags, how they are compared, the character
  that escapes them) and how it behaves (its kind and three flags).  An
  interpreter is a list of block types, tried in order, with what it needs to
  follow includes.  An include type may carry an interpreter of its own for the
  files it brings in, so the two notions are defined together.

  Recognition looks only at the character before a position and the text after
  it (`opensBetween`, `closesBetween`); `opens` and `closes` say the same of a
  byte position in a whole text.
-/
import Blockwise.Files.Reader
import Blockwise.Tag

namespace Blockwise

/-! ### Tags and switches -/

/-- A pair of tags that a block stands between. -/
structure Delimiters where
  openTag : Text
  closeTag : Text
  mode : CaseMode := .insensitive
deriving DecidableEq, Repr

/-- Switches that blocks of every kind have. -/
structure Flags where
  /-- The block has no body: it closes right after its open tag. -/
  closeImmediately : Bool := false
  /-- The block may be closed because the input ends. -/
  closeableByEof : Bool := false
  /-- No other block opens while this one is innermost. -/
  forbidNewOpenings : Bool := false
deriving DecidableEq, Repr

/-! ### Types and interpreters -/

mutual

/-- Block types in the order they are tried, and what is needed to follow includes. -/
structure Interpreter where
  types : List BlockType
  /-- Characters that a block which closes immediately takes in after its open tag. -/
  selfCloseSkip : Nat
  reader : Reader

/-- What a block looks like and how it behaves. -/
structure BlockType where
  name : Text
  kind : Kind
  flags : Flags
  /-- A tag right after this character is not recognised. -/
  escape : Option Char

/-- The kinds of blocks. -/
inductive Kind where
  /-- Text that no other block claims. -/
  | plain
  /-- Text between two tags; renders as the tags around its content. -/
  | delimited (delimiters : Delimiters)
  /-- Text that is left out. -/
  | comment (delimiters : Delimiters)
  /-- A file reference, replaced by what the file contains. -/
  | inclusion (settings : Inclusion)

/-- How an include block finds and reads its file. -/
structure Inclusion where
  delimiters : Delimiters
  /-- Where relative references start; the working directory if there is none. -/
  baseDir : Option Path
  /-- What a reference ends with; appended if it is missing. -/
  extension : Option Text
  /-- The interpreter of included files, if not the one that met the block. -/
  override : Option Interpreter

end

namespace Inclusion

/-- An include without settings. -/
def ofTags (openTag closeTag : Text) : Inclusion :=
  ⟨{ openTag, closeTag }, none, none, none⟩

/-- The path that a reference in this block names. -/
def resolve (settings : Inclusion) (reference : Text) : Path :=
  Path.resolve settings.baseDir settings.extension reference

end Inclusion

namespace BlockType

/-- The close tag of a comment that ends with its line. -/
def lineEnd : Text := ['\n']

/-- Text that no other type claims. -/
def plain : BlockType :=
  ⟨"plain".toList, .plain, { closeableByEof := true }, none⟩

/-- Text between two tags. -/
def delimited (name openTag closeTag : Text) : BlockType :=
  ⟨name, .delimited { openTag, closeTag }, {}, none⟩

/-- A comment up to the end of its line. -/
def comment (name openTag : Text) : BlockType :=
  ⟨name, .comment { openTag, closeTag := lineEnd },
    { closeableByEof := true, forbidNewOpenings := true }, none⟩

/-- A file reference. -/
def inclusion (name : Text) (settings : Inclusion) : BlockType :=
  ⟨name, .inclusion settings, {}, none⟩

/-- The tags of a type; plain text has none. -/
def delimiters? (type : BlockType) : Option Delimiters :=
  match type.kind with
  | .plain => none
  | .delimited tags => some tags
  | .comment tags => some tags
  | .inclusion settings => some settings.delimiters

/-- The settings of an include type. -/
def inclusion? (type : BlockType) : Option Inclusion :=
  match type.kind with
  | .inclusion settings => some settings
  | _ => none

/-- The type is an include type. -/
def isInclusion (type : BlockType) : Bool := type.inclusion?.isSome

/-- The type with its tags changed; plain text has none to change. -/
def mapDelimiters (type : BlockType) (change : Delimiters → Delimiters) : BlockType :=
  { type with
    kind := match type.kind with
      | .plain => .plain
      | .delimited tags => .delimited (change tags)
      | .comment tags => .comment (change tags)
      | .inclusion settings =>
        .inclusion { settings with delimiters := change settings.delimiters } }

/-- The type with tags that are compared exactly. -/
def caseSensitive (type : BlockType) : BlockType :=
  type.mapDelimiters fun tags => { tags with mode := .sensitive }

/-- The type with another close tag. -/
def withCloseTag (type : BlockType) (closeTag : Text) : BlockType :=
  type.mapDelimiters fun tags => { tags with closeTag }

/-- The type with an escape character. -/
def withEscape (type : BlockType) (escape : Char) : BlockType :=
  { type with escape := some escape }

/-- The type with other flags. -/
def mapFlags (type : BlockType) (change : Flags → Flags) : BlockType :=
  { type with flags := change type.flags }

/-! ### Recognition -/

/-- A tag after character `previous` is escaped. -/
def isEscaped (type : BlockType) (previous : Option Char) : Bool :=
  match type.escape with
  | some escape => previous == some escape
  | none => false

/-- The open tag stands between character `previous` and text `rest`. -/
def opensBetween (type : BlockType) (previous : Option Char) (rest : Text) : Bool :=
  !type.isEscaped previous &&
    match type.delimiters? with
    | some tags => Tag.beginsWith tags.mode tags.openTag rest
    | none => false

/-- The close tag stands between character `previous` and text `rest`. -/
def closesBetween (type : BlockType) (previous : Option Char) (rest : Text) : Bool :=
  !type.isEscaped previous &&
    match type.delimiters? with
    | some tags => Tag.beginsWith tags.mode tags.closeTag rest
    | none => false

/-- The open tag stands at byte position `pos`. -/
def opens (type : BlockType) (text : Text) (pos : Nat) : Bool :=
  match text.cut? pos with
  | some (before, rest) => type.opensBetween before.getLast? rest
  | none => false

/-- The close tag stands at byte position `pos`. -/
def closes (type : BlockType) (text : Text) (pos : Nat) : Bool :=
  match text.cut? pos with
  | some (before, rest) => type.closesBetween before.getLast? rest
  | none => false

/-- The open tag; empty for plain text. -/
def openTag (type : BlockType) : Text :=
  match type.delimiters? with
  | some tags => tags.openTag
  | none => []

/-- The close tag; empty for plain text. -/
def closeTag (type : BlockType) : Text :=
  match type.delimiters? with
  | some tags => tags.closeTag
  | none => []

/-- Bytes of the open tag. -/
def openLen (type : BlockType) : Nat := type.openTag.byteLen

/-- Bytes of the close tag. -/
def closeLen (type : BlockType) : Nat := type.closeTag.byteLen

/-- The type has an open tag that stands everywhere. -/
def hasEmptyOpenTag (type : BlockType) : Bool :=
  match type.delimiters? with
  | some tags => tags.openTag.isEmpty
  | none => false

end BlockType

/-! ### Registering types -/

/-- A type that cannot be registered: its open tag is empty. -/
structure EmptyOpenTag where
  name : Text
deriving DecidableEq, Repr

/-- The wording of the refusal. -/
def EmptyOpenTag.message (refusal : EmptyOpenTag) : Text :=
  "block type '".toList ++ refusal.name ++ "' has an empty open tag".toList

/-- Refuses a type with an empty open tag: it would open without end at one place. -/
def BlockType.validate (type : BlockType) : Except EmptyOpenTag Unit :=
  if type.hasEmptyOpenTag then .error ⟨type.name⟩ else .ok ()

namespace Interpreter

/-- Characters skipped after an immediately closing block unless asked otherwise. -/
def defaultSelfCloseSkip : Nat := 1

/-- Registers types in the order in which they are tried; the first one with an
    empty open tag is the reason to refuse. -/
def ofTypes (types : List BlockType) (reader : Reader) : Except EmptyOpenTag Interpreter := do
  types.forM BlockType.validate
  return ⟨types, defaultSelfCloseSkip, reader⟩

/-- Every type can be registered. -/
def isValid (interpreter : Interpreter) : Bool :=
  interpreter.types.all fun type => !type.hasEmptyOpenTag

end Interpreter

/-! ### Moving the base directory -/

mutual

/-- Gives every include type the base directory `dir`, those of nested interpreters too. -/
def Interpreter.withBaseDir (dir : Path) : Interpreter → Interpreter
  | ⟨types, selfCloseSkip, reader⟩ => ⟨rebaseTypes dir types, selfCloseSkip, reader⟩

/-- The types of a list, each moved to `dir`. -/
def rebaseTypes (dir : Path) : List BlockType → List BlockType
  | [] => []
  | type :: types => type.rebase dir :: rebaseTypes dir types

/-- The type moved to `dir`. -/
def BlockType.rebase (dir : Path) : BlockType → BlockType
  | ⟨name, kind, flags, escape⟩ => ⟨name, kind.rebase dir, flags, escape⟩

/-- The kind moved to `dir`. -/
def Kind.rebase (dir : Path) : Kind → Kind
  | .plain => .plain
  | .delimited tags => .delimited tags
  | .comment tags => .comment tags
  | .inclusion settings => .inclusion (settings.rebase dir)

/-- The settings moved to `dir`. -/
def Inclusion.rebase (dir : Path) : Inclusion → Inclusion
  | ⟨delimiters, _, extension, override⟩ =>
    ⟨delimiters, some dir, extension, rebaseOverride dir override⟩

/-- The nested interpreter moved to `dir`. -/
def rebaseOverride (dir : Path) : Option Interpreter → Option Interpreter
  | none => none
  | some interpreter => some (interpreter.withBaseDir dir)

end

/-- Resolves includes from the directory that `file` lies in. -/
def Interpreter.withBaseFile (workingDir : Path) (file : Path) (interpreter : Interpreter) :
    Interpreter :=
  let dir := match file.parent? with
    | some parent => if parent.spelling = [] then ⟨['.']⟩ else parent
    | none => ⟨['.']⟩
  interpreter.withBaseDir (Path.absoluteFrom workingDir dir)

/-! ### Files within reach -/

mutual

/-- An upper bound on the number of files that an interpreter and those nested
    in it can read. -/
def Interpreter.reach (disk : Disk) : Interpreter → Nat
  | ⟨types, _, reader⟩ => reader.size disk + reachTypes disk types

/-- The files that the nested interpreters of some types can read. -/
def reachTypes (disk : Disk) : List BlockType → Nat
  | [] => 0
  | type :: types => type.reach disk + reachTypes disk types

/-- The files that the nested interpreter of a type can read. -/
def BlockType.reach (disk : Disk) : BlockType → Nat
  | ⟨_, kind, _, _⟩ => kind.reach disk

/-- The files that the nested interpreter of a kind can read. -/
def Kind.reach (disk : Disk) : Kind → Nat
  | .inclusion settings => settings.reach disk
  | _ => 0

/-- The files that the nested interpreter of an include can read. -/
def Inclusion.reach (disk : Disk) : Inclusion → Nat
  | ⟨_, _, _, override⟩ => reachOverride disk override

/-- The files that a nested interpreter can read. -/
def reachOverride (disk : Disk) : Option Interpreter → Nat
  | none => 0
  | some interpreter => interpreter.reach disk

end

end Blockwise
