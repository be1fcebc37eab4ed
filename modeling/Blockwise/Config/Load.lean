/-
  Blockwise/Config/Load.lean
  ==========================
  **Configuration files and the interpreters they describe.**  Loading reads a
  file, expands the paths in it, and remembers where it came from.  Building
  turns the entries into block types; an include entry may name another
  configuration file, whose interpreter is then built for it.

  The files that are being built form a chain, and a file on it is refused.  As
  for includes, the depth is bounded by an argument and the guard is another one,
  so that what it refuses can be stated.
-/
import Blockwise.Config.Basic
import Blockwise.Config.Expansion
import Blockwise.Interpret.Include

namespace Blockwise

/-- Why there is no configuration, or no interpreter for one. -/
inductive ConfigError where
  /-- The file is there but cannot be read. -/
  | unreadable (path : Path) (cause : FileError)
  /-- The file is no configuration. -/
  | malformed (path : Path)
  /-- An entry needs a close tag and has none. -/
  | missingCloseTag (name : Text)
  /-- A block type cannot be registered. -/
  | invalidBlock (refusal : EmptyOpenTag)
  /-- The configuration of a nested interpreter is not there. -/
  | missingSubinterpreter (path : Path)
  /-- A configuration needs itself, directly or through others. -/
  | cyclicSubinterpreter (path : Path)
  /-- Configurations are nested deeper than the bound that was set. -/
  | tooDeep
deriving DecidableEq, Repr

/-- The wording of an error; of a malformed file, without what is wrong with it. -/
def ConfigError.message : ConfigError → Text
  | .unreadable path cause =>
    "Failed to read config file at ".toList ++ path.spelling ++ ": ".toList ++ cause.message
  | .malformed path => "Failed to parse config file at ".toList ++ path.spelling
  | .missingCloseTag name => "Block '".toList ++ name ++ "' needs a close tag".toList
  | .invalidBlock refusal => refusal.message
  | .missingSubinterpreter path => "Sub-interpreter config not found at ".toList ++ path.spelling
  | .cyclicSubinterpreter path =>
    "Sub-interpreter config ".toList ++ path.spelling ++ " refers back to itself".toList
  | .tooDeep => "sub-interpreter configs are nested too deeply".toList

namespace Config

/-! ### Loading -/

/-- The configuration with all paths in it expanded. -/
def expandPaths (env : Environment) (config : Config) : Config :=
  { config with
    baseDir := config.baseDir.map (Path.expand env)
    blocks := config.blocks.map fun entry =>
      { entry with
        baseDir := entry.baseDir.map (Path.expand env)
        subinterpreter := entry.subinterpreter.map (Path.expand env) } }

/-- Loads a configuration; `none` if there is no such file. -/
def load (env : Environment) (disk : Disk) (path : Path) : Except ConfigError (Option Config) :=
  if disk.pathExists path then
    match disk.read path with
    | .error cause => .error (.unreadable path cause)
    | .ok text =>
      match ofText? text with
      | none => .error (.malformed path)
      | some config => .ok (some { config.expandPaths env with sourcePath := some path })
  else .ok none

/-- Where the configuration is looked for unless another one is named. -/
def defaultPath (env : Environment) : Path :=
  Path.join ⟨Expansion.tilde env "~/.config/geninterp".toList⟩ ⟨"config.toml".toList⟩

/-! ### Saving -/

/-- Saves a configuration, making the directories that the file lies in.  What
    was made before a failure stays. -/
def save (disk : Disk) (path : Path) (config : Config) : Disk × Except FileError Text :=
  let (ready, made) := match path.parent? with
    | some parent => disk.makeDirs parent
    | none => (disk, .ok ())
  match made with
  | .error cause => (ready, .error cause)
  | .ok () =>
    match ready.write path config.write with
    | .ok written => (written, .ok config.write)
    | .error cause => (ready, .error cause)

/-! ### Building -/

/-- The path of a nested configuration: relative ones start from the directory
    of the file that names them. -/
def subPath (config : Config) (path : Path) : Path :=
  match config.sourcePath.bind Path.parent? with
  | some dir => if path.isAbsolute then path else dir.join path
  | none => path

/-- Sets a flag, if it is configured. -/
def setFlag (value : Option Bool) (set : Bool → Flags → Flags) (type : BlockType) : BlockType :=
  match value with
  | some value => type.mapFlags (set value)
  | none => type

/-- Gives a type the settings of its entry that all kinds share. -/
def applySettings (entry : BlockEntry) (type : BlockType) : BlockType :=
  let cased := if entry.caseSensitive = some true then type.caseSensitive else type
  let escaped := match entry.escape with
    | some escape => cased.withEscape escape
    | none => cased
  setFlag entry.closeImmediately (fun value flags => { flags with closeImmediately := value })
    (setFlag entry.forbidNewOpenings (fun value flags => { flags with forbidNewOpenings := value })
      (setFlag entry.closeableByEof (fun value flags => { flags with closeableByEof := value })
        escaped))

/-- The close tag of an entry that needs one. -/
def closeTagOf (entry : BlockEntry) : Traced ConfigError Text :=
  match entry.closeTag with
  | some tag => pure tag
  | none => .fail (.missingCloseTag entry.name)

/-- Reports the settings that mean nothing for an entry. -/
def reportIgnored (entry : BlockEntry) : Traced ConfigError Unit :=
  ⟨entry.ignoredFields.map (.ignoredField · entry.name), .ok ()⟩

/-- The block type of an entry.  `nested` builds the interpreter of a nested
    configuration. -/
def blockType (config : Config) (nested : Path → Traced ConfigError Interpreter)
    (entry : BlockEntry) : Traced ConfigError BlockType := do
  reportIgnored entry
  let type ← match entry.kind with
    | .delimited => do
      let closeTag ← closeTagOf entry
      pure (BlockType.delimited entry.name entry.openTag closeTag)
    | .comment =>
      let line := BlockType.comment entry.name entry.openTag
      pure (match entry.closeTag with
        | some closeTag => line.withCloseTag closeTag
        | none => line)
    | .inclusion => do
      let closeTag ← closeTagOf entry
      let override ← match entry.subinterpreter with
        | some path => do pure (some (← nested path))
        | none => pure none
      pure (BlockType.inclusion entry.name
        ⟨{ openTag := entry.openTag, closeTag }, entry.baseDir.or config.baseDir,
          entry.extension.or config.extension, override⟩)
  return applySettings entry type

/-- A path by which a configuration file is known. -/
def identity (disk : Disk) (path : Path) : Path := Reader.disk.identity disk path

/-- Builds the interpreter of a configuration, with nested configurations less
    than `depth` deep.  `chain` holds those that are being built. -/
def buildWithin (guard : Guard) (env : Environment) (disk : Disk) :
    (depth : Nat) → (chain : List Path) → Config → Traced ConfigError Interpreter
  | 0, _, _ => .fail .tooDeep
  | depth + 1, chain, config => do
    let nested (named : Path) : Traced ConfigError Interpreter := do
      let path := config.subPath named
      let key := identity disk path
      if guard = .checked ∧ chain.any (·.same key) then .fail (.cyclicSubinterpreter path)
      else do
        .report (.loadingConfig path)
        match ← .ofExcept (load env disk path) with
        | none => .fail (.missingSubinterpreter path)
        | some sub => buildWithin guard env disk depth (key :: chain) sub
    let entries := if config.blocks.isEmpty then latexEntries else config.blocks
    let types ← entries.mapM (config.blockType nested)
    let interpreter ← .ofExcept ((Interpreter.ofTypes types .disk).mapError .invalidBlock)
    return { interpreter with
      selfCloseSkip := config.selfCloseSkip.getD interpreter.selfCloseSkip }

/-- A bound on the depth of nested configurations: one level for each file. -/
def depthLimit (disk : Disk) : Nat := disk.size + 2

/-- The chain that building a configuration starts with. -/
def startChain (disk : Disk) (config : Config) : List Path :=
  (config.sourcePath.map (identity disk)).toList

/-- Builds the interpreter of a configuration. -/
def interpreter (env : Environment) (disk : Disk) (config : Config) :
    Traced ConfigError Interpreter :=
  buildWithin .checked env disk (depthLimit disk) (config.startChain disk) config

/-- The configuration gives some include a base directory. -/
def hasBaseDir (config : Config) : Bool :=
  config.baseDir.isSome || config.blocks.any (·.baseDir.isSome)

end Config

end Blockwise
