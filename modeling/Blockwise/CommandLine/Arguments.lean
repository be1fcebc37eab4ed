/-
  Blockwise/CommandLine/Arguments.lean
  ====================================
  **Arguments of the command.**  Options may be written `--name value`,
  `--name=value`, `-n value` or `-nvalue`; `--` ends them.  Arguments are taken
  from left to right: the first that is wrong is a usage error, and a request for
  the version or for help that comes before it is answered.
-/
import Blockwise.Path.Basic

namespace Blockwise.CommandLine

/-- Options that take a path. -/
inductive Setting where
  | config
  | baseDir
  | output
  | initConfig
deriving DecidableEq, Repr

/-- All options. -/
inductive Switch where
  | setting (which : Setting)
  | tree
  | version
  | help
deriving DecidableEq, Repr

/-- The option with a long name. -/
def Switch.ofLong? (name : Text) : Option Switch :=
  if name = "config".toList then some (.setting .config)
  else if name = "base-dir".toList then some (.setting .baseDir)
  else if name = "output".toList then some (.setting .output)
  else if name = "init-config".toList then some (.setting .initConfig)
  else if name = "tree".toList then some .tree
  else if name = "version".toList then some .version
  else if name = "help".toList then some .help
  else none

/-- The option with a short name. -/
def Switch.ofShort? (name : Char) : Option Switch :=
  if name = 'c' then some (.setting .config)
  else if name = 'b' then some (.setting .baseDir)
  else if name = 'o' then some (.setting .output)
  else if name = 'V' then some .version
  else if name = 'h' then some .help
  else none

/-- What was asked for. -/
structure Options where
  config : Option Path := none
  baseDir : Option Path := none
  output : Option Path := none
  initConfig : Option Path := none
  tree : Bool := false
  file : Option Path := none
deriving DecidableEq, Repr

/-- What the arguments ask the command to do. -/
inductive Request where
  /-- Interpret a file. -/
  | interpret (file : Path) (options : Options)
  /-- Write a configuration to start from. -/
  | initConfig (path : Path)
  | version
  | help
deriving DecidableEq, Repr

namespace Options

/-- A place for a path that is still free; the empty path has none. -/
def fill (place : Option Path) (value : Text) : Option (Option Path) :=
  if place.isSome || value.isEmpty then none else some (some ⟨value⟩)

/-- The options with one more path; `none` if there is one already. -/
def set (options : Options) (setting : Setting) (value : Text) : Option Options :=
  match setting with
  | .config => (fill options.config value).map fun config => { options with config }
  | .baseDir => (fill options.baseDir value).map fun baseDir => { options with baseDir }
  | .output => (fill options.output value).map fun output => { options with output }
  | .initConfig =>
    (fill options.initConfig value).map fun initConfig => { options with initConfig }

/-- The options with the file to interpret. -/
def setFile (options : Options) (value : Text) : Option Options :=
  (fill options.file value).map fun file => { options with file }

/-- The request that the options make, if they go together. -/
def request (options : Options) : Option Request :=
  match options.initConfig with
  | some path =>
    if options.file.isSome || options.config.isSome then none else some (.initConfig path)
  | none => options.file.map fun file => .interpret file options

end Options

/-- The argument is not an option: it does not begin with a hyphen, or is one. -/
def isValue (arg : Text) : Bool := arg.head? != some '-' || arg == ['-']

/-- An argument as an option: which one, and the value attached to it. -/
def switchOf? (arg : Text) : Option (Switch × Option Text) :=
  match arg with
  | '-' :: '-' :: body =>
    let name := body.takeWhile (· != '=')
    let value := match body.dropWhile (· != '=') with
      | _ :: value => some value
      | [] => none
    (Switch.ofLong? name).map fun switch => (switch, value)
  | '-' :: letter :: body =>
    (Switch.ofShort? letter).map fun switch =>
      match switch, body with
      | .setting _, [] => (switch, none)
      | .setting _, '=' :: value => (switch, some value)
      | .setting _, value => (switch, some value)
      | _, _ => (switch, none)
  | _ => none

/-- Takes in arguments; after `--` (`plain`) all of them are files.  `none` is a
    usage error. -/
def parseFrom (options : Options) (plain : Bool) : List Text → Option Request
  | [] => options.request
  | arg :: args =>
    if plain || isValue arg then do parseFrom (← options.setFile arg) plain args
    else if arg = ['-', '-'] then parseFrom options true args
    else
      match switchOf? arg with
      | none => none
      | some (.setting setting, some value) => do
        parseFrom (← options.set setting value) false args
      | some (.setting setting, none) =>
        match args with
        | [] => none
        | value :: args =>
          if isValue value then do parseFrom (← options.set setting value) false args else none
      | some (_, some _) => none
      | some (.tree, none) =>
        if options.tree then none else parseFrom { options with tree := true } false args
      | some (.version, none) => some .version
      | some (.help, none) => some .help

/-- What the arguments ask for; `none` is a usage error. -/
def parse (args : List Text) : Option Request := parseFrom {} false args

end Blockwise.CommandLine
