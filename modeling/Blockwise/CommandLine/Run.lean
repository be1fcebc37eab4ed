/-
  Blockwise/CommandLine/Run.lean
  ==============================
  **The command.**  Loads the configuration, interprets the file, and prints or
  writes its rendered text or its drawing.  Includes are resolved from the base
  directory that was asked for, or else, if no base directory is configured, from
  the directory of the file.
-/
import Blockwise.CommandLine.Arguments
import Blockwise.Config.Load

namespace Blockwise.CommandLine

/-! ### What can go wrong -/

/-- Why the command failed. -/
inductive RunError where
  | notSaved (path : Path) (cause : FileError)
  | noConfig (path : Path)
  | config (cause : ConfigError)
  | interpret (cause : Failure)
  | notWritten (path : Path) (cause : FileError)

/-- An error after what it was caused by. -/
def causedBy (message : Text) (cause : FileError) : Text :=
  message ++ ": ".toList ++ cause.message

/-- The report of an error.  One that has a file error behind it tells that one
    once more at the end. -/
def RunError.report : RunError → Text
  | .notSaved path cause => causedBy ("Failed to write config to ".toList ++ path.spelling) cause
  | .noConfig path => "Config file not found: ".toList ++ path.spelling
  | .config cause =>
    match cause with
    | .unreadable _ file => causedBy cause.message file
    | _ => cause.message
  | .interpret cause =>
    match cause with
    | .unresolvedInclude _ file => causedBy cause.message file
    | .unreadableSource _ file => causedBy cause.message file
    | _ => cause.message
  | .notWritten path cause => causedBy ("Failed to write ".toList ++ path.spelling) cause

/-- What is printed on the error channel: for an unterminated block, what had
    been built comes first. -/
def RunError.print (error : RunError) : Text :=
  let before := match error with
    | .interpret (.unterminated _ doc) =>
      match doc.drawing with
      | .ok drawing => drawing ++ ['\n']
      | .error _ => []
    | _ => []
  before ++ "Error: ".toList ++ error.report ++ ['\n']

/-! ### The run -/

/-- Loads the configuration that was named, which has to exist, or the default
    one, which may be absent. -/
def loadConfig (env : Environment) (disk : Disk) (named : Option Path) : Except RunError Config :=
  match named with
  | some path =>
    match Config.load env disk path with
    | .ok (some config) => .ok config
    | .ok none => .error (.noConfig path)
    | .error cause => .error (.config cause)
  | none =>
    match Config.load env disk (Config.defaultPath env) with
    | .ok config => .ok (config.getD {})
    | .error cause => .error (.config cause)

/-- The interpreter with the base directory that the run uses. -/
def rebase (workingDir : Path) (options : Options) (config : Config) (file : Path)
    (interpreter : Interpreter) : Interpreter :=
  match options.baseDir with
  | some dir => interpreter.withBaseDir dir
  | none =>
    if config.hasBaseDir then interpreter else interpreter.withBaseFile workingDir file

/-- The interpreter that a run hands its file to. -/
def prepare (env : Environment) (disk : Disk) (options : Options) (file : Path) :
    Except RunError Interpreter := do
  let config ← loadConfig env disk options.config
  let built ← (config.interpreter env disk).result.mapError .config
  return rebase (Disk.pathOf disk.workingDir) options config file built

/-- The text that a run produces. -/
def produce (env : Environment) (disk : Disk) (options : Options) (file : Path) :
    Except RunError Text := do
  let interpreter ← prepare env disk options file
  let doc ← (interpreter.interpretFile disk file).result.mapError .interpret
  let text ← (if options.tree then doc.drawing.map (· ++ ['\n']) else doc.render).mapError
    fun cause => .interpret (.fault cause)
  return text

/-- How a run ended. -/
structure Outcome where
  code : Nat
  stdout : Text := []
  stderr : Text := []
  disk : Disk

/-- The end of a run that failed. -/
def Outcome.failed (disk : Disk) (error : RunError) : Outcome :=
  { code := 1, stderr := error.print, disk }

/-- The name and version of the command. -/
def versionText : Text := "geninterp 0.1.0\n".toList

/-- A short description of the arguments. -/
def helpText : Text :=
  ("Interpret a document and its includes\n\n" ++
    "Usage: geninterp [OPTIONS] [FILE]\n\n" ++
    "Arguments:\n" ++
    "  [FILE]  Input file\n\n" ++
    "Options:\n" ++
    "  -c, --config <CONFIG>      Config file describing the block types\n" ++
    "  -b, --base-dir <BASE_DIR>  Directory includes are resolved against\n" ++
    "      --tree                 Print the document tree instead of the rendered text\n" ++
    "  -o, --output <OUTPUT>      Write the result to a file instead of stdout\n" ++
    "      --init-config <PATH>   Write a starter config (the LaTeX block set) " ++
      "to PATH and exit\n" ++
    "  -h, --help                 Print help\n" ++
    "  -V, --version              Print version\n").toList

/-- What is printed after a usage error. -/
def usageText : Text := "error: invalid arguments; try '--help'\n".toList

/-- Answers a request. -/
def answer (env : Environment) (disk : Disk) : Request → Outcome
  | .version => { code := 0, stdout := versionText, disk }
  | .help => { code := 0, stdout := helpText, disk }
  | .initConfig path =>
    match Config.latex.save disk path with
    | (after, .ok _) => { code := 0, disk := after }
    | (after, .error cause) => .failed after (.notSaved path cause)
  | .interpret file options =>
    match produce env disk options file with
    | .error cause => .failed disk cause
    | .ok text =>
      match options.output with
      | none => { code := 0, stdout := text, disk }
      | some path =>
        match disk.write path text with
        | .ok after => { code := 0, disk := after }
        | .error cause => .failed disk (.notWritten path cause)

/-- Runs the command. -/
def run (env : Environment) (disk : Disk) (args : List Text) : Outcome :=
  match parse args with
  | some request => answer env disk request
  | none => { code := 2, stderr := usageText, disk }

end Blockwise.CommandLine
