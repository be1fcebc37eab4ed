/-
  Blockwise/Main.lean
  ===================
  **The command as a program.**  The run itself is a function of the arguments,
  the environment and a disk (`CommandLine.run`).  This module brings in from the
  real disk what that function asks for, and carries out what it decides: a run
  that fails because a file is not on the disk it was given is repeated with that
  file looked up, until it names no file that has not been looked up.
-/
import Blockwise.CommandLine.Run

namespace Blockwise.Main

/-- The variables of the process. -/
def readEnvironment : IO Environment := do
  let bytes ← try IO.FS.readBinFile "/proc/self/environ" catch _ => pure ByteArray.empty
  let text := (String.fromUTF8? bytes).getD ""
  let entries := text.splitOn "\x00" |>.filterMap fun entry =>
    let name := entry.toList.takeWhile (· != '=')
    match entry.toList.dropWhile (· != '=') with
    | _ :: value => some (name, value)
    | [] => none
  return { bindings := entries }

/-- What stands at a location of the real disk. -/
def lookUp (place : Location) : IO (Option Entry) := do
  let name := String.ofList (Disk.pathOf place).spelling
  try
    if ← (← IO.FS.realPath name).isDir then return some .directory
    let bytes ← IO.FS.readBinFile name
    match String.fromUTF8? bytes with
    | some text => return some (.file (.text text.toList))
    | none => return some (.file .binary)
  catch _ => return none

/-- Brings in what stands at a path and at all places on the way to it. -/
def bringIn (disk : Disk) (path : Path) : IO Disk := do
  let mut disk := disk
  let mut place := disk.start path
  for part in (Path.segments path.spelling).filter Path.significant do
    place := if part = ['.', '.'] then place.dropLast else place ++ [part]
    if let some entry ← lookUp place then disk := disk.put place entry
  return disk

/-- The file whose absence ended a run. -/
def missing? : CommandLine.RunError → Option Path
  | .noConfig path => some path
  | .config (.missingSubinterpreter path) => some path
  | .interpret (.unresolvedInclude path .notFound) => some path
  | .interpret (.unreadableSource path .notFound) => some path
  | _ => none

/-- The paths that a request names. -/
def named (env : Environment) : CommandLine.Request → List Path
  | .initConfig path => [path]
  | .interpret file options =>
    [file, Config.defaultPath env] ++ options.config.toList ++ options.output.toList
  | .version | .help => []

/-- Brings in all files that interpreting a file needs. -/
partial def gather (env : Environment) (options : CommandLine.Options) (file : Path)
    (known : List Path) (disk : Disk) : IO Disk := do
  match CommandLine.produce env disk options file with
  | .ok _ => return disk
  | .error cause =>
    match missing? cause with
    | none => return disk
    | some path =>
      if known.contains path then return disk
      else gather env options file (path :: known) (← bringIn disk path)

/-- Carries out what a run has changed on its disk. -/
def carryOut (before after : Disk) : IO Unit := do
  for (place, entry) in after.entries.reverse do
    if before.entry? place != some entry then
      let name := String.ofList (Disk.pathOf place).spelling
      match entry with
      | .directory => IO.FS.createDirAll name
      | .file (.text body) => IO.FS.writeFile name (String.ofList body)
      | .file .binary => pure ()

/-- The whole run. -/
def execute (args : List Text) : IO UInt32 := do
  let env ← readEnvironment
  let here : Path := ⟨(← IO.currentDir).toString.toList⟩
  let start := Disk.empty ((Path.segments here.spelling).filter Path.significant)
  let disk ← match CommandLine.parse args with
    | none => pure start
    | some request => do
      let paths := named env request
      let seen ← paths.foldlM bringIn start
      match request with
      | .interpret file options => gather env options file paths seen
      | _ => pure seen
  let outcome := CommandLine.run env disk args
  carryOut disk outcome.disk
  IO.print (String.ofList outcome.stdout)
  IO.eprint (String.ofList outcome.stderr)
  return outcome.code.toUInt32

end Blockwise.Main

/-- The entry point of the program. -/
def main (args : List String) : IO UInt32 := Blockwise.Main.execute (args.map String.toList)
