/-
  Blockwise/Files/Disk.lean
  =========================
  **A disk as a finite tree.**  Files and directories by the names that lead to
  them from the root, and the working directory that relative paths start from.
  There are no links, so the names that lead somewhere are its one canonical
  path.

  A path is followed part by part (`walk`): every part but the last must name a
  directory, and a slash or a `.` after a file's name already asks for one.
  Reading, writing and making directories fail for the causes, and in the order,
  that such a walk meets them; `FileError` has one constructor per cause, and the
  wording of each.
-/
import Blockwise.Path.Basic

namespace Blockwise

/-! ### Failures -/

/-- Why a file could not be read, written or found. -/
inductive FileError where
  /-- Some part of the path does not exist. -/
  | notFound
  /-- The path goes on below a file. -/
  | notADirectory
  /-- A file was wanted and the path names a directory. -/
  | isADirectory
  /-- A directory was to be made and the path names something already. -/
  | alreadyExists
  /-- The path, or one of its parts, is longer than the system allows. -/
  | nameTooLong
  /-- The path holds the character with code point zero. -/
  | zeroByte
  /-- The file's bytes are not text. -/
  | notText
  /-- Files in memory hold none of this path. -/
  | absent (path : Path)
deriving DecidableEq, Repr

/-- The wording of a failure. -/
def FileError.message : FileError → Text
  | .notFound => "No such file or directory (os error 2)".toList
  | .notADirectory => "Not a directory (os error 20)".toList
  | .isADirectory => "Is a directory (os error 21)".toList
  | .alreadyExists => "File exists (os error 17)".toList
  | .nameTooLong => "File name too long (os error 36)".toList
  | .zeroByte => "file name contained an unexpected NUL byte".toList
  | .notText => "stream did not contain valid UTF-8".toList
  | .absent path => "no such file: ".toList ++ path.spelling

/-! ### Files and directories -/

/-- What a file holds. -/
inductive Content where
  /-- Bytes that are the UTF-8 form of a text. -/
  | text (body : Text)
  /-- Bytes that are not. -/
  | binary
deriving DecidableEq, Repr

/-- What stands at some place of a disk. -/
inductive Entry where
  | directory
  | file (content : Content)
deriving DecidableEq, Repr

/-- The names that lead from the root to a file or directory. -/
abbrev Location := List Text

/-- Files and directories by location, and the directory where work is done. -/
structure Disk where
  workingDir : Location
  entries : List (Location × Entry)
deriving Repr

namespace Disk

/-! ### Looking up -/

/-- What stands at a location; the root is always a directory. -/
def entry? (disk : Disk) (place : Location) : Option Entry :=
  if place = [] then some .directory
  else (disk.entries.find? fun item => item.1 == place).map Prod.snd

/-- The disk with `entry` at a location, in place of what is there. -/
def put (disk : Disk) (place : Location) (entry : Entry) : Disk :=
  { disk with entries := (place, entry) :: disk.entries.filter fun item => item.1 != place }

/-- The locations on the way to `place`, the root left out and `place` included. -/
def trail (place : Location) : List Location :=
  (List.range place.length).map fun n => place.take (n + 1)

/-- Makes all directories on the way to `place` that are not there yet, and `place` itself. -/
def putDirs (disk : Disk) (place : Location) : Disk :=
  (trail place).foldl
    (fun disk dir => if (disk.entry? dir).isSome then disk else disk.put dir .directory) disk

/-- The disk that holds nothing but the working directory. -/
def empty (workingDir : Location) : Disk :=
  putDirs ⟨workingDir, []⟩ workingDir

/-- The number of files and directories. -/
def size (disk : Disk) : Nat := disk.entries.length

/-! ### Following a path -/

/-- Longest name of a file or directory, in bytes. -/
def maxNameBytes : Nat := 255

/-- Longest path, in bytes. -/
def maxPathBytes : Nat := 4095

/-- Follows the parts of a path from a location. -/
def walk (disk : Disk) (place : Location) : List Text → Except FileError Location
  | [] => .ok place
  | part :: parts =>
    match disk.entry? place with
    | none => .error .notFound
    | some (.file _) => .error .notADirectory
    | some .directory =>
      if part = [] || part = ['.'] then walk disk place parts
      else if part = ['.', '.'] then walk disk place.dropLast parts
      else if maxNameBytes < Text.byteLen part then .error .nameTooLong
      else if (disk.entry? (place ++ [part])).isSome then walk disk (place ++ [part]) parts
      else .error .notFound

/-- Refuses paths that cannot lead anywhere. -/
def screen (path : Path) : Except FileError Unit :=
  if path.spelling.any (·.toNat == 0) then .error .zeroByte
  else if path.spelling = [] then .error .notFound
  else .ok ()

/-- Refuses paths that are too long to be followed in one go. -/
def screenLength (path : Path) : Except FileError Unit :=
  if maxPathBytes < path.spelling.byteLen then .error .nameTooLong else .ok ()

/-- Where a path is followed from. -/
def start (disk : Disk) (path : Path) : Location :=
  if path.isAbsolute then [] else disk.workingDir

/-- The location a path leads to, followed part by part, whatever its length. -/
def follow (disk : Disk) (path : Path) : Except FileError Location := do
  screen path
  disk.walk (disk.start path) (Path.segments path.spelling)

/-- The location a path leads to, followed in one go. -/
def locate (disk : Disk) (path : Path) : Except FileError Location := do
  screen path
  screenLength path
  disk.follow path

/-- The canonical path of a location. -/
def pathOf (place : Location) : Path := ⟨'/' :: Path.unsegment place⟩

/-- The one path of whatever a path leads to. -/
def canonical (disk : Disk) (path : Path) : Except FileError Path :=
  (disk.follow path).map pathOf

/-- The path leads somewhere. -/
def pathExists (disk : Disk) (path : Path) : Bool :=
  match disk.locate path with
  | .ok _ => true
  | .error _ => false

/-- The path leads to a directory. -/
def isDir (disk : Disk) (path : Path) : Bool :=
  match disk.locate path with
  | .ok place => disk.entry? place == some .directory
  | .error _ => false

/-! ### Reading and writing -/

/-- Reads a file as text. -/
def read (disk : Disk) (path : Path) : Except FileError Text := do
  let place ← disk.locate path
  match disk.entry? place with
  | some (.file (.text body)) => .ok body
  | some (.file .binary) => .error .notText
  | some .directory => .error .isADirectory
  | none => .error .notFound

/-- The directory in which a path names its last part, that part, and whether a
    slash follows it; `none` for the last part if the path names a directory by
    itself (`/`, `.` or `..`). -/
def locateLast (disk : Disk) (path : Path) :
    Except FileError (Location × Option Text × Bool) := do
  screen path
  screenLength path
  let parts := Path.segments path.spelling
  let core := (parts.reverse.dropWhile (· == [])).reverse
  let slash := parts.getLast? == some []
  match core.getLast? with
  | none => .ok ([], none, slash)
  | some last =>
    let place ← disk.walk (disk.start path) core.dropLast
    match disk.entry? place with
    | some .directory =>
      if last = ['.'] || last = ['.', '.'] then .ok (place, none, slash)
      else .ok (place, some last, slash)
    | some (.file _) => .error .notADirectory
    | none => .error .notFound

/-- What stands at a name in a directory; the name may be too long to be looked up. -/
def child? (disk : Disk) (place : Location) (name : Text) : Except FileError (Option Entry) :=
  if maxNameBytes < Text.byteLen name then .error .nameTooLong
  else .ok (disk.entry? (place ++ [name]))

/-- Writes a text to a file, which is made if it is not there.  A slash after the
    name asks for a directory, before the name is looked up. -/
def write (disk : Disk) (path : Path) (body : Text) : Except FileError Disk := do
  match ← disk.locateLast path with
  | (_, none, _) => .error .isADirectory
  | (_, some _, true) => .error .isADirectory
  | (place, some name, false) =>
    match ← disk.child? place name with
    | some .directory => .error .isADirectory
    | _ => .ok (disk.put (place ++ [name]) (.file (.text body)))

/-- Makes one directory. -/
def makeDir (disk : Disk) (path : Path) : Except FileError Disk := do
  match ← disk.locateLast path with
  | (_, none, _) => .error .alreadyExists
  | (place, some name, _) =>
    if (← disk.child? place name).isSome then .error .alreadyExists
    else .ok (disk.put (place ++ [name]) .directory)

/-- Makes one directory, unless it is there already. -/
def ensureDir (disk : Disk) (path : Path) : Disk × Except FileError Unit :=
  match disk.makeDir path with
  | .ok after => (after, .ok ())
  | .error cause => (disk, if disk.isDir path then .ok () else .error cause)

/-- Makes a directory and those it lies in, at most `depth` of them.  What was
    made before a failure stays. -/
def makeDirsWithin (disk : Disk) (path : Path) : (depth : Nat) → Disk × Except FileError Unit
  | 0 => (disk, .error .notFound)
  | depth + 1 =>
    if path.spelling = [] then (disk, .ok ())
    else
      match disk.makeDir path with
      | .error .notFound =>
        match path.parent? with
        | none => (disk, .error .notFound)
        | some parent =>
          match disk.makeDirsWithin parent depth with
          | (after, .ok ()) => after.ensureDir path
          | (after, .error cause) => (after, .error cause)
      | _ => disk.ensureDir path

/-- Makes a directory and those it lies in.  A path has fewer directories above
    it than characters. -/
def makeDirs (disk : Disk) (path : Path) : Disk × Except FileError Unit :=
  disk.makeDirsWithin path (path.spelling.length + 2)

/-- Puts a file or directory at a path, with the directories it lies in. -/
def install (disk : Disk) (path : Path) (entry : Entry) : Disk :=
  match entry with
  | .directory => (disk.makeDirs path).1
  | .file content =>
    let ready := match path.parent? with
      | some parent => (disk.makeDirs parent).1
      | none => disk
    match ready.locateLast path with
    | .ok (place, some name, _) => ready.put (place ++ [name]) (.file content)
    | _ => ready

end Disk

end Blockwise
