/-
  Blockwise/Files/Reader.lean
  ===========================
  **Where an interpreter reads its files:** from memory, from the disk, or in any way
  that a caller provides.  Besides the text of a file a reader gives the identity of a
  path, by which a file that is being read already is recognised.

  Files in memory are a finite map from paths to texts, in which two spellings of one
  path are one key.  A caller's files are any two functions, one that reads and one that
  gives canonical paths, as those of a disk with links; the paths by which the files are
  known come with them.
  There are finitely many of these, which leaves nothing out: a run that ends has asked
  for finitely many files, and would be the same if there were no others.
-/
import Blockwise.Files.Disk

namespace Blockwise

/-! ### Files in memory -/

/-- Texts by path; of entries with the same path the first counts. -/
structure MemoryFiles where
  entries : List (Path × Text)
deriving Repr

namespace MemoryFiles

/-- No files. -/
def empty : MemoryFiles := ⟨[]⟩

/-- The text at a path, under whatever spelling it was put there. -/
def find? (files : MemoryFiles) (path : Path) : Option Text :=
  (files.entries.find? fun entry => entry.1.same path).map Prod.snd

/-- Puts a text at a path, in place of the one that is there. -/
def insert (files : MemoryFiles) (path : Path) (text : Text) : MemoryFiles :=
  if (files.find? path).isSome then
    ⟨files.entries.map fun entry => if entry.1.same path then (entry.1, text) else entry⟩
  else ⟨files.entries ++ [(path, text)]⟩

/-- The files of a list, later ones replacing earlier ones. -/
def ofList (entries : List (Path × Text)) : MemoryFiles :=
  entries.foldl (fun files entry => files.insert entry.1 entry.2) empty

/-- Reads a file. -/
def read (files : MemoryFiles) (path : Path) : Except FileError Text :=
  match files.find? path with
  | some text => .ok text
  | none => .error (.absent path)

end MemoryFiles

/-! ### Files of a caller -/

/-- The canonical path, or the path as written if there is none. -/
def Path.orCanonical (path : Path) : Except FileError Path → Path
  | .ok known => known
  | .error _ => path

/-- Files that a caller provides, read and told apart in any way. -/
structure CallerFiles where
  read : Path → Except FileError Text
  canonical : Path → Except FileError Path
  /-- The paths by which the files are known. -/
  names : List Path
  /-- What can be read has a name. -/
  named : ∀ path text, read path = .ok text →
    (path.orCanonical (canonical path)).components ∈ names.map Path.components

namespace CallerFiles

/-- The texts of a table by path as written, with any canonical paths. -/
def ofTable (table : List (Path × Text)) (canonical : Path → Except FileError Path) :
    CallerFiles where
  read path :=
    match table.lookup path with
    | some text => .ok text
    | none => .error .notFound
  canonical := canonical
  names := table.map fun entry => entry.1.orCanonical (canonical entry.1)
  named := by
    intro path text hread
    rcases hfound : table.lookup path with _ | found
    · simp [hfound] at hread
    · obtain ⟨before, after, rfl, -⟩ := List.lookup_eq_some_iff.1 hfound
      simp

end CallerFiles

/-! ### Readers -/

/-- A source of files. -/
inductive Reader where
  | memory (files : MemoryFiles)
  | disk
  | caller (files : CallerFiles)

namespace Reader

/-- Reads a whole file. -/
def read (disk : Disk) : Reader → Path → Except FileError Text
  | .memory files, path => files.read path
  | .disk, path => disk.read path
  | .caller files, path => files.read path

/-- A path by which a file is known, whatever spelling leads to it.  Files in
    memory are known by the path as written. -/
def canonical (disk : Disk) : Reader → Path → Except FileError Path
  | .memory _, path => .ok path
  | .disk, path => disk.canonical path
  | .caller files, path => files.canonical path

/-- The path by which a file is known on a chain of files. -/
def identity (disk : Disk) (reader : Reader) (path : Path) : Path :=
  path.orCanonical (reader.canonical disk path)

/-- An upper bound on the number of files that can be read. -/
def size (disk : Disk) : Reader → Nat
  | .memory files => files.entries.length
  | .disk => disk.size
  | .caller files => files.names.length

end Reader

end Blockwise
