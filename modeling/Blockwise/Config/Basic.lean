/-
  Blockwise/Config/Basic.lean
  ===========================
  **Configurations.**  A configuration lists block types and gives the include
  types among them their defaults.  It is kept in a TOML file; this module says
  which tables are configurations (`Config.ofTable?`) and how one is written
  (`Config.write`).
-/
import Blockwise.Config.Entry
import Blockwise.Toml.Reader

namespace Blockwise

/-- A configured interpreter. -/
structure Config where
  /-- Base directory of includes that have none of their own. -/
  baseDir : Option Path := none
  /-- Extension of includes that have none of their own. -/
  extension : Option Text := none
  selfCloseSkip : Option Nat := none
  /-- The block types in the order they are tried; without any, the LaTeX types. -/
  blocks : List BlockEntry := []
  /-- The file the configuration was loaded from. -/
  sourcePath : Option Path := none
deriving DecidableEq, Repr

namespace Config

/-- The LaTeX types as entries. -/
def latexEntries : List BlockEntry := Preset.latexTypes.filterMap BlockEntry.ofType?

/-- The configuration that spells out the LaTeX types. -/
def latex : Config := { blocks := latexEntries }

/-! ### From a table -/

namespace Decode

open Toml

/-- A string. -/
def text? : Value → Option Text
  | .string text => some text
  | _ => none

/-- A string that is a path. -/
def path? (value : Value) : Option Path := (text? value).map Path.mk

/-- A boolean. -/
def bool? : Value → Option Bool
  | .boolean value => some value
  | _ => none

/-- A string of one character. -/
def char? (value : Value) : Option Char := do
  match ← text? value with
  | [c] => some c
  | _ => none

/-- An integer that is an offset. -/
def offset? : Value → Option Nat
  | .integer (some number) =>
    if 0 ≤ number ∧ number < offsetLimit then some number.toNat else none
  | _ => none

/-- A kind: its name, or a table that holds nothing but the name with an empty value. -/
def kind? : Value → Option EntryKind
  | .string name => EntryKind.ofName? name
  | .table [(name, .table [])] => EntryKind.ofName? name
  | .table [(name, .array [])] => EntryKind.ofName? name
  | _ => none

/-- A setting that may be missing. -/
def optional? {α : Type} (decode : Value → Option α) : Option Value → Option (Option α)
  | none => some none
  | some value => (decode value).map some

/-- The settings of an entry in the order in which they may be listed without their names. -/
def entryKeys : List Text :=
  ["name", "kind", "open", "close", "escape", "case_sensitive", "closeable_by_eof",
    "forbid_new_openings", "close_immediately", "base_dir", "extension",
    "subinterpreter"].map String.toList

/-- The settings of a configuration. -/
def configKeys : List Text :=
  ["base_dir", "extension", "self_close_skip", "blocks"].map String.toList

/-- An entry, given the value of each setting. -/
def entryOf? (get : Text → Option Value) : Option BlockEntry := do
  return {
    name := ← (← get "name".toList) |> text?
    kind := ← (← get "kind".toList) |> kind?
    openTag := ← (← get "open".toList) |> text?
    closeTag := ← optional? text? (get "close".toList)
    escape := ← optional? char? (get "escape".toList)
    caseSensitive := ← optional? bool? (get "case_sensitive".toList)
    closeableByEof := ← optional? bool? (get "closeable_by_eof".toList)
    forbidNewOpenings := ← optional? bool? (get "forbid_new_openings".toList)
    closeImmediately := ← optional? bool? (get "close_immediately".toList)
    baseDir := ← optional? path? (get "base_dir".toList)
    extension := ← optional? text? (get "extension".toList)
    subinterpreter := ← optional? path? (get "subinterpreter".toList) }

/-- Settings that are not known are skipped, but their numbers must be machine numbers. -/
def skipUnknown? (known : List Text) (table : Table) : Option Unit :=
  if fieldsRepresentable (table.filter fun entry => !known.contains entry.1) then some () else none

/-- An entry: a table, or the list of its settings. -/
def entry? : Value → Option BlockEntry
  | .table table => do
    skipUnknown? entryKeys table
    entryOf? (Table.get? table)
  | .array items => entryOf? (Table.get? (entryKeys.zip items))
  | _ => none

/-- The entries of a configuration. -/
def entries? : Value → Option (List BlockEntry)
  | .array items => items.mapM entry?
  | _ => none

end Decode

/-- The configuration that a table describes. -/
def ofTable? (table : Toml.Table) : Option Config := do
  Decode.skipUnknown? Decode.configKeys table
  return {
    baseDir := ← Decode.optional? Decode.path? (table.get? "base_dir".toList)
    extension := ← Decode.optional? Decode.text? (table.get? "extension".toList)
    selfCloseSkip := ← Decode.optional? Decode.offset? (table.get? "self_close_skip".toList)
    blocks := (← Decode.optional? Decode.entries? (table.get? "blocks".toList)).getD [] }

/-- The configuration that a text describes. -/
def ofText? (text : Text) : Option Config := do
  ofTable? (← Toml.read text)

/-! ### To a text -/

namespace Encode

/-- One line. -/
def line (key : String) (value : Text) : Text := key.toList ++ " = ".toList ++ value ++ ['\n']

/-- A line with a string. -/
def string (key : String) (text : Text) : Text := line key (Toml.writeString text)

/-- A line for a setting, if it is set. -/
def optional {α : Type} (write : α → Text) : Option α → Text
  | some value => write value
  | none => []

/-- A line with a boolean. -/
def bool (key : String) (value : Bool) : Text :=
  line key (if value then "true".toList else "false".toList)

/-- A line with a path. -/
def path (key : String) (path : Path) : Text := string key path.spelling

/-- The lines of an entry. -/
def entry (entry : BlockEntry) : Text :=
  "[[blocks]]\n".toList ++
    string "name" entry.name ++
    string "kind" entry.kind.name ++
    string "open" entry.openTag ++
    optional (string "close") entry.closeTag ++
    optional (fun c => string "escape" [c]) entry.escape ++
    optional (bool "case_sensitive") entry.caseSensitive ++
    optional (bool "closeable_by_eof") entry.closeableByEof ++
    optional (bool "forbid_new_openings") entry.forbidNewOpenings ++
    optional (bool "close_immediately") entry.closeImmediately ++
    optional (path "base_dir") entry.baseDir ++
    optional (string "extension") entry.extension ++
    optional (path "subinterpreter") entry.subinterpreter

/-- Entries after some text, with an empty line before each one that does not begin the file. -/
def entries (before : Text) : List BlockEntry → Text
  | [] => before
  | first :: rest =>
    entries ((if before.isEmpty then [] else before ++ ['\n']) ++ entry first) rest

end Encode

/-- The text of a configuration. -/
def write (config : Config) : Text :=
  let top :=
    Encode.optional (Encode.path "base_dir") config.baseDir ++
      Encode.optional (Encode.string "extension") config.extension ++
      Encode.optional (fun n => Encode.line "self_close_skip" (Text.ofNat n)) config.selfCloseSkip
  Encode.entries top config.blocks

end Config

end Blockwise
