/-
  Blockwise/Toml/Assembly.lean
  ============================
  **From expressions to a table.**  A TOML text is a sequence of expressions:
  assignments, and headers that open a table or one more element of an array of
  tables.  Putting them together enforces that nothing is defined twice:

    * a table that a header opened, or that stands in braces, is complete;
    * a table that dotted keys made may grow by dotted keys only;
    * a table that is only implied by a longer header may still get its own.

  The origin of each table under construction is kept for that.
-/
import Blockwise.Toml.Value

namespace Blockwise.Toml

/-- How a table came about. -/
inductive Origin where
  /-- By its own header. -/
  | header
  /-- By the header of a table inside it. -/
  | implied
  /-- By dotted keys. -/
  | dotted
deriving DecidableEq, Repr

/-- A value under construction. -/
inductive Item where
  /-- A value that is complete. -/
  | leaf (value : Value)
  /-- A table that may still grow. -/
  | table (origin : Origin) (fields : List (Text × Item))
  /-- An array of tables, of which the last may still grow. -/
  | tables (elements : List (List (Text × Item)))

/-- Keys with their values under construction. -/
abbrev Fields := List (Text × Item)

namespace Fields

/-- The item of a key. -/
def get? (fields : Fields) (key : Text) : Option Item :=
  (fields.find? fun entry => entry.1 == key).map Prod.snd

/-- The fields with an item at a key, in place of the one that is there. -/
def set (fields : Fields) (key : Text) (item : Item) : Fields :=
  if (fields.get? key).isSome then
    fields.map fun entry => if entry.1 == key then (key, item) else entry
  else fields ++ [(key, item)]

/-- Changes the table that a path leads to, making the tables that are missing
    on the way.  `dotted` tells dotted keys from headers. -/
def change (dotted : Bool) (f : Origin → Fields → Option Fields) :
    (path : List Text) → Origin → Fields → Option Fields
  | [], origin, fields => f origin fields
  | key :: path, _, fields =>
    match fields.get? key with
    | none => do
      let origin := if dotted then Origin.dotted else .implied
      let sub ← change dotted f path origin []
      return fields ++ [(key, .table origin sub)]
    | some (.table origin sub) =>
      if dotted && origin == .header then none
      else do
        let sub ← change dotted f path origin sub
        return fields.set key (.table origin sub)
    | some (.tables elements) => do
      let last ← elements.getLast?
      let sub ← change dotted f path .header last
      return fields.set key (.tables (elements.dropLast ++ [sub]))
    | some (.leaf _) => none

/-- Puts a value at a key that is not taken. -/
def assign (path : List Text) (key : Text) (value : Value) (fields : Fields) : Option Fields :=
  change true
    (fun origin fields =>
      if !path.isEmpty && origin != .dotted then none
      else if (fields.get? key).isSome then none
      else some (fields ++ [(key, .leaf value)]))
    path .header fields

/-- The table that a header opens: empty, or what longer headers implied of it. -/
def openTable (path : List Text) (key : Text) (root : Fields) : Option Fields :=
  let rec look : List Text → Fields → Option Fields
    | [], fields =>
      match fields.get? key with
      | none => some []
      | some (.table .implied sub) => some sub
      | some _ => none
    | part :: path, fields =>
      match fields.get? part with
      | none => some []
      | some (.table _ sub) => look path sub
      | some (.tables elements) => elements.getLast?.bind (look path)
      | some (.leaf _) => none
  look path root

/-- Puts a finished table where its header said. -/
def putTable (path : List Text) (key : Text) (body root : Fields) : Option Fields :=
  change false (fun _ fields => some (fields.set key (.table .header body))) path .header root

/-- Appends a finished table to the array that its header named. -/
def appendTable (path : List Text) (key : Text) (body root : Fields) : Option Fields :=
  change false
    (fun _ fields =>
      match fields.get? key with
      | none => some (fields ++ [(key, .tables [body])])
      | some (.tables elements) => some (fields.set key (.tables (elements ++ [body])))
      | some _ => none)
    path .header root

end Fields

mutual

/-- The value of a finished item. -/
def Item.freeze : Item → Value
  | .leaf value => value
  | .table _ fields => .table (freezeFields fields)
  | .tables elements => .array (freezeElements elements)

/-- The table of finished fields. -/
def freezeFields : List (Text × Item) → Table
  | [] => []
  | (key, item) :: fields => (key, item.freeze) :: freezeFields fields

/-- The values of finished tables. -/
def freezeElements : List (List (Text × Item)) → List Value
  | [] => []
  | fields :: elements => .table (freezeFields fields) :: freezeElements elements

end

/-! ### Expressions -/

/-- A line that says something.  A dotted key is split into the path before its
    last part, and that part. -/
inductive Expression where
  /-- `path.key = value` -/
  | assign (path : List Text) (key : Text) (value : Value)
  /-- `[path.key]` -/
  | table (path : List Text) (key : Text)
  /-- `[[path.key]]` -/
  | element (path : List Text) (key : Text)

/-- What has been put together, and the table that assignments go to. -/
structure Assembly where
  root : Fields
  /-- Where the current table goes, and whether as an element; `none` at the start. -/
  header : Option (List Text × Text × Bool)
  current : Fields

namespace Assembly

/-- Nothing yet. -/
def empty : Assembly := ⟨[], none, []⟩

/-- The root with the current table in its place. -/
def close (assembly : Assembly) : Option Fields :=
  match assembly.header with
  | none => some assembly.current
  | some (path, key, false) => Fields.putTable path key assembly.current assembly.root
  | some (path, key, true) => Fields.appendTable path key assembly.current assembly.root

/-- One more expression. -/
def add (assembly : Assembly) : Expression → Option Assembly
  | .assign path key value => do
    let current ← assembly.current.assign path key value
    return { assembly with current }
  | .table path key => do
    let root ← assembly.close
    let current ← Fields.openTable path key root
    return ⟨root, some (path, key, false), current⟩
  | .element path key => do
    let root ← assembly.close
    return ⟨root, some (path, key, true), []⟩

end Assembly

/-- The table that expressions describe; `none` if something is defined twice. -/
def assemble (expressions : List Expression) : Option Table := do
  let assembly ← expressions.foldlM Assembly.add .empty
  let root ← assembly.close
  return freezeFields root

/-- The table that the assignments inside braces describe. -/
def assembleInline (assignments : List (List Text × Text × Value)) : Option Table := do
  let fields ← assignments.foldlM
    (fun (fields : Fields) (path, key, value) => fields.assign path key value) []
  return freezeFields fields

end Blockwise.Toml
