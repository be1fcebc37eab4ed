/-
  Blockwise/Path/Basic.lean
  =========================
  **Paths.**  A path is printed as it was written, and compared by what it says:
  repeated slashes, a slash at the end and inner `.` parts make no difference,
  while `..` is kept and a relative path that begins with `.` differs from one
  that does not (`Path.same`).

  The operations work on the written form: the directory a path lies in
  (`parent?`), one path after another (`join`), and the form that starts at the
  root (`absoluteFrom`).

  The body of an include block names a file, often without its extension and
  relative to some directory.  Resolving it (`resolve`) trims the white space
  around it, appends the extension unless it is there already, and puts a
  relative reference below the base directory.
-/
import Blockwise.Text.Classes

namespace Blockwise

/-- A path, as it was written. -/
structure Path where
  spelling : Text
deriving DecidableEq, Repr

/-- One step of a path. -/
inductive Path.Component where
  /-- The slash that an absolute path begins with. -/
  | root
  /-- The `.` that a relative path begins with. -/
  | here
  /-- A `..`. -/
  | up
  /-- Anything else. -/
  | name (part : Text)
deriving DecidableEq, Repr

namespace Path

/-! ### Parts between slashes -/

/-- The parts of a text between its slashes, empty ones included; never an empty list. -/
def segments : Text → List Text
  | [] => [[]]
  | c :: t =>
    if c = '/' then [] :: segments t
    else
      match segments t with
      | [] => [[c]]
      | part :: parts => (c :: part) :: parts

/-- The parts with a slash between any two. -/
def unsegment : List Text → Text
  | [] => []
  | [part] => part
  | part :: next :: parts => part ++ '/' :: unsegment (next :: parts)

/-- The part says something: it is neither empty nor `.`. -/
def significant (part : Text) : Bool := part != [] && part != ['.']

/-- The path starts at the root. -/
def isAbsolute (p : Path) : Bool := p.spelling.head? == some '/'

/-- The path is relative and its first part is `.`. -/
def startsHere (p : Path) : Bool := (segments p.spelling).head? == some ['.']

/-- What a part of a path stands for. -/
def Component.ofPart (part : Text) : Component :=
  if part = ['.', '.'] then .up else .name part

/-- The steps of a path. -/
def components (p : Path) : List Component :=
  let lead := if p.isAbsolute then [Component.root] else if p.startsHere then [.here] else []
  lead ++ ((segments p.spelling).filter significant).map .ofPart

/-- Two spellings of one path. -/
def same (p q : Path) : Bool := p.components == q.components

/-! ### Building paths -/

/-- The path `q`, taken from `p` unless `q` is absolute. -/
def join (p q : Path) : Path :=
  if q.isAbsolute then q
  else if p.spelling = [] || p.spelling.getLast? = some '/' then ⟨p.spelling ++ q.spelling⟩
  else ⟨p.spelling ++ '/' :: q.spelling⟩

/-- The parts before the last one that says something, without trailing ones that do not. -/
def dropLastPart (parts : List Text) : Option (List Text) :=
  match parts.reverse.dropWhile (!significant ·) with
  | [] => none
  | _ :: before => some (before.dropWhile (!significant ·)).reverse

/-- The directory the path lies in: the path without its last step.  The root
    and the empty path have none. -/
def parent? (p : Path) : Option Path :=
  if p.isAbsolute then
    (dropLastPart (segments p.spelling).tail).map fun parts => ⟨'/' :: unsegment parts⟩
  else if p.startsHere then
    match dropLastPart (segments p.spelling).tail with
    | some parts => some ⟨unsegment (['.'] :: parts)⟩
    | none => some ⟨[]⟩
  else
    (dropLastPart (segments p.spelling)).map fun parts => ⟨unsegment parts⟩

/-- The path from the root, for a relative one below `directory`: without `.`
    and repeated slashes, with `..` kept, and with a slash at its end if it was
    written with one.  Exactly two slashes at the start stay two. -/
def absoluteFrom (directory p : Path) : Path :=
  let start : Path :=
    if p.isAbsolute then
      match p.spelling with
      | '/' :: '/' :: rest => if rest.head? = some '/' then ⟨['/']⟩ else ⟨['/', '/']⟩
      | _ => ⟨['/']⟩
    else directory
  let whole := ((segments p.spelling).filter significant).foldl
    (fun path part => path.join ⟨part⟩) start
  if p.spelling.getLast? = some '/' then whole.join ⟨[]⟩ else whole

/-! ### File references -/

/-- The trimmed reference, with the extension at its end. -/
def extend (extension : Option Text) (reference : Text) : Text :=
  let stub := Text.trim reference
  match extension with
  | some ext => if Text.endsWith stub ext then stub else stub ++ ext
  | none => stub

/-- A text continued by one more part of a path. -/
def descend (base part : Text) : Text :=
  if base = [] then part else base ++ '/' :: part

/-- The path a reference names: itself if it starts at the root, otherwise the
    base directory continued by the non-empty parts of the reference. -/
def resolve (base : Option Path) (extension : Option Text) (reference : Text) : Path :=
  let stub := extend extension reference
  if stub.head? = some '/' then ⟨stub⟩
  else
    let start := match base with
      | some directory => directory.spelling
      | none => []
    ⟨((segments stub).filter (· != [])).foldl descend start⟩

end Path

end Blockwise
