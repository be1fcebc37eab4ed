/-
  Blockwise/Toml/Reader.lean
  ==========================
  **Reading TOML.**  A text is read line by line into expressions, which are then
  put together.  Values may hold values, so their reader is bounded: every two
  steps of it read a character, and braces and brackets nest at most
  `maxNesting` deep.
-/
import Blockwise.Toml.Assembly
import Blockwise.Toml.Scalar

namespace Blockwise.Toml

/-! ### Between the words -/

/-- The text after a line break. -/
def afterBreak? : Text → Option Text
  | '\n' :: rest => some rest
  | '\r' :: '\n' :: rest => some rest
  | _ => none

/-- The text after a comment, which goes on to the end of the line. -/
def skipComment : Text → Option Text
  | [] => some []
  | c :: rest =>
    if (afterBreak? (c :: rest)).isSome then some (c :: rest)
    else if isPrintable c then skipComment rest
    else none

/-- The text after the end of a line that has nothing more to say. -/
def endLine? (text : Text) : Option Text := do
  let text ← match skipSpaces text with
    | '#' :: rest => skipComment rest
    | other => some other
  if text.isEmpty then some [] else afterBreak? text

/-- The text without spaces, line breaks and comments at its start. -/
def skipFiller (inComment : Bool) : Text → Option Text
  | [] => some []
  | c :: rest =>
    if c == '\n' then skipFiller false rest
    else if c == '\r' && rest.head? == some '\n' then skipFiller inComment rest
    else if inComment then if isPrintable c then skipFiller true rest else none
    else if isSpace c then skipFiller false rest
    else if c == '#' then skipFiller true rest
    else some (c :: rest)

/-! ### Keys -/

/-- The character may stand in a key without quotes. -/
def isKeyChar (c : Char) : Bool :=
  isDecimal c || ('a' ≤ c && c ≤ 'z') || ('A' ≤ c && c ≤ 'Z') || c == '_' || c == '-'

/-- One part of a key. -/
def readKeyPart (text : Text) : Option (Text × Text) :=
  match styleOf? text with
  | some style => if style.multi then none else readAs style text
  | none =>
    let part := text.takeWhile isKeyChar
    if part.isEmpty then none else some (part, text.dropWhile isKeyChar)

/-- A key of at most `limit` parts with points between them, and the text after
    the spaces that follow. -/
def readKeyWithin : (limit : Nat) → Text → Option (List Text × Text × Text)
  | 0, _ => none
  | limit + 1, text => do
    let (part, rest) ← readKeyPart text
    match skipSpaces rest with
    | '.' :: more => do
      let (path, key, rest) ← readKeyWithin limit (skipSpaces more)
      return (part :: path, key, rest)
    | rest => return ([], part, rest)

/-- How many parts a key may have. -/
def maxKeyParts : Nat := 80

/-- A key: the path before its last part, that part, and the text after it. -/
def readKey (text : Text) : Option (List Text × Text × Text) := readKeyWithin maxKeyParts text

/-! ### Values -/

/-- How deep brackets and braces may be nested. -/
def maxNesting : Nat := 80

mutual

/-- A value, inside `depth` brackets and braces. -/
def readValue : (limit : Nat) → (depth : Nat) → Text → Option (Value × Text)
  | 0, _, _ => none
  | limit + 1, depth, text =>
    match text with
    | [] => none
    | c :: rest =>
      if c = '[' then
        if maxNesting ≤ depth then none
        else do
          let (items, rest) ← readItems limit (depth + 1) rest
          return (.array items, rest)
      else if c = '\x7b' then
        if maxNesting ≤ depth then none
        else do
          let (fields, rest) ← readFields limit (depth + 1) rest
          let table ← assembleInline fields
          return (.table table, rest)
      else if c = '"' || c = '\x27' then do
        let (string, rest) ← readString text
        return (.string string, rest)
      else do
        let (word, rest) := splitWords false text
        let value ← scalar? word
        return (value, rest)

/-- The items of an array from here to its end. -/
def readItems : (limit : Nat) → (depth : Nat) → Text → Option (List Value × Text)
  | 0, _, _ => none
  | limit + 1, depth, text => do
    match ← skipFiller false text with
    | ']' :: rest => return ([], rest)
    | text =>
      let (value, rest) ← readValue limit depth text
      match ← skipFiller false rest with
      | ',' :: rest =>
        let (values, rest) ← readItems limit depth rest
        return (value :: values, rest)
      | ']' :: rest => return ([value], rest)
      | _ => none

/-- The assignments of a table in braces from here to its end.  Line breaks and
    comments may stand anywhere but inside a key. -/
def readFields : (limit : Nat) → (depth : Nat) → Text →
    Option (List (List Text × Text × Value) × Text)
  | 0, _, _ => none
  | limit + 1, depth, text => do
    match ← skipFiller false text with
    | '\x7d' :: rest => return ([], rest)
    | text =>
      let (path, key, rest) ← readKey text
      let rest ← after? '=' (← skipFiller false rest)
      let (value, rest) ← readValue limit depth (← skipFiller false rest)
      match ← skipFiller false rest with
      | ',' :: rest =>
        let (fields, rest) ← readFields limit depth rest
        return ((path, key, value) :: fields, rest)
      | '\x7d' :: rest => return ([(path, key, value)], rest)
      | _ => none

end

/-! ### Lines -/

/-- One line: what it says, and the text after it. -/
def readLine (text : Text) : Option (Option Expression × Text) := do
  match skipSpaces text with
  | '[' :: '[' :: rest =>
    let (path, key, rest) ← readKey (skipSpaces rest)
    let rest ← after? ']' rest
    let rest ← after? ']' rest
    return (some (.element path key), ← endLine? rest)
  | '[' :: rest =>
    let (path, key, rest) ← readKey (skipSpaces rest)
    let rest ← after? ']' rest
    return (some (.table path key), ← endLine? rest)
  | line =>
    match endLine? line with
    | some rest => return (none, rest)
    | none =>
      let (path, key, rest) ← readKey line
      let rest ← after? '=' rest
      let value := skipSpaces rest
      let (value, rest) ← readValue (2 * value.length + 2) 0 value
      return (some (.assign path key value), ← endLine? rest)

/-- All lines of a text, at most `limit` of them. -/
def readLinesWithin : (limit : Nat) → Text → Option (List Expression)
  | 0, _ => none
  | limit + 1, text =>
    if text.isEmpty then some []
    else do
      let (expression, rest) ← readLine text
      let expressions ← readLinesWithin limit rest
      return expression.toList ++ expressions

/-- The text without a byte order mark at its start. -/
def dropMark : Text → Text
  | c :: rest => if c.toNat = 0xFEFF then rest else c :: rest
  | [] => []

/-- Reads a TOML text; `none` if it is not one. -/
def read (text : Text) : Option Table := do
  let body := dropMark text
  let expressions ← readLinesWithin (body.length + 1) body
  assemble expressions

end Blockwise.Toml
