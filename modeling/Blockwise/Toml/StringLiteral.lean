/-
  Blockwise/Toml/StringLiteral.lean
  =================================
  **TOML strings,** read and written.  There are four forms: between double quotes
  with escapes or between single quotes without, each on one line or, with the
  quotes tripled, on several.

  Reading is one pass, character by character, with a small state for what an
  escape still needs (`readBody`).  Writing chooses the plainest form that can
  hold the text (`Style.choose`).
-/
import Blockwise.Text.Basic

namespace Blockwise.Toml

/-- The form of a string. -/
structure Style where
  /-- Backslashes escape; the quotes are double ones. -/
  escapes : Bool
  /-- The quotes are tripled, and the string may hold line breaks. -/
  multi : Bool
deriving DecidableEq, Repr

namespace Style

/-- The character that delimits the string. -/
def quote (style : Style) : Char := if style.escapes then '"' else '\x27'

/-- What stands on both sides of the string. -/
def fence (style : Style) : Text := List.replicate (if style.multi then 3 else 1) style.quote

end Style

/-! ### Characters -/

/-- The character may stand in a string or a comment as it is: a tab, or any
    character that is not a control character of ASCII. -/
def isPrintable (c : Char) : Bool :=
  c == '\t' || (0x20 ≤ c.toNat && c.toNat ≤ 0x7E) || 0x80 ≤ c.toNat

/-- The character is a space or a tab. -/
def isSpace (c : Char) : Bool := c == ' ' || c == '\t'

/-- What a letter after a backslash stands for. -/
def simpleEscape? (c : Char) : Option Char :=
  if c = 'b' then some '\x08'
  else if c = 't' then some '\t'
  else if c = 'n' then some '\n'
  else if c = 'f' then some '\x0c'
  else if c = 'r' then some '\r'
  else if c = 'e' then some '\x1b'
  else if c = '"' then some '"'
  else if c = '\\' then some '\\'
  else none

/-- How many hexadecimal digits follow a letter after a backslash. -/
def hexEscape? (c : Char) : Option Nat :=
  if c = 'x' then some 2
  else if c = 'u' then some 4
  else if c = 'U' then some 8
  else none

/-- The value of a hexadecimal digit. -/
def hexValue? (c : Char) : Option Nat :=
  if '0' ≤ c ∧ c ≤ '9' then some (c.toNat - '0'.toNat)
  else if 'a' ≤ c ∧ c ≤ 'f' then some (c.toNat - 'a'.toNat + 10)
  else if 'A' ≤ c ∧ c ≤ 'F' then some (c.toNat - 'A'.toNat + 10)
  else none

/-- The character with a code point; surrogates and numbers out of range have none. -/
def charOf? (code : Nat) : Option Char :=
  if code.isValidChar then some (Char.ofNat code) else none

/-! ### Reading -/

/-- What the reading of a string waits for. -/
inductive ReadState where
  /-- The next character. -/
  | plain
  /-- What a backslash escapes. -/
  | slash
  /-- More digits of an escape, with the value of those read. -/
  | hex (missing value : Nat)
  /-- The end of the blank space after a backslash at the end of a line;
      `broken` once the line break has been met. -/
  | gap (broken : Bool)
deriving DecidableEq, Repr

/-- What one character does. -/
inductive ReadStep where
  /-- The string ends, after some last quotes. -/
  | done (quotes rest : Text)
  /-- The string goes on with a character. -/
  | emit (c : Char) (next : ReadState)
  /-- The string goes on without one. -/
  | skip (next : ReadState)
  /-- The string is malformed. -/
  | reject

/-- The end of a string that may hold quotes: at least three of them, of which
    up to two more belong to the string. -/
def fenceEnd? (quote : Char) (text : Text) : Option (Text × Text) :=
  let run := min 5 (text.takeWhile (· == quote)).length
  if 3 ≤ run then some (List.replicate (run - 3) quote, text.drop run) else none

/-- A character outside escapes, with the text after it. -/
def plainStep (style : Style) (c : Char) (rest : Text) : ReadStep :=
  let ended := if style.multi then fenceEnd? style.quote (c :: rest)
    else if c = style.quote then some ([], rest) else none
  match ended with
  | some (quotes, after) => .done quotes after
  | none =>
    if style.escapes && c == '\\' then .skip .slash
    else if style.multi && (c == '\n' || (c == '\r' && rest.head? == some '\n')) then
      .emit c .plain
    else if isPrintable c then .emit c .plain
    else .reject

/-- A character in some state, with the text after it. -/
def readStep (style : Style) (state : ReadState) (c : Char) (rest : Text) : ReadStep :=
  match state with
  | .plain => plainStep style c rest
  | .slash =>
    match simpleEscape? c, hexEscape? c with
    | some d, _ => .emit d .plain
    | none, some count => .skip (.hex count 0)
    | none, none =>
      if style.multi && (isSpace c || (c == '\r' && rest.head? == some '\n')) then
        .skip (.gap false)
      else if style.multi && c == '\n' then .skip (.gap true)
      else .reject
  | .hex missing value =>
    match hexValue? c with
    | none => .reject
    | some digit =>
      let code := value * 16 + digit
      if 1 < missing then .skip (.hex (missing - 1) code)
      else
        match charOf? code with
        | some d => .emit d .plain
        | none => .reject
  | .gap broken =>
    if isSpace c || (c == '\r' && rest.head? == some '\n') then .skip (.gap broken)
    else if c == '\n' then .skip (.gap true)
    else if broken then plainStep style c rest
    else .reject

/-- Reads a string up to its end: the string and the text after it. -/
def readBody (style : Style) (state : ReadState) : Text → Option (Text × Text)
  | [] => none
  | c :: rest =>
    match readStep style state c rest with
    | .done quotes after => some (quotes, after)
    | .emit d next => (readBody style next rest).map fun found => (d :: found.1, found.2)
    | .skip next => readBody style next rest
    | .reject => none

/-- The text without a line break at its start. -/
def dropBreak : Text → Text
  | '\n' :: rest => rest
  | '\r' :: '\n' :: rest => rest
  | text => text

/-- Reads a string that is known to begin in a style. -/
def readAs (style : Style) (text : Text) : Option (Text × Text) :=
  let inside := text.drop style.fence.length
  readBody style .plain (if style.multi then dropBreak inside else inside)

/-- The style in which the text begins a string. -/
def styleOf? (text : Text) : Option Style :=
  let begins (style : Style) : Bool := style.fence.isPrefixOf text
  [⟨true, true⟩, ⟨false, true⟩, ⟨true, false⟩, ⟨false, false⟩].find? begins

/-- Reads a string in any style. -/
def readString (text : Text) : Option (Text × Text) := do
  let style ← styleOf? text
  readAs style text

/-! ### Writing -/

/-- The character needs an escape wherever it stands: a control character other
    than a tab or a line break. -/
def isControl (c : Char) : Bool :=
  (c.toNat < 0x20 && c != '\t' && c != '\n') || c.toNat == 0x7F

/-- The longest run of a character, given the length of the run that goes on here. -/
def longestRun (q : Char) (current : Nat) : Text → Nat
  | [] => current
  | c :: rest =>
      if c = q then longestRun q (current + 1) rest else max current (longestRun q 0 rest)

namespace Style

/-- The style in which a text is written: the first that can hold it as it is. -/
def choose (text : Text) : Style :=
  let control := text.any isControl
  let breaks := text.contains '\n'
  let slash := text.contains '\\'
  if !control && !slash && !text.contains '"' && !breaks then ⟨true, false⟩
  else if !control && !text.contains '\x27' && !breaks then ⟨false, false⟩
  else if !control && !slash && longestRun '"' 0 text ≤ 2 then ⟨true, true⟩
  else if !control && longestRun '\x27' 0 text ≤ 2 then ⟨false, true⟩
  else ⟨true, breaks⟩

end Style

/-- Four hexadecimal digits with capital letters, for a code point below 256. -/
def hexDigits4 (code : Nat) : Text :=
  let digit (n : Nat) : Char := "0123456789ABCDEF".toList.getD n '0'
  ['0', '0', digit (code / 16), digit (code % 16)]

/-- A character that is written with a backslash in a string with escapes,
    whatever stands around it. -/
def escapeOf? (c : Char) : Option Text :=
  if c = '\x08' then some ['\\', 'b']
  else if c = '\t' then some ['\\', 't']
  else if c = '\x0c' then some ['\\', 'f']
  else if c = '\r' then some ['\\', 'r']
  else if c = '\\' then some ['\\', '\\']
  else if isControl c then some ('\\' :: 'u' :: hexDigits4 c.toNat)
  else none

/-- The inside of a string with escapes.  On several lines a quote is escaped
    only as the third in a row; `quotes` counts those that stand right before. -/
def escapeBody (multi : Bool) (quotes : Nat) : Text → Text
  | [] => []
  | c :: rest =>
    match escapeOf? c with
    | some written => written ++ escapeBody multi 0 rest
    | none =>
      if c = '"' then
        if multi && quotes < 2 then '"' :: escapeBody multi (quotes + 1) rest
        else '\\' :: '"' :: escapeBody multi 0 rest
      else if c = '\n' && !multi then '\\' :: 'n' :: escapeBody multi 0 rest
      else c :: escapeBody multi 0 rest

/-- Writes a string. -/
def writeString (text : Text) : Text :=
  let style := Style.choose text
  let lead := if style.multi && text.contains '\n' then ['\n'] else []
  let body := if style.escapes then escapeBody style.multi 0 text else text
  style.fence ++ lead ++ body ++ style.fence

end Blockwise.Toml
