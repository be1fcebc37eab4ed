/-
  Blockwise/Config/Expansion.lean
  ===============================
  **Variables and the home directory in paths.**  `$NAME` and `${NAME}` stand for
  the value of a variable, `${NAME:-text}` for `text` if there is no such
  variable, and `$$` for a dollar sign.  A `~` at the start of a path stands for
  the home directory, unless it came out of a variable.  If a variable is missing
  the path stays exactly as it is written.
-/
import Blockwise.Path.Basic

namespace Blockwise

/-- Variables with their values, and the home directory of the user's account. -/
structure Environment where
  bindings : List (Text × Text)
  accountHome : Option Text := none
deriving Repr

namespace Environment

/-- The value of a variable: what comes after its name and an equals sign in an
    entry `NAME=value`.  A name that itself holds an equals sign reaches into the
    value of a shorter one. -/
def get? (env : Environment) (name : Text) : Option Text :=
  env.bindings.findSome? fun entry => Text.after? (name ++ ['=']) (entry.1 ++ '=' :: entry.2)

/-- The home directory: the variable `HOME`, unless it is empty. -/
def home? (env : Environment) : Option Text :=
  match env.get? "HOME".toList with
  | some home => if home.isEmpty then env.accountHome else some home
  | none => env.accountHome

end Environment

namespace Expansion

/-- The character may stand in a variable's name without braces. -/
def isNameChar (c : Char) : Bool := c == '_' || Text.isAlphanumeric c

/-- The text before and after the first closing brace. -/
def splitBrace (text : Text) : Option (Text × Text) :=
  match text.dropWhile (· != '\x7d') with
  | [] => none
  | _ :: after => some (text.takeWhile (· != '\x7d'), after)

/-- The text before and after the first `:-`. -/
def splitDefault : Text → Option (Text × Text)
  | ':' :: '-' :: rest => some ([], rest)
  | c :: rest => (splitDefault rest).map fun parts => (c :: parts.1, parts.2)
  | [] => none

/-- What the inside of braces stands for.  A `:-` right at the start belongs to
    the name. -/
def braced (env : Environment) (inside : Text) : Option Text :=
  match splitDefault inside with
  | some (c :: name, fallback) => some ((env.get? (c :: name)).getD fallback)
  | _ => env.get? inside

/-- Replaces variables, in at most `limit` steps; `none` if one is missing. -/
def substituteWithin (env : Environment) : (limit : Nat) → Text → Option Text
  | 0, _ => none
  | limit + 1, text =>
    match text with
    | [] => some []
    | c :: rest =>
      if c ≠ '$' then (substituteWithin env limit rest).map (c :: ·)
      else
        match rest with
        | [] => some ['$']
        | d :: more =>
          if d = '\x7b' then
            match splitBrace more with
            | none => (substituteWithin env limit more).map ('$' :: '\x7b' :: ·)
            | some (inside, after) => do
              let value ← braced env inside
              let expanded ← substituteWithin env limit after
              return value ++ expanded
          else if isNameChar d then do
            let value ← env.get? (rest.takeWhile isNameChar)
            let expanded ← substituteWithin env limit (rest.dropWhile isNameChar)
            return value ++ expanded
          else if d = '$' then (substituteWithin env limit more).map ('$' :: ·)
          else (substituteWithin env limit rest).map ('$' :: ·)

/-- Replaces variables; `none` if one is missing. -/
def substitute (env : Environment) (text : Text) : Option Text :=
  substituteWithin env (text.length + 1) text

/-- Replaces a `~` that stands alone or before a slash at the start. -/
def tilde (env : Environment) (text : Text) : Text :=
  match text with
  | '~' :: rest =>
    if rest.isEmpty || rest.head? == some '/' then
      match env.home? with
      | some home => home ++ rest
      | none => text
    else text
  | _ => text

/-- Replaces variables and then the home directory. -/
def expand? (env : Environment) (text : Text) : Option Text := do
  let replaced ← substitute env text
  if text.head? != some '~' && replaced.head? == some '~' then return replaced
  else return tilde env replaced

end Expansion

/-- The path with variables and the home directory replaced, or as it is if
    that is not possible. -/
def Path.expand (env : Environment) (path : Path) : Path :=
  match Expansion.expand? env path.spelling with
  | some spelling => ⟨spelling⟩
  | none => path

end Blockwise
