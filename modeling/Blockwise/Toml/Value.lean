/-
  Blockwise/Toml/Value.lean
  =========================
  **TOML values.**  A table is a list of keys with their values; reading never
  produces a key twice.  Integers and floats are kept exactly as they were
  written, of any size; `Value.isRepresentable` says which of them have a machine
  number: integers of 128 bits, with or without sign, and floats that do not
  round to infinity.  A number is asked for only where a value is used, so a word
  in the form of an integer is a value even if it has no number.
-/
import Blockwise.Text.Basic

namespace Blockwise.Toml

/-- A float as it was written. -/
inductive FloatLiteral where
  /-- `digits` times ten to the power of `exponent`, whatever its sign. -/
  | decimal (digits : Nat) (exponent : Int)
  | infinity
  | notANumber
deriving DecidableEq, Repr

/-- A TOML value. -/
inductive Value where
  | string (text : Text)
  /-- An integer; `none` for a word in the form of one that is no number. -/
  | integer (number : Option Int)
  | float (literal : FloatLiteral)
  | boolean (value : Bool)
  /-- A date, a time, or both, as written. -/
  | datetime (written : Text)
  | array (items : List Value)
  | table (entries : List (Text × Value))
deriving Repr

/-- Keys with their values. -/
abbrev Table := List (Text × Value)

/-- The value of a key. -/
def Table.get? (table : Table) (key : Text) : Option Value :=
  (table.find? fun entry => entry.1 == key).map Prod.snd

/-! ### Machine numbers -/

/-- The smallest number that rounds to infinity as a double. -/
def floatOverflow : Nat := Nat.pow 2 1024 - Nat.pow 2 970

/-- The literal does not round to infinity.  The sizes of both factors decide
    most cases; only near the limit the number itself is computed. -/
def FloatLiteral.isFinite : FloatLiteral → Bool
  | .infinity | .notANumber => true
  | .decimal digits exponent =>
    if digits = 0 then true
    else
      let places : Int := (Nat.toDigits 10 digits).length + exponent
      if 310 < places then false
      else if places < 300 then true
      else if 0 ≤ exponent then digits * Nat.pow 10 exponent.toNat < floatOverflow
      else digits < floatOverflow * Nat.pow 10 (-exponent).toNat

/-- The integer has a machine word of 128 bits, with or without sign. -/
def isWideInteger (number : Int) : Bool :=
  -Int.ofNat (Nat.pow 2 127) ≤ number && number < Int.ofNat (Nat.pow 2 128)

mutual

/-- All numbers in the value have machine numbers. -/
def Value.isRepresentable : Value → Bool
  | .integer number => number.any isWideInteger
  | .float literal => literal.isFinite
  | .array items => areRepresentable items
  | .table entries => fieldsRepresentable entries
  | .string _ | .boolean _ | .datetime _ => true

/-- All numbers in the values have machine numbers. -/
def areRepresentable : List Value → Bool
  | [] => true
  | value :: values => value.isRepresentable && areRepresentable values

/-- All numbers in the values of a table have machine numbers. -/
def fieldsRepresentable : List (Text × Value) → Bool
  | [] => true
  | (_, value) :: entries => value.isRepresentable && fieldsRepresentable entries

end

end Blockwise.Toml
