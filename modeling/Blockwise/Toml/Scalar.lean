/-
  Blockwise/Toml/Scalar.lean
  ==========================
  **TOML values without quotes:** booleans, integers, floats, dates and times.
  Such a value is one word, or several with blanks between them (a date and a
  time), and it is classified as a whole.

  The form of an integer is settled here, its number only when it is used: see
  `integer?`.
-/
import Blockwise.Toml.StringLiteral
import Blockwise.Toml.Value

namespace Blockwise.Toml

/-! ### Digits -/

/-- The character is a decimal digit. -/
def isDecimal (c : Char) : Bool := '0' ≤ c && c ≤ '9'

/-- The character is a hexadecimal digit. -/
def isHexadecimal (c : Char) : Bool := (hexValue? c).isSome

/-- The character is an octal digit. -/
def isOctal (c : Char) : Bool := '0' ≤ c && c ≤ '7'

/-- The character is a binary digit. -/
def isBinary (c : Char) : Bool := c == '0' || c == '1'

/-- Digits with single underscores between them, without the underscores. -/
def digits? (ok : Char → Bool) (afterDigit : Bool) : Text → Option Text
  | [] => if afterDigit then some [] else none
  | c :: rest =>
    if c = '_' then if afterDigit then digits? ok false rest else none
    else if ok c then (digits? ok true rest).map (c :: ·)
    else none

/-- The number that digits write in a base. -/
def ofDigits (base : Nat) (digits : Text) : Nat :=
  digits.foldl (fun n c => n * base + (hexValue? c).getD 0) 0

/-- Whether a sign makes a number negative, and what follows the sign. -/
def splitSign : Text → Bool × Text
  | '+' :: rest => (false, rest)
  | '-' :: rest => (true, rest)
  | text => (false, text)

/-- Decimal digits without a leading zero. -/
def decimal? (word : Text) : Option Text :=
  match word with
  | '0' :: _ :: _ => none
  | _ => digits? isDecimal false word

/-! ### Integers -/

/-- The integer that a sign and decimal digits write. -/
def signedValue (negative : Bool) (digits : Text) : Int :=
  let n : Int := ofDigits 10 digits
  if negative then -n else n

/-- An integer in a base, after the letter for the base.  Without any digits it
    has no number. -/
def based? (ok : Char → Bool) (base : Nat) (word : Text) : Option (Option Int) :=
  if word.isEmpty then some none
  else (digits? ok false word).map fun digits => some (ofDigits base digits : Int)

/-- Each underscore of a text stands between two hexadecimal digits; `before`
    tells whether the text comes after one. -/
def underscoresBetween (before : Bool) : Text → Bool
  | [] => true
  | c :: rest =>
    if c = '_' then before && rest.head?.any isHexadecimal && underscoresBetween false rest
    else underscoresBetween (isHexadecimal c) rest

/-- The character rules out an integer: it belongs to a float, or divides a date
    from a time. -/
def isIntegerBar (c : Char) : Bool := c == '.' || c == 'e' || c == 'E' || c == ' '

/-- An integer in decimal.  One with underscores has the form of an integer if
    they stand between digits of any base; it has a number if all its digits are
    decimal ones. -/
def decimalInteger? (word : Text) : Option (Option Int) :=
  let (negative, body) := splitSign word
  let rest := body.dropWhile isDecimal
  if rest.isEmpty then (decimal? body).map fun digits => some (signedValue negative digits)
  else if rest.head? == some '_' && body.head? != some '0' && !rest.any isIntegerBar &&
      underscoresBetween false body then
    let digits := body.filter (· != '_')
    some (if digits.all isDecimal then some (signedValue negative digits) else none)
  else none

/-- An integer in decimal, or without a sign in one of three other bases.  The
    answer is `some none` for a word that has the form of an integer and no
    number. -/
def integer? (word : Text) : Option (Option Int) :=
  match word with
  | '0' :: 'x' :: rest => based? isHexadecimal 16 rest
  | '0' :: 'o' :: rest => based? isOctal 8 rest
  | '0' :: 'b' :: rest => based? isBinary 2 rest
  | _ => decimalInteger? word

/-! ### Floats -/

/-- The exponent of a float: a sign and digits. -/
def exponent? (word : Text) : Option Int :=
  let (negative, rest) := splitSign word
  (digits? isDecimal false rest).map (signedValue negative)

/-- A word before and after the first character with a property. -/
def splitAtFirst (p : Char → Bool) (word : Text) : Text × Option Text :=
  match word.dropWhile (!p ·) with
  | [] => (word, none)
  | _ :: after => (word.takeWhile (!p ·), some after)

/-- A float: a decimal integer with a fraction, an exponent or both; or a name. -/
def float? (word : Text) : Option FloatLiteral :=
  let (_, unsigned) := splitSign word
  if unsigned = "inf".toList then some .infinity
  else if unsigned = "nan".toList then some .notANumber
  else
    let (mantissa, power) := splitAtFirst (fun c => c == 'e' || c == 'E') unsigned
    let (whole, fraction) := splitAtFirst (· == '.') mantissa
    if power.isNone && fraction.isNone then none
    else do
      let wholeDigits ← decimal? whole
      let fractionDigits ← match fraction with
        | some part => digits? isDecimal false part
        | none => some []
      let shift ← match power with
        | some part => exponent? part
        | none => some 0
      return .decimal (ofDigits 10 (wholeDigits ++ fractionDigits))
        (shift - fractionDigits.length)

/-! ### Dates and times -/

/-- A number of exactly `count` digits at the start of a text, and the rest. -/
def fixedDigits? (count : Nat) (text : Text) : Option (Nat × Text) :=
  let ds := text.take count
  if ds.length = count && ds.all isDecimal then some (ofDigits 10 ds, text.drop count) else none

/-- The text after a character that has to come first. -/
def after? (c : Char) : Text → Option Text
  | d :: rest => if c = d then some rest else none
  | [] => none

/-- The year has a 29th of February. -/
def isLeapYear (year : Nat) : Bool := (year % 4 == 0 && year % 100 != 0) || year % 400 == 0

/-- Days of a month. -/
def daysOf (year month : Nat) : Nat :=
  if month = 2 then if isLeapYear year then 29 else 28
  else if month = 4 || month = 6 || month = 9 || month = 11 then 30
  else 31

/-- A date at the start of a text; the text after it. -/
def date? (text : Text) : Option Text := do
  let (year, text) ← fixedDigits? 4 text
  let text ← after? '-' text
  let (month, text) ← fixedDigits? 2 text
  let text ← after? '-' text
  let (day, text) ← fixedDigits? 2 text
  if 1 ≤ month && month ≤ 12 && 1 ≤ day && day ≤ daysOf year month then some text else none

/-- The seconds of a time, which may be left out; the text after them. -/
def seconds? (text : Text) : Option Text :=
  match text with
  | ':' :: text => do
    let (second, text) ← fixedDigits? 2 text
    if 60 < second then none
    else
      match text with
      | '.' :: text =>
        if (text.takeWhile isDecimal).isEmpty then none else some (text.dropWhile isDecimal)
      | _ => some text
  | _ => some text

/-- A time at the start of a text; the text after it. -/
def time? (text : Text) : Option Text := do
  let (hour, text) ← fixedDigits? 2 text
  let text ← after? ':' text
  let (minute, text) ← fixedDigits? 2 text
  if 23 < hour || 59 < minute then none else seconds? text

/-- An offset from universal time as the whole of a text: less than a day. -/
def isOffset (text : Text) : Bool :=
  match text with
  | ['Z'] | ['z'] => true
  | sign :: rest =>
    (sign == '+' || sign == '-') &&
      (match (do
          let (hours, rest) ← fixedDigits? 2 rest
          let rest ← after? ':' rest
          let (minutes, rest) ← fixedDigits? 2 rest
          return (hours, minutes, rest)) with
        | some (hours, minutes, []) => hours ≤ 23 && minutes ≤ 59
        | _ => false)
  | [] => false

/-- The word is a date, a time, or a date and a time, which may have an offset. -/
def isDatetime (word : Text) : Bool :=
  match date? word with
  | some [] => true
  | some (separator :: rest) =>
    (separator == 'T' || separator == 't' || separator == ' ') &&
      (match time? rest with
        | some after => after.isEmpty || isOffset after
        | none => false)
  | none => time? word == some []

/-! ### Words -/

/-- The text without spaces and tabs at its start. -/
def skipSpaces (text : Text) : Text := text.dropWhile isSpace

/-- The character can stand in a word: it is neither blank nor one of the signs
    that divide words. -/
def isWordChar (c : Char) : Bool :=
  !isSpace c && !(['=', ',', '[', ']', '\x7b', '\x7d', '#', '\r', '\n'].contains c)

/-- The text begins with a word that goes on with the one before it: a point or a
    quote does not begin such a word. -/
def beginsWord (text : Text) : Bool :=
  text.head?.any fun c => isWordChar c && c != '.' && c != '"' && c != '\x27'

/-- The words at the start of a text with the blanks between them, and the rest.
    `between` tells that blanks here are known to have a word after them. -/
def splitWords (between : Bool) : Text → Text × Text
  | [] => ([], [])
  | c :: rest =>
    if isWordChar c then
      let (more, after) := splitWords false rest
      (c :: more, after)
    else if isSpace c && (between || beginsWord (skipSpaces rest)) then
      let (more, after) := splitWords true rest
      (c :: more, after)
    else ([], c :: rest)

/-- The value that words write. -/
def scalar? (word : Text) : Option Value :=
  if word = "true".toList then some (.boolean true)
  else if word = "false".toList then some (.boolean false)
  else
    match integer? word with
    | some number => some (.integer number)
    | none =>
      match float? word with
      | some literal => some (.float literal)
      | none => if isDatetime word then some (.datetime word) else none

end Blockwise.Toml
