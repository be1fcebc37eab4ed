/-
  Blockwise/Text/Cursor.lean
  ==========================
  **Byte ranges and reading positions.**  Offsets are plain numbers, and a caller may
  hand in any of them.  An operation that meets a number it has no meaning for stops
  with a `Fault` instead of inventing an answer; no document that the interpreter builds
  by itself ever causes one.

  A span is the half-open range `[start, stop)` of byte positions.  Nothing forces
  `start ≤ stop`: a reversed span is empty and stands at its smaller end.  A slice is
  clamped to the text, so the only way to fail is an end that falls inside a character.

  A cursor is a text with a byte position.  Reading a character steps over all of its
  bytes; `skipBytes` trusts its caller and may leave the cursor inside a character or
  past the end, where there is nothing to read any more.
-/
import Blockwise.Text.Basic

namespace Blockwise

/-! ### Misuse of offsets and indices -/

/-- Why an operation on offsets, nodes or sources stopped. -/
inductive Fault where
  /-- A slice would begin or end inside a character. -/
  | offBoundary
  /-- No node has this index. -/
  | noSuchNode (id : Nat)
  /-- No source buffer has this index. -/
  | noSuchSource (id : Nat)
  /-- A block would end before it begins. -/
  | closedBeforeBegin
  /-- A sum of offsets does not fit a machine word. -/
  | offsetOverflow
deriving DecidableEq, Repr

/-- Offsets are words of 64 bits: the first number that is none. -/
def offsetLimit : Nat := 18446744073709551616

/-- The sum of two offsets, as long as it is an offset again. -/
def addOffsets (a b : Nat) : Except Fault Nat :=
  if a + b < offsetLimit then .ok (a + b) else .error .offsetOverflow

theorem addOffsets_eq_ok {a b : Nat} (h : a + b < offsetLimit) : addOffsets a b = .ok (a + b) := by
  simp [addOffsets, h]

/-! ### Spans -/

/-- The bytes from `start` up to, but not including, `stop`. -/
structure Span where
  start : Nat
  stop : Nat
deriving DecidableEq, Repr

namespace Span

/-- Length in bytes; zero for a reversed span. -/
def len (s : Span) : Nat := s.stop - s.start

/-- The span holds no byte. -/
def isEmpty (s : Span) : Bool := s.len == 0

/-- Span `other` begins and ends within `s`. -/
def contains (s other : Span) : Bool := s.start ≤ other.start && other.stop ≤ s.stop

/-- Spans are ordered by their start, then by their end. -/
def compare (s other : Span) : Ordering :=
  (Ord.compare s.start other.start).then (Ord.compare s.stop other.stop)

/-- The part of a text that lies in the span, clamped to the text's bounds. -/
def slice (s : Span) (t : Text) : Except Fault Text :=
  let start := min s.start s.stop
  match (t.skip? start).bind (Text.take? · (s.stop - start)) with
  | some part => .ok part
  | none => .error .offBoundary

/-- Slicing a text in three parts by the lengths of the first two gives the second. -/
theorem slice_append (a b c : Text) :
    slice ⟨Text.byteLen a, Text.byteLen a + Text.byteLen b⟩ (a ++ (b ++ c)) = .ok b := by
  have hmin : min (Text.byteLen a) (Text.byteLen a + Text.byteLen b) = Text.byteLen a := by omega
  have hlen : Text.byteLen a + Text.byteLen b - Text.byteLen a = Text.byteLen b := by omega
  simp only [slice, hmin, hlen, Text.skip?_append, Option.bind_some, Text.take?_append]

end Span

/-! ### Cursors -/

/-- A text and the byte position where reading goes on. -/
structure Cursor where
  text : Text
  pos : Nat
deriving DecidableEq, Repr

namespace Cursor

/-- The cursor at the start of a text. -/
def ofText (t : Text) : Cursor := ⟨t, 0⟩

/-- All bytes are behind the cursor. -/
def atEnd (c : Cursor) : Bool := c.text.byteLen ≤ c.pos

/-- What is still to be read; `none` inside a character and past the end. -/
def rest? (c : Cursor) : Option Text := (c.text.cut? c.pos).map Prod.snd

/-- The next character, without moving. -/
def peek? (c : Cursor) : Option Char := c.rest?.bind List.head?

/-- Reads one character. -/
def next? (c : Cursor) : Option (Char × Cursor) :=
  c.peek?.map fun ch => (ch, { c with pos := c.pos + ch.utf8Size })

/-- Moves by `n` bytes, wherever that is. -/
def skipBytes (c : Cursor) (n : Nat) : Except Fault Cursor :=
  (addOffsets c.pos n).map fun pos => { c with pos }

/-- Reads up to `n` characters, stopping at the end of the text. -/
def skipChars (c : Cursor) (n : Nat) : Cursor :=
  { c with pos := c.pos + Text.byteLen ((c.rest?.getD []).take n) }

end Cursor

end Blockwise
