/-
  Blockwise/Tag.lean
  ==================
  **Literal tags.**  A tag such as `\cite{` stands in a text at some position.
  Tags are compared either exactly, or by the lower-case form of each character;
  in the second mode only characters of the same width match, so a match always
  spans as many bytes as the tag has (`Tag.beginsWith_split`).
-/
import Blockwise.Text.LowerCase

namespace Blockwise

/-- How a tag is compared with the text. -/
inductive CaseMode where
  /-- By the lower-case form of each character. -/
  | insensitive
  /-- Exactly. -/
  | sensitive
deriving DecidableEq, Repr

namespace CaseMode

/-- Character `c` of the text may stand for character `t` of a tag. -/
def sameChar : CaseMode → Char → Char → Bool
  | .sensitive, c, t => c == t
  | .insensitive, c, t => c.utf8Size == t.utf8Size && Text.lower c == Text.lower t

theorem sameChar_utf8Size {mode : CaseMode} {c t : Char} (h : mode.sameChar c t = true) :
    c.utf8Size = t.utf8Size := by
  cases mode with
  | sensitive => simp [eq_of_beq h]
  | insensitive =>
    simp only [sameChar, Bool.and_eq_true, beq_iff_eq] at h
    exact h.1

theorem sameChar_lower {mode : CaseMode} {c t : Char} (h : mode.sameChar c t = true) :
    Text.lower c = Text.lower t := by
  cases mode with
  | sensitive => simp [eq_of_beq h]
  | insensitive =>
    simp only [sameChar, Bool.and_eq_true, beq_iff_eq] at h
    exact h.2

end CaseMode

namespace Tag

/-- The text begins with the tag. -/
def beginsWith (mode : CaseMode) : (tag text : Text) → Bool
  | [], _ => true
  | _ :: _, [] => false
  | t :: tag, c :: text => mode.sameChar c t && beginsWith mode tag text

/-- The tag stands in the text at byte position `pos`. -/
def isAt (mode : CaseMode) (tag text : Text) (pos : Nat) : Bool :=
  match text.cut? pos with
  | some (_, rest) => beginsWith mode tag rest
  | none => false

/-- A matched tag is an initial part of the text, with as many characters and
    as many bytes as the tag. -/
theorem beginsWith_split {mode : CaseMode} {tag text : Text}
    (h : beginsWith mode tag text = true) :
    ∃ found rest, text = found ++ rest ∧ found.length = tag.length ∧
      Text.byteLen found = Text.byteLen tag := by
  induction tag generalizing text with
  | nil => exact ⟨[], text, rfl, rfl, rfl⟩
  | cons t tag ih =>
    cases text with
    | nil => simp [beginsWith] at h
    | cons c text =>
      simp only [beginsWith, Bool.and_eq_true] at h
      obtain ⟨found, rest, rfl, hlen, hbytes⟩ := ih h.2
      exact ⟨c :: found, rest, rfl, by simp [hlen],
        by simp [hbytes, CaseMode.sameChar_utf8Size h.1]⟩

end Tag

end Blockwise
