/-
  Blockwise/Preset.lean
  =====================
  **The LaTeX block types.**  Groups in braces, line comments (an escaped percent
  sign is none), citations, and included files.

  Tags are compared without regard to case, but the characters that braces and comments
  consist of have no other case (`sameChar_mark`).  So groups and comments open and close
  at these very characters (`opens_bracket`, `closes_brace`, `opens_comment`,
  `closes_comment`).
-/
import Blockwise.BlockType

namespace Blockwise.Preset

/-- What a LaTeX file reference ends with. -/
def latexExtension : Text := ".tex".toList

/-- A group in braces. -/
def bracket : BlockType := .delimited "bracket".toList ['\x7b'] ['\x7d']

/-- A comment up to the end of its line. -/
def comment : BlockType := (BlockType.comment "comment".toList ['%']).withEscape '\\'

/-- A citation. -/
def cite : BlockType := .delimited "cite".toList "\\cite\x7b".toList ['\x7d']

/-- An included file. -/
def input : BlockType :=
  .inclusion "input".toList
    { Inclusion.ofTags "\\input\x7b".toList ['\x7d'] with extension := some latexExtension }

/-- The LaTeX types in the order they are tried. -/
def latexTypes : List BlockType := [bracket, comment, cite, input]

/-- The interpreter of the LaTeX types. -/
def latex (reader : Reader) : Interpreter :=
  ⟨latexTypes, Interpreter.defaultSelfCloseSkip, reader⟩

/-! ### Where the types open and close -/

/-- Groups, comments and citations, in the order they are tried. -/
def braceTypes : List BlockType := [bracket, comment, cite]

theorem mem_braceTypes {type : BlockType} (h : type ∈ braceTypes) :
    type = bracket ∨ type = comment ∨ type = cite := by
  simpa [braceTypes] using h

theorem inclusion?_eq_none {type : BlockType} (h : type ∈ braceTypes) :
    type.inclusion? = none := by
  rcases mem_braceTypes h with rfl | rfl | rfl <;> rfl

theorem not_closeImmediately {type : BlockType} (h : type ∈ braceTypes) :
    type.flags.closeImmediately = false := by
  rcases mem_braceTypes h with rfl | rfl | rfl <;> rfl

/-- Characters that a brace, a comment or the end of its line consist of. -/
def marks : List Char := ['{', '}', '%', '\n']

/-- None of the characters has another case. -/
theorem sameChar_mark {c t : Char} (ht : t ∈ marks) :
    CaseMode.insensitive.sameChar c t = (c == t) := by
  by_cases hc : c.toNat < 128
  · have hascii := Text.all_ascii (p := fun c => marks.all fun t =>
      CaseMode.insensitive.sameChar c t == (c == t)) (by decide +kernel) hc
    simp only [List.all_eq_true, beq_iff_eq] at hascii
    exact hascii t ht
  · -- no character outside ASCII is as short
    have hshort : (marks.all fun t => t.utf8Size == 1) = true := by decide
    simp only [List.all_eq_true, beq_iff_eq] at hshort
    have hwide : c.utf8Size ≠ 1 := by
      rw [Ne, Char.utf8Size_eq_one_iff, UInt32.le_iff_toNat_le]
      exact fun hle => hc (Nat.lt_succ_of_le hle)
    have hne : c ≠ t := by
      rintro rfl
      exact hwide (hshort c ht)
    rw [CaseMode.sameChar, hshort t ht, beq_false_of_ne hwide, Bool.false_and,
      beq_false_of_ne hne]

section Recognition

variable {previous : Option Char} {c : Char} {rest : Text} {type : BlockType}

theorem opens_bracket : bracket.opensBetween previous (c :: rest) = (c == '{') := by
  have htag : bracket.opensBetween previous (c :: rest) =
      CaseMode.insensitive.sameChar c '{' := by
    simp [BlockType.opensBetween, BlockType.isEscaped, BlockType.delimiters?, bracket,
      BlockType.delimited, Tag.beginsWith]
  rw [htag, sameChar_mark (by decide)]

theorem opens_comment :
    comment.opensBetween previous (c :: rest) = (!(previous == some '\\') && c == '%') := by
  have htag : comment.opensBetween previous (c :: rest) =
      (!(previous == some '\\') && CaseMode.insensitive.sameChar c '%') := by
    simp [BlockType.opensBetween, BlockType.isEscaped, BlockType.delimiters?, comment,
      BlockType.comment, BlockType.withEscape, Tag.beginsWith]
  rw [htag, sameChar_mark (by decide)]

theorem opens_cite :
    cite.opensBetween previous rest = Tag.beginsWith .insensitive cite.openTag rest := by
  simp [BlockType.opensBetween, BlockType.isEscaped, BlockType.delimiters?, cite,
    BlockType.delimited, BlockType.openTag]

theorem closes_brace (htype : type = bracket ∨ type = cite) :
    type.closesBetween previous (c :: rest) = (c == '}') := by
  have htag : type.closesBetween previous (c :: rest) =
      CaseMode.insensitive.sameChar c '}' := by
    rcases htype with rfl | rfl
    · simp [BlockType.closesBetween, BlockType.isEscaped, BlockType.delimiters?, bracket,
        BlockType.delimited, Tag.beginsWith]
    · simp [BlockType.closesBetween, BlockType.isEscaped, BlockType.delimiters?, cite,
        BlockType.delimited, Tag.beginsWith]
  rw [htag, sameChar_mark (by decide)]

theorem closes_comment :
    comment.closesBetween previous (c :: rest) = (!(previous == some '\\') && c == '\n') := by
  have htag : comment.closesBetween previous (c :: rest) =
      (!(previous == some '\\') && CaseMode.insensitive.sameChar c '\n') := by
    simp [BlockType.closesBetween, BlockType.isEscaped, BlockType.delimiters?, comment,
      BlockType.comment, BlockType.withEscape, BlockType.lineEnd, Tag.beginsWith]
  rw [htag, sameChar_mark (by decide)]

end Recognition

end Blockwise.Preset
