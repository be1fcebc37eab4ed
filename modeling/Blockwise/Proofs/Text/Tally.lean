/-
  Blockwise/Proofs/Text/Tally.lean
  ================================
  **Counting braces in one pass.**  A tally holds how many braces are open, whether it
  stands in a comment, and the character before.  Comments go from a percent sign to the
  end of the line, and a backslash takes the meaning from either of the two; in them
  braces do not count.  A closing brace without an opening one does not count either.

  `Outermost before after` says of the text `before{after` that its brace is the outermost
  one that is not closed; there is at most one (`Outermost.unique`).
-/
import Blockwise.Text.Basic
import Mathlib.Data.List.Infix

namespace Blockwise

/-- What is known of a text that was read character by character. -/
structure Tally where
  depth : Nat
  commented : Bool
  previous : Option Char
deriving DecidableEq, Repr

namespace Tally

/-- Nothing has been read. -/
def start : Tally := ⟨0, false, none⟩

/-- The character to come is behind a backslash. -/
def escaped (tally : Tally) : Bool := tally.previous == some '\\'

/-- The tally with one more character. -/
def step (tally : Tally) (c : Char) : Tally :=
  if tally.commented then ⟨tally.depth, !(c == '\n' && !tally.escaped), some c⟩
  else if c = '{' then ⟨tally.depth + 1, false, some c⟩
  else if c = '}' then ⟨tally.depth - 1, false, some c⟩
  else ⟨tally.depth, c == '%' && !tally.escaped, some c⟩

variable {tally : Tally} {c : Char}

@[simp]
theorem step_previous : (tally.step c).previous = some c := by
  unfold step
  split
  · rfl
  · split
    · rfl
    · split <;> rfl

end Tally

/-- The tally of a whole text. -/
def Text.tally (text : Text) : Tally := text.foldl Tally.step .start

namespace Text

@[simp]
theorem tally_concat (before : Text) (c : Char) :
    tally (before ++ [c]) = (tally before).step c := by
  simp [tally]

theorem tally_previous (before : Text) : (tally before).previous = before.getLast? := by
  rcases List.eq_nil_or_concat before with rfl | ⟨before, c, rfl⟩
  · rfl
  · simp

section Step

variable {before : Text} {c : Char}

theorem tally_in_comment (h : before.tally.commented = true) :
    tally (before ++ [c]) =
      ⟨before.tally.depth, !(!(before.getLast? == some '\\') && c == '\n'), some c⟩ := by
  rw [tally_concat, Tally.step, if_pos h, Tally.escaped, tally_previous, Bool.and_comm]

theorem tally_open (h : before.tally.commented = false) :
    tally (before ++ ['{']) = ⟨before.tally.depth + 1, false, some '{'⟩ := by
  simp [Tally.step, h]

theorem tally_close (h : before.tally.commented = false) :
    tally (before ++ ['}']) = ⟨before.tally.depth - 1, false, some '}'⟩ := by
  simp [Tally.step, h]

theorem tally_other (h : before.tally.commented = false) (hopen : c ≠ '{') (hclose : c ≠ '}') :
    tally (before ++ [c]) =
      ⟨before.tally.depth, !(before.getLast? == some '\\') && c == '%', some c⟩ := by
  rw [tally_concat, Tally.step, if_neg (by simp [h]), if_neg hopen, if_neg hclose, Tally.escaped,
    tally_previous, Bool.and_comm]

end Step

end Text

/-! ### The outermost brace that is not closed -/

/-- In `before{after` the brace is outside comments and other braces, and it is not closed. -/
structure Outermost (before after : Text) : Prop where
  depth : before.tally.depth = 0
  uncommented : before.tally.commented = false
  unclosed : ∀ read, read <+: after → 0 < (Text.tally (before ++ '{' :: read)).depth

namespace Outermost

variable {before after : Text}

theorem nil (hdepth : before.tally.depth = 0) (huncommented : before.tally.commented = false) :
    Outermost before [] := by
  refine ⟨hdepth, huncommented, ?_⟩
  intro read hread
  rw [List.prefix_nil.1 hread, Text.tally_open huncommented]
  exact Nat.succ_pos _

theorem concat (h : Outermost before after) {c : Char}
    (hpos : 0 < (Text.tally (before ++ '{' :: after ++ [c])).depth) :
    Outermost before (after ++ [c]) := by
  refine ⟨h.depth, h.uncommented, ?_⟩
  intro read hread
  rcases List.prefix_concat_iff.1 hread with rfl | hread
  · rw [← List.cons_append, ← List.append_assoc]
    exact hpos
  · exact h.unclosed read hread

/-- Of two such braces, the first would leave the other one inside. -/
theorem unique {before' after' : Text} (h : Outermost before after)
    (h' : Outermost before' after') (htext : before ++ '{' :: after = before' ++ '{' :: after') :
    before = before' ∧ after = after' := by
  have hle : ∀ {first rest second other : Text}, Outermost first rest → Outermost second other →
      first ++ '{' :: rest = second ++ '{' :: other → second.length ≤ first.length := by
    intro first rest second other hfirst hsecond heq
    by_contra hlt
    obtain ⟨more, rfl⟩ : ∃ more, second = first ++ '{' :: more := by
      rcases List.append_eq_append_iff.1 heq with ⟨more, hmore, hrest⟩ | ⟨more, hmore, -⟩
      · cases more with
        | nil => simp [hmore] at hlt
        | cons c more =>
          cases hrest
          exact ⟨more, hmore⟩
      · simp [hmore] at hlt
    have hread : more <+: rest := by
      rw [List.append_assoc, List.append_cancel_left_eq] at heq
      cases heq
      exact List.prefix_append ..
    have hpos := hfirst.unclosed more hread
    rw [hsecond.depth] at hpos
    exact Nat.lt_irrefl _ hpos
  have hlen := Nat.le_antisymm (hle h' h htext.symm) (hle h h' htext)
  obtain ⟨hbefore, hrest⟩ := List.append_inj htext hlen
  exact ⟨hbefore, (List.cons.inj hrest).2⟩

end Outermost

end Blockwise
