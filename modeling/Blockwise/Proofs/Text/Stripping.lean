/-
  Blockwise/Proofs/Text/Stripping.lean
  ====================================
  **Texts without their comments.**  Where a comment is left out, what stood in front of it
  comes next to what stood behind it.  No comment begins at such a place: a percent sign is
  kept only behind the backslash that escapes it, and the backslash is kept with it.  So the
  stripped text has no comment, and as many open braces as the text (`keepsTally_stripped`).

  A tally does not see the case of letters, so this holds of all texts that are the same but
  for it (`SameLetter`).
-/
import Blockwise.Proofs.Text.Tally
import Blockwise.Tag
import Mathlib.Data.List.Forall2

namespace Blockwise

/-! ### Stripping -/

namespace Text

/-- What is left of a text behind this tally, where the characters of comments go. -/
def strippedFrom : Tally → Text → Text
  | _, [] => []
  | tally, c :: rest =>
    let next := tally.step c
    if tally.commented || next.commented then strippedFrom next rest
    else c :: strippedFrom next rest

/-- The text without its comments, from the percent sign to the end of the line. -/
def stripped (text : Text) : Text := strippedFrom .start text

theorem strippedFrom_concat (tally : Tally) (before : Text) (c : Char) :
    strippedFrom tally (before ++ [c]) = strippedFrom tally before ++
      strippedFrom (before.foldl Tally.step tally) [c] := by
  induction before generalizing tally with
  | nil => rfl
  | cons d before ih =>
    rw [List.cons_append, strippedFrom, strippedFrom, ih]
    dsimp only [List.foldl_cons]
    split <;> rfl

section Concat

variable {before : Text} {c : Char}

theorem stripped_left_out
    (h : before.tally.commented = true ∨ (tally (before ++ [c])).commented = true) :
    stripped (before ++ [c]) = stripped before := by
  have hnone : strippedFrom before.tally [c] = [] := by
    rw [tally_concat] at h
    simp only [strippedFrom, Bool.or_eq_true]
    rw [if_pos h]
  unfold stripped
  rw [strippedFrom_concat, show before.foldl Tally.step .start = before.tally from rfl, hnone,
    List.append_nil]

theorem stripped_kept (h : before.tally.commented = false)
    (h' : (tally (before ++ [c])).commented = false) :
    stripped (before ++ [c]) = stripped before ++ [c] := by
  have hkept : strippedFrom before.tally [c] = [c] := by
    rw [tally_concat] at h'
    simp [strippedFrom, h, h']
  unfold stripped
  rw [strippedFrom_concat, show before.foldl Tally.step .start = before.tally from rfl, hkept]

end Concat

/-- No place of the text is in a comment. -/
def Uncommented (text : Text) : Prop :=
  ∀ read : Text, read <+: text → read.tally.commented = false

namespace Uncommented

variable {text before : Text} {c : Char}

theorem nil : Uncommented [] := by
  intro read hread
  rw [List.prefix_nil.1 hread]
  rfl

theorem concat (h : before.Uncommented) (hc : (tally (before ++ [c])).commented = false) :
    Uncommented (before ++ [c]) := by
  intro read hread
  rcases List.prefix_concat_iff.1 hread with rfl | hread
  · exact hc
  · exact h read hread

theorem of_append {rest : Text} (h : Uncommented (before ++ rest)) : before.Uncommented :=
  fun read hread => h read (hread.trans (List.prefix_append ..))

theorem stripped_eq (h : text.Uncommented) : text.stripped = text := by
  induction text using List.reverseRecOn with
  | nil => rfl
  | append_singleton before c ih =>
    rw [stripped_kept (h before (List.prefix_append ..)) (h _ (List.prefix_refl _)),
      ih h.of_append]

end Uncommented

/-- Behind `after` the count is as it is behind `before`, and no comment has been met.  A
    character that is escaped behind `before` is so behind `after`. -/
structure KeepsTally (before after : Text) : Prop where
  uncommented : after.Uncommented
  depth : after.tally.depth = before.tally.depth
  escaped : before.tally.commented = false → before.getLast? = some '\\' →
    after.getLast? = some '\\'

namespace KeepsTally

variable {before after : Text} {c : Char}

/-- A character of a comment. -/
theorem leave_out (h : KeepsTally before after)
    (hdepth : (tally (before ++ [c])).depth = before.tally.depth)
    (hc : (tally (before ++ [c])).commented = true ∨ c ≠ '\\') :
    KeepsTally (before ++ [c]) after := by
  refine ⟨h.uncommented, h.depth.trans hdepth.symm, ?_⟩
  intro hout hlast
  rw [List.getLast?_concat, Option.some.injEq] at hlast
  rw [hout, hlast] at hc
  simp at hc

/-- Any other character. -/
theorem keep (h : KeepsTally before after) (hout : before.tally.commented = false)
    (hout' : (tally (before ++ [c])).commented = false) :
    KeepsTally (before ++ [c]) (after ++ [c]) := by
  have hafter : after.tally.commented = false := h.uncommented after (List.prefix_refl _)
  have hlast : before.getLast? = some '\\' → after.getLast? = some '\\' := h.escaped hout
  obtain ⟨hcommented, hdepth⟩ : (tally (after ++ [c])).commented = false ∧
      (tally (after ++ [c])).depth = (tally (before ++ [c])).depth := by
    by_cases hopen : c = '{'
    · rw [hopen, tally_open hout, tally_open hafter, h.depth]
      exact ⟨rfl, rfl⟩
    · by_cases hclose : c = '}'
      · rw [hclose, tally_close hout, tally_close hafter, h.depth]
        exact ⟨rfl, rfl⟩
      · rw [tally_other hout hopen hclose] at hout' ⊢
        rw [tally_other hafter hopen hclose, h.depth]
        refine ⟨?_, rfl⟩
        by_cases hpercent : c = '%'
        · -- its backslash has been kept
          have hescaped : before.getLast? = some '\\' := by simpa [hpercent] using hout'
          simp [hlast hescaped]
        · simp [hpercent]
  refine ⟨h.uncommented.concat hcommented, hdepth, ?_⟩
  intro _ hend
  rwa [List.getLast?_concat] at hend ⊢

end KeepsTally

/-- **A stripped text has no comments, and the open braces of the text.** -/
theorem keepsTally_stripped (text : Text) : KeepsTally text text.stripped := by
  induction text using List.reverseRecOn with
  | nil => exact ⟨.nil, rfl, fun _ hlast => hlast⟩
  | append_singleton before c ih =>
    cases hin : (tally before).commented with
    | true =>
      rw [stripped_left_out (Or.inl hin)]
      have hstep := @tally_in_comment before c hin
      apply ih.leave_out
      · rw [hstep]
      · rw [hstep]
        by_cases hc : c = '\\'
        · exact Or.inl (by simp [hc])
        · exact Or.inr hc
    | false =>
      cases hin' : (tally (before ++ [c])).commented with
      | true =>
        rw [stripped_left_out (Or.inr hin')]
        refine ih.leave_out ?_ (Or.inl hin')
        -- a brace does not begin a comment
        have hopen : c ≠ '{' := by
          rintro rfl
          rw [tally_open hin] at hin'
          cases hin'
        have hclose : c ≠ '}' := by
          rintro rfl
          rw [tally_close hin] at hin'
          cases hin'
        rw [tally_other hin hopen hclose]
      | false =>
        rw [stripped_kept hin hin']
        exact ih.keep hin hin'

theorem byteLen_strippedFrom_le (tally : Tally) (text : Text) :
    byteLen (strippedFrom tally text) ≤ byteLen text := by
  induction text generalizing tally with
  | nil => exact Nat.le_refl _
  | cons c text ih =>
    have hrest := ih (tally.step c)
    rw [strippedFrom]
    split
    · exact Nat.le_trans hrest (Nat.le_add_left ..)
    · exact Nat.add_le_add_left hrest _

end Text

/-! ### The case of letters -/

/-- The characters are the same but for the case of a letter. -/
def SameLetter (c d : Char) : Prop := c.toLower = d.toLower

/-- The characters that a tally looks at. -/
def Tally.marks : List Char := ['{', '}', '%', '\n', '\\']

theorem toLower_wide {c : Char} (hc : ¬ c.toNat < 128) : c.toLower = c := by
  apply dif_neg
  rintro ⟨-, hle⟩
  exact hc (Nat.lt_of_le_of_lt hle (by decide))

theorem toLower_mark {c m : Char} (hm : m ∈ Tally.marks) : c.toLower = m ↔ c = m := by
  by_cases hc : c.toNat < 128
  · have hascii := Text.all_ascii
      (p := fun c => Tally.marks.all fun m => decide (c.toLower = m ↔ c = m)) (by decide +kernel) hc
    simp only [List.all_eq_true, decide_eq_true_eq] at hascii
    exact hascii m hm
  · rw [toLower_wide hc]

theorem utf8Size_toLower (c : Char) : c.toLower.utf8Size = c.utf8Size := by
  by_cases hc : c.toNat < 128
  · exact eq_of_beq (Text.all_ascii (p := fun c => c.toLower.utf8Size == c.utf8Size)
      (by decide +kernel) hc)
  · rw [toLower_wide hc]

namespace SameLetter

variable {c d m : Char}

theorem refl (c : Char) : SameLetter c c := rfl

theorem eq_mark_iff (h : SameLetter c d) (hm : m ∈ Tally.marks) : c = m ↔ d = m := by
  rw [← toLower_mark hm, ← @toLower_mark d m hm, h]

theorem utf8Size_eq (h : SameLetter c d) : c.utf8Size = d.utf8Size := by
  rw [← utf8Size_toLower, ← utf8Size_toLower d, h]

theorem byteLen_eq {text text' : Text} (h : List.Forall₂ SameLetter text text') :
    text.byteLen = text'.byteLen := by
  induction h with
  | nil => rfl
  | cons hc _ ih => rw [Text.byteLen_cons, Text.byteLen_cons, hc.utf8Size_eq, ih]

/-- What stands for a character of ASCII in a tag is the same but for its case. -/
theorem of_sameChar (hd : d.toNat < 128) (h : CaseMode.insensitive.sameChar c d = true) :
    SameLetter d c := by
  have hsize : d.utf8Size = 1 :=
    Char.utf8Size_eq_one_iff.2 (UInt32.le_iff_toNat_le.2 (Nat.le_of_lt_succ hd))
  have hc : c.toNat < 128 := by
    rw [← CaseMode.sameChar_utf8Size h, Char.utf8Size_eq_one_iff, UInt32.le_iff_toNat_le] at hsize
    exact Nat.lt_succ_of_le hsize
  have hlower := CaseMode.sameChar_lower h
  rw [Text.lower_of_ascii hc, Text.lower_of_ascii hd, List.cons.injEq] at hlower
  exact hlower.1.symm

end SameLetter

/-- The tallies count alike. -/
structure Tally.Alike (tally tally' : Tally) : Prop where
  depth : tally.depth = tally'.depth
  commented : tally.commented = tally'.commented
  escaped : tally.escaped = tally'.escaped

theorem Tally.Alike.step {tally tally' : Tally} {c d : Char} (h : tally.Alike tally')
    (hc : SameLetter c d) : (tally.step c).Alike (tally'.step d) := by
  have hbeq : ∀ m ∈ Tally.marks, (c == m) = (d == m) := by
    intro m hm
    rw [Bool.eq_iff_iff, beq_iff_eq, beq_iff_eq, hc.eq_mark_iff hm]
  have hescaped : ((some c : Option Char) == some '\\') = (some d == some '\\') :=
    hbeq '\\' (by decide)
  have hopen : c = '{' ↔ d = '{' := hc.eq_mark_iff (by decide)
  have hclose : c = '}' ↔ d = '}' := hc.eq_mark_iff (by decide)
  unfold Tally.step
  rw [h.depth, h.commented, h.escaped, hbeq '%' (by decide), hbeq '\n' (by decide)]
  simp only [hopen, hclose]
  split
  · exact ⟨rfl, rfl, hescaped⟩
  · split
    · exact ⟨rfl, rfl, hescaped⟩
    · split <;> exact ⟨rfl, rfl, hescaped⟩

namespace Text

theorem tally_alike {text text' : Text} (h : List.Forall₂ SameLetter text text') :
    text.tally.Alike text'.tally := by
  have hfrom : ∀ tally tally' : Tally, tally.Alike tally' →
      (text.foldl Tally.step tally).Alike (text'.foldl Tally.step tally') := by
    induction h with
    | nil => exact fun _ _ hsame => hsame
    | cons hc _ ih => exact fun tally tally' hsame => ih _ _ (hsame.step hc)
  exact hfrom .start .start ⟨rfl, rfl, rfl⟩

theorem Uncommented.of_sameLetter {text text' : Text} (h : text'.Uncommented)
    (hsame : List.Forall₂ SameLetter text text') : text.Uncommented := by
  intro read hread
  rw [List.prefix_iff_eq_take.1 hread, (tally_alike (List.forall₂_take _ hsame)).commented]
  exact h _ (List.take_prefix ..)

end Text

end Blockwise
