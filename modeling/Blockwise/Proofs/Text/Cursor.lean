/-
  Blockwise/Proofs/Text/Cursor.lean
  =================================
  **Tags and cursors keep to whole characters.**  Positions count bytes, and tags are
  compared by characters.  The two agree: a tag stands at a position exactly if a part of
  the text begins there that fits the tag character by character (`Tag.isAt_iff`), and
  what fits a tag has as many bytes as the tag.

  So a cursor that reads characters, and steps over the bytes of a tag where the tag
  stands, is never inside a character or past the end (`Cursor.Step.standsIn` for one move,
  `Cursor.standsIn_of_steps` for any number of them).
-/
import Blockwise.Proofs.Document.Nodes
import Blockwise.Proofs.Text.Parts
import Blockwise.Text.Cursor
import Mathlib.Logic.Relation

namespace Blockwise

/-! ### Characters that fit -/

namespace CaseMode

/-- Character `c` of a text fits character `t` of a tag: it is as wide and has the same
    lower-case form, and where case matters it is the same character. -/
structure Fits (mode : CaseMode) (t c : Char) : Prop where
  utf8Size_eq : c.utf8Size = t.utf8Size
  lower_eq : Text.lower c = Text.lower t
  eq_of_sensitive : mode = .sensitive → c = t

theorem sameChar_iff {mode : CaseMode} {t c : Char} :
    mode.sameChar c t = true ↔ mode.Fits t c := by
  constructor
  · intro h
    refine ⟨sameChar_utf8Size h, sameChar_lower h, ?_⟩
    rintro rfl
    exact eq_of_beq h
  · rintro ⟨hsize, hlower, hsame⟩
    cases mode with
    | sensitive => simp [sameChar, hsame rfl]
    | insensitive => simp [sameChar, hsize, hlower]

theorem Fits.insensitive {mode : CaseMode} {t c : Char} (h : mode.Fits t c) :
    insensitive.Fits t c :=
  ⟨h.utf8Size_eq, h.lower_eq, nofun⟩

end CaseMode

/-! ### Where a tag stands -/

namespace Tag

variable {mode : CaseMode} {tag text found : Text} {pos stop : Nat}

theorem byteLen_of_fits (h : List.Forall₂ mode.Fits tag found) :
    Text.byteLen found = Text.byteLen tag :=
  byteLen_of_forall₂ (h.imp fun _ _ => CaseMode.sameChar_iff.2)

/-- A tag stands where a part of the text begins that fits it. -/
theorem isAt_iff : isAt mode tag text pos = true ↔
    ∃ stop found, text.Between pos stop found ∧ List.Forall₂ mode.Fits tag found := by
  constructor
  · intro h
    unfold isAt at h
    split at h
    · next before rest hcut =>
      obtain ⟨rfl, hbefore⟩ := Text.cut?_eq_some_iff.1 hcut
      obtain ⟨found, after, rfl, hfound⟩ := forall₂_of_beginsWith h
      exact ⟨_, found, ⟨before, after, rfl, hbefore, rfl⟩,
        hfound.imp fun _ _ => CaseMode.sameChar_iff.1⟩
    · cases h
  · rintro ⟨stop, found, ⟨before, after, rfl, rfl, -⟩, hfound⟩
    rw [isAt, Text.cut?_of_append]
    exact beginsWith_of_forall₂ (hfound.imp fun _ _ => CaseMode.sameChar_iff.2) after

/-- The Kelvin sign has the letter k for its lower-case form, but takes three bytes. -/
example : Text.lower '\u212a' = ['k'] ∧ isAt .insensitive ['k'] ['\u212a'] 0 = false := by decide

/-- The part that fits ends as many bytes further on as the tag has. -/
theorem exists_between_of_isAt (h : isAt mode tag text pos = true) :
    ∃ found, text.Between pos (pos + Text.byteLen tag) found ∧
      List.Forall₂ mode.Fits tag found := by
  obtain ⟨stop, found, hfound, hfits⟩ := isAt_iff.1 h
  obtain ⟨before, after, htext, hbefore, -⟩ := hfound
  exact ⟨found, ⟨before, after, htext, hbefore, by rw [byteLen_of_fits hfits]⟩, hfits⟩

theorem isBoundary_of_isAt (h : isAt mode tag text pos = true) :
    text.isBoundary (pos + Text.byteLen tag) = true := by
  obtain ⟨found, hfound, -⟩ := exists_between_of_isAt h
  exact hfound.isBoundary_stop

/-- A slice between two boundaries that fits the tag is a place where the tag stands. -/
theorem isAt_of_slice (hpos : text.isBoundary pos = true) (hstop : text.isBoundary stop = true)
    (hle : pos ≤ stop) (hslice : Span.slice ⟨pos, stop⟩ text = .ok found)
    (hfits : List.Forall₂ mode.Fits tag found) : isAt mode tag text pos = true := by
  obtain ⟨part, hpart⟩ := Text.exists_between hpos hstop hle
  have hsame := hpart.slice
  rw [hslice, Except.ok.injEq] at hsame
  subst hsame
  exact isAt_iff.2 ⟨stop, found, hpart, hfits⟩

/-- A tag that stands somewhere exactly as it is spelled stands there in any case. -/
theorem isAt_insensitive (h : isAt mode tag text pos = true) :
    isAt .insensitive tag text pos = true := by
  obtain ⟨stop, found, hfound, hfits⟩ := isAt_iff.1 h
  exact isAt_iff.2 ⟨stop, found, hfound, hfits.imp fun _ _ => CaseMode.Fits.insensitive⟩

end Tag

/-! ### Where a cursor goes -/

namespace Cursor

variable {cursor after : Cursor} {text : Text} {c : Char}

theorem rest?_eq_some_iff {rest : Text} :
    cursor.rest? = some rest ↔
      ∃ before, cursor.text = before ++ rest ∧ Text.byteLen before = cursor.pos := by
  simp [rest?, Text.cut?_eq_some_iff]

theorem skipBytes_eq_ok_iff {count : Nat} :
    cursor.skipBytes count = .ok after ↔
      cursor.pos + count < offsetLimit ∧ after = { cursor with pos := cursor.pos + count } := by
  simp only [skipBytes, map_eq_ok_iff, addOffsets_eq_ok_iff]
  constructor
  · rintro ⟨pos, ⟨hlt, rfl⟩, rfl⟩
    exact ⟨hlt, rfl⟩
  · rintro ⟨hlt, rfl⟩
    exact ⟨_, ⟨hlt, rfl⟩, rfl⟩

/-- Reading a character takes the first one of what is still to be read. -/
theorem next?_eq_some (h : cursor.next? = some (c, after)) :
    ∃ rest, cursor.rest? = some (c :: rest) ∧
      after = { cursor with pos := cursor.pos + c.utf8Size } := by
  obtain ⟨first, hfirst, heq⟩ := Option.map_eq_some_iff.1 h
  cases heq
  obtain ⟨rest, hrest, hhead⟩ := Option.bind_eq_some_iff.1 hfirst
  obtain ⟨more, rfl⟩ := List.head?_eq_some_iff.1 hhead
  exact ⟨more, hrest, rfl⟩

theorem rest?_next {rest : Text} (h : cursor.rest? = some (c :: rest)) :
    rest? { cursor with pos := cursor.pos + c.utf8Size } = some rest := by
  obtain ⟨before, htext, hbefore⟩ := rest?_eq_some_iff.1 h
  refine rest?_eq_some_iff.2 ⟨before ++ [c], ?_, ?_⟩
  · rw [htext, List.append_assoc]
    rfl
  · rw [Text.byteLen_append, hbefore]
    rfl

/-- Reading several characters is reading one after the other, as long as there are any. -/
theorem skipChars_succ (cursor : Cursor) (count : Nat) :
    cursor.skipChars (count + 1) =
      match cursor.next? with
      | some (_, after) => after.skipChars count
      | none => cursor := by
  rcases hrest : cursor.rest? with _ | _ | ⟨c, rest⟩
  · simp [skipChars, next?, peek?, hrest]
  · simp [skipChars, next?, peek?, hrest]
  · simp [skipChars, next?, peek?, hrest, rest?_next hrest, Nat.add_assoc]

/-- A move of a cursor: over a character, over some characters, or over the bytes of a
    tag that stands where the cursor is. -/
inductive Step : Cursor → Cursor → Prop
  | next {cursor after : Cursor} {c : Char} : cursor.next? = some (c, after) → Step cursor after
  | chars (cursor : Cursor) (count : Nat) : Step cursor (cursor.skipChars count)
  | tag {cursor after : Cursor} {mode : CaseMode} {tag : Text} :
      Tag.isAt mode tag cursor.text cursor.pos = true →
      cursor.skipBytes (Text.byteLen tag) = .ok after → Step cursor after

/-- The cursor reads the text, and no character of it is cut. -/
structure StandsIn (text : Text) (cursor : Cursor) : Prop where
  text_eq : cursor.text = text
  isBoundary : text.isBoundary cursor.pos = true

theorem standsIn_ofText (text : Text) : (ofText text).StandsIn text :=
  ⟨rfl, Text.isBoundary_iff.2 ⟨[], text, rfl, rfl⟩⟩

theorem StandsIn.next (h : cursor.StandsIn text) (hnext : cursor.next? = some (c, after)) :
    after.StandsIn text := by
  obtain ⟨rest, hrest, rfl⟩ := next?_eq_some hnext
  obtain ⟨before, htext, hbefore⟩ := rest?_eq_some_iff.1 (rest?_next hrest)
  exact ⟨h.text_eq, Text.isBoundary_iff.2 ⟨before, rest, h.text_eq.symm.trans htext, hbefore⟩⟩

theorem StandsIn.skipChars (h : cursor.StandsIn text) (count : Nat) :
    (cursor.skipChars count).StandsIn text := by
  induction count generalizing cursor with
  | zero => simpa [Cursor.skipChars] using h
  | succ count ih =>
    rw [skipChars_succ]
    split
    · next hnext => exact ih (h.next hnext)
    · exact h

/-- One move leads from between two characters to between two characters. -/
theorem Step.standsIn (h : Step cursor after) (hstands : cursor.StandsIn text) :
    after.StandsIn text := by
  cases h with
  | next hnext => exact hstands.next hnext
  | chars count => exact hstands.skipChars count
  | tag hat hskip =>
    obtain ⟨-, rfl⟩ := skipBytes_eq_ok_iff.1 hskip
    rw [hstands.text_eq] at hat
    exact ⟨hstands.text_eq, Tag.isBoundary_of_isAt hat⟩

theorem standsIn_of_steps (h : Relation.ReflTransGen Step (ofText text) cursor) :
    cursor.StandsIn text := by
  induction h with
  | refl => exact standsIn_ofText text
  | tail _ hstep ih => exact hstep.standsIn ih

/-- In a text whose offsets are machine words, no tag that was found is too long to step over. -/
theorem skipBytes_of_isAt (hword : text.byteLen < offsetLimit) {mode : CaseMode} {tag : Text}
    (hat : Tag.isAt mode tag text cursor.pos = true) :
    cursor.skipBytes (Text.byteLen tag) =
      .ok { cursor with pos := cursor.pos + Text.byteLen tag } := by
  have hle := Text.le_of_isBoundary (Tag.isBoundary_of_isAt hat)
  exact skipBytes_eq_ok_iff.2 ⟨Nat.lt_of_le_of_lt hle hword, rfl⟩

end Cursor

/-- **A tag spans exactly its bytes.**  Where a tag stands, the text can be cut before and
    behind as many bytes as the tag has, and the slice in between fits the tag character by
    character; every slice that does is found, and one that is found as it is spelled is
    found in any case.  So a cursor that comes from the start of the text by reading
    characters and stepping over tags is between two characters of the text, and can step
    over any tag that it finds there. -/
theorem Tag.found_spans_bytes (text : Text) :
    (∀ mode tag pos, isAt mode tag text pos = true →
      text.isBoundary pos = true ∧ text.isBoundary (pos + Text.byteLen tag) = true ∧
        pos + Text.byteLen tag ≤ text.byteLen ∧
        ∃ found, Span.slice ⟨pos, pos + Text.byteLen tag⟩ text = .ok found ∧
          found.length = tag.length ∧ List.Forall₂ mode.Fits tag found) ∧
      (∀ mode tag pos stop found, text.isBoundary pos = true → text.isBoundary stop = true →
        pos ≤ stop → Span.slice ⟨pos, stop⟩ text = .ok found →
        List.Forall₂ mode.Fits tag found → isAt mode tag text pos = true) ∧
      (∀ tag pos, isAt .sensitive tag text pos = true → isAt .insensitive tag text pos = true) ∧
      ∀ cursor, Relation.ReflTransGen Cursor.Step (Cursor.ofText text) cursor →
        cursor.text = text ∧ text.isBoundary cursor.pos = true ∧ cursor.pos ≤ text.byteLen ∧
          ∀ mode tag, text.byteLen < offsetLimit → isAt mode tag text cursor.pos = true →
            cursor.skipBytes (Text.byteLen tag) =
              .ok { cursor with pos := cursor.pos + Text.byteLen tag } := by
  refine ⟨?_, ?_, ?_, ?_⟩
  · intro mode tag pos h
    obtain ⟨found, hfound, hfits⟩ := exists_between_of_isAt h
    have hstop := hfound.isBoundary_stop
    exact ⟨hfound.isBoundary_start, hstop, Text.le_of_isBoundary hstop, found, hfound.slice,
      hfits.length_eq.symm, hfits⟩
  · intro mode tag pos stop found hpos hstop hle hslice hfits
    exact isAt_of_slice hpos hstop hle hslice hfits
  · intro tag pos h
    exact isAt_insensitive h
  · intro cursor h
    have hstands := Cursor.standsIn_of_steps h
    refine ⟨hstands.text_eq, hstands.isBoundary, Text.le_of_isBoundary hstands.isBoundary, ?_⟩
    intro mode tag hword hat
    exact Cursor.skipBytes_of_isAt hword hat

/-- A text with letters of two bytes. -/
def sampleAccented : Text := "é\\CITÉ(b)".toList

/-- The tag stands behind the first letter in capitals, and the cursor reads that letter,
    steps over the tag and reads as much as it can. -/
theorem sampleAccented_spans :
    Tag.isAt .insensitive "\\cité(".toList sampleAccented 2 = true ∧
      sampleAccented.isBoundary 2 = true ∧ sampleAccented.isBoundary 9 = true ∧
      Span.slice ⟨2, 9⟩ sampleAccented = .ok "\\CITÉ(".toList ∧
      List.Forall₂ (CaseMode.Fits .insensitive) "\\cité(".toList "\\CITÉ(".toList ∧
      Tag.isAt .insensitive ['É'] sampleAccented 0 = true ∧
      Tag.isAt .sensitive ['é'] sampleAccented 0 = true ∧
      Tag.isAt .insensitive ['é'] sampleAccented 0 = true ∧
      Relation.ReflTransGen Cursor.Step (Cursor.ofText sampleAccented) ⟨sampleAccented, 2⟩ ∧
      Cursor.skipBytes ⟨sampleAccented, 2⟩ 7 = .ok ⟨sampleAccented, 9⟩ ∧
      Relation.ReflTransGen Cursor.Step (Cursor.ofText sampleAccented) ⟨sampleAccented, 11⟩ ∧
      sampleAccented.isBoundary 11 = true ∧ 11 ≤ sampleAccented.byteLen := by
  obtain ⟨hfound, hslices, hcase, hcursor⟩ := Tag.found_spans_bytes sampleAccented
  have hat : Tag.isAt .insensitive "\\cité(".toList sampleAccented 2 = true := by decide
  have hexact : Tag.isAt .sensitive ['é'] sampleAccented 0 = true := by decide
  have hfits : List.Forall₂ (CaseMode.Fits .insensitive) ['É'] ['é'] :=
    .cons ⟨by decide, by decide, nofun⟩ .nil
  obtain ⟨hstart, hstop, -, found, hslice, -, hfound⟩ := hfound _ _ _ hat
  have hread : Relation.ReflTransGen Cursor.Step (Cursor.ofText sampleAccented)
      ⟨sampleAccented, 2⟩ :=
    .single (.next (c := 'é') (by decide))
  obtain ⟨-, -, -, hskip⟩ := hcursor _ hread
  have hskip := hskip _ _ (by decide) hat
  have htag : Relation.ReflTransGen Cursor.Step (Cursor.ofText sampleAccented)
      ⟨sampleAccented, 9⟩ :=
    hread.tail (.tag hat hskip)
  have hlast : Cursor.skipChars ⟨sampleAccented, 9⟩ 5 = ⟨sampleAccented, 11⟩ := by decide
  have hrest := htag.tail (.chars _ 5)
  rw [hlast] at hrest
  obtain ⟨-, hend, hle, -⟩ := hcursor _ hrest
  cases hslice
  exact ⟨hat, hstart, hstop, rfl, hfound,
    hslices _ _ 0 2 ['é'] (by decide) (by decide) (by decide) rfl hfits, hexact,
    hcase _ _ hexact, hread, hskip, hrest, hend, hle⟩

end Blockwise
