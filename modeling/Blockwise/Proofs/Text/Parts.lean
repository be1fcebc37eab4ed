/-
  Blockwise/Proofs/Text/Parts.lean
  ================================
  **Parts of a text between two positions.**  `Text.Between text lo hi part` says that
  `part` is what stands in the text from byte `lo` to byte `hi`.  A part begins and ends
  at a boundary, parts are cut at boundaries (`Between.split`), a slice is a part
  (`Between.slice`), and where a tag has been recognised the part matches it character by
  character (`Between.opens`, `Between.closes`).

  `Text.without dead pos text` leaves out the characters that begin at a dead position,
  counted from `pos`.
-/
import Blockwise.BlockType
import Blockwise.Text.Cursor
import Mathlib.Data.List.Forall2

namespace Blockwise

namespace Text

/-! ### Boundaries -/

theorem isBoundary_iff {text : Text} {pos : Nat} :
    text.isBoundary pos = true ↔ ∃ before rest, text = before ++ rest ∧ byteLen before = pos := by
  simp only [isBoundary, Option.isSome_iff_exists, Prod.exists, cut?_eq_some_iff]

theorem le_of_isBoundary {text : Text} {pos : Nat} (h : text.isBoundary pos = true) :
    pos ≤ text.byteLen := by
  obtain ⟨before, rest, rfl, rfl⟩ := isBoundary_iff.1 h
  rw [byteLen_append]
  exact Nat.le_add_right ..

theorem isBoundary_byteLen (text : Text) : text.isBoundary text.byteLen = true :=
  isBoundary_iff.2 ⟨text, [], (List.append_nil text).symm, rfl⟩

/-! ### Parts -/

def Between (text : Text) (lo hi : Nat) (part : Text) : Prop :=
  ∃ before after, text = before ++ (part ++ after) ∧ byteLen before = lo ∧
    lo + byteLen part = hi

/-- Two beginnings of a text with the same number of bytes are the same. -/
theorem append_inj_byteLen {a b c d : Text} (h : a ++ b = c ++ d)
    (hlen : byteLen a = byteLen c) : a = c ∧ b = d := by
  have hcut := cut?_of_append a b
  rw [h, hlen, cut?_of_append c d, Option.some.injEq, Prod.mk.injEq] at hcut
  exact ⟨hcut.1.symm, hcut.2.symm⟩

theorem between_whole (text : Text) : text.Between 0 text.byteLen text :=
  ⟨[], [], by simp, rfl, Nat.zero_add _⟩

namespace Between

variable {text part : Text} {lo mid hi : Nat}

theorem isBoundary_start (h : text.Between lo hi part) : text.isBoundary lo = true := by
  obtain ⟨before, after, htext, hbefore, -⟩ := h
  exact isBoundary_iff.2 ⟨before, part ++ after, htext, hbefore⟩

theorem isBoundary_stop (h : text.Between lo hi part) : text.isBoundary hi = true := by
  obtain ⟨before, after, htext, hbefore, hpart⟩ := h
  refine isBoundary_iff.2 ⟨before ++ part, after, ?_, ?_⟩
  · rw [htext, List.append_assoc]
  · rw [byteLen_append, hbefore, hpart]

theorem eq_nil (h : text.Between lo hi part) (heq : lo = hi) : part = [] := by
  obtain ⟨_, _, -, -, hlen⟩ := h
  rw [← byteLen_eq_zero]
  omega

theorem split (h : text.Between lo hi part) (hmid : text.isBoundary mid = true) (hlo : lo ≤ mid)
    (hhi : mid ≤ hi) :
    ∃ first second, part = first ++ second ∧ text.Between lo mid first ∧
      text.Between mid hi second := by
  obtain ⟨before, after, htext, hbefore, hpart⟩ := h
  obtain ⟨a, b, hab, hlen⟩ := isBoundary_iff.1 hmid
  -- the cut at `mid` falls behind `before` and not behind `part`
  obtain ⟨first, rfl, hfirst⟩ : ∃ first, a = before ++ first ∧ part ++ after = first ++ b := by
    rcases List.append_eq_append_iff.1 (htext.symm.trans hab) with ⟨more, hmore, hrest⟩ |
      ⟨more, hmore, hrest⟩
    · exact ⟨more, hmore, hrest⟩
    · have hzero : byteLen more = 0 := by
        rw [hmore, byteLen_append] at hbefore
        omega
      rw [byteLen_eq_zero.1 hzero, List.append_nil] at hmore
      rw [byteLen_eq_zero.1 hzero, List.nil_append] at hrest
      exact ⟨[], by rw [hmore, List.append_nil], hrest.symm⟩
  rw [byteLen_append] at hlen
  obtain ⟨second, hsecond, hrest⟩ : ∃ second, part = first ++ second ∧ b = second ++ after := by
    rcases List.append_eq_append_iff.1 hfirst with ⟨more, hmore, hrest⟩ | ⟨more, hmore, hrest⟩
    · have hzero : byteLen more = 0 := by
        rw [hmore, byteLen_append] at hlen
        omega
      rw [byteLen_eq_zero.1 hzero, List.append_nil] at hmore
      rw [byteLen_eq_zero.1 hzero, List.nil_append] at hrest
      exact ⟨[], by rw [hmore, List.append_nil], hrest.symm⟩
    · exact ⟨more, hmore, hrest⟩
  refine ⟨first, second, hsecond, ⟨before, b, ?_, hbefore, ?_⟩,
    ⟨before ++ first, after, ?_, ?_, ?_⟩⟩
  · rw [hab, List.append_assoc]
  · omega
  · rw [hab, hrest]
  · rw [byteLen_append]
    omega
  · rw [hsecond, byteLen_append] at hpart
    omega

theorem slice (h : text.Between lo hi part) : Span.slice ⟨lo, hi⟩ text = .ok part := by
  obtain ⟨before, after, rfl, rfl, rfl⟩ := h
  exact Span.slice_append before part after

end Between

/-- What lies between two boundaries is a part. -/
theorem exists_between {text : Text} {lo hi : Nat} (hlo : text.isBoundary lo = true)
    (hhi : text.isBoundary hi = true) (hle : lo ≤ hi) : ∃ part, text.Between lo hi part := by
  have hend := le_of_isBoundary hhi
  obtain ⟨-, rest, -, -, hrest⟩ := (between_whole text).split hlo (Nat.zero_le lo) (by omega)
  obtain ⟨part, -, -, hpart, -⟩ := hrest.split hhi hle hend
  exact ⟨part, hpart⟩

/-! ### Leaving characters out -/

def without (dead : Nat → Bool) : (pos : Nat) → Text → Text
  | _, [] => []
  | pos, c :: rest =>
    if dead pos then without dead (pos + c.utf8Size) rest
    else c :: without dead (pos + c.utf8Size) rest

theorem without_append (dead : Nat → Bool) (pos : Nat) (s t : Text) :
    without dead pos (s ++ t) = without dead pos s ++ without dead (pos + byteLen s) t := by
  induction s generalizing pos with
  | nil => rfl
  | cons c s ih =>
    simp only [List.cons_append, without, byteLen_cons, ih, Nat.add_assoc]
    split <;> rfl

theorem without_congr {dead dead' : Nat → Bool} {pos : Nat} {text : Text}
    (h : ∀ q, pos ≤ q → q < pos + byteLen text → dead q = dead' q) :
    without dead pos text = without dead' pos text := by
  induction text generalizing pos with
  | nil => rfl
  | cons c text ih =>
    have hpos := c.utf8Size_pos
    rw [byteLen_cons] at h
    have hrest := @ih (pos + c.utf8Size) fun q hlo hhi => h q (by omega) (by omega)
    simp only [without, hrest, h pos (Nat.le_refl _) (by omega)]

theorem without_none {dead : Nat → Bool} {pos : Nat} {text : Text}
    (h : ∀ q, pos ≤ q → q < pos + byteLen text → dead q = false) :
    without dead pos text = text := by
  rw [without_congr h]
  clear h
  induction text generalizing pos with
  | nil => rfl
  | cons c text ih => simp [without, ih]

theorem without_all {dead : Nat → Bool} {pos : Nat} {text : Text}
    (h : ∀ q, pos ≤ q → q < pos + byteLen text → dead q = true) :
    without dead pos text = [] := by
  rw [without_congr h]
  clear h
  induction text generalizing pos with
  | nil => rfl
  | cons c text ih => simp [without, ih]

end Text

/-! ### Tags that were recognised -/

theorem Tag.beginsWith_append {mode : CaseMode} {tag text : Text} (more : Text)
    (hlen : tag.length ≤ text.length) :
    beginsWith mode tag (text ++ more) = beginsWith mode tag text := by
  induction tag generalizing text with
  | nil => simp [beginsWith]
  | cons t tag ih =>
    cases text with
    | nil => simp at hlen
    | cons c text =>
      rw [List.length_cons, List.length_cons, Nat.succ_le_succ_iff] at hlen
      rw [List.cons_append, beginsWith, beginsWith, ih hlen]

/-- A tag of one character, or one that the character `stop` does not match. -/
def Tag.StopsAt (mode : CaseMode) (stop : Char) (tag : Text) : Prop :=
  tag.length = 1 ∨ ∀ t ∈ tag, mode.sameChar stop t = false

theorem Tag.StopsAt.of_all {mode : CaseMode} {stop : Char} {tag : Text}
    (h : (tag.all fun t => !mode.sameChar stop t) = true) : StopsAt mode stop tag := by
  simp only [List.all_eq_true, Bool.not_eq_true'] at h
  exact Or.inr h

/-- What stands at `stop` and behind it does not matter in front of it. -/
theorem Tag.StopsAt.beginsWith_append {mode : CaseMode} {stop : Char} {tag text : Text}
    (h : StopsAt mode stop tag) (htext : text ≠ []) (more : Text) :
    beginsWith mode tag (text ++ stop :: more) = beginsWith mode tag text := by
  rcases h with hone | hdiffer
  · apply Tag.beginsWith_append
    rw [hone]
    exact List.length_pos_of_ne_nil htext
  · clear htext
    induction tag generalizing text with
    | nil => simp [beginsWith]
    | cons t tag ih =>
      rw [List.forall_mem_cons] at hdiffer
      cases text with
      | nil => simp [beginsWith, hdiffer.1]
      | cons c text => rw [List.cons_append, beginsWith, beginsWith, ih hdiffer.2]

theorem Tag.StopsAt.beginsWith_stop {mode : CaseMode} {stop : Char} {tag : Text}
    (h : StopsAt mode stop tag) (htag : tag ≠ []) (more : Text) :
    beginsWith mode tag (stop :: more) = beginsWith mode tag [stop] := by
  rcases h with hone | hdiffer
  · exact @Tag.beginsWith_append mode tag [stop] more (Nat.le_of_eq hone)
  · obtain ⟨t, tag, rfl⟩ := List.exists_cons_of_ne_nil htag
    simp [beginsWith, hdiffer t (List.mem_cons_self ..)]

/-- What matches a tag does so character by character. -/
theorem Tag.forall₂_of_beginsWith {mode : CaseMode} {tag text : Text}
    (h : Tag.beginsWith mode tag text = true) :
    ∃ found rest, text = found ++ rest ∧
      List.Forall₂ (fun t c => mode.sameChar c t = true) tag found := by
  induction tag generalizing text with
  | nil => exact ⟨[], text, rfl, .nil⟩
  | cons t tag ih =>
    cases text with
    | nil => simp [beginsWith] at h
    | cons c text =>
      simp only [beginsWith, Bool.and_eq_true] at h
      obtain ⟨found, rest, rfl, hfound⟩ := ih h.2
      exact ⟨c :: found, rest, rfl, .cons h.1 hfound⟩

theorem Tag.beginsWith_of_forall₂ {mode : CaseMode} {tag found : Text}
    (h : List.Forall₂ (fun t c => mode.sameChar c t = true) tag found) (rest : Text) :
    beginsWith mode tag (found ++ rest) = true := by
  induction h with
  | nil => simp [beginsWith]
  | cons hsame _ ih => rw [List.cons_append, beginsWith, hsame, ih, Bool.and_true]

theorem Tag.byteLen_of_forall₂ {mode : CaseMode} {tag found : Text}
    (h : List.Forall₂ (fun t c => mode.sameChar c t = true) tag found) :
    Text.byteLen found = Text.byteLen tag := by
  induction h with
  | nil => rfl
  | cons hsame _ ih =>
    rw [Text.byteLen_cons, Text.byteLen_cons, ih, CaseMode.sameChar_utf8Size hsame]

namespace Text.Between

/-- A part as long as a tag that stands at its start matches the tag. -/
theorem forall₂_of_beginsWith {mode : CaseMode} {tag text before rest part : Text} {lo : Nat}
    (h : text.Between lo (lo + byteLen tag) part) (hcut : text.cut? lo = some (before, rest))
    (hbegins : Tag.beginsWith mode tag rest = true) :
    List.Forall₂ (fun t c => mode.sameChar c t = true) tag part := by
  obtain ⟨found, more, hrest, hfound⟩ := Tag.forall₂_of_beginsWith hbegins
  obtain ⟨before', after, htext, hbefore', hpart⟩ := h
  obtain ⟨htext', hbefore⟩ := cut?_eq_some_iff.1 hcut
  obtain ⟨-, hsame⟩ := append_inj_byteLen (htext.symm.trans htext') (hbefore'.trans hbefore.symm)
  rw [hrest] at hsame
  have hlen := Tag.byteLen_of_forall₂ hfound
  obtain ⟨rfl, -⟩ := append_inj_byteLen hsame (by omega)
  exact hfound

theorem opens {type : BlockType} {tags : Delimiters} {text part : Text} {lo : Nat}
    (htags : type.delimiters? = some tags) (hopens : type.opens text lo = true)
    (h : text.Between lo (lo + byteLen tags.openTag) part) :
    List.Forall₂ (fun t c => tags.mode.sameChar c t = true) tags.openTag part := by
  unfold BlockType.opens at hopens
  split at hopens
  · next hcut =>
    rw [BlockType.opensBetween, htags, Bool.and_eq_true] at hopens
    exact h.forall₂_of_beginsWith hcut hopens.2
  · cases hopens

theorem closes {type : BlockType} {tags : Delimiters} {text part : Text} {lo : Nat}
    (htags : type.delimiters? = some tags) (hcloses : type.closes text lo = true)
    (h : text.Between lo (lo + byteLen tags.closeTag) part) :
    List.Forall₂ (fun t c => tags.mode.sameChar c t = true) tags.closeTag part := by
  unfold BlockType.closes at hcloses
  split at hcloses
  · next hcut =>
    rw [BlockType.closesBetween, htags, Bool.and_eq_true] at hcloses
    exact h.forall₂_of_beginsWith hcut hcloses.2
  · cases hcloses

end Text.Between

end Blockwise
