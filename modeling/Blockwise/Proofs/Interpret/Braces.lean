/-
  Blockwise/Proofs/Interpret/Braces.lean
  ======================================
  **The blocks that braces open.**  With the LaTeX types for groups, comments and citations,
  one block is open at a place of a text for each brace that the tally has open there, and
  inside of these a comment if the place is in one (`Counts`).  The scanner reads a
  character, opens a block or closes one, and the tally agrees after each of the three
  (`Counts.read`, `Counts.opened`, `Counts.closed`).

  The tag of a citation is read at once, but the tally goes through it character by
  character.  It holds one brace, its last character, and so no other block opens or closes
  within it.  Conversely a brace is the end of such a tag only if the scanner has met the
  tag at its beginning (`Clear`).
-/
import Blockwise.Block
import Blockwise.Preset
import Blockwise.Proofs.Text.Parts
import Blockwise.Proofs.Text.Tally

namespace Blockwise

namespace Preset

/-- The tag of a citation is a name without marks, and a brace. -/
theorem cite_split {rest : Text} (h : Tag.beginsWith .insensitive cite.openTag rest = true) :
    ∃ name after, rest = name ++ '{' :: after ∧ name.length = 5 ∧ ∀ c ∈ name, c ∉ marks := by
  obtain ⟨found, after, rfl, hfound⟩ := Tag.forall₂_of_beginsWith h
  have hname : List.Forall₂ _ ['\\', 'c', 'i', 't', 'e'] (found.take 5) :=
    List.forall₂_take 5 hfound
  have hlast : List.Forall₂ _ ['{'] (found.drop 5) := List.forall₂_drop 5 hfound
  have hbrace : found.drop 5 = ['{'] := by
    obtain ⟨c, none, hsame, hnone, hdrop⟩ := List.forall₂_cons_left_iff.1 hlast
    rw [List.forall₂_nil_left_iff] at hnone
    rw [sameChar_mark (by decide), beq_iff_eq] at hsame
    rw [hdrop, hnone, hsame]
  refine ⟨found.take 5, after, ?_, hname.length_eq.symm, ?_⟩
  · rw [List.append_cons, ← hbrace, List.take_append_drop]
  · intro c hc hmark
    have hdiffer : (['\\', 'c', 'i', 't', 'e'].all fun t => marks.all fun c =>
        !CaseMode.insensitive.sameChar c t) = true := by decide +kernel
    simp only [List.all_eq_true, Bool.not_eq_true'] at hdiffer
    obtain ⟨⟨i, hi⟩, rfl⟩ := List.mem_iff_get.1 hc
    have hsame := hname.get (hname.length_eq ▸ hi) hi
    rw [hdiffer _ (List.get_mem ..) _ hmark] at hsame
    cases hsame

end Preset

/-! ### Braces and their blocks -/

/-- No tag of a citation begins before this place and ends behind it. -/
def Clear (before rest : Text) : Prop :=
  ∀ start part, before = start ++ part → part ≠ [] → part.length ≤ 5 →
    Tag.beginsWith .insensitive Preset.cite.openTag (part ++ rest) = false

namespace Clear

variable {before rest : Text} {c : Char}

theorem concat (h : ∀ start first, before = start ++ first → first.length < 5 →
      Tag.beginsWith .insensitive Preset.cite.openTag (first ++ c :: rest) = false) :
    Clear (before ++ [c]) rest := by
  intro start part hsplit hne hlen
  rcases List.eq_nil_or_concat' part with rfl | ⟨first, last, rfl⟩
  · exact absurd rfl hne
  · rw [← List.append_assoc] at hsplit
    obtain ⟨rfl, hlast⟩ := List.append_inj' hsplit rfl
    cases hlast
    rw [List.append_assoc]
    rw [List.length_append] at hlen
    exact h start first rfl hlen

theorem read (h : Clear before (c :: rest))
    (hcite : Tag.beginsWith .insensitive Preset.cite.openTag (c :: rest) = false) :
    Clear (before ++ [c]) rest := by
  refine concat ?_
  intro start first hsplit hlen
  cases first with
  | nil => exact hcite
  | cons d first => exact h start (d :: first) hsplit (by simp) (Nat.le_of_lt hlen)

/-- The tag of a citation has a mark at its end only. -/
theorem of_mark (hmark : c ∈ Preset.marks) : Clear (before ++ [c]) rest := by
  refine concat ?_
  intro start first _ hlen
  by_contra hcite
  obtain ⟨name, after, htag, hname, hnone⟩ := Preset.cite_split (eq_true_of_ne_false hcite)
  have hmem : c ∈ name := by
    rcases List.append_eq_append_iff.1 htag with ⟨more, rfl, hrest⟩ | ⟨more, rfl, -⟩
    · cases more with
      | nil =>
        rw [List.append_nil] at hname
        exact absurd hname (Nat.ne_of_lt hlen)
      | cons d more =>
        cases hrest
        simp
    · rw [List.length_append, hname] at hlen
      omega
  exact hnone c hmem hmark

end Clear

/-- The block that a brace opens behind `before`: a citation if its name stands there, and
    a group otherwise. -/
def braceBlock (before : Text) : Block :=
  let start : Text := before.take (before.length - 5)
  let name := before.drop (before.length - 5)
  if Tag.beginsWith .insensitive Preset.cite.openTag (name ++ ['{']) then
    .opened Preset.cite 0 start.byteLen
  else .opened Preset.bracket 0 before.byteLen

section BraceBlock

variable {before name after : Text}

theorem braceBlock_type : (braceBlock before).type = Preset.bracket ∨
    (braceBlock before).type = Preset.cite := by
  simp only [braceBlock]
  split
  · exact Or.inr rfl
  · exact Or.inl rfl

theorem braceBlock_cite (hname : name.length = 5)
    (h : Tag.beginsWith .insensitive Preset.cite.openTag (name ++ '{' :: after) = true) :
    braceBlock (before ++ name) = .opened Preset.cite 0 before.byteLen := by
  have hcut : (before ++ name).length - 5 = before.length := by
    rw [List.length_append, hname, Nat.add_sub_cancel]
  rw [List.append_cons, Tag.beginsWith_append _ (by simp [hname]; decide)] at h
  rw [braceBlock, hcut, List.take_left, List.drop_left, if_pos h]

theorem braceBlock_bracket (h : Clear before ('{' :: after)) :
    braceBlock before = .opened Preset.bracket 0 before.byteLen := by
  rw [braceBlock, if_neg]
  intro hcite
  have hshort : (before.drop (before.length - 5)).length ≤ 5 := by
    rw [List.length_drop]
    omega
  have hsplit := List.take_append_drop (before.length - 5) before
  generalize before.drop (before.length - 5) = name at hcite hshort hsplit
  have hlong : 5 ≤ name.length := by
    obtain ⟨found, rest, htag, hfound, -⟩ := Preset.cite_split hcite
    have hlen := congrArg List.length htag
    simp only [List.length_append, List.length_cons, List.length_nil, hfound] at hlen
    omega
  have hfalse := h _ name hsplit.symm (List.ne_nil_of_length_pos (by omega)) hshort
  rw [List.append_cons, Tag.beginsWith_append, hcite] at hfalse
  · cases hfalse
  · rw [List.length_append]
    exact Nat.succ_le_succ hlong

end BraceBlock

/-! ### The open blocks and the tally -/

/-- A character that is no mark is not counted. -/
theorem Text.tally_plain {before : Text} {c : Char} (hout : before.tally.commented = false)
    (hc : c ∉ Preset.marks) : tally (before ++ [c]) = ⟨before.tally.depth, false, some c⟩ := by
  simp only [Preset.marks, List.mem_cons, List.not_mem_nil, or_false, not_or] at hc
  rw [tally_other hout hc.1 hc.2.1, beq_false_of_ne hc.2.2.1, Bool.and_false]

theorem flags_of_brace {block : Block}
    (h : block.type = Preset.bracket ∨ block.type = Preset.cite) : block.type.flags = {} := by
  rcases h with h | h <;> rw [h] <;> rfl

/-- Blocks for the open braces, innermost first. -/
structure Braces (before : Text) (braces : List Block) : Prop where
  length_eq : braces.length = before.tally.depth
  types : ∀ block ∈ braces, block.type = Preset.bracket ∨ block.type = Preset.cite
  outermost : ∀ block ∈ braces.getLast?, ∃ first after, before = first ++ '{' :: after ∧
    Outermost first after ∧ block = braceBlock first

namespace Braces

variable {before name : Text} {c : Char} {block : Block} {braces : List Block}

/-- The outermost brace stays the outermost one until it is closed. -/
theorem outermost_concat (h : Braces before braces)
    (hpos : 0 < (Text.tally (before ++ [c])).depth) :
    ∀ block ∈ braces.getLast?, ∃ first after, before ++ [c] = first ++ '{' :: after ∧
      Outermost first after ∧ block = braceBlock first := by
  intro block hblock
  obtain ⟨first, after, rfl, houtermost, hfirst⟩ := h.outermost block hblock
  refine ⟨first, after ++ [c], ?_, houtermost.concat hpos, hfirst⟩
  rw [List.append_assoc, List.cons_append]

theorem exists_outermost (h : Braces before braces) (hpos : 0 < before.tally.depth) :
    ∃ first after, before = first ++ '{' :: after ∧ Outermost first after ∧
      braces.getLast? = some (braceBlock first) := by
  have hne : braces ≠ [] := by
    rintro rfl
    rw [← h.length_eq] at hpos
    exact Nat.lt_irrefl 0 hpos
  have hlast := List.getLast?_eq_some_getLast hne
  obtain ⟨first, after, hsplit, houtermost, hblock⟩ := h.outermost _ hlast
  rw [hblock] at hlast
  exact ⟨first, after, hsplit, houtermost, hlast⟩

theorem kept (h : Braces before braces)
    (hdepth : (Text.tally (before ++ [c])).depth = before.tally.depth) :
    Braces (before ++ [c]) braces := by
  refine ⟨h.length_eq.trans hdepth.symm, h.types, ?_⟩
  intro block hblock
  have hpos := List.length_pos_of_mem (List.mem_of_getLast? hblock)
  exact h.outermost_concat (by rwa [hdepth, ← h.length_eq]) block hblock

theorem opened (h : Braces before braces) (hout : before.tally.commented = false) :
    Braces (before ++ ['{']) (braceBlock before :: braces) := by
  have hdepth : (Text.tally (before ++ ['{'])).depth = before.tally.depth + 1 := by
    rw [Text.tally_open hout]
  refine ⟨?_, ?_, ?_⟩
  · rw [List.length_cons, h.length_eq, hdepth]
  · intro block hblock
    rcases List.mem_cons.1 hblock with rfl | hblock
    · exact braceBlock_type
    · exact h.types block hblock
  · cases braces with
    | nil =>
      rintro block ⟨⟩
      exact ⟨before, [], rfl, .nil h.length_eq.symm hout, rfl⟩
    | cons inner braces =>
      rw [List.getLast?_cons_cons]
      exact h.outermost_concat (by rw [hdepth]; exact Nat.succ_pos _)

theorem closed (h : Braces before (block :: braces)) (hout : before.tally.commented = false) :
    Braces (before ++ ['}']) braces := by
  have hdepth : (Text.tally (before ++ ['}'])).depth = braces.length := by
    rw [Text.tally_close hout, ← h.length_eq]
    rfl
  refine ⟨hdepth.symm, fun found hfound => h.types found (List.mem_cons_of_mem _ hfound), ?_⟩
  cases braces with
  | nil => rintro block ⟨⟩
  | cons inner braces =>
    rw [← List.getLast?_cons_cons]
    exact h.outermost_concat (by rw [hdepth]; exact Nat.succ_pos _)

theorem closeable_iff (h : Braces before braces) :
    (∀ block ∈ braces, block.type.flags.closeableByEof = true) ↔ before.tally.depth = 0 := by
  rw [← h.length_eq, List.length_eq_zero_iff]
  constructor
  · intro hall
    cases braces with
    | nil => rfl
    | cons block braces =>
      have hcloseable := hall block (List.mem_cons_self ..)
      rw [flags_of_brace (h.types block (List.mem_cons_self ..))] at hcloseable
      cases hcloseable
  · rintro rfl
    exact fun _ hblock => absurd hblock List.not_mem_nil

/-- Where no type opens and the innermost brace does not close, nothing is counted. -/
theorem tally_quiet {rest : Text} (h : Braces before braces)
    (hout : before.tally.commented = false)
    (hnone : ∀ type ∈ Preset.braceTypes, type.opensBetween before.getLast? (c :: rest) = false)
    (hclosing : ∀ block ∈ braces.head?,
      block.type.closesBetween before.getLast? (c :: rest) = false) :
    Text.tally (before ++ [c]) = ⟨before.tally.depth, false, some c⟩ := by
  have hopen : c ≠ '{' := by
    have hbracket := hnone Preset.bracket (by simp [Preset.braceTypes])
    rwa [Preset.opens_bracket, beq_eq_false_iff_ne] at hbracket
  have hpercent := hnone Preset.comment (by simp [Preset.braceTypes])
  rw [Preset.opens_comment] at hpercent
  by_cases hclose : c = '}'
  · -- no block is open that it could close
    subst hclose
    cases braces with
    | nil =>
      rw [Text.tally_close hout, ← h.length_eq]
      rfl
    | cons block braces =>
      have hcloses := hclosing block rfl
      rw [Preset.closes_brace (h.types block (List.mem_cons_self ..))] at hcloses
      cases hcloses
  · rw [Text.tally_other hout hopen hclose, hpercent]

/-- Characters that are no marks change nothing. -/
theorem plain (h : Braces before braces) (hout : before.tally.commented = false)
    (hname : ∀ c ∈ name, c ∉ Preset.marks) :
    Braces (before ++ name) braces ∧ (Text.tally (before ++ name)).commented = false := by
  induction name using List.reverseRecOn with
  | nil => exact ⟨by rwa [List.append_nil], by rwa [List.append_nil]⟩
  | append_singleton name c ih =>
    obtain ⟨hbraces, hcommented⟩ := ih fun d hd => hname d (List.mem_append_left _ hd)
    have hstep := Text.tally_plain hcommented (hname c (by simp))
    rw [← List.append_assoc]
    exact ⟨hbraces.kept (by rw [hstep]), by rw [hstep]⟩

end Braces

/-- The open blocks, innermost first: the braces, and inside of them the comment that the
    place is in. -/
inductive Stacked (before : Text) : List Block → Prop
  | outside {braces} : before.tally.commented = false → Braces before braces →
      Stacked before braces
  | inside {block braces} : before.tally.commented = true → block.type = Preset.comment →
      Braces before braces → Stacked before (block :: braces)

namespace Stacked

variable {before : Text} {stack : List Block}

theorem outermost (h : Stacked before stack) (hpos : 0 < before.tally.depth) :
    ∃ first after, before = first ++ '{' :: after ∧ Outermost first after ∧
      stack.getLast? = some (braceBlock first) := by
  cases h with
  | outside _ h => exact h.exists_outermost hpos
  | @inside block braces _ _ h =>
    -- the comment is the innermost block
    obtain ⟨first, after, hsplit, houtermost, hlast⟩ := h.exists_outermost hpos
    refine ⟨first, after, hsplit, houtermost, ?_⟩
    cases braces with
    | nil => cases hlast
    | cons inner braces => rwa [List.getLast?_cons_cons]

/-- A comment may be closed by the end of input, and a brace may not. -/
theorem closeable_iff (h : Stacked before stack) :
    (∀ block ∈ stack, block.type.flags.closeableByEof = true) ↔ before.tally.depth = 0 := by
  cases h with
  | outside _ h => exact h.closeable_iff
  | inside _ htype h =>
    rw [List.forall_mem_cons, htype, h.closeable_iff]
    exact and_iff_right rfl

end Stacked

/-- The open blocks at a place of a text are those that counting finds. -/
structure Counts (before rest : Text) (stack : List Block) : Prop where
  stacked : Stacked before stack
  clear : before.tally.commented = false → Clear before rest

namespace Counts

variable {before rest : Text} {c : Char} {block : Block} {stack : List Block} {type : BlockType}

theorem start (text : Text) : Counts [] text [] := by
  refine ⟨.outside rfl ⟨rfl, by simp, by simp⟩, ?_⟩
  intro _ start part hsplit hne
  exact absurd (List.append_eq_nil_iff.1 hsplit.symm).2 hne

theorem commented (hin : before.tally.commented = true) (htype : block.type = Preset.comment)
    (hbraces : Braces before stack) : Counts before rest (block :: stack) := by
  refine ⟨.inside hin htype hbraces, ?_⟩
  intro hout
  rw [hin] at hout
  cases hout

theorem behind_mark (hmark : c ∈ Preset.marks)
    (hout : (Text.tally (before ++ [c])).commented = false)
    (hbraces : Braces (before ++ [c]) stack) : Counts (before ++ [c]) rest stack :=
  ⟨.outside hout hbraces, fun _ => .of_mark hmark⟩

/-- A character is read as it is. -/
theorem read (h : Counts before (c :: rest) stack)
    (hopening : (∃ block ∈ stack.head?, block.type.flags.forbidNewOpenings = true) ∨
      ∀ type ∈ Preset.braceTypes, type.opensBetween before.getLast? (c :: rest) = false)
    (hclosing : ∀ block ∈ stack.head?,
      block.type.closesBetween before.getLast? (c :: rest) = false) :
    Counts (before ++ [c]) rest stack := by
  obtain ⟨hstacked, hclear⟩ := h
  cases hstacked with
  | outside hout hbraces =>
    have hnone : ∀ type ∈ Preset.braceTypes,
        type.opensBetween before.getLast? (c :: rest) = false := by
      refine hopening.resolve_left ?_
      rintro ⟨block, hblock, hforbid⟩
      rw [flags_of_brace (hbraces.types block (List.mem_of_mem_head? hblock))] at hforbid
      cases hforbid
    have hstep := hbraces.tally_quiet hout hnone hclosing
    have hcite := hnone Preset.cite (by simp [Preset.braceTypes])
    rw [Preset.opens_cite] at hcite
    exact ⟨.outside (by rw [hstep]) (hbraces.kept (by rw [hstep])),
      fun _ => (hclear hout).read hcite⟩
  | inside hin htype hbraces =>
    have hcloses := hclosing _ rfl
    rw [htype, Preset.closes_comment] at hcloses
    have hstep : Text.tally (before ++ [c]) = ⟨before.tally.depth, true, some c⟩ := by
      rw [Text.tally_in_comment hin, hcloses, Bool.not_false]
    exact commented (by rw [hstep]) htype (hbraces.kept (by rw [hstep]))

/-- A block opens with its tag. -/
theorem opened (h : Counts before (c :: rest) stack)
    (hallowed : ∀ block ∈ stack.head?, block.type.flags.forbidNewOpenings = false)
    (hfind : Preset.braceTypes.find? (fun type =>
      type.opensBetween before.getLast? (c :: rest)) = some type) :
    Counts (before ++ (c :: rest).take type.openTag.length)
      ((c :: rest).drop type.openTag.length) (.opened type 0 before.byteLen :: stack) := by
  obtain ⟨hstacked, hclear⟩ := h
  cases hstacked with
  | inside hin htype hbraces =>
    have hforbid := hallowed _ rfl
    rw [htype] at hforbid
    cases hforbid
  | outside hout hbraces =>
    have hopens := List.find?_some hfind
    rcases Preset.mem_braceTypes (List.mem_of_find?_eq_some hfind) with rfl | rfl | rfl
    · rw [Preset.opens_bracket, beq_iff_eq] at hopens
      subst hopens
      rw [← braceBlock_bracket (hclear hout)]
      refine behind_mark (by decide) ?_ (hbraces.opened hout)
      rw [Text.tally_open hout]
    · rw [Preset.opens_comment] at hopens
      have hstep : Text.tally (before ++ [c]) = ⟨before.tally.depth, true, some c⟩ := by
        obtain rfl : c = '%' := by simpa using (Bool.and_eq_true_iff.1 hopens).2
        rw [Text.tally_other hout (by decide) (by decide), hopens]
      have hin : (Text.tally (before ++ [c])).commented = true := by rw [hstep]
      exact commented hin rfl (hbraces.kept (by rw [hstep]))
    · rw [Preset.opens_cite] at hopens
      obtain ⟨name, after, htag, hname, hmarks⟩ := Preset.cite_split hopens
      have hlen : Preset.cite.openTag.length = (name ++ ['{']).length := by
        rw [List.length_append, hname]
        rfl
      rw [htag] at hopens
      rw [htag, List.append_cons, hlen, List.take_left, List.drop_left, ← List.append_assoc,
        ← braceBlock_cite hname hopens]
      obtain ⟨hbefore, hcommented⟩ := hbraces.plain hout hmarks
      refine behind_mark (by decide) ?_ (hbefore.opened hcommented)
      rw [Text.tally_open hcommented]

/-- The innermost block closes with its tag. -/
theorem closed (h : Counts before (c :: rest) (block :: stack))
    (hcloses : block.type.closesBetween before.getLast? (c :: rest) = true) :
    Counts (before ++ (c :: rest).take block.type.closeTag.length)
      ((c :: rest).drop block.type.closeTag.length) stack := by
  obtain ⟨hstacked, -⟩ := h
  cases hstacked with
  | outside hout hbraces =>
    have htype := hbraces.types block (List.mem_cons_self ..)
    have hlen : block.type.closeTag.length = 1 := by
      rcases htype with htype | htype <;> rw [htype] <;> rfl
    rw [Preset.closes_brace htype, beq_iff_eq] at hcloses
    subst hcloses
    rw [hlen]
    refine behind_mark (by decide) ?_ (hbraces.closed hout)
    rw [Text.tally_close hout]
  | inside hin htype hbraces =>
    rw [htype, Preset.closes_comment] at hcloses
    have hstep : Text.tally (before ++ [c]) = ⟨before.tally.depth, false, some c⟩ := by
      rw [Text.tally_in_comment hin, hcloses, Bool.not_true]
    obtain rfl : c = '\n' := by simpa using (Bool.and_eq_true_iff.1 hcloses).2
    have hkept := hbraces.kept (by rw [hstep])
    rw [htype]
    exact behind_mark (by decide) (by rw [hstep]) hkept

end Counts

end Blockwise
