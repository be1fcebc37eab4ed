/-
  Blockwise/Proofs/Interpret/Registration.lean
  ============================================
  **The order of registration matters only on conflicts.**  Of the types whose open tag
  stands at a position the first one wins.  Where no two different types open at one
  position, the search finds the same type in every order (`find?_eq_of_perm`), so
  interpreters that register the same types in another order come to the same, those of
  included files included (`interpretation_of_reordered`).

  The types of two such interpreters may differ in turn in the order of their nested
  interpreters, and then so do the types that the two documents hold.  With the very
  same types, the outcomes are equal.
-/
import Blockwise.Proofs.Interpret.Simulation

namespace Blockwise

theorem find?_eq_of_perm {α : Type} {p : α → Bool} {xs ys : List α} (h : xs.Perm ys)
    (hone : ∀ a ∈ xs, ∀ b ∈ xs, p a = true → p b = true → a = b) : ys.find? p = xs.find? p := by
  rcases hxs : xs.find? p with _ | a
  · rw [List.find?_eq_none] at hxs ⊢
    intro b hb
    exact hxs b (h.mem_iff.2 hb)
  · have ha := List.mem_of_find?_eq_some hxs
    rcases hys : ys.find? p with _ | b
    · rw [List.find?_eq_none] at hys
      exact absurd (List.find?_some hxs) (hys a (h.mem_iff.1 ha))
    · have hb := h.mem_iff.2 (List.mem_of_find?_eq_some hys)
      rw [hone b hb a ha (List.find?_some hys) (List.find?_some hxs)]

theorem BlockType.le_byteLen_of_opens {type : BlockType} {text : Text} {pos : Nat}
    (h : type.opens text pos = true) : pos ≤ text.byteLen := by
  apply Text.le_of_isBoundary
  unfold BlockType.opens at h
  unfold Text.isBoundary
  split at h
  · next hcut => rw [hcut]; rfl
  · cases h

namespace Interpreter

/-! ### The same types in another order -/

/-- The second interpreter has the types of the first in some order, with nested
    interpreters that are related. -/
inductive Permuted (nested : Interpreter → Interpreter → Prop) : Interpreter → Interpreter → Prop
  | mk {types order types' selfCloseSkip reader} : types.Perm order →
      List.Forall₂ (BlockType.Alike nested) order types' →
      Permuted nested ⟨types, selfCloseSkip, reader⟩ ⟨types', selfCloseSkip, reader⟩

/-- The interpreters register the same types in another order, and so do those nested in
    their include types. -/
inductive Reordered : Interpreter → Interpreter → Prop
  | intro {interpreter interpreter'} : Permuted Reordered interpreter interpreter' →
      Reordered interpreter interpreter'

/-- No two different types open at one position of the text. -/
def Unambiguous (interpreter : Interpreter) (text : Text) : Prop :=
  ∀ pos, ∀ type ∈ interpreter.types, ∀ other ∈ interpreter.types,
    type.opens text pos = true → other.opens text pos = true → type = other

/-- No file that can be read is ambiguous to an interpreter that can read it. -/
def UnambiguousFiles (disk : Disk) (interpreter : Interpreter) : Prop :=
  ∀ inner, interpreter.Within inner → ∀ path text, inner.reader.read disk path = .ok text →
    inner.Unambiguous text

/-- Ambiguity can be looked for, position by position. -/
theorem unambiguous_of_length_le {interpreter : Interpreter} {text : Text}
    (h : ∀ pos ≤ text.byteLen, (interpreter.types.filter (·.opens text pos)).length ≤ 1) :
    interpreter.Unambiguous text := by
  intro pos type htype other hother hopens hopens'
  have hlength := h pos (BlockType.le_byteLen_of_opens hopens)
  have hmem : type ∈ interpreter.types.filter (·.opens text pos) :=
    List.mem_filter.2 ⟨htype, hopens⟩
  have hmem' : other ∈ interpreter.types.filter (·.opens text pos) :=
    List.mem_filter.2 ⟨hother, hopens'⟩
  generalize interpreter.types.filter (·.opens text pos) = opening at hlength hmem hmem'
  match opening, hlength with
  | [_], _ =>
    rw [List.mem_singleton] at hmem hmem'
    rw [hmem, hmem']

section

variable {nested : Interpreter → Interpreter → Prop} {interpreter interpreter' : Interpreter}

theorem forall₂_alike_refl (types : List BlockType) :
    List.Forall₂ (BlockType.Alike Eq) types types :=
  List.forall₂_same.2 fun _ _ => BlockType.alike_eq_iff.2 rfl

theorem permuted_refl (interpreter : Interpreter) : Permuted Eq interpreter interpreter := by
  obtain ⟨types, selfCloseSkip, reader⟩ := interpreter
  exact .mk (List.Perm.refl types) (forall₂_alike_refl types)

theorem Permuted.of_perm (h : Permuted nested interpreter interpreter')
    (htypes : interpreter.types.Perm interpreter'.types) :
    Permuted Eq interpreter interpreter' := by
  cases h with
  | mk _ _ => exact .mk htypes (forall₂_alike_refl _)

theorem Permuted.selfCloseSkip (h : Permuted nested interpreter interpreter') :
    interpreter'.selfCloseSkip = interpreter.selfCloseSkip := by
  cases h with
  | mk _ _ => rfl

theorem Permuted.reader (h : Permuted nested interpreter interpreter') :
    interpreter'.reader = interpreter.reader := by
  cases h with
  | mk _ _ => rfl

theorem Permuted.opensAlike (h : Permuted nested interpreter interpreter') {text : Text}
    (hone : interpreter.Unambiguous text) : interpreter.OpensAlike nested interpreter' text := by
  cases h with
  | @mk types order types' selfCloseSkip reader hperm halike =>
    intro pos
    have hfound := find?_opens_alike halike text pos
    rwa [find?_eq_of_perm hperm (hone pos)] at hfound

/-- What a permuted interpreter hands a file on to is permuted again. -/
theorem simulates_permuted {disk : Disk} (hfiles : interpreter.UnambiguousFiles disk)
    (hnested : ∀ inner inner', nested inner inner' → Permuted nested inner inner') :
    Simulates (fun _ => False) disk nested fun first second =>
      interpreter.Within first ∧ Permuted nested first second := by
  constructor
  · rintro first second ⟨-, hpermuted⟩
    exact hpermuted.selfCloseSkip
  · rintro first second type settings settings' ⟨hwithin, hpermuted⟩ htype hinc hsettings
    exact ⟨hwithin.step htype hinc, hsettings.getD_override hnested hpermuted⟩
  · rintro first second ⟨-, hpermuted⟩
    rw [hpermuted.reader]
  · rintro first second path cause ⟨-, hpermuted⟩ hread
    rw [hpermuted.reader]
    exact Or.inl hread
  · rintro first second path text ⟨hwithin, hpermuted⟩ hread
    rw [hpermuted.reader]
    exact ⟨hread, hpermuted.opensAlike (hfiles first hwithin path text hread)⟩

theorem Permuted.sameOutcomes {disk : Disk} (h : Permuted nested interpreter interpreter')
    (hfiles : interpreter.UnambiguousFiles disk)
    (hnested : ∀ inner inner', nested inner inner' → Permuted nested inner inner') :
    (∀ text, interpreter.Unambiguous text → SameOutcome nested
        (interpreter.interpret disk text).result (interpreter'.interpret disk text).result) ∧
      ∀ path, SameOutcome nested (interpreter.interpretFile disk path).result
        (interpreter'.interpretFile disk path).result := by
  have hsimulates := simulates_permuted hfiles hnested
  constructor
  · intro text htext
    exact hsimulates.interpret ⟨.refl, h⟩ (h.opensAlike htext) fun _ hfalse => hfalse.elim
  · intro path
    exact hsimulates.interpretFile ⟨.refl, h⟩ path fun _ hfalse => hfalse.elim

end

/-- **The order of registration matters only on conflicts.**  If no position of a text or
    of a readable file has two different types that open there, interpreters that
    register the same types in another order come to the same, for texts and for files:
    the same failure, or the same nodes, sources and stack of open nodes.  The outcomes
    are equal if no nested interpreter differs. -/
theorem interpretation_of_reordered (disk : Disk) {interpreter interpreter' : Interpreter}
    (horder : Reordered interpreter interpreter')
    (hfiles : interpreter.UnambiguousFiles disk) :
    (∀ text, interpreter.Unambiguous text → SameOutcome Reordered
        (interpreter.interpret disk text).result (interpreter'.interpret disk text).result) ∧
      (∀ path, SameOutcome Reordered (interpreter.interpretFile disk path).result
        (interpreter'.interpretFile disk path).result) ∧
      (interpreter.types.Perm interpreter'.types →
        (∀ text, interpreter.Unambiguous text →
          (interpreter'.interpret disk text).result = (interpreter.interpret disk text).result) ∧
        ∀ path, (interpreter'.interpretFile disk path).result =
          (interpreter.interpretFile disk path).result) := by
  obtain ⟨hpermuted⟩ := horder
  have hreordered := hpermuted.sameOutcomes hfiles fun _ _ ⟨hinner⟩ => hinner
  refine ⟨hreordered.1, hreordered.2, ?_⟩
  intro htypes
  have hequal := (hpermuted.of_perm htypes).sameOutcomes hfiles fun inner _ hsame =>
    hsame ▸ permuted_refl inner
  exact ⟨fun text htext => (hequal.1 text htext).eq, fun path => (hequal.2 path).eq⟩

def sampleFile : Text := ['[', 'x', ']', '%', 'y']

def sampleOf (types : List BlockType) : Interpreter :=
  ⟨types, 1, .memory ⟨[(⟨['f']⟩, sampleFile)]⟩⟩

def sampleBrackets : BlockType := (BlockType.delimited ['b'] ['['] [']']).caseSensitive

def samplePercent : BlockType := (BlockType.comment ['c'] ['%']).caseSensitive

def sampleInclusion (types : List BlockType) : BlockType :=
  (BlockType.inclusion ['i']
    { Inclusion.ofTags ['<'] ['>'] with override := some (sampleOf types) }).caseSensitive

/-- A block type and an include type, whose files are read with a comment type, too. -/
def sampleForward : Interpreter :=
  sampleOf [sampleBrackets, sampleInclusion [sampleBrackets, samplePercent]]

/-- The same types backwards, on both levels. -/
def sampleBackward : Interpreter :=
  sampleOf [sampleInclusion [samplePercent, sampleBrackets], sampleBrackets]

theorem sampleForward_reordered : Reordered sampleForward sampleBackward := by
  have hbrackets : sampleBrackets.Alike Reordered sampleBrackets := .mk (.delimited _)
  have hpercent : samplePercent.Alike Reordered samplePercent := .mk (.comment _)
  have hinner : Reordered (sampleOf [sampleBrackets, samplePercent])
      (sampleOf [samplePercent, sampleBrackets]) := by
    apply Reordered.intro
    apply Permuted.mk (.swap _ _ _)
    exact .cons hpercent (.cons hbrackets .nil)
  apply Reordered.intro
  apply Permuted.mk (.swap _ _ _)
  exact .cons (.mk (.inclusion (.mk (.some hinner)))) (.cons hbrackets .nil)

theorem sampleForward_unambiguousFiles : sampleForward.UnambiguousFiles ⟨[], []⟩ := by
  intro inner hinner
  have hcases : inner = sampleForward ∨ inner = sampleOf [sampleBrackets, samplePercent] := by
    induction hinner with
    | refl => exact Or.inl rfl
    | @step middle type settings _ htype hinc ih =>
      rcases ih with rfl | rfl
      · rcases List.mem_pair.1 htype with rfl | rfl
        · cases hinc
        · cases hinc
          exact Or.inr rfl
      · rcases List.mem_pair.1 htype with rfl | rfl
        · cases hinc
        · cases hinc
  have hfile : ∀ types path text,
      (sampleOf types).reader.read ⟨[], []⟩ path = .ok text → text = sampleFile := by
    intro types path text hread
    obtain ⟨entry, hentry, rfl⟩ := Option.map_eq_some_iff.1 (MemoryFiles.read_eq_ok_iff.1 hread)
    rw [List.mem_singleton.1 (List.mem_of_find?_eq_some hentry)]
  intro path text hread
  apply unambiguous_of_length_le
  rcases hcases with rfl | rfl
  · rw [hfile _ path text hread]
    decide +kernel
  · rw [hfile _ path text hread]
    decide +kernel

/-- A text with an include inside a block comes to a document in both orders. -/
theorem sampleForward_of_reordered :
    Reordered sampleForward sampleBackward ∧ sampleForward.UnambiguousFiles ⟨[], []⟩ ∧
      sampleForward.Unambiguous ['[', '<', 'f', '>', ']'] ∧
      ∃ doc doc', (sampleForward.interpret ⟨[], []⟩ ['[', '<', 'f', '>', ']']).result = .ok doc ∧
        (sampleBackward.interpret ⟨[], []⟩ ['[', '<', 'f', '>', ']']).result = .ok doc' ∧
        doc.Alike Eq Reordered doc' := by
  have htext : sampleForward.Unambiguous ['[', '<', 'f', '>', ']'] := by
    apply unambiguous_of_length_le
    decide +kernel
  refine ⟨sampleForward_reordered, sampleForward_unambiguousFiles, htext, ?_⟩
  obtain ⟨doc, hdoc⟩ := exists_eq_ok (show (sampleForward.interpret ⟨[], []⟩
    ['[', '<', 'f', '>', ']']).result.isOk = true by decide +kernel)
  have hsame := (interpretation_of_reordered ⟨[], []⟩ sampleForward_reordered
    sampleForward_unambiguousFiles).1 _ htext
  rw [hdoc] at hsame
  generalize (sampleBackward.interpret ⟨[], []⟩ ['[', '<', 'f', '>', ']']).result = outcome
    at hsame
  cases hsame with
  | @ok _ doc' halike => exact ⟨doc, doc', hdoc, rfl, halike⟩

end Interpreter

end Blockwise
