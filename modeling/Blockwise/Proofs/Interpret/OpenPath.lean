/-
  Blockwise/Proofs/Interpret/OpenPath.lean
  ========================================
  **What is left of the path of open nodes when the input ends inside a block.**  During
  a scan the stack of open nodes is the path from the root to the innermost one.  The end
  of input closes blocks from the outside in, and stops at the first one that it may not
  close.  So the stack that is left is the inner part of the path, put right after the
  root, and the blocks that are passed over have ended with the text (`Halted`).

  The stack is still a path exactly if no block had been closed (`Halted.isPath_iff`).
  One block that may be closed around one that may not is enough to part them
  (`open_stack_leaves_path`).
-/
import Blockwise.Proofs.Document.Construction
import Blockwise.Proofs.Interpret.Draft

namespace Blockwise

namespace Document

/-- Each node of the list is the parent of the next. -/
def IsPath (doc : Document) (ids : List Nat) : Prop :=
  ids.IsChain fun outer inner => doc.parentOf? inner = some outer

/-- The path leads from the root to the innermost open node.  The end of input has closed
    its blocks up to the first that it may not close; the others are the stack. -/
structure Halted (doc : Document) (path : List Nat) : Prop where
  isPath : doc.IsPath (root :: path)
  innermost : path.getLast? = doc.active?
  stack : doc.openNodes = root :: path.dropWhile doc.isCloseableByEof
  blocked : path.dropWhile doc.isCloseableByEof ≠ []
  ended : ∀ id ∈ path.takeWhile doc.isCloseableByEof, ∃ block, doc.blockOf? id = some block ∧
    block.stop = some doc.text.byteLen ∧ block.closeLen = 0
  waiting : ∀ id ∈ path.dropWhile doc.isCloseableByEof, ∃ block, doc.blockOf? id = some block ∧
    block.stop = none

section

variable {doc doc' : Document}

theorem Spine.isPath {P : Block → Prop} {ids : List Nat} (h : doc.Arena)
    (hspine : doc.Spine P ids) :
    doc.IsPath (root :: ids.reverse) := by
  apply hspine.isChain.imp
  intro outer inner hlast
  exact (h.child outer inner (List.mem_of_getLast? hlast)).2.2

theorem ClosedAlong.isCloseableByEof {ids : List Nat} {pos markerLen : Nat}
    (h : doc.ClosedAlong doc' ids pos markerLen) (id : Nat) :
    doc'.isCloseableByEof id = doc.isCloseableByEof id := by
  have hblock := h.blockOf? id
  unfold Document.blockOf? at hblock
  unfold Document.isCloseableByEof
  rw [hblock]
  by_cases hid : id ∈ ids
  · rw [if_pos hid]
    cases doc.nodes[id]?.bind Node.block <;> rfl
  · rw [if_neg hid]

/-- The end of input halts at a block and leaves the inner part of the path. -/
theorem Building.halted {id : Nat} (h : doc.Building)
    (hclose : doc.closeAtEof = .ok (doc', some id)) :
    doc'.Arena ∧ doc'.Halted doc.openBlocks.reverse := by
  obtain ⟨hsources, closed, left, hsplit, hopen', hblocked, halong, hall, hleft⟩ :=
    closeAtEof_eq_ok hclose (h.spine.nodup h.arena)
  have hcloseable : doc'.isCloseableByEof = doc.isCloseableByEof :=
    funext halong.isCloseableByEof
  have htext : doc'.text = doc.text := by
    unfold text mainSource
    rw [hsources]
  obtain ⟨first, rest, rfl⟩ : ∃ first rest, left = first :: rest := by
    cases left with
    | nil => cases hblocked
    | cons first rest => exact ⟨first, rest, rfl⟩
  have hfirst : doc.isCloseableByEof first = false := hleft first rfl
  have htake : doc.openBlocks.reverse.takeWhile doc'.isCloseableByEof = closed := by
    rw [hsplit, hcloseable, List.takeWhile_append_of_pos hall]
    simp [hfirst]
  have hdrop : doc.openBlocks.reverse.dropWhile doc'.isCloseableByEof = first :: rest := by
    rw [hsplit, hcloseable, List.dropWhile_append_of_pos hall]
    simp [hfirst]
  have hnodup : (closed ++ first :: rest).Nodup := by
    rw [← hsplit, List.nodup_reverse]
    exact h.spine.nodup h.arena
  constructor
  · exact h.arena.closedAlong halong
  constructor
  · apply (h.spine.isPath h.arena).imp
    intro outer inner hparent
    rw [halong.parentOf?, hparent]
  · rw [hsplit, active?, hopen', List.head?_reverse, List.getLast?_append, List.getLast?_cons]
    rfl
  · rw [openNodes, hopen', List.reverse_reverse, hdrop]
  · rw [hdrop]
    simp
  · intro j hj
    rw [htake] at hj
    have hmem : j ∈ doc.openBlocks := by
      rw [← List.mem_reverse, hsplit]
      exact List.mem_append_left _ hj
    obtain ⟨block, hblock, -⟩ := h.spine.exists_block j hmem
    refine ⟨block.closedAt doc.text.byteLen 0, ?_, ?_, rfl⟩
    · rw [halong.blockOf?, if_pos hj, hblock]
      rfl
    · rw [htext]
      rfl
  · intro j hj
    rw [hdrop] at hj
    have hmem : j ∈ doc.openBlocks := by
      rw [← List.mem_reverse, hsplit]
      exact List.mem_append_right _ hj
    have hnot : j ∉ closed := fun hclosed => (List.nodup_append'.1 hnodup).2.2 hclosed hj
    rw [halong.blockOf?, if_neg hnot]
    exact h.spine.exists_block j hmem

/-- The stack is a path if and only if no block was closed around it. -/
theorem Halted.isPath_iff {path : List Nat} (h : doc.Halted path) (harena : doc.Arena) :
    doc.IsPath doc.openNodes ↔ path.takeWhile doc.isCloseableByEof = [] := by
  have hsplit : path.takeWhile doc.isCloseableByEof ++ path.dropWhile doc.isCloseableByEof =
      path := List.takeWhile_append_dropWhile
  have hpath := h.isPath
  have hended := h.ended
  obtain ⟨first, rest, hrest⟩ := List.exists_cons_of_ne_nil h.blocked
  rw [h.stack, hrest]
  rw [hrest] at hsplit
  constructor
  · intro hstack
    -- the last of the closed blocks is the parent of the first open one, as the root is
    rcases List.eq_nil_or_concat (path.takeWhile doc.isCloseableByEof) with
      hnil | ⟨before, last, hlast⟩
    · exact hnil
    rw [List.concat_eq_append] at hlast
    rw [hlast] at hended hsplit
    obtain ⟨block, hblock, -⟩ := hended last (by simp)
    have hroot : doc.parentOf? first = some root := (List.isChain_cons_cons.1 hstack).1
    have hparent : doc.parentOf? first = some last := by
      rw [← hsplit, IsPath, List.append_assoc, ← List.cons_append] at hpath
      have hinner := List.isChain_append.1 hpath
      exact (List.isChain_cons_cons.1 hinner.2.1).1
    rw [hroot] at hparent
    cases hparent
    exact absurd rfl (harena.ne_root hblock)
  · intro hclosed
    rw [hclosed, List.nil_append] at hsplit
    rw [hsplit]
    exact hpath

end

end Document

namespace Interpreter

open Scan Document

/-- Whenever a block is not terminated, the stack of what had been built is the inner part
    of the path to its innermost open node. -/
def HaltsOnPath (result : Except Failure Document) : Prop :=
  ∀ label doc, result = .error (.unterminated label doc) →
    ∃ path, doc.Halted path ∧
      (doc.IsPath doc.openNodes ↔ path.takeWhile doc.isCloseableByEof = [])

theorem interpretSource_haltsOnPath (guard : Guard) (disk : Disk) (depth : Nat)
    (interpreter : Interpreter) (chain : List Path) (source : Source) :
    HaltsOnPath (interpretSource guard disk depth interpreter chain source).result := by
  intro label doc hdoc
  obtain ⟨inner, file, -, ended, hended, -, hfinish⟩ :=
    (interpretSource_endsIn guard disk depth interpreter chain source).2 label doc hdoc
  obtain ⟨flushed, id, hflush, hclose⟩ := finish_unterminated hfinish
  obtain ⟨-, hdraft, -⟩ := flush_draft hended.standing.draft hflush
  obtain ⟨harena, hhalted⟩ := hdraft.building.halted hclose
  exact ⟨_, hhalted, hhalted.isPath_iff harena⟩

/-- **The stack of a text that ends inside a block** is the path to its innermost open
    node, less the outer blocks that the end of input has closed. -/
theorem open_stack_on_path (disk : Disk) (interpreter : Interpreter) :
    (∀ text, HaltsOnPath (interpreter.interpret disk text).result) ∧
      ∀ path, HaltsOnPath (interpreter.interpretFile disk path).result := by
  constructor
  · intro text
    exact interpretSource_haltsOnPath _ _ _ _ _ _
  · intro path
    rcases interpretFile_cases disk interpreter path with ⟨cause, -, hfile⟩ | ⟨text, -, hfile⟩
    · rw [hfile]
      intro label doc hdoc
      cases hdoc
    · rw [hfile]
      exact interpretSource_haltsOnPath _ _ _ _ _ _

/-- A comment in which blocks may open, and a block that the end of input may not close. -/
def samplePermissive : Interpreter :=
  ⟨[(BlockType.comment ['c'] ['%']).mapFlags fun flags => { flags with forbidNewOpenings := false },
    .delimited ['b'] ['{'] ['}']], 1, .memory .empty⟩

/-- Only nodes 0 and 2 are open at the end, and node 1 is between them. -/
def isParted : Except Failure Document → Bool
  | .error (.unterminated _ doc) => doc.openNodes == [0, 2] && doc.parentOf? 2 == some 1
  | _ => false

theorem exists_of_isParted {outcome : Except Failure Document} (h : isParted outcome = true) :
    ∃ label doc, outcome = .error (.unterminated label doc) ∧ doc.openNodes = [0, 2] ∧
      doc.parentOf? 2 = some 1 := by
  unfold isParted at h
  split at h
  · simp only [Bool.and_eq_true, beq_iff_eq] at h
    exact ⟨_, _, rfl, h.1, h.2⟩
  · cases h

theorem samplePermissive_on_path :
    ∃ label doc, (samplePermissive.interpret ⟨[], []⟩ ['%', '{', 'b']).result =
        .error (.unterminated label doc) ∧ doc.openNodes = [0, 2] ∧
      ∃ path, doc.Halted path ∧
        (doc.IsPath doc.openNodes ↔ path.takeWhile doc.isCloseableByEof = []) := by
  obtain ⟨label, doc, hdoc, hopen, -⟩ := exists_of_isParted (show isParted
    (samplePermissive.interpret ⟨[], []⟩ ['%', '{', 'b']).result = true by decide +kernel)
  refine ⟨label, doc, hdoc, hopen, ?_⟩
  exact (open_stack_on_path ⟨[], []⟩ samplePermissive).1 _ label doc hdoc

/-- The comment is closed by the end of input, the block inside it is not: the stack goes
    from the root to a node whose parent is the comment. -/
theorem open_stack_leaves_path :
    ofTypes samplePermissive.types samplePermissive.reader = .ok samplePermissive ∧
      ∃ label doc, (samplePermissive.interpret ⟨[], []⟩ ['%', '{', 'b']).result =
        .error (.unterminated label doc) ∧ ¬ doc.IsPath doc.openNodes := by
  obtain ⟨label, doc, hdoc, hopen, hparent⟩ := exists_of_isParted (show isParted
    (samplePermissive.interpret ⟨[], []⟩ ['%', '{', 'b']).result = true by decide +kernel)
  refine ⟨rfl, label, doc, hdoc, ?_⟩
  intro hpath
  rw [hopen] at hpath
  have hroot : doc.parentOf? 2 = some 0 := (List.isChain_cons_cons.1 hpath).1
  rw [hparent] at hroot
  cases hroot

end Interpreter

end Blockwise
