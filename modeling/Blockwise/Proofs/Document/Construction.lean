/-
  Blockwise/Proofs/Document/Construction.lean
  ===========================================
  **Whatever is built stays a tree with a path of open nodes.**  `Built` documents come
  from a source by pushing and closing blocks, by an end of input that closes all of
  them, and by splicing another built document below the innermost node, in any order
  and any number.  Any block may be pushed; `Built P` says that `P` holds of those that
  were, those of spliced documents apart.

  Each operation keeps the two halves of `BuildingWith P` (`Arena` and `Spine P`), and a
  splice needs the first half of the other document only: its stack is dropped.  What that
  comes to is spelled out in `Sound`, with the tree below the root as a `Forest`.

  Pushing a block does not open it anew.  A closed block that is pushed once more stands
  on the stack with its old end (`pushed_again_is_closed`).
-/
import Blockwise.Proofs.Document.Forest
import Mathlib.Data.List.Chain

namespace Blockwise.Document

/-- Documents that are made by the operations, starting from a source, with blocks pushed
    of which `P` holds.  A document that is spliced in may have been made of any blocks. -/
inductive Built : (Block → Prop) → Document → Prop
  | ofSource {P} (source : Source) : Built P (.ofSource source)
  | push {P doc block} : Built P doc → P block → Built P (doc.push block)
  | close {P doc doc' pos markerLen id} :
      Built P doc → doc.close pos markerLen = .ok (doc', id) → Built P doc'
  | closeAtEof {P doc doc'} : Built P doc → doc.closeAtEof = .ok (doc', none) → Built P doc'
  | splice {P Q doc sub doc'} :
      Built P doc → Built Q sub → doc.splice doc.innermost sub = .ok doc' → Built P doc'

/-! ### Each operation -/

variable {P : Block → Prop} {doc doc' : Document}

namespace BuildingWith

/-- Closing does nothing if only the root is open. -/
theorem of_close {pos markerLen : Nat} {id : Option Nat} (h : doc.BuildingWith P)
    (hclose : doc.close pos markerLen = .ok (doc', id)) : doc'.BuildingWith P := by
  obtain ⟨closed, hclosed, hpair⟩ := map_eq_ok_iff.1 hclose
  cases hpair
  rcases hopen : doc.openBlocks with _ | ⟨innermost, outer⟩
  · have hsame : doc' = doc := by
      obtain ⟨sources, nodes, openBlocks⟩ := doc
      simp only at hopen
      subst hopen
      simpa [closeInnermost, eq_comm] using hclosed
    rw [hsame]
    exact h
  · obtain ⟨-, hopen', halong, -⟩ := closeInnermost_eq_ok hopen hclosed
    exact h.close hopen hopen' halong

theorem of_closeAtEof (h : doc.BuildingWith P) (hclose : doc.closeAtEof = .ok (doc', none)) :
    doc'.BuildingWith P := by
  obtain ⟨-, closed, left, -, hopen', hblocked, halong, -⟩ :=
    closeAtEof_eq_ok hclose (h.spine.nodup h.arena)
  constructor
  · exact h.arena.closedAlong halong
  · -- none is left open
    have hleft : left = [] := by simpa [eq_comm] using hblocked
    simp [hopen', hleft, Spine]

end BuildingWith

theorem Built.building (h : Built P doc) : doc.BuildingWith P := by
  induction h with
  | ofSource source => exact building_ofSource source
  | push _ hblock ih => exact ih.push hblock
  | close _ hclose ih => exact ih.of_close hclose
  | closeAtEof _ hclose ih => exact ih.of_closeAtEof hclose
  | splice _ _ hsplice ih ihsub => exact ih.graft ihsub.arena (ih.grafted ihsub.arena hsplice)

/-! ### The tree and the path, spelled out -/

/-- The nodes below the root are those of a finite tree, each once. -/
theorem Arena.exists_tree (h : doc.Arena) :
    ∃ tree : Forest, tree.Spells doc [root] ∧ tree.ids.Nodup ∧
      ∀ id, id ∈ tree.ids ↔ doc.Reachable id := by
  have hroots : ∀ id ∈ [root], id < doc.nodes.size := by
    intro id hid
    rw [List.mem_singleton.1 hid]
    exact h.size_pos
  obtain ⟨tree, hspells⟩ := h.exists_forest hroots
  refine ⟨tree, hspells, ?_, ?_⟩
  · exact hspells.nodup h (List.nodup_singleton _) (by simp)
  · intro id
    constructor
    · exact hspells.reachable (by simpa using Reachable.root) id
    · exact hspells.mem_of_reachable

theorem Arena.not_reachable (h : doc.Arena) {id : Nat} (hroot : id ≠ root)
    (hparent : doc.parentOf? id = none) : ¬ doc.Reachable id := by
  intro hid
  cases hid with
  | root => exact hroot rfl
  | child _ hc => simp [(h.child _ _ hc).2.2] at hparent

theorem Spine.isChain {ids : List Nat} (h : doc.Spine P ids) :
    (root :: ids.reverse).IsChain fun outer inner =>
      (doc.childrenOf outer).getLast? = some inner := by
  induction ids with
  | nil => simp
  | cons id outer ih =>
    obtain ⟨-, hlast, houter⟩ := h
    rw [List.reverse_cons, ← List.cons_append, List.isChain_append]
    refine ⟨ih houter, by simp, ?_⟩
    -- the entry before the last one is the head of `outer`, or the root
    intro before hbefore inner hinner
    simp only [List.head?_cons, Option.mem_some] at hinner
    simp only [List.getLast?_cons, List.getLast?_reverse, Option.mem_some] at hbefore
    rw [← hinner, ← hbefore]
    exact hlast

/-- What holds of the nodes of a document and of its stack of open nodes, whose blocks are
    such that `P` holds. -/
structure Sound (P : Block → Prop) (doc : Document) : Prop where
  root_mem : root < doc.nodes.size
  block : ∀ id < doc.nodes.size, doc.blockOf? id = none ↔ id = root
  child : ∀ p c, c ∈ doc.childrenOf p → p < c ∧ c < doc.nodes.size ∧ doc.parentOf? c = some p
  parent : ∀ id p, doc.parentOf? id = some p →
    (doc.childrenOf p).count id = 1 ∧ ∀ q, q ≠ p → id ∉ doc.childrenOf q
  tree : ∃ tree : Forest, tree.Spells doc [root] ∧ tree.ids.Nodup ∧
    ∀ id, id ∈ tree.ids ↔ doc.Reachable id
  detached : ∀ id, id ≠ root → doc.parentOf? id = none → ¬ doc.Reachable id
  stack_root : doc.openNodes.head? = some root
  stack_path : doc.openNodes.IsChain fun outer inner =>
    (doc.childrenOf outer).getLast? = some inner
  stack_block : ∀ id ∈ doc.openNodes.tail, ∃ block, doc.blockOf? id = some block ∧ P block

theorem BuildingWith.sound (h : doc.BuildingWith P) : doc.Sound P := by
  have harena := h.arena
  refine ⟨harena.size_pos, ?_, harena.child, ?_, harena.exists_tree,
    fun id => harena.not_reachable, rfl, h.spine.isChain, ?_⟩
  · intro id hid
    constructor
    · intro hnone
      by_contra hroot
      obtain ⟨block, hblock⟩ := harena.block id hroot hid
      simp [hblock] at hnone
    · rintro rfl
      exact harena.root_block
  · intro id p hparent
    constructor
    · exact List.count_eq_one_of_mem (harena.nodup p) (harena.parent id p hparent)
    · intro q hq hchild
      have hq' := (harena.child q id hchild).2.2
      exact hq (Option.some.inj (hq'.symm.trans hparent))
  · intro id hid
    exact h.spine.exists_block id (by simpa [openNodes] using hid)

/-- **Every document that is built is a tree,** and its stack of open nodes is a path of
    last children from the root.  The blocks on the stack are such as were pushed: if no
    block had an end when it was pushed, none on the stack has. -/
theorem built_sound (h : Built P doc) : doc.Sound P := h.building.sound

/-- A block with plain text inside, still open. -/
def sampleOpen : Document :=
  ((ofSource ⟨none, ['[', 'a', ']']⟩).push (.opened (.delimited ['b'] ['['] [']']) 0 0)).push
    (.opened .plain 0 1)

/-- The sample with its innermost block closed, spliced below the block around it. -/
def sampleSpliced : Except Fault Document := do
  let (closed, _) ← sampleOpen.close 2 0
  let spliced ← closed.splice closed.innermost sampleOpen
  return spliced.push (.opened .plain 0 1)

theorem built_sound_sampleSpliced :
    ∃ doc, sampleSpliced = .ok doc ∧ doc.Sound fun block => block.stop = none := by
  have hopen : Built (fun block => block.stop = none) sampleOpen :=
    .push (.push (.ofSource _) rfl) rfl
  obtain ⟨doc, hdoc⟩ := exists_eq_ok (show sampleSpliced.isOk = true by decide +kernel)
  refine ⟨doc, hdoc, ?_⟩
  unfold sampleSpliced at hdoc
  obtain ⟨⟨closed, id⟩, hclose, hrest⟩ := bind_eq_ok_iff.1 hdoc
  obtain ⟨spliced, hsplice, hpush⟩ := bind_eq_ok_iff.1 hrest
  cases hpush
  exact built_sound (((hopen.close hclose).splice hopen hsplice).push rfl)

/-- A block is closed and then pushed once more. -/
def sampleAgain : Except Fault Document := do
  let opened := (ofSource ⟨none, ['[', ']']⟩).push (.opened (.delimited ['b'] ['['] [']']) 0 0)
  let (closed, _) ← opened.close 1 1
  return match closed.blockOf? 1 with
    | some block => closed.push block
    | none => closed

/-- If any blocks may be pushed, a block on the stack may have its end. -/
theorem pushed_again_is_closed :
    ∃ doc, sampleAgain = .ok doc ∧ Built (fun _ => True) doc ∧ doc.openNodes = [root, 2] ∧
      (doc.blockOf? 2).map Block.stop = some (some 2) ∧
      ¬ doc.Sound fun block => block.stop = none := by
  obtain ⟨doc, hdoc⟩ := exists_eq_ok (show sampleAgain.isOk = true by decide +kernel)
  have hstack : sampleAgain.map (fun doc => (doc.openNodes, (doc.blockOf? 2).map Block.stop)) =
      .ok ([root, 2], some (some 2)) := by decide +kernel
  rw [hdoc, Except.map, Except.ok.injEq, Prod.mk.injEq] at hstack
  obtain ⟨hopen, hstop⟩ := hstack
  refine ⟨doc, hdoc, ?_, hopen, hstop, ?_⟩
  · unfold sampleAgain at hdoc
    obtain ⟨⟨closed, id⟩, hclose, hpush⟩ := bind_eq_ok_iff.1 hdoc
    have hclosed : Built (fun _ => True) closed :=
      .close (.push (.ofSource _) trivial) hclose
    cases hpush
    split
    · exact .push hclosed trivial
    · exact hclosed
  · intro hsound
    obtain ⟨block, hblock, hnone⟩ := hsound.stack_block 2 (by simp [hopen])
    rw [hblock, Option.map_some, hnone] at hstop
    cases hstop

end Blockwise.Document
