/-
  Blockwise/Proofs/Document/Arena.lean
  ====================================
  **The nodes of a document form a tree, and the open ones a path in it.**

  `Arena` says that children come after their parent, that a node stands in the
  list of the parent it names, once, and in no other list, and that only the root
  has no block.  `Spine P` says that each entry of the stack of open nodes is a block
  of which `P` holds and the last child of the entry below it.  The first is kept by all
  building operations, the second by all but closing at the end of input, which takes
  entries away from the outer end of the stack.

  A block on the stack stays as it was pushed, so `P` may be whatever holds of the blocks
  that are pushed: that they have no end yet (`Building`), or nothing at all.
-/
import Blockwise.Proofs.Document.Nodes

namespace Blockwise.Document

/-! ### The tree of nodes -/

/-- Parents and children agree, and children come later in the array. -/
structure Arena (doc : Document) : Prop where
  size_pos : 0 < doc.nodes.size
  root_block : doc.blockOf? root = none
  root_parent : doc.parentOf? root = none
  block : ∀ id, id ≠ root → id < doc.nodes.size → ∃ block, doc.blockOf? id = some block
  child : ∀ id c, c ∈ doc.childrenOf id →
    id < c ∧ c < doc.nodes.size ∧ doc.parentOf? c = some id
  parent : ∀ id p, doc.parentOf? id = some p → id ∈ doc.childrenOf p
  nodup : ∀ id, (doc.childrenOf id).Nodup

theorem arena_ofSource (source : Source) : (ofSource source).Arena := by
  have hchildren : ∀ id, (ofSource source).childrenOf id = [] := by
    intro id
    cases id <;> rfl
  have hparent : ∀ id, (ofSource source).parentOf? id = none := by
    intro id
    cases id <;> rfl
  refine ⟨Nat.one_pos, rfl, rfl, ?_, ?_, ?_, ?_⟩
  · intro id hne hlt
    exact absurd (Nat.lt_one_iff.1 hlt) hne
  · intro id c hc
    rw [hchildren] at hc
    cases hc
  · intro id p hp
    rw [hparent] at hp
    cases hp
  · intro id
    rw [hchildren]
    exact List.nodup_nil

theorem Arena.ne_root {doc : Document} (h : doc.Arena) {id : Nat} {block : Block}
    (hblock : doc.blockOf? id = some block) : id ≠ root := by
  rintro rfl
  rw [h.root_block] at hblock
  cases hblock

theorem Arena.child_block {doc : Document} (h : doc.Arena) {id c : Nat}
    (hc : c ∈ doc.childrenOf id) : ∃ block, doc.blockOf? c = some block := by
  obtain ⟨hlt, hsize, -⟩ := h.child id c hc
  exact h.block c (Nat.ne_of_gt (Nat.zero_lt_of_lt hlt)) hsize

theorem Arena.not_self_child {doc : Document} (h : doc.Arena) (id : Nat) :
    id ∉ doc.childrenOf id := fun hmem => Nat.lt_irrefl _ (h.child id id hmem).1

theorem Arena.push {doc : Document} (h : doc.Arena) (hin : doc.innermost < doc.nodes.size)
    (block : Block) : (doc.push block).Arena := by
  have hroot : root ≠ doc.nodes.size := Nat.ne_of_lt h.size_pos
  refine ⟨?_, ?_, ?_, ?_, ?_, ?_, ?_⟩
  · rw [size_push]
    exact Nat.succ_pos _
  · rw [blockOf?_push block hin, if_neg hroot]
    exact h.root_block
  · rw [parentOf?_push block hin, if_neg hroot]
    exact h.root_parent
  · intro id hid0 hlt
    rw [blockOf?_push block hin]
    by_cases hid : id = doc.nodes.size
    · exact ⟨block, if_pos hid⟩
    · rw [if_neg hid]
      rw [size_push] at hlt
      exact h.block id hid0 (by omega)
  · intro id c hc
    rw [childrenOf_push block hin] at hc
    rw [size_push, parentOf?_push block hin]
    by_cases hold : c ∈ doc.childrenOf id
    · obtain ⟨hlt, hsize, hparent⟩ := h.child id c hold
      exact ⟨hlt, by omega, by rw [if_neg (Nat.ne_of_lt hsize), hparent]⟩
    · -- the only other child is the new node, below the innermost one
      split at hc
      · next hid =>
        rcases List.mem_append.1 hc with hc | hc
        · exact absurd hc hold
        · rw [List.mem_singleton] at hc
          subst hc
          exact ⟨hid ▸ hin, Nat.lt_succ_self _, by rw [if_pos rfl, hid]⟩
      · exact absurd hc hold
  · intro id p hp
    rw [parentOf?_push block hin] at hp
    rw [childrenOf_push block hin]
    split at hp
    · next hid =>
      cases hp
      rw [if_pos rfl, hid]
      exact List.mem_append_right _ (List.mem_singleton.2 rfl)
    · have := h.parent id p hp
      split
      · exact List.mem_append_left _ this
      · exact this
  · intro id
    rw [childrenOf_push block hin]
    split
    · refine List.nodup_append'.2 ⟨h.nodup id, List.nodup_singleton _, ?_⟩
      intro c hc hc'
      rw [List.mem_singleton] at hc'
      exact Nat.ne_of_lt (h.child id c hc).2.1 hc'
    · exact h.nodup id

theorem Arena.closedAlong {doc doc' : Document} {ids : List Nat} {pos markerLen : Nat}
    (h : doc.Arena) (hclosed : doc.ClosedAlong doc' ids pos markerLen) : doc'.Arena := by
  refine ⟨?_, ?_, ?_, ?_, ?_, ?_, ?_⟩
  · rw [hclosed.size_eq]
    exact h.size_pos
  · rw [hclosed.blockOf?, h.root_block]
    split <;> rfl
  · rw [hclosed.parentOf?]
    exact h.root_parent
  · intro id hroot hlt
    rw [hclosed.size_eq] at hlt
    obtain ⟨block, hblock⟩ := h.block id hroot hlt
    rw [hclosed.blockOf?, hblock]
    split
    · exact ⟨_, rfl⟩
    · exact ⟨_, rfl⟩
  · intro id c hc
    rw [hclosed.childrenOf] at hc
    rw [hclosed.size_eq, hclosed.parentOf?]
    exact h.child id c hc
  · intro id p hp
    rw [hclosed.parentOf?] at hp
    rw [hclosed.childrenOf]
    exact h.parent id p hp
  · intro id
    rw [hclosed.childrenOf]
    exact h.nodup id

theorem landing_succ (count i : Nat) : landing count (i + 1) = count + i := by
  unfold landing
  omega

/-- The children of a node are not the root, so each is the successor of something. -/
theorem Arena.exists_succ {doc : Document} (h : doc.Arena) {id c : Nat}
    (hc : c ∈ doc.childrenOf id) : ∃ i, c = i + 1 := by
  have := (h.child id c hc).1
  exact ⟨c - 1, by omega⟩

theorem Arena.nodup_map_landing {doc : Document} (h : doc.Arena) (count id : Nat) :
    ((doc.childrenOf id).map (landing count)).Nodup := by
  refine List.Nodup.map_on ?_ (h.nodup id)
  intro c hc d hd heq
  obtain ⟨i, rfl⟩ := h.exists_succ hc
  obtain ⟨j, rfl⟩ := h.exists_succ hd
  rw [landing_succ, landing_succ] at heq
  omega

theorem exists_add_of_not_lt {n id : Nat} (h : ¬ id < n) : ∃ i, id = n + i :=
  ⟨id - n, by omega⟩

section Graft

variable {doc sub doc' : Document} {target : Nat}

/-- Children come after their parent and name it: old ones, those of the target, and
    those that came with the graft. -/
theorem Arena.graft_child (h : doc.Arena) (hsub : sub.Arena)
    (hgraft : doc.Grafted sub doc' target) {id c : Nat} (hc : c ∈ doc'.childrenOf id) :
    id < c ∧ c < doc'.nodes.size ∧ doc'.parentOf? c = some id := by
  rw [hgraft.size]
  by_cases hold : id < doc.nodes.size
  · rw [hgraft.childrenOf id hold] at hc
    split at hc
    · next heq =>
      obtain ⟨d, hd, rfl⟩ := List.mem_map.1 hc
      obtain ⟨i, rfl⟩ := hsub.exists_succ hd
      obtain ⟨-, hdlt, hdparent⟩ := hsub.child root _ hd
      rw [landing_succ]
      refine ⟨by omega, by omega, ?_⟩
      rw [hgraft.parentOf?_new, hdparent, Option.map_some, if_pos rfl, heq]
    · next hne =>
      obtain ⟨hlt, hsize, hparent⟩ := h.child id c hc
      refine ⟨hlt, by omega, ?_⟩
      rw [hgraft.parentOf? c hsize, if_neg ?_, hparent]
      intro hmem
      rw [(h.child target c hmem).2.2] at hparent
      exact hne (Option.some.inj hparent).symm
  · obtain ⟨i, rfl⟩ := exists_add_of_not_lt hold
    rw [hgraft.childrenOf_new] at hc
    obtain ⟨d, hd, rfl⟩ := List.mem_map.1 hc
    obtain ⟨k, rfl⟩ := hsub.exists_succ hd
    obtain ⟨hdlt, hdsize, hdparent⟩ := hsub.child _ _ hd
    rw [landing_succ]
    refine ⟨by omega, by omega, ?_⟩
    have hne : i + 1 ≠ root := Nat.succ_ne_zero i
    rw [hgraft.parentOf?_new, hdparent, Option.map_some, if_neg hne, landing_succ]

theorem Arena.graft_parent (h : doc.Arena) (hsub : sub.Arena)
    (hgraft : doc.Grafted sub doc' target) (htarget : target < doc.nodes.size) {id p : Nat}
    (hp : doc'.parentOf? id = some p) : id ∈ doc'.childrenOf p := by
  by_cases hold : id < doc.nodes.size
  · rw [hgraft.parentOf? id hold] at hp
    split at hp
    · cases hp
    · next hmem =>
      have hchild := h.parent id p hp
      have hne : p ≠ target := fun heq => hmem (heq ▸ hchild)
      rw [hgraft.childrenOf p (lt_size_of_child hchild), if_neg hne]
      exact hchild
  · obtain ⟨i, rfl⟩ := exists_add_of_not_lt hold
    rw [hgraft.parentOf?_new] at hp
    obtain ⟨q, hq, hpq⟩ := Option.map_eq_some_iff.1 hp
    have hchild := hsub.parent _ _ hq
    split at hpq
    · next hq0 =>
      subst hpq
      rw [hgraft.childrenOf target htarget, if_pos rfl]
      exact List.mem_map.2 ⟨i + 1, hq0 ▸ hchild, landing_succ _ _⟩
    · next hq0 =>
      obtain ⟨k, rfl⟩ := Nat.exists_eq_succ_of_ne_zero hq0
      rw [Nat.succ_eq_add_one, landing_succ] at hpq
      subst hpq
      rw [hgraft.childrenOf_new]
      exact List.mem_map.2 ⟨i + 1, hchild, landing_succ _ _⟩

theorem Arena.graft (h : doc.Arena) (hsub : sub.Arena) (hgraft : doc.Grafted sub doc' target)
    (htarget : target < doc.nodes.size) : doc'.Arena := by
  have hroot : root < doc.nodes.size := h.size_pos
  have hrootNotChild : root ∉ doc.childrenOf target := fun hmem =>
    absurd (h.child target root hmem).1 (Nat.not_lt_zero _)
  refine ⟨?_, ?_, ?_, ?_, ?_, ?_, ?_⟩
  · rw [hgraft.size]
    exact Nat.lt_of_lt_of_le h.size_pos (Nat.le_add_right _ _)
  · rw [hgraft.blockOf? root hroot]
    exact h.root_block
  · rw [hgraft.parentOf? root hroot, if_neg hrootNotChild]
    exact h.root_parent
  · intro id hid hlt
    by_cases hold : id < doc.nodes.size
    · rw [hgraft.blockOf? id hold]
      exact h.block id hid hold
    · obtain ⟨i, rfl⟩ := exists_add_of_not_lt hold
      rw [hgraft.size] at hlt
      obtain ⟨block, hblock⟩ := hsub.block (i + 1) (Nat.succ_ne_zero i) (by omega)
      exact ⟨_, by rw [hgraft.blockOf?_new, hblock]; rfl⟩
  · intro id c hc
    exact h.graft_child hsub hgraft hc
  · intro id p hp
    exact h.graft_parent hsub hgraft htarget hp
  · intro id
    by_cases hold : id < doc.nodes.size
    · rw [hgraft.childrenOf id hold]
      split
      · exact hsub.nodup_map_landing _ _
      · exact h.nodup id
    · obtain ⟨i, rfl⟩ := exists_add_of_not_lt hold
      rw [hgraft.childrenOf_new]
      exact hsub.nodup_map_landing _ _

end Graft

/-! ### What the root leads to -/

/-- The nodes that a walk from the root comes to. -/
inductive Reachable (doc : Document) : Nat → Prop
  | root : Reachable doc root
  | child {id c} : Reachable doc id → c ∈ doc.childrenOf id → Reachable doc c

theorem Reachable.lt_size {doc : Document} (h : doc.Arena) {id : Nat} (hid : doc.Reachable id) :
    id < doc.nodes.size := by
  cases hid with
  | root => exact h.size_pos
  | child _ hc => exact (h.child _ _ hc).2.1

/-! ### The path of open nodes -/

/-- The nodes of the list, innermost first, have blocks of which `P` holds, and each is
    the last child of the next, the last one of the root. -/
def Spine (doc : Document) (P : Block → Prop) : List Nat → Prop
  | [] => True
  | id :: outer =>
    (∃ block, doc.blockOf? id = some block ∧ P block) ∧
      (doc.childrenOf (outer.head?.getD root)).getLast? = some id ∧ doc.Spine P outer

section Spine

variable {P : Block → Prop}

theorem Spine.lt_head {doc : Document} (h : doc.Arena) {id : Nat} {outer : List Nat}
    (hspine : doc.Spine P (id :: outer)) : outer.head?.getD root < id ∧ id < doc.nodes.size := by
  have hmem := List.mem_of_getLast? hspine.2.1
  exact ⟨(h.child _ _ hmem).1, (h.child _ _ hmem).2.1⟩

theorem Spine.lt_size {doc : Document} (h : doc.Arena) {ids : List Nat} (hspine : doc.Spine P ids) :
    ∀ id ∈ ids, id < doc.nodes.size := by
  induction ids with
  | nil =>
    intro id hid
    cases hid
  | cons first outer ih =>
    intro id hid
    rcases List.mem_cons.1 hid with rfl | hid
    · exact (hspine.lt_head h).2
    · exact ih hspine.2.2 id hid

theorem Spine.pairwise {doc : Document} (h : doc.Arena) {ids : List Nat}
    (hspine : doc.Spine P ids) : ids.Pairwise (· > ·) := by
  induction ids with
  | nil => exact List.Pairwise.nil
  | cons id outer ih =>
    refine List.pairwise_cons.2 ⟨?_, ih hspine.2.2⟩
    intro j hj
    have hlt := (hspine.lt_head h).1
    cases outer with
    | nil => cases hj
    | cons next rest =>
      rcases List.mem_cons.1 hj with rfl | hj
      · exact hlt
      · have hnext := List.rel_of_pairwise_cons (ih hspine.2.2) hj
        exact Nat.lt_trans hnext hlt

theorem Spine.exists_block {doc : Document} {ids : List Nat} (hspine : doc.Spine P ids) :
    ∀ id ∈ ids, ∃ block, doc.blockOf? id = some block ∧ P block := by
  induction ids with
  | nil =>
    intro id hid
    cases hid
  | cons first outer ih =>
    intro id hid
    rcases List.mem_cons.1 hid with rfl | hid
    · exact hspine.1
    · exact ih hspine.2.2 id hid

theorem Spine.nodup {doc : Document} (h : doc.Arena) {ids : List Nat} (hspine : doc.Spine P ids) :
    ids.Nodup :=
  (hspine.pairwise h).imp fun hgt => Nat.ne_of_gt hgt

/-- The spine is read off the blocks of its nodes and the children of all but the
    innermost of them. -/
theorem Spine.congr {doc doc' : Document} (h : doc.Arena) {ids : List Nat}
    (hspine : doc.Spine P ids) (hblock : ∀ id ∈ ids, doc'.blockOf? id = doc.blockOf? id)
    (hchildren : ∀ id < ids.head?.getD root, doc'.childrenOf id = doc.childrenOf id) :
    doc'.Spine P ids := by
  induction ids with
  | nil => trivial
  | cons id outer ih =>
    have hlt := (hspine.lt_head h).1
    refine ⟨?_, ?_, ?_⟩
    · rw [hblock id (List.mem_cons_self ..)]
      exact hspine.1
    · rw [hchildren _ hlt]
      exact hspine.2.1
    · refine ih hspine.2.2 (fun j hj => hblock j (List.mem_cons_of_mem _ hj)) ?_
      intro j hj
      exact hchildren j (Nat.lt_trans hj hlt)

/-- A document under construction: a tree whose open nodes form a path, with blocks of
    which `P` holds. -/
structure BuildingWith (P : Block → Prop) (doc : Document) : Prop where
  arena : doc.Arena
  spine : doc.Spine P doc.openBlocks

/-- A document under construction whose open nodes have no end yet. -/
abbrev Building (doc : Document) : Prop := doc.BuildingWith fun block => block.stop = none

theorem innermost_eq (doc : Document) : doc.innermost = doc.openBlocks.head?.getD root := rfl

theorem building_ofSource (source : Source) : (ofSource source).BuildingWith P :=
  ⟨arena_ofSource source, trivial⟩

namespace BuildingWith

variable {doc doc' : Document}

theorem innermost_lt (h : doc.BuildingWith P) : doc.innermost < doc.nodes.size := by
  rw [innermost_eq]
  cases hopen : doc.openBlocks with
  | nil => exact h.arena.size_pos
  | cons id outer => exact h.spine.lt_size h.arena id (hopen ▸ List.mem_cons_self ..)

theorem push (h : doc.BuildingWith P) {block : Block} (hblock : P block) :
    (doc.push block).BuildingWith P := by
  have hin := h.innermost_lt
  refine ⟨h.arena.push hin block, ?_, ?_, ?_⟩
  · exact ⟨block, by rw [blockOf?_push block hin, if_pos rfl], hblock⟩
  · rw [← innermost_eq, childrenOf_push block hin, if_pos rfl]
    exact List.getLast?_concat
  · refine h.spine.congr h.arena ?_ ?_
    · intro id hid
      have hlt := h.spine.lt_size h.arena id hid
      rw [blockOf?_push block hin, if_neg (Nat.ne_of_lt hlt)]
    · intro id hid
      rw [← innermost_eq] at hid
      rw [childrenOf_push block hin, if_neg (Nat.ne_of_lt hid)]

theorem close (h : doc.BuildingWith P) {id pos markerLen : Nat} {outer : List Nat}
    (hopen : doc.openBlocks = id :: outer) (hopen' : doc'.openBlocks = outer)
    (hclosed : doc.ClosedAlong doc' [id] pos markerLen) : doc'.BuildingWith P := by
  have hspine := h.spine
  rw [hopen] at hspine
  refine ⟨h.arena.closedAlong hclosed, ?_⟩
  rw [hopen']
  refine hspine.2.2.congr h.arena ?_ ?_
  · intro j hj
    have hgt := List.rel_of_pairwise_cons (hspine.pairwise h.arena) hj
    rw [hclosed.blockOf?, if_neg]
    rw [List.mem_singleton]
    exact Nat.ne_of_lt hgt
  · intro j _
    exact hclosed.childrenOf j

theorem grafted (h : doc.BuildingWith P) {sub : Document} (hsub : sub.Arena)
    (hsplice : doc.splice doc.innermost sub = .ok doc') : doc.Grafted sub doc' doc.innermost := by
  refine splice_eq_ok hsplice h.innermost_lt hsub.size_pos ?_
  intro id hid
  exact ⟨(h.arena.child _ _ hid).1, (h.arena.child _ _ hid).2.1⟩

theorem graft (h : doc.BuildingWith P) {sub : Document} (hsub : sub.Arena)
    (hgraft : doc.Grafted sub doc' doc.innermost) : doc'.BuildingWith P := by
  have hin := h.innermost_lt
  refine ⟨h.arena.graft hsub hgraft hin, ?_⟩
  rw [hgraft.openBlocks]
  refine h.spine.congr h.arena ?_ ?_
  · intro id hid
    exact hgraft.blockOf? id (h.spine.lt_size h.arena id hid)
  · intro id hid
    rw [← innermost_eq] at hid
    rw [hgraft.childrenOf id (Nat.lt_trans hid hin), if_neg (Nat.ne_of_lt hid)]

end BuildingWith

end Spine

end Blockwise.Document
