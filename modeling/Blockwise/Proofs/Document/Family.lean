/-
  Blockwise/Proofs/Document/Family.lean
  =====================================
  **A node together with the blocks of its children.**  What the scanner promises
  of a document is local: it speaks of a block and of the blocks right below it.
  A `Family` holds just that, so a promise is a predicate on families, and an
  operation that changes a document changes few of them:

    * `family_push`        — the innermost family grows, and a new one is innermost;
    * `family_close`       — the head of the innermost family, which is the last
      member of the family around it, has its end;
    * `family_closedAlong` — heads and members on a list of nodes have their end;
    * `family_graft`       — one family gets other members, and those of the spliced
      document are added.

  `Families P Q` is the shape of an invariant of construction: `Q` holds of the
  innermost family, which is still growing, and `P` of all others.
-/
import Blockwise.Proofs.Document.Arena

namespace Blockwise

/-- The block of a node and the blocks of its children. -/
structure Family where
  head : Option Block
  spliced : Bool
  members : List Block

namespace Family

/-- The family with one more member at the end. -/
def add (family : Family) (block : Block) : Family :=
  { family with members := family.members ++ [block] }

/-- The family as part of a document that has `shift` sources before its own. -/
def shifted (shift : Nat) (family : Family) : Family :=
  ⟨family.head.map (Block.shifted shift), family.spliced,
    family.members.map (Block.shifted shift)⟩

end Family

/-- The second block is the first one, or the first one closed by an end of the main
    text at `stop` that may close it. -/
inductive Block.AtEof (stop : Nat) : Block → Block → Prop
  | same (block : Block) : AtEof stop block block
  | eof {block : Block} : block.stop = none → block.source = 0 →
      block.type.flags.closeableByEof = true → AtEof stop block (block.closedAt stop 0)

structure Family.AtEof (stop : Nat) (family family' : Family) : Prop where
  head : Option.Rel (Block.AtEof stop) family.head family'.head
  spliced : family.spliced = family'.spliced
  members : List.Forall₂ (Block.AtEof stop) family.members family'.members

namespace Document

def family (doc : Document) (id : Nat) : Family :=
  ⟨doc.blockOf? id, doc.splicedAt id, (doc.childrenOf id).filterMap doc.blockOf?⟩

@[simp]
theorem family_head (doc : Document) (id : Nat) : (doc.family id).head = doc.blockOf? id := rfl

@[simp]
theorem family_spliced (doc : Document) (id : Nat) :
    (doc.family id).spliced = doc.splicedAt id := rfl

/-- Every child is a member, so a family without members is a node without children. -/
theorem Arena.members_eq_nil_iff {doc : Document} (h : doc.Arena) (id : Nat) :
    (doc.family id).members = [] ↔ doc.childrenOf id = [] := by
  constructor
  · intro hnil
    rw [List.eq_nil_iff_forall_not_mem]
    intro c hc
    obtain ⟨block, hblock⟩ := h.child_block hc
    have : block ∈ (doc.family id).members := List.mem_filterMap.2 ⟨c, hc, hblock⟩
    rw [hnil] at this
    cases this
  · intro hnil
    simp [family, hnil]

theorem mem_members_iff {doc : Document} {id : Nat} {block : Block} :
    block ∈ (doc.family id).members ↔ ∃ c ∈ doc.childrenOf id, doc.blockOf? c = some block := by
  simp [family, List.mem_filterMap]

theorem family_of_size_le {doc : Document} {id : Nat} (h : doc.nodes.size ≤ id) :
    doc.family id = ⟨none, false, []⟩ := by
  simp [family, blockOf?, splicedAt, childrenOf, Array.getElem?_eq_none h]

/-! ### What the operations do to families -/

theorem family_push {doc : Document} (h : doc.Building) (block : Block) (id : Nat) :
    (doc.push block).family id =
      if id = doc.nodes.size then ⟨some block, false, []⟩
      else if id = doc.innermost then (doc.family id).add block
      else doc.family id := by
  have hin := h.innermost_lt
  -- the children that were there keep their blocks
  have hkeep : ∀ j, (doc.childrenOf j).filterMap (doc.push block).blockOf? =
      (doc.childrenOf j).filterMap doc.blockOf? := by
    intro j
    refine List.filterMap_congr fun c hc => ?_
    rw [blockOf?_push block hin, if_neg (Nat.ne_of_lt (h.arena.child j c hc).2.1)]
  unfold family
  rw [blockOf?_push block hin, splicedAt_push block hin, childrenOf_push block hin]
  by_cases hnew : id = doc.nodes.size
  · have hne : id ≠ doc.innermost := by omega
    have hnone := family_of_size_le (Nat.le_of_eq hnew.symm)
    rw [if_pos hnew, if_pos hnew, if_neg hne, hkeep]
    simp only [family, Family.mk.injEq] at hnone
    rw [hnone.2.1, hnone.2.2]
  · rw [if_neg hnew, if_neg hnew]
    by_cases hid : id = doc.innermost
    · rw [if_pos hid, if_pos hid, List.filterMap_append, hkeep]
      simp [Family.add, blockOf?_push block hin]
    · rw [if_neg hid, if_neg hid, hkeep]

theorem family_closedAlong {doc doc' : Document} {ids : List Nat} {pos markerLen : Nat}
    (hclosed : doc.ClosedAlong doc' ids pos markerLen) (id : Nat) :
    doc'.family id =
      ⟨if id ∈ ids then (doc.blockOf? id).map (·.closedAt pos markerLen) else doc.blockOf? id,
        doc.splicedAt id,
        (doc.childrenOf id).filterMap fun c =>
          if c ∈ ids then (doc.blockOf? c).map (·.closedAt pos markerLen)
          else doc.blockOf? c⟩ := by
  unfold family
  rw [hclosed.blockOf?, hclosed.splicedAt, hclosed.childrenOf]
  congr 2
  funext c
  exact hclosed.blockOf? c

/-- Closing the innermost block changes the family it heads and the one around it,
    where it is the last member. -/
theorem family_close {doc doc' : Document} (h : doc.Building) {id pos markerLen : Nat}
    {outer : List Nat} {block : Block} (hopen : doc.openBlocks = id :: outer)
    (hblock : doc.blockOf? id = some block)
    (hclosed : doc.ClosedAlong doc' [id] pos markerLen) :
    doc'.family id = { doc.family id with head := some (block.closedAt pos markerLen) } ∧
      (∃ before, (doc.family (outer.head?.getD root)).members = before ++ [block] ∧
        doc'.family (outer.head?.getD root) =
          { doc.family (outer.head?.getD root) with
            members := before ++ [block.closedAt pos markerLen] }) ∧
      ∀ j, j ≠ id → j ≠ outer.head?.getD root → doc'.family j = doc.family j := by
  have hspine := h.spine
  rw [hopen] at hspine
  have hlast := hspine.2.1
  have hlt := (hspine.lt_head h.arena).1
  have hchild := List.mem_of_getLast? hlast
  -- members that are not `id` itself keep their blocks
  have hkeep : ∀ cs : List Nat, id ∉ cs →
      (cs.filterMap fun c => if c ∈ [id] then (doc.blockOf? c).map (·.closedAt pos markerLen)
        else doc.blockOf? c) = cs.filterMap doc.blockOf? := by
    intro cs hcs
    refine List.filterMap_congr fun c hc => ?_
    have hne : c ∉ [id] := by
      rw [List.mem_singleton]
      rintro rfl
      exact hcs hc
    rw [if_neg hne]
  refine ⟨?_, ?_, ?_⟩
  · rw [family_closedAlong hclosed, hkeep _ (h.arena.not_self_child id)]
    simp [family, hblock]
  · obtain ⟨before, hbefore⟩ := List.getLast?_eq_some_iff.1 hlast
    have hnotin : id ∉ before := by
      have hnodup := h.arena.nodup (outer.head?.getD root)
      rw [hbefore] at hnodup
      intro hmem
      exact (List.nodup_append'.1 hnodup).2.2 hmem (List.mem_singleton.2 rfl)
    have hne : outer.head?.getD root ∉ [id] := by
      rw [List.mem_singleton]
      exact Nat.ne_of_lt hlt
    refine ⟨before.filterMap doc.blockOf?, ?_, ?_⟩
    · unfold family
      rw [hbefore]
      simp [hblock]
    · rw [family_closedAlong hclosed, hbefore, List.filterMap_append, hkeep _ hnotin, if_neg hne]
      simp [family, hblock]
  · intro j hj hj'
    have hnotin : id ∉ doc.childrenOf j := by
      intro hmem
      have hparent := (h.arena.child j id hmem).2.2
      rw [(h.arena.child _ id hchild).2.2] at hparent
      exact hj' (Option.some.inj hparent).symm
    have hne : j ∉ [id] := by
      rw [List.mem_singleton]
      exact hj
    rw [family_closedAlong hclosed, hkeep _ hnotin, if_neg hne]
    rfl

theorem family_graft {doc sub doc' : Document} {target : Nat} (h : doc.Arena) (hsub : sub.Arena)
    (hgraft : doc.Grafted sub doc' target) :
    (∀ j < doc.nodes.size, doc'.family j =
      if j = target then
        { doc.family j with
          spliced := true
          members := (sub.family root).members.map (Block.shifted doc.sources.size) }
      else doc.family j) ∧
    ∀ i, doc'.family (doc.nodes.size + i) =
      (sub.family (i + 1)).shifted doc.sources.size := by
  -- the blocks of moved children are the moved blocks
  have hmoved : ∀ id, ((sub.childrenOf id).map (landing doc.nodes.size)).filterMap doc'.blockOf? =
      ((sub.childrenOf id).filterMap sub.blockOf?).map (Block.shifted doc.sources.size) := by
    intro id
    rw [List.filterMap_map, List.map_filterMap]
    refine List.filterMap_congr fun c hc => ?_
    obtain ⟨i, rfl⟩ := hsub.exists_succ hc
    rw [Function.comp_apply, landing_succ, hgraft.blockOf?_new]
  refine ⟨?_, ?_⟩
  · intro j hj
    unfold family
    rw [hgraft.blockOf? j hj, hgraft.splicedAt j hj, hgraft.childrenOf j hj]
    by_cases hjt : j = target
    · rw [if_pos hjt, if_pos hjt, hmoved]
      simp [hjt]
    · rw [if_neg hjt, if_neg hjt]
      simp only [hjt, decide_false, Bool.false_or, Family.mk.injEq, true_and]
      refine List.filterMap_congr fun c hc => ?_
      exact hgraft.blockOf? c (h.child j c hc).2.1
  · intro i
    unfold family Family.shifted
    rw [hgraft.blockOf?_new, hgraft.splicedAt_new, hgraft.childrenOf_new, hmoved]

theorem family_atEof {doc doc' : Document} {closed left : List Nat} {stop : Nat}
    (h : doc.Building) (hsplit : doc.openBlocks.reverse = closed ++ left)
    (hclosed : doc.ClosedAlong doc' closed stop 0)
    (hcloseable : ∀ id ∈ closed, doc.isCloseableByEof id = true)
    (hmain : ∀ id ∈ doc.openBlocks, ∀ block, doc.blockOf? id = some block → block.source = 0)
    (id : Nat) : (doc.family id).AtEof stop (doc'.family id) := by
  -- the closed nodes are open blocks that the end of input may close
  have hends : ∀ j block, doc.blockOf? j = some block → Block.AtEof stop block
      (if j ∈ closed then block.closedAt stop 0 else block) := by
    intro j block hblock
    by_cases hj : j ∈ closed
    · rw [if_pos hj]
      have hopen : j ∈ doc.openBlocks := by
        rw [← List.mem_reverse, hsplit]
        exact List.mem_append_left _ hj
      obtain ⟨found, hfound, hstop⟩ := h.spine.exists_block j hopen
      cases hblock.symm.trans hfound
      have hflag := hcloseable j hj
      refine .eof hstop (hmain j hopen block hfound) ?_
      simpa [isCloseableByEof, ← blockOf?.eq_1, hblock] using hflag
    · rw [if_neg hj]
      exact .same block
  have hblock : ∀ j, doc'.blockOf? j =
      (doc.blockOf? j).map fun block => if j ∈ closed then block.closedAt stop 0 else block := by
    intro j
    rw [hclosed.blockOf?]
    rcases doc.blockOf? j with _ | block
    · simp
    · by_cases hj : j ∈ closed <;> simp [hj]
  refine ⟨?_, (hclosed.splicedAt id).symm, ?_⟩
  · rw [family_head, family_head, hblock]
    rcases hhead : doc.blockOf? id with _ | block
    · exact .none
    · exact .some (hends id block hhead)
  · unfold family
    simp only [hclosed.childrenOf]
    induction doc.childrenOf id with
    | nil => exact .nil
    | cons c cs ih =>
      rcases hc : doc.blockOf? c with _ | block
      · rw [List.filterMap_cons_none hc, List.filterMap_cons_none (by rw [hblock, hc]; rfl)]
        exact ih
      · rw [List.filterMap_cons_some hc, List.filterMap_cons_some (by rw [hblock, hc]; rfl)]
        exact .cons (hends c block hc) ih

/-! ### Invariants of construction -/

/-- `Q` holds of the innermost family and `P` of all others. -/
def Families (doc : Document) (P Q : Family → Prop) : Prop :=
  (∀ id < doc.nodes.size, id ≠ doc.innermost → P (doc.family id)) ∧ Q (doc.family doc.innermost)

namespace Families

variable {doc doc' : Document} {P P' Q Q' : Family → Prop} {block : Block}

theorem push (h : doc.Families P Q) (hdoc : doc.Building)
    (hold : Q (doc.family doc.innermost) → P ((doc.family doc.innermost).add block))
    (hnew : Q' ⟨some block, false, []⟩) :
    (doc.push block).Families P Q' := by
  refine ⟨?_, ?_⟩
  · intro id hlt hne
    rw [size_push] at hlt
    rw [innermost_push] at hne
    rw [family_push hdoc, if_neg hne]
    by_cases hid : id = doc.innermost
    · rw [if_pos hid, hid]
      exact hold h.2
    · rw [if_neg hid]
      exact h.1 id (by omega) hid
  · rw [innermost_push, family_push hdoc, if_pos rfl]
    exact hnew

theorem close {id pos markerLen : Nat} {outer : List Nat} (h : doc.Families P Q)
    (hdoc : doc.Building) (hopen : doc.openBlocks = id :: outer)
    (hopen' : doc'.openBlocks = outer) (hblock : doc.blockOf? id = some block)
    (hclosed : doc.ClosedAlong doc' [id] pos markerLen)
    (hhead : ∀ family, family.head = some block → Q family →
      P { family with head := some (block.closedAt pos markerLen) })
    (hmember : ∀ family before, (∀ around, family.head = some around → around.stop = none) →
      family.members = before ++ [block] → P family →
      Q' { family with members := before ++ [block.closedAt pos markerLen] }) :
    doc'.Families P Q' := by
  have hin : doc.innermost = id := by rw [innermost_eq, hopen]; rfl
  have hin' : doc'.innermost = outer.head?.getD root := by rw [innermost_eq, hopen']
  have hspine := hdoc.spine
  rw [hopen] at hspine
  have hlt := hspine.lt_head hdoc.arena
  obtain ⟨hself, ⟨before, hbefore, haround⟩, hothers⟩ := family_close hdoc hopen hblock hclosed
  refine ⟨?_, ?_⟩
  · intro j hj hne
    rw [hclosed.size_eq] at hj
    rw [hin'] at hne
    by_cases hjid : j = id
    · rw [hjid, hself]
      refine hhead _ hblock ?_
      rw [← hin]
      exact h.2
    · rw [hothers j hjid hne]
      exact h.1 j hj (hin ▸ hjid)
  · rw [hin', haround]
    refine hmember _ before ?_ hbefore (h.1 _ ?_ ?_)
    · intro around haround
      cases outer with
      | nil =>
        rw [family_head] at haround
        exact absurd (haround.symm.trans hdoc.arena.root_block) (by simp)
      | cons next rest =>
        obtain ⟨found, hfound, hstop⟩ := hspine.2.2.1
        cases hfound.symm.trans haround
        exact hstop
    · exact Nat.lt_trans hlt.1 hlt.2
    · rw [hin]
      exact Nat.ne_of_lt hlt.1

/-- A block that is opened and closed at once becomes a member without children. -/
theorem leaf {pos markerLen : Nat} (h : doc.Families P Q) (hdoc : doc.Building)
    (hstop : block.stop = none) (hclose : (doc.push block).closeInnermost pos markerLen = .ok doc')
    (hleaf : P ⟨some (block.closedAt pos markerLen), false, []⟩)
    (hadd : ∀ family, Q family → Q' (family.add (block.closedAt pos markerLen))) :
    doc'.Families P Q' := by
  obtain ⟨-, hopen', hclosed, -⟩ := closeInnermost_eq_ok (openBlocks_push doc block) hclose
  have hin' : doc'.innermost = doc.innermost := by rw [innermost_eq, hopen', innermost_eq]
  have hne : doc.innermost ≠ doc.nodes.size := Nat.ne_of_lt hdoc.innermost_lt
  have hblock : (doc.push block).blockOf? doc.nodes.size = some block := by
    rw [blockOf?_push block hdoc.innermost_lt, if_pos rfl]
  obtain ⟨hself, ⟨before, hbefore, haround⟩, hothers⟩ :=
    family_close (hdoc.push hstop) (openBlocks_push doc block) hblock hclosed
  rw [← innermost_eq, family_push hdoc, if_neg hne, if_pos rfl] at hbefore haround
  have hbefore' : (doc.family doc.innermost).members = before :=
    List.append_cancel_right hbefore
  refine ⟨?_, ?_⟩
  · intro j hj hjne
    rw [hclosed.size_eq, size_push] at hj
    rw [hin'] at hjne
    by_cases hnew : j = doc.nodes.size
    · rw [hnew, hself, family_push hdoc, if_pos rfl]
      exact hleaf
    · rw [hothers j hnew hjne, family_push hdoc, if_neg hnew, if_neg hjne]
      exact h.1 j (by omega) hjne
  · rw [hin', haround, ← hbefore']
    exact hadd _ h.2

theorem graft {sub : Document} (h : doc.Families P Q) (hdoc : doc.Building) (hsub : sub.Arena)
    (hgraft : doc.Grafted sub doc' doc.innermost) (hold : ∀ family, P family → P' family)
    (htarget : Q (doc.family doc.innermost) → Q' { doc.family doc.innermost with
      spliced := true
      members := (sub.family root).members.map (Block.shifted doc.sources.size) })
    (hnew : ∀ i, i + 1 < sub.nodes.size →
      P' ((sub.family (i + 1)).shifted doc.sources.size)) :
    doc'.Families P' Q' := by
  have hin' : doc'.innermost = doc.innermost := by rw [innermost_eq, hgraft.openBlocks]; rfl
  obtain ⟨hleft, hright⟩ := family_graft hdoc.arena hsub hgraft
  refine ⟨?_, ?_⟩
  · intro j hj hne
    rw [hin'] at hne
    by_cases hlt : j < doc.nodes.size
    · rw [hleft j hlt, if_neg hne]
      exact hold _ (h.1 j hlt hne)
    · obtain ⟨i, rfl⟩ := exists_add_of_not_lt hlt
      rw [hgraft.size] at hj
      rw [hright]
      exact hnew i (by omega)
  · rw [hin', hleft _ hdoc.innermost_lt, if_pos rfl]
    exact htarget h.2

end Families

end Document

end Blockwise
