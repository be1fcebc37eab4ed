/-
  Blockwise/Proofs/Document/Traversal.lean
  ========================================
  **Both walks list what recursion lists.**  Children come later in the array than their
  parent, so what is below a node can be listed by recursion over the numbers of its
  children: the node before them (`Arena.parentsFirst`) or behind them
  (`Arena.childrenFirst`), each node with its distance from the start.

  The walks keep what is pending on a stack of their own.  They make exactly the visits
  of these lists and end (`traversals_list`).  So both come to the same nodes, those that
  steps down from the start lead to (`Down`), to each of them once; and a walk that is
  stopped goes on with the rest of its list, every time it is taken up.
-/
import Blockwise.Proofs.Document.Composition
import Blockwise.Proofs.Document.Outline

namespace Blockwise.Document

/-! ### The lists -/

/-- A node, then what is listed from its children, one after the other. -/
def Arena.parentsFirst {doc : Document} (h : doc.Arena) (depth id : Nat) : List Visit :=
  ⟨id, depth⟩ :: (doc.childrenOf id).attach.flatMap fun c => h.parentsFirst (depth + 1) c.1
termination_by doc.nodes.size - id
decreasing_by
  have hchild := h.child id c.1 c.2
  omega

/-- What is listed from the children of a node, one after the other, then the node. -/
def Arena.childrenFirst {doc : Document} (h : doc.Arena) (depth id : Nat) : List Visit :=
  ((doc.childrenOf id).attach.flatMap fun c => h.childrenFirst (depth + 1) c.1) ++ [⟨id, depth⟩]
termination_by doc.nodes.size - id
decreasing_by
  have hchild := h.child id c.1 c.2
  omega

/-- As many steps down, each to a child, lead from the first node to the second. -/
inductive Down (doc : Document) : Nat → Nat → Nat → Prop
  | here {id} : Down doc id 0 id
  | step {id c depth j} : c ∈ doc.childrenOf id → Down doc c depth j → Down doc id (depth + 1) j

variable {doc : Document} {id : Nat}

theorem Arena.parentsFirst_eq (h : doc.Arena) (depth id : Nat) :
    h.parentsFirst depth id =
      ⟨id, depth⟩ :: (doc.childrenOf id).flatMap (h.parentsFirst (depth + 1)) := by
  rw [parentsFirst, List.flatMap_subtype fun _ _ => rfl, List.unattach_attach]

theorem Arena.childrenFirst_eq (h : doc.Arena) (depth id : Nat) :
    h.childrenFirst depth id =
      (doc.childrenOf id).flatMap (h.childrenFirst (depth + 1)) ++ [⟨id, depth⟩] := by
  rw [childrenFirst, List.flatMap_subtype fun _ _ => rfl, List.unattach_attach]

/-- The recursions go through the forest below the nodes of a list. -/
theorem Arena.flatMap_parentsFirst (h : doc.Arena) {forest : Forest} {roots : List Nat}
    (hspells : forest.Spells doc roots) (depth : Nat) :
    roots.flatMap (h.parentsFirst depth) = forest.outline depth := by
  induction hspells generalizing depth with
  | nil => rfl
  | cons _ _ ihbelow ihrest =>
    rw [List.flatMap_cons, h.parentsFirst_eq, ihbelow, ihrest]
    rfl

theorem Arena.flatMap_childrenFirst (h : doc.Arena) {forest : Forest} {roots : List Nat}
    (hspells : forest.Spells doc roots) (depth : Nat) :
    roots.flatMap (h.childrenFirst depth) = forest.visits depth := by
  induction hspells generalizing depth with
  | nil => rfl
  | cons _ _ ihbelow ihrest =>
    rw [List.flatMap_cons, h.childrenFirst_eq, ihbelow, ihrest, List.append_assoc]
    rfl

/-! ### What stands in them -/

theorem Arena.perm_childrenFirst (h : doc.Arena) (depth id : Nat) :
    (h.childrenFirst depth id).Perm (h.parentsFirst depth id) := by
  induction depth, id using Arena.parentsFirst.induct h with
  | case1 depth id ih =>
    rw [h.childrenFirst_eq, h.parentsFirst_eq]
    apply (List.perm_append_singleton _ _).trans
    apply List.Perm.cons
    exact List.Perm.flatMap_left _ fun c hc => ih ⟨c, hc⟩

theorem Arena.mem_parentsFirst (h : doc.Arena) {depth : Nat} {visit : Visit} :
    visit ∈ h.parentsFirst depth id ↔ ∃ below, visit.depth = depth + below ∧
      doc.Down id below visit.id := by
  constructor
  · induction depth, id using Arena.parentsFirst.induct h with
    | case1 depth id ih =>
      intro hvisit
      rw [h.parentsFirst_eq] at hvisit
      rcases List.mem_cons.1 hvisit with rfl | hvisit
      · exact ⟨0, rfl, .here⟩
      obtain ⟨c, hc, hvisit⟩ := List.mem_flatMap.1 hvisit
      obtain ⟨below, hdepth, hdown⟩ := ih ⟨c, hc⟩ hvisit
      exact ⟨below + 1, by omega, .step hc hdown⟩
  · rintro ⟨below, hdepth, hdown⟩
    obtain ⟨j, at'⟩ := visit
    simp only at hdepth hdown
    subst hdepth
    induction hdown generalizing depth with
    | here =>
      rw [h.parentsFirst_eq]
      exact List.mem_cons_self ..
    | @step id c below j hc _ ih =>
      rw [h.parentsFirst_eq]
      apply List.mem_cons_of_mem
      refine List.mem_flatMap.2 ⟨c, hc, ?_⟩
      have hmem := @ih (depth + 1)
      rwa [Nat.add_right_comm, Nat.add_assoc] at hmem

theorem Arena.nodup_parentsFirst (h : doc.Arena) (depth id : Nat) :
    ((h.parentsFirst depth id).map Visit.id).Nodup := by
  obtain ⟨below, hbelow⟩ := h.exists_below id
  have hspells : (Forest.cons id below .nil).Spells doc [id] := .cons hbelow .nil
  have hlist := h.flatMap_parentsFirst hspells depth
  rw [List.flatMap_singleton] at hlist
  rw [hlist, Forest.outline_ids]
  apply hspells.nodup h (List.nodup_singleton _)
  intro a ha b hb _ _ _
  rw [List.mem_singleton] at ha hb
  rw [ha, hb]

theorem Down.parentOf? (h : doc.Arena) {depth j : Nat} (hdown : doc.Down id depth j)
    (hne : j ≠ id) : ∃ parent, doc.parentOf? j = some parent := by
  induction hdown with
  | here => exact absurd rfl hne
  | @step id c depth j hc _ ih =>
    by_cases hj : j = c
    · exact ⟨id, hj ▸ (h.child id c hc).2.2⟩
    · exact ih hj

theorem Down.reachable {depth j : Nat} (hdown : doc.Down id depth j) (hid : doc.Reachable id) :
    doc.Reachable j := by
  induction hdown with
  | here => exact hid
  | step hc _ ih => exact ih (hid.child hc)

/-! ### The walks -/

/-- The walks from a node, and the lists from there. -/
structure Arena.Listed {doc : Document} (h : doc.Arena) (id : Nat) : Prop where
  /-- Step by step, both walks make the visits of the lists, and end. -/
  preorder_runs : Preorder.Runs doc (.start id) (h.parentsFirst 0 id)
  postorder_runs : Postorder.Runs doc (.start id) (h.childrenFirst 0 id)
  preorderFrom_eq : doc.preorderFrom id = .ok (h.parentsFirst 0 id)
  postorderFrom_eq : doc.postorderFrom id = .ok (h.childrenFirst 0 id)
  /-- The visits are those of the nodes below, each once and with its distance. -/
  mem_iff : ∀ j depth, ⟨j, depth⟩ ∈ h.parentsFirst 0 id ↔ doc.Down id depth j
  nodup : ((h.parentsFirst 0 id).map Visit.id).Nodup
  perm : (h.childrenFirst 0 id).Perm (h.parentsFirst 0 id)
  /-- Only the start may be a node that has lost its parent, and what cannot be reached
      from the root is not visited from a node that can. -/
  detached : ∀ visit ∈ h.parentsFirst 0 id, visit.id ≠ id →
    ∃ parent, doc.parentOf? visit.id = some parent
  reachable : doc.Reachable id → ∀ visit ∈ h.parentsFirst 0 id, doc.Reachable visit.id
  /-- A walk stopped after some visits is a value; whenever it is taken up, it makes the
      other visits. -/
  preorder_skip : ∀ count, ∃ walk, (Preorder.start id).skip doc count = .ok walk ∧
    Preorder.Runs doc walk ((h.parentsFirst 0 id).drop count) ∧
    walk.visits doc = .ok ((h.parentsFirst 0 id).drop count)
  postorder_skip : ∀ count, ∃ walk, (Postorder.start id).skip doc count = .ok walk ∧
    Postorder.Runs doc walk ((h.childrenFirst 0 id).drop count) ∧
    walk.visits doc = .ok ((h.childrenFirst 0 id).drop count)

/-- **Walking lists every node below the start as recursion does.** -/
theorem traversals_list (h : doc.Arena) (hid : id < doc.nodes.size) : h.Listed id := by
  obtain ⟨below, hbelow⟩ := h.exists_below id
  have hspells : (Forest.cons id below .nil).Spells doc [id] := .cons hbelow .nil
  have hparents := h.flatMap_parentsFirst hspells 0
  have hchildren := h.flatMap_childrenFirst hspells 0
  rw [List.flatMap_singleton] at hparents hchildren
  have hpre : Preorder.Runs doc (.start id) (h.parentsFirst 0 id) := by
    rw [hparents]
    exact runs_preorder h hspells hid
  have hpost : Postorder.Runs doc (.start id) (h.childrenFirst 0 id) := by
    rw [hchildren]
    exact runs_postorder h hspells hid
  -- the limit that the walks are collected with allows for all visits
  have hperm := h.perm_childrenFirst 0 id
  have hpostLength : (h.childrenFirst 0 id).length ≤ doc.nodes.size := by
    rw [hchildren, Forest.length_visits]
    exact hspells.length_le h hid
  have hpreLength : (h.parentsFirst 0 id).length ≤ doc.nodes.size := hperm.length_eq ▸ hpostLength
  have hmem : ∀ j depth, ⟨j, depth⟩ ∈ h.parentsFirst 0 id ↔ doc.Down id depth j := by
    intro j depth
    rw [h.mem_parentsFirst]
    simp
  constructor
  · exact hpre
  · exact hpost
  · exact hpre.visitsWithin (Nat.le_succ_of_le hpreLength)
  · exact hpost.visitsWithin (Nat.le_succ_of_le hpostLength)
  · exact hmem
  · exact h.nodup_parentsFirst 0 id
  · exact hperm
  · intro visit hvisit hne
    exact ((hmem _ _).1 hvisit).parentOf? h hne
  · intro hreach visit hvisit
    exact ((hmem _ _).1 hvisit).reachable hreach
  · intro count
    obtain ⟨walk, hskip, hruns⟩ := hpre.skip count
    refine ⟨walk, hskip, hruns, hruns.visitsWithin ?_⟩
    rw [List.length_drop]
    omega
  · intro count
    obtain ⟨walk, hskip, hruns⟩ := hpost.skip count
    refine ⟨walk, hskip, hruns, hruns.visitsWithin ?_⟩
    rw [List.length_drop]
    omega

/-- The root of the sample, with a node below that was spliced and one that has lost its
    parent. -/
theorem sampleSpliced_listed :
    ∃ (doc : Document) (h : doc.Arena), sampleSpliced = .ok doc ∧ 0 < doc.nodes.size ∧
      h.Listed 0 := by
  obtain ⟨doc, hdoc⟩ := exists_eq_ok (show sampleSpliced.isOk = true by decide +kernel)
  have harena := sampleSpliced_arena hdoc
  exact ⟨doc, harena, hdoc, harena.size_pos, traversals_list harena harena.size_pos⟩

end Blockwise.Document
