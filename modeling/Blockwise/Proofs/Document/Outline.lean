/-
  Blockwise/Proofs/Document/Outline.lean
  ======================================
  **The walk that visits parents first,** on the forest that spells the nodes it starts
  from (`preorderFrom_eq`): it goes through the nodes in the order in which the forest
  lists them, each with its distance from the start.
-/
import Blockwise.Proofs.Document.Forest

namespace Blockwise

namespace Forest

/-- All nodes, parents first, with their distance from above the top. -/
def outline (depth : Nat) : Forest → List Visit
  | nil => []
  | cons id below rest => ⟨id, depth⟩ :: (below.outline (depth + 1) ++ rest.outline depth)

theorem outline_ids (forest : Forest) (depth : Nat) :
    (forest.outline depth).map Visit.id = forest.ids := by
  induction forest generalizing depth with
  | nil => rfl
  | cons id below rest ihbelow ihrest =>
    simp only [outline, ids, List.map_cons, List.map_append, ihbelow, ihrest]

end Forest

namespace Preorder

variable {doc : Document} {pending out : List Visit}

theorem Runs.visit {visit : Visit} (hid : visit.id < doc.nodes.size)
    (h : Runs doc ⟨(doc.childrenOf visit.id).map (⟨·, visit.depth + 1⟩) ++ pending⟩ out) :
    Runs doc ⟨visit :: pending⟩ (visit :: out) := by
  obtain ⟨node, hnode, -, -, -, hchildren⟩ := Document.exists_node hid
  rw [← hchildren] at h
  apply Blockwise.Runs.step ?_ h
  simp only [next?, hnode]
  rfl

/-- The walk over some nodes goes through the forest that spells them. -/
theorem Runs.forest (harena : doc.Arena) {forest : Forest} {roots : List Nat} {depth : Nat}
    (hspells : forest.Spells doc roots) (hroots : ∀ id ∈ roots, id < doc.nodes.size)
    (h : Runs doc ⟨pending⟩ out) :
    Runs doc ⟨roots.map (⟨·, depth⟩) ++ pending⟩ (forest.outline depth ++ out) := by
  induction hspells generalizing depth pending out with
  | nil => exact h
  | @cons id below rest roots hbelow hrest ihbelow ihrest =>
    have hafter := @ihrest _ _ depth
      (fun other hother => hroots other (List.mem_cons_of_mem _ hother)) h
    have hunder := @ihbelow _ _ (depth + 1) (fun c hc => (harena.child id c hc).2.1) hafter
    rw [List.map_cons, List.cons_append, Forest.outline, List.cons_append, List.append_assoc]
    exact Runs.visit (hroots id (List.mem_cons_self ..)) hunder

end Preorder

namespace Document

theorem runs_preorder {doc : Document} (h : doc.Arena) {forest : Forest} {id : Nat}
    (hspells : forest.Spells doc [id]) (hid : id < doc.nodes.size) :
    Preorder.Runs doc (.start id) (forest.outline 0) := by
  have hroots : ∀ j ∈ [id], j < doc.nodes.size := by
    intro j hj
    rw [List.mem_singleton] at hj
    exact hj ▸ hid
  have hover : Preorder.Runs doc ⟨[]⟩ [] := .done rfl
  have hruns : Preorder.Runs doc ⟨[id].map (⟨·, 0⟩) ++ []⟩ (forest.outline 0 ++ []) :=
    hover.forest h hspells hroots
  rw [List.append_nil, List.append_nil] at hruns
  exact hruns

/-- **The walk from a node goes through its forest.** -/
theorem preorderFrom_eq {doc : Document} (h : doc.Arena) {forest : Forest} {id : Nat}
    (hspells : forest.Spells doc [id]) (hid : id < doc.nodes.size) :
    doc.preorderFrom id = .ok (forest.outline 0) := by
  apply (runs_preorder h hspells hid).visitsWithin
  have hlength := congrArg List.length (forest.outline_ids 0)
  rw [List.length_map] at hlength
  rw [hlength]
  exact Nat.le_succ_of_le (hspells.length_le h hid)

end Document

end Blockwise
