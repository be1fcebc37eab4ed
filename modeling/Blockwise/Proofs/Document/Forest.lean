/-
  Blockwise/Proofs/Document/Forest.lean
  =====================================
  **Nodes with all below them, as a structure to recurse on.**  A document keeps its
  nodes in an array, and its walks are loops with a stack.  A `Forest` that `Spells` a
  list of nodes unfolds what is below them, and what the loops do is a recursion over
  it:

    * `postorderFrom_eq` — the walk that visits children first goes through the forest
      in that order, and its bound on the number of steps is never reached;
    * `renderNode_eq`    — rendering with levels of finished texts is rendering each
      node around the texts of its children.

  Every list of nodes of an arena is spelled by some forest (`Arena.exists_forest`), in
  which no node stands twice (`Spells.nodup`).
-/
import Blockwise.Document.Render
import Blockwise.Proofs.Document.Arena
import Blockwise.Proofs.Document.Runs
import Mathlib.Data.List.Perm.Subperm
import Mathlib.Logic.Relation

namespace Blockwise

/-- The first of some nodes with all below it, and the other nodes with all below them. -/
inductive Forest where
  | nil
  | cons (id : Nat) (below rest : Forest)

namespace Forest

/-- All nodes, parents first. -/
def ids : Forest → List Nat
  | nil => []
  | cons id below rest => id :: (below.ids ++ rest.ids)

/-- All nodes, children first, with their distance from above the top. -/
def visits (depth : Nat) : Forest → List Visit
  | nil => []
  | cons id below rest => below.visits (depth + 1) ++ ⟨id, depth⟩ :: rest.visits depth

/-- The texts of the top nodes, each composed around the texts of its children. -/
def render (doc : Document) : Forest → Except Fault (List Text)
  | nil => .ok []
  | cons id below rest => do
    let inner ← below.render doc
    let text ← doc.compose id inner.flatten
    let texts ← rest.render doc
    return text :: texts

/-- The forest has these nodes at the top, and below each node its children. -/
inductive Spells (doc : Document) : Forest → List Nat → Prop
  | nil : Spells doc nil []
  | cons {id below rest roots} : Spells doc below (doc.childrenOf id) → Spells doc rest roots →
      Spells doc (cons id below rest) (id :: roots)

theorem length_visits (forest : Forest) (depth : Nat) :
    (forest.visits depth).length = forest.ids.length := by
  induction forest generalizing depth with
  | nil => rfl
  | cons id below rest ihbelow ihrest =>
    simp only [visits, ids, List.length_append, List.length_cons, ihbelow, ihrest]
    omega

end Forest

namespace Document

open Forest

/-- Children come later in the array, so unfolding them comes to an end. -/
theorem Arena.exists_forest {doc : Document} (h : doc.Arena) {roots : List Nat}
    (hroots : ∀ id ∈ roots, id < doc.nodes.size) : ∃ forest : Forest, forest.Spells doc roots := by
  -- `count` bounds how many nodes may come from any of the roots on
  suffices hunfold : ∀ count roots, (∀ id ∈ roots, id < doc.nodes.size ∧
      doc.nodes.size ≤ id + count) → ∃ forest : Forest, forest.Spells doc roots by
    refine hunfold doc.nodes.size roots fun id hid => ⟨hroots id hid, ?_⟩
    exact Nat.le_add_left ..
  intro count
  induction count with
  | zero =>
    intro roots hbound
    cases roots with
    | nil => exact ⟨.nil, .nil⟩
    | cons id roots =>
      obtain ⟨hlt, hle⟩ := hbound id (List.mem_cons_self ..)
      omega
  | succ count ih =>
    intro roots hbound
    induction roots with
    | nil => exact ⟨.nil, .nil⟩
    | cons id roots ihroots =>
      obtain ⟨-, hle⟩ := hbound id (List.mem_cons_self ..)
      obtain ⟨rest, hrest⟩ := ihroots fun j hj => hbound j (List.mem_cons_of_mem _ hj)
      obtain ⟨below, hbelow⟩ := ih (doc.childrenOf id) (by
        intro c hc
        obtain ⟨hlt, hsize, -⟩ := h.child id c hc
        exact ⟨hsize, by omega⟩)
      exact ⟨.cons id below rest, .cons hbelow hrest⟩

/-! ### No node stands twice -/

/-- Node `j` is node `id` or below it. -/
def Under (doc : Document) (id j : Nat) : Prop :=
  Relation.ReflTransGen (fun c parent => doc.parentOf? c = some parent) j id

theorem Arena.under_le {doc : Document} (h : doc.Arena) {id j : Nat} (hj : doc.Under id j) :
    id ≤ j := by
  induction hj with
  | refl => exact Nat.le_refl _
  | tail _ hparent ih =>
    exact Nat.le_trans (Nat.le_of_lt (h.child _ _ (h.parent _ _ hparent)).1) ih

/-- What is below two nodes with the same parent is below one node twice. -/
theorem Arena.under_siblings {doc : Document} (h : doc.Arena) {parent a b j : Nat}
    (ha : a ∈ doc.childrenOf parent) (hb : b ∈ doc.childrenOf parent) (hja : doc.Under a j)
    (hjb : doc.Under b j) : a = b := by
  -- one of the two is below the other, and so, if it is another one, is their parent
  have hup : ∀ {x y}, x ∈ doc.childrenOf parent → y ∈ doc.childrenOf parent →
      doc.Under y x → x = y := by
    intro x y hx hy hxy
    rcases Relation.ReflTransGen.cases_head hxy with heq | ⟨above, habove, hrest⟩
    · exact heq
    · rw [(h.child parent x hx).2.2] at habove
      cases habove
      have hle := h.under_le hrest
      have hlt := (h.child parent y hy).1
      omega
  have hunique : Relator.RightUnique fun c p => doc.parentOf? c = some p := by
    intro c p p' hp hp'
    exact Option.some.inj (hp.symm.trans hp')
  rcases Relation.ReflTransGen.total_of_right_unique hunique hja hjb with hab | hba
  · exact hup ha hb hab
  · exact (hup hb ha hba).symm

end Document

namespace Forest.Spells

theorem under {doc : Document} (h : doc.Arena) {forest : Forest} {roots : List Nat}
    (hspells : forest.Spells doc roots) : ∀ j ∈ forest.ids, ∃ id ∈ roots, doc.Under id j := by
  induction hspells with
  | nil =>
    intro j hj
    cases hj
  | @cons id below rest roots _ _ ihbelow ihrest =>
    intro j hj
    rcases List.mem_cons.1 hj with rfl | hj
    · exact ⟨j, List.mem_cons_self .., .refl⟩
    rcases List.mem_append.1 hj with hj | hj
    · obtain ⟨c, hc, hunder⟩ := ihbelow j hj
      exact ⟨id, List.mem_cons_self .., hunder.tail (h.child id c hc).2.2⟩
    · obtain ⟨other, hother, hunder⟩ := ihrest j hj
      exact ⟨other, List.mem_cons_of_mem _ hother, hunder⟩

theorem nodup {doc : Document} (h : doc.Arena) {forest : Forest} {roots : List Nat}
    (hspells : forest.Spells doc roots) (hroots : roots.Nodup)
    (hapart : ∀ a ∈ roots, ∀ b ∈ roots, ∀ j, doc.Under a j → doc.Under b j → a = b) :
    forest.ids.Nodup := by
  induction hspells with
  | nil => exact List.nodup_nil
  | @cons id below rest roots hbelow hrest ihbelow ihrest =>
    obtain ⟨hid, hroots⟩ := List.nodup_cons.1 hroots
    have hbelowNodup := ihbelow (h.nodup id) fun a ha b hb j => h.under_siblings ha hb
    have hrestNodup := ihrest hroots fun a ha b hb =>
      hapart a (List.mem_cons_of_mem _ ha) b (List.mem_cons_of_mem _ hb)
    -- nothing below the other roots is below `id`
    have hother : ∀ j ∈ rest.ids, ¬ doc.Under id j := by
      intro j hj hunder
      obtain ⟨b, hb, hunder'⟩ := hrest.under h j hj
      have heq := hapart id (List.mem_cons_self ..) b (List.mem_cons_of_mem _ hb) j hunder hunder'
      exact hid (heq ▸ hb)
    have hinside : ∀ j ∈ below.ids, doc.Under id j ∧ id < j := by
      intro j hj
      obtain ⟨c, hc, hunder⟩ := hbelow.under h j hj
      obtain ⟨hlt, -, hparent⟩ := h.child id c hc
      exact ⟨hunder.tail hparent, Nat.lt_of_lt_of_le hlt (h.under_le hunder)⟩
    refine List.nodup_cons.2 ⟨?_, List.nodup_append'.2 ⟨hbelowNodup, hrestNodup, ?_⟩⟩
    · intro hmem
      rcases List.mem_append.1 hmem with hmem | hmem
      · exact Nat.lt_irrefl _ (hinside id hmem).2
      · exact hother id hmem .refl
    · intro j hj hj'
      exact hother j hj' (hinside j hj).1

theorem lt_size {doc : Document} (h : doc.Arena) {forest : Forest}
    {roots : List Nat} (hspells : forest.Spells doc roots)
    (hroots : ∀ id ∈ roots, id < doc.nodes.size) : ∀ j ∈ forest.ids, j < doc.nodes.size := by
  induction hspells with
  | nil =>
    intro j hj
    cases hj
  | @cons id below rest roots _ _ ihbelow ihrest =>
    intro j hj
    rcases List.mem_cons.1 hj with rfl | hj
    · exact hroots j (List.mem_cons_self ..)
    rcases List.mem_append.1 hj with hj | hj
    · exact ihbelow (fun c hc => (h.child id c hc).2.1) j hj
    · exact ihrest (fun other hother => hroots other (List.mem_cons_of_mem _ hother)) j hj

theorem root_mem {doc : Document} {forest : Forest} {roots : List Nat}
    (hspells : forest.Spells doc roots) : ∀ id ∈ roots, id ∈ forest.ids := by
  induction hspells with
  | nil =>
    intro id hid
    cases hid
  | cons _ _ _ ihrest =>
    intro id hid
    rcases List.mem_cons.1 hid with rfl | hid
    · exact List.mem_cons_self ..
    · exact List.mem_cons_of_mem _ (List.mem_append_right _ (ihrest id hid))

theorem child_mem {doc : Document} {forest : Forest} {roots : List Nat}
    (hspells : forest.Spells doc roots) {id c : Nat} (hid : id ∈ forest.ids)
    (hc : c ∈ doc.childrenOf id) : c ∈ forest.ids := by
  induction hspells with
  | nil => cases hid
  | cons hbelow _ ihbelow ihrest =>
    rcases List.mem_cons.1 hid with rfl | hid
    · exact List.mem_cons_of_mem _ (List.mem_append_left _ (hbelow.root_mem c hc))
    rcases List.mem_append.1 hid with hid | hid
    · exact List.mem_cons_of_mem _ (List.mem_append_left _ (ihbelow hid))
    · exact List.mem_cons_of_mem _ (List.mem_append_right _ (ihrest hid))

theorem mem_of_reachable {doc : Document} {forest : Forest}
    (hspells : forest.Spells doc [Document.root]) {id : Nat} (hid : doc.Reachable id) :
    id ∈ forest.ids := by
  induction hid with
  | root => exact hspells.root_mem _ (List.mem_singleton.2 rfl)
  | child _ hc ih => exact hspells.child_mem ih hc

theorem reachable {doc : Document} {forest : Forest} {roots : List Nat}
    (hspells : forest.Spells doc roots) (hroots : ∀ id ∈ roots, doc.Reachable id) :
    ∀ j ∈ forest.ids, doc.Reachable j := by
  induction hspells with
  | nil => simp [ids]
  | @cons id below rest roots _ _ ihbelow ihrest =>
    have hid := hroots id (List.mem_cons_self ..)
    intro j hj
    simp only [ids, List.mem_cons, List.mem_append] at hj
    rcases hj with rfl | hj | hj
    · exact hid
    · exact ihbelow (fun c hc => hid.child hc) j hj
    · exact ihrest (fun other hother => hroots other (List.mem_cons_of_mem _ hother)) j hj

/-- So a forest with one root has no more nodes than the document. -/
theorem length_le {doc : Document} (h : doc.Arena) {forest : Forest} {id : Nat}
    (hspells : forest.Spells doc [id]) (hid : id < doc.nodes.size) :
    forest.ids.length ≤ doc.nodes.size := by
  have hnodup : forest.ids.Nodup := by
    refine hspells.nodup h (List.nodup_singleton _) ?_
    intro a ha b hb _ _ _
    rw [List.mem_singleton] at ha hb
    rw [ha, hb]
  have hsub : forest.ids ⊆ List.range doc.nodes.size := by
    intro j hj
    refine List.mem_range.2 (hspells.lt_size h ?_ j hj)
    intro a ha
    rw [List.mem_singleton] at ha
    exact ha ▸ hid
  simpa using (List.subperm_of_subset hnodup hsub).length_le

end Forest.Spells

/-! ### The walk that visits children first -/

namespace Postorder

variable {doc : Document} {pending : List Stop} {out : List Visit}

/-- A node whose children are behind, or that has none, is visited at once. -/
theorem nextWithin_visit {stop : Stop} (hid : stop.visit.id < doc.nodes.size)
    (hready : stop.expanded = true ∨ doc.childrenOf stop.visit.id = []) (limit : Nat) :
    nextWithin doc ⟨stop :: pending⟩ (limit + 1) = .ok (some (stop.visit, ⟨pending⟩)) := by
  obtain ⟨node, hnode, -, -, -, hchildren⟩ := Document.exists_node hid
  have hready' : (stop.expanded || node.children.isEmpty) = true := by
    rw [← hchildren] at hready
    simpa using hready
  simp only [nextWithin, hnode]
  show (if (stop.expanded || node.children.isEmpty) = true then _ else _) = _
  rw [if_pos hready']
  rfl

/-- A node with children is put behind them. -/
theorem nextWithin_expand {id depth : Nat} (hid : id < doc.nodes.size)
    (hchildren : doc.childrenOf id ≠ []) (limit : Nat) :
    nextWithin doc ⟨⟨⟨id, depth⟩, false⟩ :: pending⟩ (limit + 1) =
      nextWithin doc ⟨(doc.childrenOf id).map (fun c => ⟨⟨c, depth + 1⟩, false⟩) ++
        ⟨⟨id, depth⟩, true⟩ :: pending⟩ limit := by
  obtain ⟨node, hnode, -, -, -, hnodes⟩ := Document.exists_node hid
  have hmore : (false || node.children.isEmpty) = false := by
    rw [← hnodes] at hchildren
    simpa using hchildren
  rw [← hnodes]
  simp only [nextWithin, hnode]
  show (if (false || node.children.isEmpty) = true then _ else _) = _
  rw [hmore]
  rfl

/-- Going down leads to later nodes, so the number of nodes that come later bounds it. -/
theorem nextWithin_stable (h : doc.Arena) {id depth limit : Nat} (hid : id < doc.nodes.size)
    (hlimit : doc.nodes.size ≤ id + limit) :
    nextWithin doc ⟨⟨⟨id, depth⟩, false⟩ :: pending⟩ (limit + 1) =
      nextWithin doc ⟨⟨⟨id, depth⟩, false⟩ :: pending⟩ limit := by
  induction limit generalizing id depth pending with
  | zero => omega
  | succ limit ih =>
    rcases hchildren : doc.childrenOf id with _ | ⟨c, cs⟩
    · rw [nextWithin_visit hid (Or.inr hchildren), nextWithin_visit hid (Or.inr hchildren)]
    · have hne : doc.childrenOf id ≠ [] := by
        rw [hchildren]
        exact List.cons_ne_nil _ _
      obtain ⟨hlt, hsize, -⟩ := h.child id c (hchildren ▸ List.mem_cons_self ..)
      rw [nextWithin_expand hid hne, nextWithin_expand hid hne, hchildren]
      exact ih hsize (by omega)

theorem Runs.visit {stop : Stop} (h : Runs doc ⟨pending⟩ out)
    (hid : stop.visit.id < doc.nodes.size)
    (hready : stop.expanded = true ∨ doc.childrenOf stop.visit.id = []) :
    Runs doc ⟨stop :: pending⟩ (stop.visit :: out) := by
  apply Blockwise.Runs.step (nextWithin_visit hid hready doc.nodes.size)
  exact h

theorem Runs.expand (harena : doc.Arena) {id depth : Nat} (hid : id < doc.nodes.size)
    (hchildren : doc.childrenOf id ≠ [])
    (h : Runs doc ⟨(doc.childrenOf id).map (fun c => ⟨⟨c, depth + 1⟩, false⟩) ++
      ⟨⟨id, depth⟩, true⟩ :: pending⟩ out) :
    Runs doc ⟨⟨⟨id, depth⟩, false⟩ :: pending⟩ out := by
  obtain ⟨c, cs, hcs⟩ := List.exists_cons_of_ne_nil hchildren
  obtain ⟨hlt, hsize, -⟩ := harena.child id c (hcs ▸ List.mem_cons_self ..)
  -- the first step is the same as that of the walk with the node expanded
  have hnext : next? doc ⟨⟨⟨id, depth⟩, false⟩ :: pending⟩ =
      next? doc ⟨(doc.childrenOf id).map (fun c => ⟨⟨c, depth + 1⟩, false⟩) ++
        ⟨⟨id, depth⟩, true⟩ :: pending⟩ := by
    unfold next? stepLimit
    rw [nextWithin_expand hid hchildren, hcs]
    exact (nextWithin_stable harena hsize (by omega)).symm
  cases h with
  | done hover => simp at hover
  | step hstep hrest => exact .step (hnext.trans hstep) hrest

/-- The walk over some nodes goes through the forest that spells them. -/
theorem Runs.forest (harena : doc.Arena) {forest : Forest} {roots : List Nat} {depth : Nat}
    (hspells : forest.Spells doc roots) (hroots : ∀ id ∈ roots, id < doc.nodes.size)
    (h : Runs doc ⟨pending⟩ out) :
    Runs doc ⟨roots.map (fun id => ⟨⟨id, depth⟩, false⟩) ++ pending⟩
      (forest.visits depth ++ out) := by
  induction hspells generalizing depth pending out with
  | nil => exact h
  | @cons id below rest roots hbelow hrest ihbelow ihrest =>
    have hid := hroots id (List.mem_cons_self ..)
    have hafter := @ihrest _ _ depth
      (fun other hother => hroots other (List.mem_cons_of_mem _ hother)) h
    rw [List.map_cons, List.cons_append, Forest.visits, List.append_assoc, List.cons_append]
    rcases hchildren : doc.childrenOf id with _ | ⟨c, cs⟩
    · rw [hchildren] at hbelow
      cases hbelow
      exact hafter.visit hid (Or.inr hchildren)
    · refine Runs.expand harena hid (by simp [hchildren]) ?_
      refine ihbelow (fun c hc => (harena.child id c hc).2.1) ?_
      exact hafter.visit hid (Or.inl rfl)

end Postorder

namespace Document

theorem runs_postorder {doc : Document} (h : doc.Arena) {forest : Forest} {id : Nat}
    (hspells : forest.Spells doc [id]) (hid : id < doc.nodes.size) :
    Postorder.Runs doc (.start id) (forest.visits 0) := by
  have hroots : ∀ j ∈ [id], j < doc.nodes.size := by
    intro j hj
    rw [List.mem_singleton] at hj
    exact hj ▸ hid
  have hover : Postorder.Runs doc ⟨[]⟩ [] := .done rfl
  have hruns : Postorder.Runs doc ⟨[id].map (fun j => ⟨⟨j, 0⟩, false⟩) ++ []⟩
      (forest.visits 0 ++ []) := hover.forest h hspells hroots
  rw [List.append_nil, List.append_nil] at hruns
  exact hruns

theorem postorderFrom_eq {doc : Document} (h : doc.Arena) {forest : Forest} {id : Nat}
    (hspells : forest.Spells doc [id]) (hid : id < doc.nodes.size) :
    doc.postorderFrom id = .ok (forest.visits 0) := by
  apply (runs_postorder h hspells hid).visitsWithin
  rw [Forest.length_visits]
  exact Nat.le_succ_of_le (hspells.length_le h hid)

end Document

/-! ### Levels of finished texts -/

namespace Levels

/-- The finished texts of a level, the latest first. -/
def on (levels : Levels) (depth : Nat) : List Text := levels.texts[depth]?.getD []

theorem on_finish (levels : Levels) (depth : Nat) (text : Text) (k : Nat) :
    (levels.finish depth text).on k =
      if k = depth then text :: levels.on depth
      else if k = depth + 1 then [] else levels.on k := by
  unfold on finish grow
  simp only [Array.getElem?_modify, Array.getElem?_append, Array.getElem?_replicate]
  grind

theorem concat_eq (levels : Levels) (depth : Nat) :
    levels.concat depth = (levels.on depth).reverse.flatten := join_eq _

end Levels

namespace Document

/-- Following the visits of a forest puts the texts of its top nodes on their level and
    leaves the levels above as they are. -/
theorem foldlM_renderVisit (doc : Document) (forest : Forest) (depth : Nat) (levels : Levels)
    (hempty : ∀ k, depth < k → levels.on k = []) :
    match forest.render doc with
    | .error fault => (forest.visits depth).foldlM doc.renderVisit levels = .error fault
    | .ok texts => ∃ after, (forest.visits depth).foldlM doc.renderVisit levels = .ok after ∧
        after.on depth = texts.reverse ++ levels.on depth ∧
        (∀ k, depth < k → after.on k = []) ∧ ∀ k < depth, after.on k = levels.on k := by
  induction forest generalizing depth levels with
  | nil => exact ⟨levels, rfl, rfl, hempty, fun _ _ => rfl⟩
  | cons id below rest ihbelow ihrest =>
    have hinner := ihbelow (depth + 1) levels fun k hk => hempty k (by omega)
    simp only [Forest.render, Forest.visits, List.foldlM_append, List.foldlM_cons]
    rcases hbelow : below.render doc with fault | inner
    · rw [hbelow] at hinner
      rw [show _ = _ from hinner]
      rfl
    rw [hbelow] at hinner
    obtain ⟨levels', hfold, hon, hdeep, hhigh⟩ := hinner
    rw [hfold]
    have hconcat : levels'.concat (depth + 1) = inner.flatten := by
      rw [Levels.concat_eq, hon, hempty _ (Nat.lt_succ_self depth), List.append_nil,
        List.reverse_reverse]
    simp only [bind, Except.bind, renderVisit, hconcat]
    rcases doc.compose id inner.flatten with fault | text
    · rfl
    have hmore := ihrest depth (levels'.finish depth text) (by
      intro k hk
      rw [Levels.on_finish, if_neg (by omega)]
      split
      · rfl
      · exact hdeep k (by omega))
    rcases hrest : rest.render doc with fault | texts
    · rw [hrest] at hmore
      exact hmore
    rw [hrest] at hmore
    obtain ⟨after, hfold', hon', hdeep', hhigh'⟩ := hmore
    refine ⟨after, hfold', ?_, hdeep', ?_⟩
    · rw [hon', Levels.on_finish, if_pos rfl, hhigh depth (Nat.lt_succ_self depth)]
      simp
    · intro k hk
      rw [hhigh' k hk, Levels.on_finish, if_neg (by omega), if_neg (by omega),
        hhigh k (by omega)]

/-- **Rendering a node is composing its forest from the leaves up.** -/
theorem renderNode_eq {doc : Document} (h : doc.Arena) {forest : Forest} {id : Nat}
    (hspells : forest.Spells doc [id]) (hid : id < doc.nodes.size) :
    doc.renderNode id = (forest.render doc).map List.flatten := by
  have hfold := foldlM_renderVisit doc forest 0 .empty fun k _ => by simp [Levels.on, Levels.empty]
  unfold renderNode
  rw [postorderFrom_eq h hspells hid]
  simp only [bind, Except.bind]
  rcases hrender : forest.render doc with fault | texts
  · rw [hrender] at hfold
    rw [show _ = _ from hfold]
    rfl
  · rw [hrender] at hfold
    obtain ⟨after, hfold, hon, -, -⟩ := hfold
    rw [hfold]
    show Except.ok (after.concat 0) = .ok texts.flatten
    rw [Levels.concat_eq, hon]
    simp [Levels.on, Levels.empty]

/-- The root adds nothing to the text of its children. -/
theorem Arena.compose_root {doc : Document} (h : doc.Arena) (inner : Text) :
    doc.compose root inner = .ok inner := by
  rcases hnode : doc.nodes[root]? with _ | node
  · exact absurd (Array.getElem?_eq_none_iff.1 hnode) (Nat.not_le.2 h.size_pos)
  · have hblock : node.block = none := by
      have hroot := h.root_block
      rwa [blockOf?, hnode] at hroot
    simp [compose, Document.node, hnode, hblock, bind, Except.bind, pure, Except.pure]

end Document

end Blockwise
