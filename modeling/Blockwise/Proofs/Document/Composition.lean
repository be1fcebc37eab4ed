/-
  Blockwise/Proofs/Document/Composition.lean
  ==========================================
  **Rendering with a walk is rendering by recursion.**  Children come later in the array
  than their parent, so a node can be rendered by recursion over the numbers of its
  children (`Arena.rendering`): the root is the texts of its children, a block without
  children that nothing was spliced into stands for itself, and any other block is put
  around the texts of its children.

  The walk that visits children first, with its finished texts on levels, comes to the
  same text, or the same fault, for every node (`renderNode_eq_rendering`).  Nothing is
  asked of the blocks: they may be open, and their sources may be missing.
-/
import Blockwise.Proofs.Document.Construction
import Blockwise.Proofs.Document.Mirrors

namespace Blockwise.Document

/-- A node rendered around its children, each of which is rendered in the same way. -/
def Arena.rendering {doc : Document} (h : doc.Arena) (id : Nat) : Except Fault Text := do
  let texts ← (doc.childrenOf id).attach.mapM fun c => h.rendering c.1
  match doc.blockOf? id with
  | none => return texts.flatten
  | some block =>
    let text ← doc.textOf block
    if doc.childrenOf id = [] ∧ doc.splicedAt id = false then block.render text none
    else block.render text (some texts.flatten)
termination_by doc.nodes.size - id
decreasing_by
  have hchild := h.child id c.1 c.2
  omega

variable {doc : Document} {id : Nat}

theorem compose_eq (hid : id < doc.nodes.size) (inner : Text) :
    doc.compose id inner =
      match doc.blockOf? id with
      | none => .ok inner
      | some block => doc.textOf block >>= fun text =>
        if doc.childrenOf id = [] ∧ doc.splicedAt id = false then block.render text none
        else block.render text (some inner) := by
  obtain ⟨node, hnode, hblock, -, hspliced, hchildren⟩ := exists_node hid
  have hleaf : (node.isChildless && !node.spliced) = true ↔
      doc.childrenOf id = [] ∧ doc.splicedAt id = false := by
    rw [← hchildren, ← hspliced]
    simp [Node.isChildless]
  unfold compose
  simp only [hnode, hblock, hleaf, bind, Except.bind]
  rfl

theorem Arena.rendering_eq (h : doc.Arena) (hid : id < doc.nodes.size) :
    h.rendering id = (doc.childrenOf id).mapM h.rendering >>= fun texts =>
      doc.compose id texts.flatten := by
  have hattach : ((doc.childrenOf id).attach.mapM fun c => h.rendering c.1) =
      (doc.childrenOf id).mapM h.rendering := by
    change (doc.childrenOf id).attach.mapM (h.rendering ∘ Subtype.val) = _
    rw [← List.mapM_map, List.attach_map_subtype_val]
  rw [rendering, hattach]
  simp only [compose_eq hid]
  rfl

/-- The recursion goes through the forest below the nodes of a list. -/
theorem Arena.mapM_rendering (h : doc.Arena) {forest : Forest} {roots : List Nat}
    (hspells : forest.Spells doc roots) (hroots : ∀ id ∈ roots, id < doc.nodes.size) :
    roots.mapM h.rendering = forest.render doc := by
  induction hspells with
  | nil => rfl
  | @cons id below rest roots _ _ ihbelow ihrest =>
    have hbelow := ihbelow fun c hc => (h.child id c hc).2.1
    have hrest := ihrest fun other hother => hroots other (List.mem_cons_of_mem _ hother)
    rw [List.mapM_cons, Forest.render, h.rendering_eq (hroots id (List.mem_cons_self ..)), hbelow,
      hrest, bind_assoc]

/-- **Following the walk renders every node as the recursion does,** and so the children
    of every node. -/
theorem renderNode_eq_rendering (h : doc.Arena) (hid : id < doc.nodes.size) :
    doc.renderNode id = h.rendering id ∧
      doc.renderChildren id = ((doc.childrenOf id).mapM h.rendering).map List.flatten := by
  have hchildren : ∀ c ∈ doc.childrenOf id, c < doc.nodes.size :=
    fun c hc => (h.child id c hc).2.1
  obtain ⟨below, hbelow⟩ := h.exists_below id
  constructor
  · rw [renderNode_eq h (.cons hbelow .nil) hid, h.rendering_eq hid,
      h.mapM_rendering hbelow hchildren]
    simp only [Forest.render]
    cases below.render doc with
    | error fault => rfl
    | ok inner =>
      simp only [bind, Except.bind, pure, Except.pure]
      cases doc.compose id inner.flatten with
      | error fault => rfl
      | ok text => simp [Except.map]
  · rw [renderChildren_eq hid, renders_eq h hbelow hchildren, h.mapM_rendering hbelow hchildren]

theorem sampleSpliced_arena (h : sampleSpliced = .ok doc) : doc.Arena := by
  have hopen : Built (fun _ => True) sampleOpen := .push (.push (.ofSource _) trivial) trivial
  unfold sampleSpliced at h
  obtain ⟨⟨closed, _⟩, hclose, hrest⟩ := bind_eq_ok_iff.1 h
  obtain ⟨spliced, hsplice, hpush⟩ := bind_eq_ok_iff.1 hrest
  cases hpush
  exact (((hopen.close hclose).splice hopen hsplice).push trivial).building.arena

/-- Node 1 of the sample is open, was spliced, and has three nodes below it. -/
theorem sampleSpliced_eq_rendering :
    ∃ (doc : Document) (h : doc.Arena), sampleSpliced = .ok doc ∧ 1 < doc.nodes.size ∧
      doc.renderNode 1 = h.rendering 1 ∧
      doc.renderChildren 1 = ((doc.childrenOf 1).mapM h.rendering).map List.flatten := by
  obtain ⟨doc, hdoc⟩ := exists_eq_ok (show sampleSpliced.isOk = true by decide +kernel)
  have harena := sampleSpliced_arena hdoc
  have hsize : 1 < doc.nodes.size := by
    have hcount : sampleSpliced.map (fun doc => decide (1 < doc.nodes.size)) = .ok true := by
      decide +kernel
    rw [hdoc] at hcount
    simpa [Except.map] using hcount
  exact ⟨doc, harena, hdoc, hsize, renderNode_eq_rendering harena hsize⟩

end Blockwise.Document
