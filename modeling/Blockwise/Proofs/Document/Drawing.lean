/-
  Blockwise/Proofs/Document/Drawing.lean
  ======================================
  **The drawing of a document is the recursive one.**  Children come later in the array
  than their parent, so what is below a node can be drawn by recursion over the numbers of
  its children: the text that leads to a node is passed down to its children, longer by a
  bar (`Arena.drawn`).

  The loop over the visits keeps one flag for each ancestor instead.  Flags of a branch
  that is behind are still there when the next node is drawn; the depth of that node cuts
  them off (`Arena.drawLines_outline`).

  Every line consists of a margin, four characters for each step down from the root, and a
  label, which begins with the first `<` of the line.  So the lines tell the depths of the
  nodes, as long as the labels do not break them (`drawing_reads_back`).
-/
import Blockwise.Document.Structure
import Blockwise.Proofs.Document.Traversal

namespace Blockwise.Document

/-! ### Drawing by recursion -/

/-- The node is the last child of another one. -/
def isLastOf (doc : Document) (parent id : Nat) : Bool :=
  (doc.childrenOf parent).getLast? == some id

/-- The lines of a node, and of all below it, with the text that leads to the node. -/
def Arena.drawn {doc : Document} (h : doc.Arena) (lead : Text) (isLast : Bool) (id : Nat) :
    Except Fault (List Text) := do
  let label ← doc.nodeLabel id
  let below ← (doc.childrenOf id).attach.mapM fun c =>
    h.drawn (lead ++ bar isLast) (doc.isLastOf id c.1) c.1
  return (lead ++ connector isLast ++ label) :: below.flatten
termination_by doc.nodes.size - id
decreasing_by
  have hchild := h.child id c.1 c.2
  omega

/-- The lines of a node as a child of another one. -/
def Arena.drawnBelow {doc : Document} (h : doc.Arena) (lead : Text) (parent id : Nat) :
    Except Fault (List Text) :=
  h.drawn lead (doc.isLastOf parent id) id

/-- The label of the root, and below it the lines of its children, which nothing leads to. -/
def Arena.picture {doc : Document} (h : doc.Arena) : Except Fault Text := do
  let label ← doc.nodeLabel root
  let below ← (doc.childrenOf root).mapM (h.drawnBelow [] root)
  return ['\n'].intercalate (label :: below.flatten)

variable {doc : Document} {id : Nat}

theorem joinLines_eq (lines : List Text) : joinLines lines = ['\n'].intercalate lines := by
  induction lines with
  | nil => rfl
  | cons line lines ih =>
    cases lines with
    | nil => simp [joinLines]
    | cons next lines =>
      rw [joinLines, ih, List.intercalate_cons_cons, List.append_cons]

theorem Arena.drawn_eq (h : doc.Arena) (lead : Text) (isLast : Bool) (id : Nat) :
    h.drawn lead isLast id = doc.nodeLabel id >>= fun label =>
      (doc.childrenOf id).mapM (h.drawnBelow (lead ++ bar isLast) id) >>= fun below =>
        pure ((lead ++ connector isLast ++ label) :: below.flatten) := by
  rw [drawn, List.mapM_subtype (g := h.drawnBelow (lead ++ bar isLast) id) fun _ _ => rfl,
    List.unattach_attach]

theorem Arena.isLastChild_eq (h : doc.Arena) {parent : Nat} (hid : id ∈ doc.childrenOf parent) :
    doc.isLastChild id = pure (doc.isLastOf parent id) := by
  obtain ⟨-, hlt, habove⟩ := h.child parent id hid
  obtain ⟨node, hnode, -, hparent, -⟩ := exists_node hlt
  obtain ⟨above, hnode', -, -, -, hchildren⟩ := exists_node (lt_size_of_child hid)
  unfold isLastChild isLastOf
  rw [← hchildren, Array.getLast?_toList]
  simp only [hnode, bind, Except.bind, hparent, habove, hnode']

/-! ### The loop over the visits -/

/-- The flags that the loop is left with may differ from those it began with, but not in
    what the ancestors of the nodes to come have in them. -/
theorem Arena.drawLines_outline (h : doc.Arena) {forest : Forest} {roots : List Nat}
    {parent : Nat} (hspells : forest.Spells doc roots)
    (hroots : ∀ id ∈ roots, id ∈ doc.childrenOf parent) {flags : List Bool} {depth : Nat}
    (hdepth : depth ≤ flags.length) :
    ∃ after : List Bool, depth ≤ after.length ∧ after.take depth = flags.take depth ∧
      ∀ pending, doc.drawLines flags (forest.outline (depth + 1) ++ pending) =
        roots.mapM (h.drawnBelow ((flags.take depth).flatMap bar) parent) >>= fun below =>
          doc.drawLines after pending >>= fun lines => pure (below.flatten ++ lines) := by
  induction hspells generalizing parent flags depth with
  | nil =>
    refine ⟨flags, hdepth, rfl, fun pending => ?_⟩
    simp [Forest.outline]
  | @cons id below rest roots hbelow _ ihbelow ihrest =>
    have hlast := h.isLastChild_eq (hroots id (List.mem_cons_self ..))
    -- behind the node, what is below it goes on from its own flag
    have hflags : (flags.take depth ++ [doc.isLastOf parent id]).length = depth + 1 := by
      rw [List.length_append, List.length_take, Nat.min_eq_left hdepth, List.length_singleton]
    obtain ⟨mid, hmid, hkept, hinner⟩ := ihbelow (fun c hc => hc) (Nat.le_of_eq hflags.symm)
    have hsame : mid.take depth = flags.take depth := by
      have hcut := congrArg (List.take depth) hkept
      rw [List.take_take, List.take_take, Nat.min_eq_left (Nat.le_succ depth)] at hcut
      rw [hcut, List.take_append_of_le_length (by simp [hdepth]), List.take_take, Nat.min_self]
    obtain ⟨after, hafter, hkept', hothers⟩ :=
      ihrest (fun other hother => hroots other (List.mem_cons_of_mem _ hother))
        (Nat.le_of_succ_le hmid)
    refine ⟨after, hafter, hkept'.trans hsame, fun pending => ?_⟩
    rw [← hflags, List.take_length, List.flatMap_append, List.flatMap_singleton, hflags] at hinner
    rw [hsame] at hothers
    rw [Forest.outline, List.cons_append, List.append_assoc, drawLines, List.mapM_cons,
      drawnBelow, h.drawn_eq]
    simp only [Nat.add_one_ne_zero, if_false, Nat.add_sub_cancel]
    simp only [hlast, hinner, hothers, bind_assoc, pure_bind, List.flatten_cons, List.cons_append,
      List.append_assoc]

/-- The loop draws what the recursion draws, or stops with the same fault. -/
theorem drawing_eq_picture (h : doc.Arena) : doc.drawing = h.picture := by
  obtain ⟨below, hbelow⟩ := h.exists_below root
  have hwalk : doc.preorder = pure ((Forest.cons root below .nil).outline 0) :=
    preorderFrom_eq h (.cons hbelow .nil) h.size_pos
  obtain ⟨after, -, -, hlines⟩ :=
    h.drawLines_outline hbelow (fun c hc => hc) (Nat.le_refl ([] : List Bool).length)
  have hall := hlines []
  rw [List.length_nil, List.take_nil, List.flatMap_nil, List.append_nil] at hall
  have hend : doc.drawLines after [] = pure [] := rfl
  unfold drawing Arena.picture
  rw [hwalk, pure_bind, Forest.outline, Forest.outline, drawLines]
  simp only [if_true, hall, hend, bind_assoc, pure_bind, List.append_nil, joinLines_eq]

/-! ### Lines -/

/-- A text that leads to a label: four characters for each step down from the root, none of
    which begins a label or a line. -/
structure Margin (depth : Nat) (text : Text) : Prop where
  length : text.length = 4 * depth
  label : '<' ∉ text
  line : '\n' ∉ text

theorem margin_nil : Margin 0 [] := ⟨rfl, by decide, by decide⟩

theorem margin_bar (isLast : Bool) : Margin 1 (bar isLast) := by
  cases isLast <;> exact ⟨by decide, by decide, by decide⟩

theorem margin_connector (isLast : Bool) : Margin 1 (connector isLast) := by
  cases isLast <;> exact ⟨by decide, by decide, by decide⟩

theorem Margin.append {depth more : Nat} {text text' : Text} (h : Margin depth text)
    (h' : Margin more text') : Margin (depth + more) (text ++ text') := by
  constructor
  · rw [List.length_append, h.length, h'.length, Nat.mul_add]
  · simp [h.label, h'.label]
  · simp [h.line, h'.line]

/-- The number of steps down that the margin of a line stands for. -/
def lineDepth (line : Text) : Nat := (line.takeWhile (· != '<')).length / 4

/-- The line of a visited node: its margin, then its label. -/
def Line (doc : Document) (line : Text) (visit : Visit) : Prop :=
  ∃ margin label, line = margin ++ label ∧ Margin visit.depth margin ∧
    doc.nodeLabel visit.id = .ok label

theorem blockOf?_of_block? {found : Option Block} (h : doc.block? id = .ok found) :
    doc.blockOf? id = found := by
  unfold block? Document.node at h
  unfold blockOf?
  rcases hnode : doc.nodes[id]? with _ | node
  · rw [hnode] at h
    cases h
  · rw [hnode] at h
    cases h
    rfl

/-- A label is that of the root, or holds the label of a block and a preview of its text. -/
theorem nodeLabel_eq_ok {label : Text} (h : doc.nodeLabel id = .ok label) :
    (doc.blockOf? id = none ∧ label = "<Root>".toList) ∨
      ∃ block raw, doc.blockOf? id = some block ∧
        label = '<' :: block.label ++ " \"".toList ++ preview raw ++ "\">".toList := by
  unfold nodeLabel at h
  obtain ⟨found, hfound, h⟩ := bind_eq_ok_iff.1 h
  cases found with
  | none =>
    cases h
    exact Or.inl ⟨blockOf?_of_block? hfound, rfl⟩
  | some block =>
    obtain ⟨text, -, h⟩ := bind_eq_ok_iff.1 h
    obtain ⟨raw, -, h⟩ := bind_eq_ok_iff.1 h
    cases h
    exact Or.inr ⟨block, raw, blockOf?_of_block? hfound, rfl⟩

/-- The first `<` of a line ends its margin. -/
theorem Line.lineDepth_eq {line : Text} {visit : Visit} (h : doc.Line line visit) :
    lineDepth line = visit.depth := by
  obtain ⟨margin, label, rfl, hmargin, hlabel⟩ := h
  obtain ⟨rest, rfl⟩ : ∃ rest, label = '<' :: rest := by
    rcases nodeLabel_eq_ok hlabel with ⟨-, rfl⟩ | ⟨block, raw, -, rfl⟩
    · exact ⟨_, rfl⟩
    · exact ⟨_, rfl⟩
  have hbefore : ∀ c ∈ margin, (c != '<') = true := by
    intro c hc
    rw [bne_iff_ne]
    rintro rfl
    exact hmargin.label hc
  have hcut : (margin ++ '<' :: rest).takeWhile (· != '<') = margin := by
    rw [List.takeWhile_append_of_pos hbefore, List.takeWhile_cons_of_neg (by simp),
      List.append_nil]
  rw [lineDepth, hcut, hmargin.length, Nat.mul_div_cancel_left _ (by decide)]

theorem newline_not_mem_ofNat (n : Nat) : '\n' ∉ Text.ofNat n := by
  intro hmem
  have hdigit := Nat.isDigit_of_mem_toDigits (by decide) (by decide) hmem
  exact absurd hdigit (by decide)

theorem newline_not_mem_label {block : Block} (h : '\n' ∉ block.name) : '\n' ∉ block.label := by
  unfold Block.label
  cases block.stop with
  | none => simp [h, newline_not_mem_ofNat]
  | some stop => simp [h, newline_not_mem_ofNat]

theorem newline_not_mem_preview (text : Text) : '\n' ∉ preview text := by
  have hline : '\n' ∉ text.flatMap escapeBreak := by
    intro hmem
    obtain ⟨c, -, hc⟩ := List.mem_flatMap.1 hmem
    unfold escapeBreak at hc
    split at hc
    · simp at hc
    · next hne => exact hne (List.mem_singleton.1 hc).symm
  unfold preview
  dsimp only
  split
  · rw [List.mem_append]
    rintro (hmem | hmem)
    · exact hline (List.mem_of_mem_take hmem)
    · exact absurd hmem (by decide)
  · exact hline

/-- Only the name of a block can break its label. -/
theorem newline_not_mem_nodeLabel {label : Text} (h : doc.nodeLabel id = .ok label)
    (hname : ∀ block, doc.blockOf? id = some block → '\n' ∉ block.name) : '\n' ∉ label := by
  rcases nodeLabel_eq_ok h with ⟨-, rfl⟩ | ⟨block, raw, hblock, rfl⟩
  · decide
  · have hlabel := newline_not_mem_label (hname block hblock)
    simp [hlabel, newline_not_mem_preview]

theorem Line.newline_not_mem {line : Text} {visit : Visit} (h : doc.Line line visit)
    (hname : ∀ block, doc.blockOf? visit.id = some block → '\n' ∉ block.name) : '\n' ∉ line := by
  obtain ⟨margin, label, rfl, hmargin, hlabel⟩ := h
  rw [List.mem_append, not_or]
  exact ⟨hmargin.line, newline_not_mem_nodeLabel hlabel hname⟩

section

variable {lines : List Text} {visits : List Visit}

theorem lineDepth_lines (h : List.Forall₂ doc.Line lines visits) :
    lines.map lineDepth = visits.map Visit.depth := by
  rw [← List.forall₂_eq_eq_eq, List.forall₂_map_left_iff, List.forall₂_map_right_iff]
  exact h.imp fun line visit hline => hline.lineDepth_eq

theorem newline_not_mem_lines (h : List.Forall₂ doc.Line lines visits)
    (hnames : ∀ visit ∈ visits, ∀ block, doc.blockOf? visit.id = some block →
      '\n' ∉ block.name) : ∀ line ∈ lines, '\n' ∉ line := by
  induction h with
  | nil => simp
  | cons hline _ ih =>
    rw [List.forall_mem_cons] at hnames ⊢
    exact ⟨hline.newline_not_mem hnames.1, ih hnames.2⟩

end

/-- What is drawn below a node, if all labels can be made: the lines of the visits. -/
theorem Arena.exists_lines (h : doc.Arena) {forest : Forest} {roots : List Nat}
    (hspells : forest.Spells doc roots)
    (hlabels : ∀ id ∈ forest.ids, ∃ label, doc.nodeLabel id = .ok label) {lead : Text}
    {depth : Nat} (hlead : Margin depth lead) (parent : Nat) :
    ∃ below, roots.mapM (h.drawnBelow lead parent) = .ok below ∧
      List.Forall₂ doc.Line below.flatten (forest.outline (depth + 1)) := by
  induction hspells generalizing lead depth parent with
  | nil => exact ⟨[], rfl, .nil⟩
  | @cons id below rest roots _ _ ihbelow ihrest =>
    simp only [Forest.ids, List.mem_cons, List.mem_append] at hlabels
    obtain ⟨label, hlabel⟩ := hlabels id (Or.inl rfl)
    obtain ⟨inner, hinner, hlines⟩ := ihbelow (fun j hj => hlabels j (Or.inr (Or.inl hj)))
      (hlead.append (margin_bar (doc.isLastOf parent id))) id
    obtain ⟨others, hothers, hlines'⟩ :=
      ihrest (fun j hj => hlabels j (Or.inr (Or.inr hj))) hlead parent
    refine ⟨((lead ++ connector (doc.isLastOf parent id) ++ label) :: inner.flatten) :: others,
      ?_, ?_⟩
    · rw [List.mapM_cons, drawnBelow, h.drawn_eq, hlabel, hothers]
      simp only [hinner, bind, Except.bind, pure, Except.pure]
    · rw [List.flatten_cons, List.cons_append, Forest.outline]
      refine .cons ⟨_, label, rfl, hlead.append (margin_connector _), hlabel⟩ ?_
      exact List.rel_append hlines hlines'

/-! ### Reading the lines -/

/-- The blocks of all nodes that the root leads to can be cut out of their sources. -/
def Cuttable (doc : Document) : Prop :=
  ∀ id, doc.Reachable id → ∀ block, doc.blockOf? id = some block →
    ∃ text raw, doc.textOf block = .ok text ∧ block.rawText text = .ok raw

/-- No name of a block that the root leads to breaks a line. -/
def PlainNames (doc : Document) : Prop :=
  ∀ id, doc.Reachable id → ∀ block, doc.blockOf? id = some block → '\n' ∉ block.name

/-- The lines of a text are the nodes that the root leads to, in the order of the walk that
    visits parents first, and tell how far they are from the root. -/
structure ReadsBack (doc : Document) (visits : List Visit) (text : Text) : Prop where
  preorder_eq : doc.preorder = .ok visits
  nodup : (visits.map Visit.id).Nodup
  reachable : ∀ id, id ∈ visits.map Visit.id ↔ doc.Reachable id
  down : ∀ id depth, ⟨id, depth⟩ ∈ visits ↔ doc.Down root depth id
  length_eq : (text.splitOn '\n').length = visits.length
  depths_eq : (text.splitOn '\n').map lineDepth = visits.map Visit.depth

theorem Cuttable.exists_nodeLabel (h : doc.Cuttable) (hid : doc.Reachable id)
    (hlt : id < doc.nodes.size) : ∃ label, doc.nodeLabel id = .ok label := by
  obtain ⟨node, hnode, hhead, -⟩ := exists_node hlt
  unfold nodeLabel block?
  rw [hnode]
  rcases hblock : node.block with _ | block
  · simp only [Except.map, hblock]
    exact ⟨_, rfl⟩
  · obtain ⟨text, raw, htext, hraw⟩ := h id hid block (hhead.symm.trans hblock)
    simp only [Except.map, hblock, bind, Except.bind, htext, hraw]
    exact ⟨_, rfl⟩

/-- If all blocks can be cut out of their sources, nothing stops the recursion. -/
theorem Arena.exists_picture (h : doc.Arena) (hcut : doc.Cuttable) {tree : Forest}
    (hspells : tree.Spells doc [root]) :
    ∃ lines, lines ≠ [] ∧ h.picture = .ok (['\n'].intercalate lines) ∧
      List.Forall₂ doc.Line lines (tree.outline 0) := by
  have hlabels : ∀ id ∈ tree.ids, ∃ label, doc.nodeLabel id = .ok label := by
    intro id hid
    have hreach := hspells.reachable (by simpa using Reachable.root) id hid
    exact hcut.exists_nodeLabel hreach (hreach.lt_size h)
  cases hspells with
  | @cons _ below rest _ hbelow hrest =>
    cases hrest
    simp only [Forest.ids, List.append_nil, List.mem_cons] at hlabels
    obtain ⟨label, hlabel⟩ := hlabels root (Or.inl rfl)
    obtain ⟨lines, hlines, hdrawn⟩ :=
      h.exists_lines hbelow (fun id hid => hlabels id (Or.inr hid)) margin_nil root
    refine ⟨label :: lines.flatten, List.cons_ne_nil _ _, ?_, ?_⟩
    · rw [Arena.picture, hlabel, hlines]
      rfl
    · rw [Forest.outline, Forest.outline, List.append_nil]
      exact .cons ⟨[], label, rfl, margin_nil, hlabel⟩ hdrawn

/-- **The drawing is the recursive one, and its shape can be read back.**  The loop over the
    visits draws every tree of nodes as the recursion does.  If all blocks can be cut out of
    their sources, it comes to an end without a fault, and unless a name breaks a line,
    there is one line for each node, which tells the depth of the node. -/
theorem drawing_reads_back (h : doc.Arena) (hcut : doc.Cuttable) :
    doc.drawing = h.picture ∧ ∃ text, h.picture = .ok text ∧
      (doc.PlainNames → ∃ visits, doc.ReadsBack visits text) := by
  obtain ⟨tree, hspells, hnodup, hreach⟩ := h.exists_tree
  obtain ⟨lines, hne, hpicture, hlines⟩ := h.exists_picture hcut hspells
  refine ⟨drawing_eq_picture h, _, hpicture, fun hnames => ⟨tree.outline 0, ?_⟩⟩
  have hids := tree.outline_ids 0
  have hsplit : (['\n'].intercalate lines).splitOn '\n' = lines := by
    apply List.splitOn_intercalate _ ?_ hne
    refine newline_not_mem_lines hlines fun visit hvisit => hnames _ ((hreach _).1 ?_)
    exact hids ▸ List.mem_map_of_mem hvisit
  have hlist := h.flatMap_parentsFirst hspells 0
  rw [List.flatMap_singleton] at hlist
  constructor
  · exact preorderFrom_eq h hspells h.size_pos
  · rwa [hids]
  · rwa [hids]
  · intro id depth
    rw [← hlist, h.mem_parentsFirst]
    simp
  · rw [hsplit]
    exact hlines.length_eq
  · rw [hsplit]
    exact lineDepth_lines hlines

/-- A block with another one spliced into it, still open. -/
theorem sampleSpliced_reads_back :
    ∃ (doc : Document) (h : doc.Arena), sampleSpliced = .ok doc ∧ doc.Cuttable ∧
      doc.PlainNames ∧ doc.drawing = h.picture ∧ ∃ text visits, h.picture = .ok text ∧
        doc.ReadsBack visits text := by
  obtain ⟨doc, hdoc⟩ := exists_eq_ok (show sampleSpliced.isOk = true by decide +kernel)
  have harena := sampleSpliced_arena hdoc
  have hcheck : sampleSpliced.map (fun doc => (List.range doc.nodes.size).all fun id =>
      (doc.blockOf? id).all fun block =>
        !block.name.contains '\n' && (doc.textOf block >>= block.rawText).isOk) = .ok true := by
    decide +kernel
  have hblocks : ∀ id block, doc.blockOf? id = some block →
      '\n' ∉ block.name ∧ (doc.textOf block >>= block.rawText).isOk = true := by
    intro id block hblock
    rw [hdoc, Except.map, Except.ok.injEq, List.all_eq_true] at hcheck
    have hnode := hcheck id (List.mem_range.2 (lt_size_of_block hblock))
    rw [hblock] at hnode
    simpa using hnode
  have hcut : doc.Cuttable := by
    intro id _ block hblock
    obtain ⟨raw, hraw⟩ := exists_eq_ok (hblocks id block hblock).2
    obtain ⟨text, htext, hcut⟩ := bind_eq_ok_iff.1 hraw
    exact ⟨text, raw, htext, hcut⟩
  have hnames : doc.PlainNames := fun id _ block hblock => (hblocks id block hblock).1
  obtain ⟨hdrawing, text, htext, hvisits⟩ := drawing_reads_back harena hcut
  obtain ⟨visits, hvisits⟩ := hvisits hnames
  exact ⟨doc, harena, hdoc, hcut, hnames, hdrawing, text, visits, htext, hvisits⟩

end Blockwise.Document
