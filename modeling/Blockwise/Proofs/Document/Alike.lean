/-
  Blockwise/Proofs/Document/Alike.lean
  ====================================
  **Documents that differ in what no operation looks at.**  The path of a source says
  where the text came from, and the nested interpreter of an include type says how the
  included file will be read; neither is looked at while a document is built, closed,
  spliced or rendered.

  `doc.Alike allowed nested doc'` says that two documents are the same up to their
  sources, which may differ as far as `allowed` says, and up to the nested interpreters
  of their block types, which `nested` relates.  The operations on documents keep it,
  and stop with the same fault (`Parallel`); what is read from the two is the same
  (`Alike.renderNode`, `Alike.innerText`).
-/
import Blockwise.Document.Render
import Blockwise.Proofs.Document.Nodes
import Mathlib.Data.List.Forall2

namespace Blockwise

/-! ### Operations side by side -/

/-- Two operations that stop with the same fault, or with results that are related. -/
inductive Parallel {α β : Type} (R : α → β → Prop) : Except Fault α → Except Fault β → Prop
  | error (cause : Fault) : Parallel R (.error cause) (.error cause)
  | ok {a b} : R a b → Parallel R (.ok a) (.ok b)

namespace Parallel

variable {α β α' β' : Type} {R : α → β → Prop} {S : α' → β' → Prop}

theorem bind {first : Except Fault α} {second : Except Fault β} {next : α → Except Fault α'}
    {next' : β → Except Fault β'} (h : Parallel R first second)
    (hnext : ∀ a b, R a b → Parallel S (next a) (next' b)) :
    Parallel S (first >>= next) (second >>= next') := by
  cases h with
  | error cause => exact .error cause
  | ok hab => exact hnext _ _ hab

theorem bind_eq {first : Except Fault α} {second : Except Fault β} {next : α → Except Fault α'}
    {next' : β → Except Fault α'} (h : Parallel R first second)
    (hnext : ∀ a b, R a b → next' b = next a) : second >>= next' = first >>= next := by
  cases h with
  | error cause => rfl
  | ok hab => exact hnext _ _ hab

theorem map {first : Except Fault α} {second : Except Fault β} {f : α → α'} {g : β → β'}
    (h : Parallel R first second) (hfg : ∀ a b, R a b → S (f a) (g b)) :
    Parallel S (first.map f) (second.map g) := by
  cases h with
  | error cause => exact .error cause
  | ok hab => exact .ok (hfg _ _ hab)

theorem mapM {f : α → Except Fault α'} {g : β → Except Fault β'}
    (hfg : ∀ a b, R a b → Parallel S (f a) (g b)) {xs : List α} {ys : List β}
    (h : List.Forall₂ R xs ys) : Parallel (List.Forall₂ S) (xs.mapM f) (ys.mapM g) := by
  induction h with
  | nil => exact .ok .nil
  | cons hab _ ih =>
    rw [List.mapM_cons, List.mapM_cons]
    refine (hfg _ _ hab).bind ?_
    intro first first' hfirst
    refine ih.bind ?_
    intro rest rest' hrest
    exact .ok (.cons hfirst hrest)

end Parallel

theorem parallel_refl {α : Type} (result : Except Fault α) : Parallel Eq result result := by
  cases result with
  | error cause => exact .error cause
  | ok a => exact .ok rfl

/-! ### Arrays with related entries -/

theorem optionRel_none_left {α β : Type} {R : α → β → Prop} {b : Option β}
    (h : Option.Rel R none b) : b = none := by
  cases h with
  | none => rfl

theorem optionRel_some_left {α β : Type} {R : α → β → Prop} {a : α} {b : Option β}
    (h : Option.Rel R (some a) b) : ∃ c, b = some c ∧ R a c := by
  cases h with
  | some hac => exact ⟨_, rfl, hac⟩

theorem optionRel_eq_iff {α : Type} {a b : Option α} : Option.Rel Eq a b ↔ a = b := by
  constructor
  · intro h
    cases h with
    | none => rfl
    | some hab => rw [hab]
  · rintro rfl
    cases a with
    | none => exact .none
    | some a => exact .some rfl

/-- The arrays have the same size, and `R` relates their entries. -/
def Pointwise {α β : Type} (R : α → β → Prop) (xs : Array α) (ys : Array β) : Prop :=
  List.Forall₂ R xs.toList ys.toList

namespace Pointwise

variable {α β : Type} {R : α → β → Prop} {xs : Array α} {ys : Array β}

theorem size_eq (h : Pointwise R xs ys) : ys.size = xs.size := by
  have hlength := h.length_eq
  rw [Array.length_toList, Array.length_toList] at hlength
  exact hlength.symm

theorem getElem? (h : Pointwise R xs ys) (i : Nat) : Option.Rel R xs[i]? ys[i]? := by
  have hlists : ∀ {xs : List α} {ys : List β}, List.Forall₂ R xs ys →
      Option.Rel R xs[i]? ys[i]? := by
    intro xs ys hxy
    induction hxy generalizing i with
    | nil => exact .none
    | cons hab _ ih =>
      cases i with
      | zero => exact .some hab
      | succ i => exact ih i
  rw [← Array.getElem?_toList, ← Array.getElem?_toList]
  exact hlists h

theorem append {xs' : Array α} {ys' : Array β} (h : Pointwise R xs ys)
    (h' : Pointwise R xs' ys') : Pointwise R (xs ++ xs') (ys ++ ys') := by
  unfold Pointwise
  rw [Array.toList_append, Array.toList_append]
  exact List.rel_append h h'

theorem push (h : Pointwise R xs ys) {a : α} {b : β} (hab : R a b) :
    Pointwise R (xs.push a) (ys.push b) := by
  unfold Pointwise
  rw [Array.toList_push, Array.toList_push]
  exact List.rel_append h (.cons hab .nil)

theorem modify (h : Pointwise R xs ys) (i : Nat) {f : α → α} {g : β → β}
    (hfg : ∀ a b, R a b → R (f a) (g b)) : Pointwise R (xs.modify i f) (ys.modify i g) := by
  have hlists : ∀ {xs : List α} {ys : List β}, List.Forall₂ R xs ys →
      List.Forall₂ R (xs.modify i f) (ys.modify i g) := by
    intro xs ys hxy
    induction hxy generalizing i with
    | nil => cases i <;> exact .nil
    | cons hab hrest ih =>
      cases i with
      | zero => exact .cons (hfg _ _ hab) hrest
      | succ i => exact .cons hab (ih i)
  unfold Pointwise
  rw [Array.toList_modify, Array.toList_modify]
  exact hlists h

theorem setIfInBounds (h : Pointwise R xs ys) (i : Nat) {a : α} {b : β} (hab : R a b) :
    Pointwise R (xs.setIfInBounds i a) (ys.setIfInBounds i b) := by
  have hmodified := h.modify i (f := fun _ => a) (g := fun _ => b) fun _ _ _ => hab
  unfold Pointwise at hmodified ⊢
  rw [Array.toList_modify, Array.toList_modify] at hmodified
  rw [Array.toList_setIfInBounds, Array.toList_setIfInBounds, List.set_eq_modify,
    List.set_eq_modify]
  exact hmodified

/-- What keeps the entries related may be done for one index after another. -/
theorem foldl (h : Pointwise R xs ys) (ids : Array Nat) {f : α → α} {g : β → β}
    (hfg : ∀ a b, R a b → R (f a) (g b)) :
    Pointwise R (ids.foldl (fun xs id => xs.modify id f) xs)
      (ids.foldl (fun ys id => ys.modify id g) ys) := by
  rw [← Array.foldl_toList, ← Array.foldl_toList]
  induction ids.toList generalizing xs ys with
  | nil => exact h
  | cons id ids ih => exact ih (h.modify id hfg)

end Pointwise

/-! ### Types that differ in their nested interpreters -/

section Types

variable (nested : Interpreter → Interpreter → Prop)

inductive Inclusion.Alike : Inclusion → Inclusion → Prop
  | mk {delimiters baseDir extension override override'} :
      Option.Rel nested override override' →
      Inclusion.Alike ⟨delimiters, baseDir, extension, override⟩
        ⟨delimiters, baseDir, extension, override'⟩

inductive Kind.Alike : Kind → Kind → Prop
  | plain : Kind.Alike .plain .plain
  | delimited (tags : Delimiters) : Kind.Alike (.delimited tags) (.delimited tags)
  | comment (tags : Delimiters) : Kind.Alike (.comment tags) (.comment tags)
  | inclusion {settings settings'} : settings.Alike nested settings' →
      Kind.Alike (.inclusion settings) (.inclusion settings')

inductive BlockType.Alike : BlockType → BlockType → Prop
  | mk {name kind kind' flags escape} : kind.Alike nested kind' →
      BlockType.Alike ⟨name, kind, flags, escape⟩ ⟨name, kind', flags, escape⟩

inductive Block.Alike : Block → Block → Prop
  | mk {type type' source start stop closeLen} : type.Alike nested type' →
      Block.Alike ⟨type, source, start, stop, closeLen⟩ ⟨type', source, start, stop, closeLen⟩

inductive Node.Alike : Node → Node → Prop
  | mk {block block' parent children spliced} : Option.Rel (Block.Alike nested) block block' →
      Node.Alike ⟨block, parent, children, spliced⟩ ⟨block', parent, children, spliced⟩

end Types

section

variable {nested : Interpreter → Interpreter → Prop}

theorem Inclusion.Alike.resolve {settings settings' : Inclusion}
    (h : settings.Alike nested settings') : settings'.resolve = settings.resolve := by
  cases h with
  | mk _ => rfl

/-- Related interpreters hand included files on to related ones. -/
theorem Inclusion.Alike.getD_override {settings settings' : Inclusion}
    (h : settings.Alike nested settings') {R : Interpreter → Interpreter → Prop}
    (hnested : ∀ inner inner', nested inner inner' → R inner inner')
    {interpreter interpreter' : Interpreter} (hself : R interpreter interpreter') :
    R (settings.override.getD interpreter) (settings'.override.getD interpreter') := by
  cases h with
  | mk hover =>
    cases hover with
    | none => exact hself
    | some hinner => exact hnested _ _ hinner

namespace BlockType

variable {type type' : BlockType}

theorem alike_plain : BlockType.plain.Alike nested BlockType.plain := .mk .plain

theorem Alike.flags (h : type.Alike nested type') : type'.flags = type.flags := by
  cases h with
  | mk _ => rfl

theorem Alike.escape (h : type.Alike nested type') : type'.escape = type.escape := by
  cases h with
  | mk _ => rfl

theorem Alike.delimiters? (h : type.Alike nested type') : type'.delimiters? = type.delimiters? := by
  cases h with
  | mk hkind =>
    cases hkind with
    | plain | delimited | comment => rfl
    | inclusion hsettings =>
      cases hsettings with
      | mk _ => rfl

theorem Alike.inclusion? (h : type.Alike nested type') :
    Option.Rel (Inclusion.Alike nested) type.inclusion? type'.inclusion? := by
  cases h with
  | mk hkind =>
    cases hkind with
    | plain | delimited | comment => exact .none
    | inclusion hsettings => exact .some hsettings

/-- Types without a nested interpreter do not differ. -/
theorem Alike.eq_of_override_eq_none (h : type.Alike nested type')
    (hnone : ∀ settings, type.inclusion? = some settings → settings.override = none) :
    type' = type := by
  cases h with
  | mk hkind =>
    cases hkind with
    | plain | delimited | comment => rfl
    | inclusion hsettings =>
      have hover := hnone _ rfl
      cases hsettings with
      | mk hrelated =>
        cases hrelated with
        | none => rfl
        | some _ => cases hover

theorem Alike.openTag (h : type.Alike nested type') : type'.openTag = type.openTag := by
  simp only [BlockType.openTag, h.delimiters?]

theorem Alike.closeTag (h : type.Alike nested type') : type'.closeTag = type.closeTag := by
  simp only [BlockType.closeTag, h.delimiters?]

theorem Alike.opensBetween (h : type.Alike nested type') :
    type'.opensBetween = type.opensBetween := by
  funext previous rest
  simp only [BlockType.opensBetween, BlockType.isEscaped, h.escape, h.delimiters?]

theorem Alike.closesBetween (h : type.Alike nested type') :
    type'.closesBetween = type.closesBetween := by
  funext previous rest
  simp only [BlockType.closesBetween, BlockType.isEscaped, h.escape, h.delimiters?]

theorem Alike.opens (h : type.Alike nested type') : type'.opens = type.opens := by
  funext text pos
  simp only [BlockType.opens, h.opensBetween]

end BlockType

/-! ### Blocks and nodes of such types -/

namespace Block

variable {block block' : Block}

theorem Alike.type (h : block.Alike nested block') : block.type.Alike nested block'.type := by
  cases h with
  | mk htype => exact htype

theorem Alike.label (h : block.Alike nested block') : block'.label = block.label := by
  cases h with
  | mk htype =>
    cases htype with
    | mk _ => rfl

theorem Alike.close (h : block.Alike nested block') (pos markerLen : Nat) :
    Parallel (Alike nested) (block.close pos markerLen) (block'.close pos markerLen) := by
  cases h with
  | mk htype =>
    unfold Block.close
    dsimp only
    split
    · exact .error _
    · apply (parallel_refl _).bind
      rintro stop _ rfl
      exact .ok (.mk htype)

theorem Alike.shiftSource (h : block.Alike nested block') (shift : Nat) :
    Parallel (Alike nested) (Document.shiftSource shift block)
      (Document.shiftSource shift block') := by
  cases h with
  | mk htype =>
    apply (parallel_refl _).map
    rintro source _ rfl
    exact .mk htype

theorem Alike.bodySpan? (h : block.Alike nested block') : block'.bodySpan? = block.bodySpan? := by
  cases h with
  | mk htype => simp only [Block.bodySpan?, BlockType.openLen, htype.openTag]

theorem Alike.render (h : block.Alike nested block') : block'.render = block.render := by
  cases h with
  | mk htype =>
    cases htype with
    | mk hkind =>
      cases hkind with
      | plain | delimited | comment | inclusion => rfl

end Block

theorem Node.Alike.transplant {node node' : Node} (h : node.Alike nested node')
    (count shift target : Nat) :
    Parallel (Node.Alike nested) (Document.transplant count shift target node)
      (Document.transplant count shift target node') := by
  cases h with
  | mk hblock =>
    unfold Document.transplant
    cases hblock with
    | none => exact .ok (.mk .none)
    | some hblock =>
      have hshifted := (hblock.shiftSource shift).map (S := Option.Rel (Block.Alike nested))
        (f := some) (g := some) fun _ _ => .some
      apply hshifted.bind
      intro block block' hblock
      exact .ok (.mk hblock)

end

/-! ### With equal nested interpreters nothing differs -/

theorem Inclusion.alike_eq_iff {settings settings' : Inclusion} :
    settings.Alike Eq settings' ↔ settings = settings' := by
  constructor
  · intro h
    cases h with
    | mk hover => rw [optionRel_eq_iff.1 hover]
  · rintro rfl
    obtain ⟨delimiters, baseDir, extension, override⟩ := settings
    exact .mk (optionRel_eq_iff.2 rfl)

theorem BlockType.alike_eq_iff {type type' : BlockType} : type.Alike Eq type' ↔ type = type' := by
  constructor
  · intro h
    cases h with
    | mk hkind =>
      cases hkind with
      | plain | delimited | comment => rfl
      | inclusion hsettings => rw [Inclusion.alike_eq_iff.1 hsettings]
  · rintro rfl
    obtain ⟨name, kind, flags, escape⟩ := type
    apply Alike.mk
    cases kind with
    | plain => exact .plain
    | delimited tags => exact .delimited tags
    | comment tags => exact .comment tags
    | inclusion settings => exact .inclusion (Inclusion.alike_eq_iff.2 rfl)

theorem Block.alike_eq_iff {block block' : Block} : block.Alike Eq block' ↔ block = block' := by
  constructor
  · intro h
    cases h with
    | mk htype => rw [BlockType.alike_eq_iff.1 htype]
  · rintro rfl
    exact .mk (BlockType.alike_eq_iff.2 rfl)

theorem Node.alike_eq_iff {node node' : Node} : node.Alike Eq node' ↔ node = node' := by
  have hblocks : Block.Alike Eq = Eq := by
    funext block block'
    exact propext Block.alike_eq_iff
  constructor
  · intro h
    cases h with
    | mk hblock =>
      rw [hblocks] at hblock
      rw [optionRel_eq_iff.1 hblock]
  · rintro rfl
    obtain ⟨block, parent, children, spliced⟩ := node
    apply Alike.mk
    rw [hblocks]
    exact optionRel_eq_iff.2 rfl

/-! ### Sources that differ in their paths -/

/-- A relation between lists of sources with the same texts, also when more sources are
    added to both. -/
structure SameTexts (allowed : Array Source → Array Source → Prop) : Prop where
  texts : ∀ {sources sources'}, allowed sources sources' →
    sources'.map Source.text = sources.map Source.text
  append : ∀ {sources sources'} (more : Array Source), allowed sources sources' →
    allowed (sources ++ more) (sources' ++ more)

theorem sameTexts_eq : SameTexts Eq := by
  refine ⟨?_, ?_⟩
  · rintro sources sources' rfl
    rfl
  · rintro sources sources' more rfl
    rfl

theorem sameTexts_map : SameTexts fun sources sources' =>
    sources'.map Source.text = sources.map Source.text := by
  refine ⟨fun h => h, ?_⟩
  intro sources sources' more h
  rw [Array.map_append, Array.map_append, h]

/-! ### Building documents side by side -/

namespace Document

structure Alike (allowed : Array Source → Array Source → Prop)
    (nested : Interpreter → Interpreter → Prop) (doc doc' : Document) : Prop where
  sources : allowed doc.sources doc'.sources
  nodes : Pointwise (Node.Alike nested) doc.nodes doc'.nodes
  openBlocks : doc'.openBlocks = doc.openBlocks

theorem Alike.eq {doc doc' : Document} (h : doc.Alike Eq Eq doc') : doc' = doc := by
  have hnodes : doc.nodes.toList = doc'.nodes.toList := by
    have heq : Node.Alike Eq = Eq := by
      funext node node'
      exact propext Node.alike_eq_iff
    have hpointwise := h.nodes
    rwa [Pointwise, heq, List.forall₂_eq_eq_eq] at hpointwise
  obtain ⟨sources, nodes, openBlocks⟩ := doc
  obtain ⟨sources', nodes', openBlocks'⟩ := doc'
  rw [Document.mk.injEq]
  exact ⟨h.sources.symm, Array.ext' hnodes.symm, h.openBlocks⟩

theorem alike_refl (doc : Document) : doc.Alike Eq Eq doc :=
  ⟨rfl, List.forall₂_same.2 fun _ _ => Node.alike_eq_iff.2 rfl, rfl⟩

section

variable {allowed : Array Source → Array Source → Prop}
  {nested : Interpreter → Interpreter → Prop} {doc doc' : Document}

theorem Alike.blockOf? (h : doc.Alike allowed nested doc') (id : Nat) :
    Option.Rel (Block.Alike nested) (doc.blockOf? id) (doc'.blockOf? id) := by
  have hnode := h.nodes.getElem? id
  unfold Document.blockOf?
  generalize doc.nodes[id]? = found, doc'.nodes[id]? = found' at hnode
  cases hnode with
  | none => exact .none
  | some halike =>
    cases halike with
    | mk hblock => exact hblock

theorem Alike.active? (h : doc.Alike allowed nested doc') : doc'.active? = doc.active? := by
  rw [Document.active?, h.openBlocks]
  rfl

theorem Alike.activeBlock? (h : doc.Alike allowed nested doc') :
    Option.Rel (Block.Alike nested) doc.activeBlock? doc'.activeBlock? := by
  unfold Document.activeBlock?
  rw [h.active?]
  cases doc.active? with
  | none => exact .none
  | some id => exact h.blockOf? id

theorem Alike.push (h : doc.Alike allowed nested doc') {block block' : Block}
    (hblock : block.Alike nested block') :
    (doc.push block).Alike allowed nested (doc'.push block') := by
  have hinnermost : doc'.innermost = doc.innermost := by
    rw [innermost, h.active?]
    rfl
  unfold Document.push
  rw [hinnermost]
  refine ⟨h.sources, ?_, ?_⟩
  · dsimp only
    rw [h.nodes.size_eq]
    apply (h.nodes.push (.mk (.some hblock))).modify
    intro node node' hnode
    cases hnode with
    | mk hblock => exact .mk hblock
  · dsimp only
    rw [h.nodes.size_eq, h.openBlocks]

theorem Alike.node (h : doc.Alike allowed nested doc') (id : Nat) :
    Parallel (Node.Alike nested) (doc.node id) (doc'.node id) := by
  have hnode := h.nodes.getElem? id
  unfold Document.node
  generalize doc.nodes[id]? = found, doc'.nodes[id]? = found' at hnode
  cases hnode with
  | none => exact .error _
  | some halike => exact .ok halike

theorem Alike.closeNode (h : doc.Alike allowed nested doc') (id pos markerLen : Nat) :
    Parallel (Alike allowed nested) (doc.closeNode id pos markerLen)
      (doc'.closeNode id pos markerLen) := by
  unfold Document.closeNode
  apply (h.node id).bind
  intro node node' hnode
  cases hnode with
  | mk hblock =>
    cases hblock with
    | none => exact .ok h
    | some hblock =>
      apply (hblock.close pos markerLen).bind
      intro closed closed' hclosed
      exact .ok ⟨h.sources, h.nodes.setIfInBounds id (.mk (.some hclosed)), h.openBlocks⟩

theorem Alike.closeInnermost (h : doc.Alike allowed nested doc') (pos markerLen : Nat) :
    Parallel (Alike allowed nested) (doc.closeInnermost pos markerLen)
      (doc'.closeInnermost pos markerLen) := by
  obtain ⟨sources, nodes, openBlocks⟩ := doc
  obtain ⟨sources', nodes', openBlocks'⟩ := doc'
  obtain ⟨hsources, hnodes, rfl⟩ := h
  cases openBlocks' with
  | nil => exact .ok ⟨hsources, hnodes, rfl⟩
  | cons id outer =>
    have houter : Alike allowed nested ⟨sources, nodes, outer⟩ ⟨sources', nodes', outer⟩ :=
      ⟨hsources, hnodes, rfl⟩
    exact houter.closeNode id pos markerLen

theorem Alike.isCloseableByEof (h : doc.Alike allowed nested doc') (id : Nat) :
    doc'.isCloseableByEof id = doc.isCloseableByEof id := by
  have hblock := h.blockOf? id
  unfold Document.blockOf? at hblock
  unfold Document.isCloseableByEof
  generalize doc.nodes[id]?.bind Node.block = found,
    doc'.nodes[id]?.bind Node.block = found' at hblock ⊢
  cases hblock with
  | none => rfl
  | some halike => exact congrArg Flags.closeableByEof halike.type.flags

theorem Alike.closeWhile (h : doc.Alike allowed nested doc') (stop : Nat) (ids : List Nat) :
    Parallel (fun a b => Alike allowed nested a.1 b.1 ∧ b.2 = a.2) (doc.closeWhile stop ids)
      (doc'.closeWhile stop ids) := by
  induction ids generalizing doc doc' with
  | nil => exact .ok ⟨h, rfl⟩
  | cons id inner ih =>
    unfold Document.closeWhile
    rw [h.isCloseableByEof]
    split
    · refine (h.closeNode id stop 0).bind ?_
      intro closed closed' hclosed
      exact ih hclosed
    · exact .ok ⟨h, rfl⟩

theorem Alike.sourceText (h : doc.Alike allowed nested doc') (hallowed : SameTexts allowed)
    (id : Nat) : doc'.sources[id]?.map Source.text = doc.sources[id]?.map Source.text := by
  have htexts := congrArg (fun texts => texts[id]?) (hallowed.texts h.sources)
  rwa [Array.getElem?_map, Array.getElem?_map] at htexts

theorem Alike.textOf (h : doc.Alike allowed nested doc') (hallowed : SameTexts allowed)
    {block block' : Block} (hblock : block.Alike nested block') :
    doc'.textOf block' = doc.textOf block := by
  cases hblock with
  | @mk type type' id start stop closeLen htype =>
    have htext := h.sourceText hallowed id
    unfold Document.textOf source
    dsimp only
    generalize doc.sources[id]? = found, doc'.sources[id]? = found' at htext
    cases found with
    | none =>
      rw [Option.map_eq_none_iff.1 htext]
    | some source =>
      obtain ⟨source', rfl, hsame⟩ := Option.map_eq_some_iff.1 htext
      exact congrArg Except.ok hsame

theorem Alike.text (h : doc.Alike allowed nested doc') (hallowed : SameTexts allowed) :
    doc'.text = doc.text := by
  have htext := h.sourceText hallowed 0
  unfold Document.text mainSource
  generalize doc.sources[0]? = found, doc'.sources[0]? = found' at htext
  cases found with
  | none =>
    rw [Option.map_eq_none_iff.1 htext]
  | some source =>
    obtain ⟨source', rfl, hsame⟩ := Option.map_eq_some_iff.1 htext
    exact hsame

theorem Alike.closeAtEof (h : doc.Alike allowed nested doc') (hallowed : SameTexts allowed) :
    Parallel (fun a b => Alike allowed nested a.1 b.1 ∧ b.2 = a.2) doc.closeAtEof
      doc'.closeAtEof := by
  unfold Document.closeAtEof
  rw [h.text hallowed, h.openBlocks]
  refine (h.closeWhile _ _).bind ?_
  rintro ⟨closed, blocked⟩ ⟨closed', blocked'⟩ ⟨hclosed, rfl⟩
  exact .ok ⟨⟨hclosed.sources, hclosed.nodes, rfl⟩, rfl⟩

/-- The nodes of an included file may differ in their nested interpreters, too. -/
theorem Alike.splice (h : doc.Alike allowed nested doc') (hallowed : SameTexts allowed)
    (target : Nat) {sub sub' : Document} (hsub : sub.Alike Eq nested sub') :
    Parallel (Alike allowed nested) (doc.splice target sub) (doc'.splice target sub') := by
  have hsize : doc'.sources.size = doc.sources.size := by
    have hsizes := congrArg Array.size (hallowed.texts h.sources)
    rwa [Array.size_map, Array.size_map] at hsizes
  have hsources : allowed (doc.sources ++ sub.sources) (doc'.sources ++ sub'.sources) := by
    rw [← hsub.sources]
    exact hallowed.append _ h.sources
  have hmoved := Parallel.mapM (fun _ _ hnode => hnode.transplant doc.nodes.size doc.sources.size
    target) (List.forall₂_drop 1 hsub.nodes)
  have htop := hsub.nodes.getElem? 0
  unfold Document.splice
  rw [hsize, h.nodes.size_eq]
  generalize sub.nodes[0]? = top, sub'.nodes[0]? = top' at htop
  apply hmoved.bind
  intro moved moved' hmoved
  have happended : Pointwise (Node.Alike nested) (doc.nodes ++ moved.toArray)
      (doc'.nodes ++ moved'.toArray) := h.nodes.append hmoved
  have htarget := happended.getElem? target
  dsimp only
  generalize (doc.nodes ++ moved.toArray)[target]? = found,
    (doc'.nodes ++ moved'.toArray)[target]? = found' at htarget
  cases htarget with
  | none => exact .error _
  | some hnode =>
    cases hnode with
    | mk _ =>
      refine .ok ⟨hsources, ?_, h.openBlocks⟩
      apply (happended.foldl _ ?_).modify
      · intro node node' hnode
        cases hnode with
        | mk hblock =>
          cases htop with
          | none => exact .mk hblock
          | some htop =>
            cases htop with
            | mk _ => exact .mk hblock
      · intro node node' hnode
        cases hnode with
        | mk hblock => exact .mk hblock

/-! ### Reading such documents -/

theorem Alike.nextWithin (h : doc.Alike allowed nested doc') (walk : Postorder) (limit : Nat) :
    walk.nextWithin doc' limit = walk.nextWithin doc limit := by
  induction limit generalizing walk with
  | zero => rfl
  | succ limit ih =>
    obtain ⟨pending⟩ := walk
    cases pending with
    | nil => rfl
    | cons stop pending =>
      apply (h.node stop.visit.id).bind_eq
      intro node node' hnode
      cases hnode with
      | mk _ => simp only [ih]

theorem Alike.visitsWithin (h : doc.Alike allowed nested doc') (walk : Postorder) (limit : Nat) :
    walk.visitsWithin doc' limit = walk.visitsWithin doc limit := by
  have hnext : ∀ walk : Postorder, walk.next? doc' = walk.next? doc := by
    intro walk
    unfold Postorder.next? Postorder.stepLimit
    rw [h.nodes.size_eq, h.nextWithin]
  induction limit generalizing walk with
  | zero => rfl
  | succ limit ih => simp only [Postorder.visitsWithin, hnext, ih]

theorem Alike.compose (h : doc.Alike allowed nested doc') (hallowed : SameTexts allowed) (id : Nat)
    (children : Text) : doc'.compose id children = doc.compose id children := by
  apply (h.node id).bind_eq
  intro node node' hnode
  cases hnode with
  | mk hblock =>
    cases hblock with
    | none => rfl
    | some hblock =>
      dsimp only
      rw [h.textOf hallowed hblock, hblock.render]
      rfl

theorem Alike.renderNode (h : doc.Alike allowed nested doc') (hallowed : SameTexts allowed)
    (id : Nat) : doc'.renderNode id = doc.renderNode id := by
  have hvisit : doc'.renderVisit = doc.renderVisit := by
    funext levels visit
    simp only [Document.renderVisit, h.compose hallowed]
  simp only [Document.renderNode, postorderFrom, Postorder.visits, h.visitsWithin,
    h.nodes.size_eq, hvisit]

theorem Alike.renderChildren (h : doc.Alike allowed nested doc') (hallowed : SameTexts allowed)
    (id : Nat) : doc'.renderChildren id = doc.renderChildren id := by
  have hrender : doc'.renderNode = doc.renderNode := by
    funext child
    exact h.renderNode hallowed child
  apply (h.node id).bind_eq
  intro node node' hnode
  cases hnode with
  | mk _ => simp only [hrender]

theorem Alike.innerText (h : doc.Alike allowed nested doc') (hallowed : SameTexts allowed)
    (id : Nat) : doc'.innerText id = doc.innerText id := by
  apply (h.node id).bind_eq
  intro node node' hnode
  cases hnode with
  | mk hblock =>
    cases hblock with
    | none => exact h.renderChildren hallowed id
    | some hblock =>
      dsimp only
      rw [h.renderChildren hallowed, hblock.bodySpan?, h.textOf hallowed hblock]
      rfl

end

end Document

end Blockwise
