/-
  Blockwise/Proofs/Document/Frames.lean
  =====================================
  **What a document that is being built renders as so far.**  On the path of open nodes,
  each one holds settled nodes and, behind them, the next one.  `Framed doc inner frames`
  gives the texts that the settled nodes render as: `inner` for those of the innermost open
  node, and a frame for each open block, with the text in front of it.

  A settled node renders alike from then on (`Embeds.renders`), so an operation changes
  these texts in one place: a block that opens puts a frame on top, a block that closes is
  added to the text in front of it, and a document that is spliced in replaces the inner
  text (`Framed.push`, `Framed.close`, `Framed.graft`).
-/
import Blockwise.Proofs.Document.Splice

namespace Blockwise

/-- An open block, and what is rendered in front of it inside of the block around it. -/
structure Frame where
  type : BlockType
  before : Text

/-- What a block renders as that has been closed by its tag, around the text inside it. -/
def BlockType.enclose (type : BlockType) (inner : Text) : Text :=
  match type.kind with
  | .plain => inner
  | .delimited tags => tags.openTag ++ (inner ++ tags.closeTag)
  | .comment _ => []
  | .inclusion _ => inner

namespace Document

/-! ### Open nodes and the texts in them -/

/-- The node holds settled nodes that render as `text`, and behind them the nodes `last`. -/
def Filled (doc : Document) (id : Nat) (last : List Nat) (text : Text) : Prop :=
  ∃ ids, doc.childrenOf id = ids ++ last ∧ (∀ j ∈ ids, doc.Settled j) ∧ doc.renders ids = .ok text

/-- The open nodes of a list, innermost first, are the frames, and the innermost one holds
    `inner` and the nodes `last`. -/
inductive FramedAlong (doc : Document) : (ids last : List Nat) → Text → List Frame → Prop
  | top {last inner} : doc.Filled root last inner → FramedAlong doc [] last inner []
  | block {id ids last inner block frame frames} : doc.blockOf? id = some block →
      block.type = frame.type → doc.Filled id last inner →
      FramedAlong doc ids [id] frame.before frames →
      FramedAlong doc (id :: ids) last inner (frame :: frames)

/-- The texts around and inside of all open nodes. -/
def Framed (doc : Document) (inner : Text) (frames : List Frame) : Prop :=
  doc.FramedAlong doc.openBlocks [] inner frames

/-- The settled nodes of `doc` are settled in `doc'`, too, and render alike. -/
def Keeps (doc doc' : Document) : Prop :=
  ∀ ids, (∀ j ∈ ids, doc.Settled j) →
    (∀ j ∈ ids, doc'.Settled j) ∧ doc'.renders ids = doc.renders ids

variable {doc doc' sub : Document} {id : Nat} {ids last : List Nat} {text inner : Text}
  {frame : Frame} {frames : List Frame}

/-! ### Settled nodes render alike -/

theorem Building.settled_under (h : doc.Building) (hid : doc.Settled id) {j : Nat}
    (hj : doc.Under id j) : doc.Settled j := by
  induction hj using Relation.ReflTransGen.head_induction_on with
  | refl => exact hid
  | head hparent _ ih => exact h.settled_child ih (h.arena.parent _ _ hparent)

/-- **Settled nodes render alike wherever they are moved.** -/
theorem Embeds.renders {move : Nat → Nat} {shift : Nat} (h : doc.Embeds doc' move shift)
    (hdoc : doc.Building) (hdoc' : doc'.Arena) (hsources : doc.Sourced)
    (hids : ∀ id ∈ ids, doc.Settled id) : doc'.renders (ids.map move) = doc.renders ids := by
  apply renders_map
  intro id hid
  have hsettled := hids id hid
  apply renderNode_move move hdoc.arena hdoc' hsettled.lt_size (h.settled id hsettled).lt_size
  intro j hj
  have hj := hdoc.settled_under hsettled hj
  refine ⟨h.childrenOf j hj, ?_⟩
  apply compose_congr shift hj.lt_size (h.settled j hj).lt_size (h.blockOf? j hj)
  · intro block hblock
    have hsource := Array.getElem?_eq_getElem (hsources j block hj hblock)
    rw [textOf_eq_ok hsource, textOf_eq_ok (h.sources _ _ hsource)]
  · rw [h.childrenOf j hj, List.map_eq_nil_iff]
  · exact h.splicedAt j hj

theorem renders_append {ids' : List Nat} {text' : Text} (h : doc.renders ids = .ok text)
    (h' : doc.renders ids' = .ok text') : doc.renders (ids ++ ids') = .ok (text ++ text') := by
  obtain ⟨texts, htexts, hflat⟩ := bind_eq_ok_iff.1 h
  obtain ⟨texts', htexts', hflat'⟩ := bind_eq_ok_iff.1 h'
  cases hflat
  cases hflat'
  unfold renders
  rw [List.mapM_append, htexts, htexts']
  simp only [bind, Except.bind, pure, Except.pure, List.flatten_append]

theorem renders_singleton (h : doc.renderNode id = .ok text) : doc.renders [id] = .ok text := by
  unfold renders
  rw [List.mapM_cons, h]
  simp [bind, Except.bind, pure, Except.pure]

/-! ### What operations keep -/

theorem Embeds.keeps (h : doc.Embeds doc' (fun j => j) 0) (hdoc : doc.Building)
    (hdoc' : doc'.Arena) (hsources : doc.Sourced) : doc.Keeps doc' := by
  intro ids hids
  refine ⟨fun j hj => h.settled j (hids j hj), ?_⟩
  rw [← h.renders hdoc hdoc' hsources hids, List.map_id']

theorem Filled.keep {more : List Nat} (h : doc.Filled id last text) (hkeeps : doc.Keeps doc')
    (hchildren : doc'.childrenOf id = doc.childrenOf id ++ more) :
    doc'.Filled id (last ++ more) text := by
  obtain ⟨ids, hsplit, hsettled, hrenders⟩ := h
  obtain ⟨hsettled', hsame⟩ := hkeeps ids hsettled
  refine ⟨ids, ?_, hsettled', hsame.trans hrenders⟩
  rw [hchildren, hsplit, List.append_assoc]

theorem Filled.renders (h : doc.Filled id [] text) :
    doc.renders (doc.childrenOf id) = .ok text := by
  obtain ⟨ids, hsplit, -, hrenders⟩ := h
  rw [hsplit, List.append_nil, hrenders]

/-- A node behind the others settles. -/
theorem Filled.settle {c : Nat} {rendered : Text} (h : doc.Filled id [c] text)
    (hsettled : doc.Settled c) (hrender : doc.renderNode c = .ok rendered) :
    doc.Filled id [] (text ++ rendered) := by
  obtain ⟨ids, hsplit, hothers, hrenders⟩ := h
  refine ⟨ids ++ [c], by rw [hsplit, List.append_nil], ?_,
    renders_append hrenders (renders_singleton hrender)⟩
  intro j hj
  rcases List.mem_append.1 hj with hj | hj
  · exact hothers j hj
  · rw [List.mem_singleton.1 hj]
    exact hsettled

theorem Spine.nodup_root {P : Block → Prop} (h : doc.Arena) (hspine : doc.Spine P ids) :
    (ids ++ [root]).Nodup := by
  refine List.nodup_append.2 ⟨hspine.nodup h, List.nodup_singleton _, ?_⟩
  intro j hj k hk
  obtain ⟨block, hblock, -⟩ := hspine.exists_block j hj
  rw [List.mem_singleton.1 hk]
  exact h.ne_root hblock

namespace FramedAlong

theorem keep (h : doc.FramedAlong ids last inner frames) (hkeeps : doc.Keeps doc')
    (hchildren : ∀ j ∈ root :: ids, doc'.childrenOf j = doc.childrenOf j)
    (hblocks : ∀ j ∈ ids, doc'.blockOf? j = doc.blockOf? j) :
    doc'.FramedAlong ids last inner frames := by
  have hfilled : ∀ {j last text}, j ∈ root :: ids → doc.Filled j last text →
      doc'.Filled j last text := by
    intro j last text hj hfilled
    have hkept := hfilled.keep hkeeps (by rw [hchildren j hj, List.append_nil])
    rwa [List.append_nil] at hkept
  induction h with
  | top h => exact .top (hfilled (List.mem_cons_self ..) h)
  | @block id ids last inner block frame frames hblock htype h _ ih =>
    refine .block ((hblocks id (List.mem_cons_self ..)).trans hblock) htype
      (hfilled (by simp) h) (ih ?_ ?_ ?_)
    · intro j hj
      exact hchildren j (by rcases List.mem_cons.1 hj with rfl | hj <;> simp [*])
    · intro j hj
      exact hblocks j (List.mem_cons_of_mem _ hj)
    · intro j last text hj
      exact hfilled (by rcases List.mem_cons.1 hj with rfl | hj <;> simp [*])

/-- Only the innermost open node changes what it holds. -/
theorem alter {last' : List Nat} {inner' : Text} (h : doc.FramedAlong ids last inner frames)
    (hnodup : (ids ++ [root]).Nodup) (hkeeps : doc.Keeps doc')
    (hinner : doc.Filled (ids.head?.getD root) last inner →
      doc'.Filled (ids.head?.getD root) last' inner')
    (hchildren : ∀ j ∈ root :: ids, j ≠ ids.head?.getD root →
      doc'.childrenOf j = doc.childrenOf j)
    (hblocks : ∀ j ∈ ids, doc'.blockOf? j = doc.blockOf? j) :
    doc'.FramedAlong ids last' inner' frames := by
  cases h with
  | top h => exact .top (hinner h)
  | @block id ids last inner block frame frames hblock htype h hframes =>
    rw [List.cons_append, List.nodup_cons, List.mem_append, List.mem_singleton, not_or] at hnodup
    refine .block ((hblocks id (List.mem_cons_self ..)).trans hblock) htype (hinner h)
      (hframes.keep hkeeps ?_ ?_)
    · intro j hj
      apply hchildren j
      · rcases List.mem_cons.1 hj with rfl | hj <;> simp [*]
      · rintro rfl
        rcases List.mem_cons.1 hj with hroot | hj
        · exact hnodup.1.2 hroot
        · exact hnodup.1.1 hj
    · intro j hj
      exact hblocks j (List.mem_cons_of_mem _ hj)

/-- The outermost open block stands behind what the root holds. -/
theorem outermost (h : doc.FramedAlong ids last inner frames)
    (hframe : frames.getLast? = some frame) :
    ∃ id block, ids.getLast? = some id ∧ doc.blockOf? id = some block ∧
      block.type = frame.type ∧ doc.Filled root [id] frame.before := by
  induction h with
  | top => cases hframe
  | @block id ids last inner block frame' frames hblock htype _ hframes ih =>
    cases hframes with
    | top h =>
      cases hframe
      exact ⟨id, block, rfl, hblock, htype, h⟩
    | block hblock' htype' hfilled' hframes' =>
      rw [List.getLast?_cons_cons] at hframe ⊢
      exact ih hframe

end FramedAlong

/-! ### Operations -/

/-- A block that has just been opened is not settled. -/
theorem Sourced.push {block : Block} (h : doc.Sourced) (hdoc : doc.Building) :
    (doc.push block).Sourced := by
  intro id found hid hfound
  have hlt := hid.lt_size
  have hnot := hid.not_open
  rw [openBlocks_push, List.mem_cons, not_or] at hnot
  rw [size_push] at hlt
  rw [blockOf?_push block hdoc.innermost_lt, if_neg hnot.1] at hfound
  exact h id found ⟨hid.ne_root, by omega, hnot.2⟩ hfound

namespace Framed

theorem ofSource (source : Source) : (ofSource source).Framed [] [] :=
  .top ⟨[], rfl, fun _ hj => absurd hj List.not_mem_nil, rfl⟩

/-- The children of the innermost open node render as the inner text. -/
theorem renders (h : doc.Framed inner frames) :
    doc.renders (doc.childrenOf doc.innermost) = .ok inner := by
  unfold Framed at h
  rw [innermost_eq]
  generalize doc.openBlocks = ids at h
  cases h with
  | top hfilled => exact hfilled.renders
  | block _ _ hfilled _ => exact hfilled.renders

/-- A block opens. -/
theorem push {block : Block} (h : doc.Framed inner frames) (hdoc : doc.Building)
    (hsources : doc.Sourced) (hopen : block.stop = none) :
    (doc.push block).Framed [] (⟨block.type, inner⟩ :: frames) := by
  have hin := hdoc.innermost_lt
  have hdoc' := hdoc.push hopen
  have hkeeps := (hdoc.embeds_push block).keeps hdoc hdoc'.arena hsources
  have hnew : doc.childrenOf doc.nodes.size = [] := by
    rw [childrenOf, Array.getElem?_eq_none (Nat.le_refl _)]
    rfl
  unfold Framed
  rw [openBlocks_push]
  refine .block ?_ rfl ⟨[], ?_, fun _ hj => absurd hj List.not_mem_nil, rfl⟩ ?_
  · rw [blockOf?_push block hin, if_pos rfl]
  · rw [childrenOf_push block hin, if_neg (Nat.ne_of_gt hin), hnew]
    rfl
  · apply FramedAlong.alter h (hdoc.spine.nodup_root hdoc.arena) hkeeps
    · intro hfilled
      apply hfilled.keep hkeeps
      rw [← innermost_eq, childrenOf_push block hin, if_pos rfl]
    · intro j _ hne
      rw [← innermost_eq] at hne
      rw [childrenOf_push block hin, if_neg hne]
    · intro j hj
      rw [blockOf?_push block hin, if_neg]
      exact Nat.ne_of_lt (hdoc.spine.lt_size hdoc.arena j hj)

/-- The innermost block closes. -/
theorem close {pos markerLen : Nat} {outer : List Nat} {rendered : Text}
    (h : doc.Framed inner (frame :: frames)) (hdoc : doc.Building) (hsources : doc.Sourced)
    (hopen : doc.openBlocks = id :: outer) (hclose : doc.closeInnermost pos markerLen = .ok doc')
    (hrender : doc'.renders (doc'.childrenOf id) = .ok inner →
      doc'.renderNode id = .ok rendered) :
    doc'.Framed (frame.before ++ rendered) frames := by
  obtain ⟨hsources', hopen', hclosed, -⟩ := closeInnermost_eq_ok hopen hclose
  have hdoc' : doc'.Building := hdoc.close hopen hopen' hclosed
  have hspine := hdoc.spine
  rw [hopen] at hspine
  have hnodup := hspine.nodup hdoc.arena
  have hkeeps : doc.Keeps doc' := by
    refine (hclosed.embeds hsources' ?_ ?_).keeps hdoc hdoc'.arena hsources
    · rw [hopen]
      simp
    · rw [hopen, hopen']
      exact List.subset_cons_self ..
  unfold Framed at h ⊢
  rw [hopen] at h
  rw [hopen']
  cases h with
  | @block _ _ _ _ block _ _ hblock htype hfilled hframes =>
    have hsettled : doc'.Settled id := by
      have hblock' : doc'.blockOf? id = some (block.closedAt pos markerLen) := by
        rw [hclosed.blockOf?, if_pos (List.mem_singleton.2 rfl), hblock]
        rfl
      exact hdoc'.settled_of_closed hblock' (Option.some_ne_none _)
    have hsame : ∀ j, doc'.childrenOf j = doc.childrenOf j ++ [] := by
      intro j
      rw [hclosed.childrenOf, List.append_nil]
    apply hframes.alter (hspine.2.2.nodup_root hdoc.arena) hkeeps
    · intro haround
      have hkept := haround.keep hkeeps (hsame _)
      rw [List.append_nil] at hkept
      exact hkept.settle hsettled (hrender (hfilled.keep hkeeps (hsame id)).renders)
    · intro j _ _
      exact hclosed.childrenOf j
    · intro j hj
      rw [hclosed.blockOf?, if_neg]
      rw [List.mem_singleton]
      rintro rfl
      exact (List.nodup_cons.1 hnodup).1 hj

/-- A block that opens and closes at once is added to the inner text. -/
theorem leaf {block : Block} {pos markerLen : Nat} {rendered : Text}
    (h : doc.Framed inner frames) (hdoc : doc.Building) (hsources : doc.Sourced)
    (hopen : block.stop = none) (hclose : (doc.push block).closeInnermost pos markerLen = .ok doc')
    (hrender : doc'.renderNode doc.nodes.size = .ok rendered) :
    doc'.Framed (inner ++ rendered) frames :=
  (h.push hdoc hsources hopen).close (hdoc.push hopen) (hsources.push hdoc)
    (openBlocks_push ..) hclose fun _ => hrender

/-- The innermost block holds another document instead. -/
theorem graft {outer : List Nat} {rendered : Text} (h : doc.Framed inner frames)
    (hdoc : doc.Building) (hsources : doc.Sourced) (hopen : doc.openBlocks = id :: outer)
    (hsub : sub.Building) (hsources' : sub.Sourced) (hclosed : sub.openBlocks = [])
    (hgraft : doc.Grafted sub doc' doc.innermost) (hrender : sub.render = .ok rendered) :
    doc'.Framed rendered frames := by
  have hin : doc.innermost = id := by rw [innermost_eq, hopen]; rfl
  have hdoc' := hdoc.graft hsub.arena hgraft
  have hmem : doc.innermost ∈ doc.openBlocks := by
    rw [hin, hopen]
    exact List.mem_cons_self ..
  have hkeeps := (hgraft.embeds_old hmem).keeps hdoc hdoc'.arena hsources
  have hsettled : ∀ c ∈ sub.childrenOf root, sub.Settled c := by
    intro c hc
    obtain ⟨hlt, hsize, -⟩ := hsub.arena.child root c hc
    exact ⟨Nat.ne_of_gt hlt, hsize, by rw [hclosed]; exact List.not_mem_nil⟩
  have hembeds := hgraft.embeds_new hdoc
  have htop : sub.renders (sub.childrenOf root) = .ok rendered := by
    have hroot : sub.render = sub.renders (sub.childrenOf root) :=
      renderNode_eq_renders hsub.arena hsub.arena.size_pos hsub.arena.compose_root
    rw [← hroot, hrender]
  have hlt := hdoc.spine.lt_size hdoc.arena
  unfold Framed at h ⊢
  rw [hgraft.openBlocks]
  apply FramedAlong.alter h (hdoc.spine.nodup_root hdoc.arena) hkeeps
  · intro _
    rw [← innermost_eq]
    refine ⟨(sub.childrenOf root).map (landing doc.nodes.size), ?_, ?_, ?_⟩
    · rw [hgraft.childrenOf _ hdoc.innermost_lt, if_pos rfl, List.append_nil]
    · intro j hj
      obtain ⟨c, hc, rfl⟩ := List.mem_map.1 hj
      exact hembeds.settled c (hsettled c hc)
    · rw [hembeds.renders hsub hdoc'.arena hsources' hsettled, htop]
  · intro j hj hne
    rw [← innermost_eq] at hne
    have hsize : j < doc.nodes.size := by
      rcases List.mem_cons.1 hj with rfl | hj
      · exact hdoc.arena.size_pos
      · exact hlt j hj
    rw [hgraft.childrenOf j hsize, if_neg hne]
  · intro j hj
    exact hgraft.blockOf? j (hlt j hj)

end Framed

end Document

end Blockwise
