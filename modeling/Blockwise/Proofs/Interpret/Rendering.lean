/-
  Blockwise/Proofs/Interpret/Rendering.lean
  =========================================
  **Rendering loses nothing but comments.**  Where no type includes files, a document is
  its one text, cut into nested blocks (`Document.Written`).  Delimited blocks render
  with the tags of their type in place of those in the text, which match them character
  by character; what is left out is what stands in comments, those that are still open
  included.

  The proof goes through the forest of a document from the leaves up
  (`Forest.render_written`), for any relation between characters that holds of a tag and
  the text it was recognised in: the same lower-case form in general, equality if all
  tags are compared exactly.
-/
import Blockwise.Proofs.Document.Forest
import Blockwise.Proofs.Interpret.Recognition
import Blockwise.Proofs.Document.Legible

namespace Blockwise

/-! ### What is left out -/

/-- The type is that of text which is left out. -/
def BlockType.isComment (type : BlockType) : Bool :=
  match type.kind with
  | .comment _ => true
  | _ => false

theorem BlockType.isPlain_of_isComment {type : BlockType} (h : type.isComment = true) :
    type.isPlain = false := by
  unfold isComment at h
  unfold isPlain
  split at h
  · next hkind => rw [hkind]
  · cases h

/-- Some of the blocks has the position in its span, in a source of `len` bytes. -/
def covers (len : Nat) (blocks : List Block) (pos : Nat) : Bool :=
  blocks.any fun block => decide (block.start ≤ pos) && decide (pos < block.stopIn len)

/-- The comments of a document. -/
def Document.comments (doc : Document) : List Block :=
  (doc.nodes.toList.filterMap Node.block).filter fun block => block.type.isComment

/-- The main text without the characters that stand in comments. -/
def Document.withoutComments (doc : Document) : Text :=
  doc.text.without (covers doc.text.byteLen doc.comments) 0

theorem covers_eq_true_iff {len : Nat} {blocks : List Block} {pos : Nat} :
    covers len blocks pos = true ↔
      ∃ block ∈ blocks, block.start ≤ pos ∧ pos < block.stopIn len := by
  simp [covers]

theorem covers_congr {len : Nat} {blocks blocks' : List Block} {pos : Nat}
    (h : ∀ block, block.start ≤ pos → pos < block.stopIn len →
      (block ∈ blocks ↔ block ∈ blocks')) : covers len blocks pos = covers len blocks' pos := by
  rw [Bool.eq_iff_iff, covers_eq_true_iff, covers_eq_true_iff]
  constructor
  · rintro ⟨block, hblock, hlo, hhi⟩
    exact ⟨block, (h block hlo hhi).1 hblock, hlo, hhi⟩
  · rintro ⟨block, hblock, hlo, hhi⟩
    exact ⟨block, (h block hlo hhi).2 hblock, hlo, hhi⟩

namespace Forest

/-- The blocks of all nodes of a forest. -/
def blocks (doc : Document) (forest : Forest) : List Block := forest.ids.filterMap doc.blockOf?

def comments (doc : Document) (forest : Forest) : List Block :=
  (forest.blocks doc).filter fun block => block.type.isComment

theorem blocks_cons {doc : Document} {id : Nat} {block : Block}
    (h : doc.blockOf? id = some block) (below rest : Forest) :
    (cons id below rest).blocks doc = block :: (below.blocks doc ++ rest.blocks doc) := by
  rw [blocks, ids, List.filterMap_cons_some h, List.filterMap_append]
  rfl

theorem mem_comments_cons {doc : Document} {id : Nat} {block found : Block}
    (h : doc.blockOf? id = some block) {below rest : Forest} :
    found ∈ (cons id below rest).comments doc ↔
      (found = block ∧ block.type.isComment = true) ∨ found ∈ below.comments doc ∨
        found ∈ rest.comments doc := by
  simp only [comments, blocks_cons h, List.mem_filter, List.mem_cons, List.mem_append]
  constructor
  · rintro ⟨rfl | hbelow | hrest, hcomment⟩
    · exact Or.inl ⟨rfl, hcomment⟩
    · exact Or.inr (Or.inl ⟨hbelow, hcomment⟩)
    · exact Or.inr (Or.inr ⟨hrest, hcomment⟩)
  · rintro (⟨rfl, hcomment⟩ | ⟨hbelow, hcomment⟩ | ⟨hrest, hcomment⟩)
    · exact ⟨Or.inl rfl, hcomment⟩
    · exact ⟨Or.inr (Or.inl hbelow), hcomment⟩
    · exact ⟨Or.inr (Or.inr hrest), hcomment⟩

/-- In the span of the first node, what is below the others does not count. -/
theorem covers_first {doc : Document} {id len pos : Nat} {block : Block}
    (h : doc.blockOf? id = some block) {below rest : Forest}
    (hafter : ∀ found ∈ rest.blocks doc, block.stopIn len ≤ found.start)
    (hlo : block.start ≤ pos) (hhi : pos < block.stopIn len) :
    covers len ((cons id below rest).comments doc) pos =
      (block.type.isComment || covers len (below.comments doc) pos) := by
  rw [Bool.eq_iff_iff, Bool.or_eq_true, covers_eq_true_iff, covers_eq_true_iff]
  constructor
  · rintro ⟨found, hfound, hstart, hstop⟩
    rcases (mem_comments_cons h).1 hfound with ⟨-, hcomment⟩ | hbelow | hrest
    · exact Or.inl hcomment
    · exact Or.inr ⟨found, hbelow, hstart, hstop⟩
    · have := hafter found (List.mem_of_mem_filter hrest)
      omega
  · rintro (hcomment | ⟨found, hbelow, hstart, hstop⟩)
    · exact ⟨block, (mem_comments_cons h).2 (Or.inl ⟨rfl, hcomment⟩), hlo, hhi⟩
    · exact ⟨found, (mem_comments_cons h).2 (Or.inr (Or.inl hbelow)), hstart, hstop⟩

/-- Behind the first node, only the others count. -/
theorem covers_others {doc : Document} {id len pos : Nat} {block : Block}
    (h : doc.blockOf? id = some block) {below rest : Forest}
    (hinside : ∀ found ∈ below.blocks doc, found.stopIn len ≤ block.stopIn len)
    (hlo : block.stopIn len ≤ pos) :
    covers len ((cons id below rest).comments doc) pos = covers len (rest.comments doc) pos := by
  refine covers_congr fun found hstart hstop => ?_
  rw [mem_comments_cons h]
  constructor
  · rintro (⟨rfl, -⟩ | hbelow | hrest)
    · omega
    · have := hinside found (List.mem_of_mem_filter hbelow)
      omega
    · exact hrest
  · intro hrest
    exact Or.inr (Or.inr hrest)

end Forest

/-! ### Documents of one text -/

namespace Document

/-- Node `id` has a block that stands in the one text of the document, with its markers
    where the rules say and its children between them. -/
structure Written (doc : Document) (interpreter : Interpreter) (main : Source) (id : Nat)
    (block : Block) : Prop where
  text : doc.textOf block = .ok main.text
  source : block.source = 0
  placed : block.Placed main.text
  spliced : doc.splicedAt id = false
  plain : block.type.isPlain = true → doc.childrenOf id = []
  opens : block.type.isPlain = false → block.type ∈ interpreter.types ∧
    block.type.opens main.text block.start = true
  ends : block.type.isPlain = false → block.Ends interpreter main.text
  body : block.type.isPlain = false → Tiles 0 main.text.byteLen
    ((doc.childrenOf id).filterMap doc.blockOf?) block.bodyStart
    (block.bodyStop main.text.byteLen)

/-- A document with one source, in which every node is below the root. -/
structure Single (doc : Document) (source : Source) : Prop where
  sources : doc.sources = #[source]
  parents : ∀ id, id ≠ root → id < doc.nodes.size → doc.parentOf? id ≠ none

theorem Single.reachable {doc : Document} {source : Source} (h : doc.Single source)
    (harena : doc.Arena) {id : Nat} (hid : id < doc.nodes.size) : doc.Reachable id := by
  induction id using Nat.strongRecOn with
  | _ id ih =>
    by_cases hroot : id = root
    · rw [hroot]
      exact .root
    · obtain ⟨parent, hparent⟩ := Option.ne_none_iff_exists'.1 (h.parents id hroot hid)
      have hchild := harena.parent id parent hparent
      have hlt := (harena.child parent id hchild).1
      exact .child (ih parent hlt (Nat.lt_trans hlt hid)) hchild

theorem Single.written {doc : Document} {interpreter : Interpreter} {main : Source}
    {file : Inclusion → Source → Prop} (h : doc.Single main) (harena : doc.Arena)
    (htiled : ∀ id < doc.nodes.size, (doc.family id).Tiled doc.sources file)
    (hrules : ∀ id < doc.nodes.size, (doc.family id).Recognised interpreter main.text)
    (hno : ∀ type ∈ interpreter.types, type.inclusion? = none) {id : Nat} {block : Block}
    (hid : id < doc.nodes.size) (hblock : doc.blockOf? id = some block) :
    doc.Written interpreter main id block := by
  obtain ⟨⟨source, hsource, hplaced⟩, hplain⟩ := (htiled id hid).of_head hblock
  -- there is but one source
  have hzero : block.source = 0 := by
    rw [h.sources] at hsource
    obtain ⟨hlt, -⟩ := Array.getElem?_eq_some_iff.1 hsource
    exact Nat.lt_one_iff.1 hlt
  have hmain : source = main := by
    rw [hzero, h.sources] at hsource
    exact (Option.some.inj hsource).symm
  subst hmain
  have hhead := (hrules id hid).head block hblock hzero
  have htype : block.type.isPlain = false → block.type ∈ interpreter.types ∧
      block.type.opens source.text block.start = true := by
    intro hplain
    have hopens := (hhead hplain).1
    exact ⟨List.mem_of_find?_eq_some hopens, by simpa using List.find?_some hopens⟩
  have hspliced : doc.splicedAt id = false := by
    refine Bool.eq_false_iff.2 fun hspliced => ?_
    obtain ⟨found, settings, -, -, hfound, hinc, -⟩ := (htiled id hid).of_spliced hspliced
    cases hblock.symm.trans hfound
    rw [hno _ (htype (BlockType.isPlain_of_inclusion hinc)).1] at hinc
    cases hinc
  refine ⟨?_, hzero, hplaced, hspliced, ?_, htype, fun hplain => (hhead hplain).2, ?_⟩
  · rw [textOf, Document.source, hzero, h.sources]
    rfl
  · intro hplain'
    exact (harena.members_eq_nil_iff id).1 (hplain hplain').2
  · intro hplain
    obtain ⟨source', hsource', -, htiles⟩ := (htiled id hid).of_body hblock hplain hspliced
    cases hsource.symm.trans hsource'
    rw [hzero] at htiles
    exact htiles

end Document

/-! ### Rendering a forest -/

section

variable {doc : Document} {interpreter : Interpreter} {main : Source}

/-- All nodes of a document are written. -/
def Document.AllWritten (doc : Document) (interpreter : Interpreter) (main : Source) : Prop :=
  ∀ id block, doc.blockOf? id = some block → doc.Written interpreter main id block

/-- What is below some nodes lies in the range that they tile. -/
theorem Forest.Spells.contained (harena : doc.Arena)
    (hwritten : doc.AllWritten interpreter main) {forest : Forest} {roots : List Nat}
    (hspells : forest.Spells doc roots) {lo hi : Nat}
    (htiles : Tiles 0 main.text.byteLen (roots.filterMap doc.blockOf?) lo hi)
    (hroots : ∀ id ∈ roots, ∃ block, doc.blockOf? id = some block) :
    ∀ block ∈ forest.blocks doc, lo ≤ block.start ∧ block.stopIn main.text.byteLen ≤ hi := by
  induction hspells generalizing lo hi with
  | nil =>
    intro block hblock
    cases hblock
  | @cons id below rest roots hbelow hrest ihbelow ihrest =>
    obtain ⟨head, hhead⟩ := hroots id (List.mem_cons_self ..)
    rw [List.filterMap_cons_some hhead] at htiles
    obtain ⟨-, hstart, hlt, htiles⟩ := htiles
    have hle := htiles.le
    have hinside := ihrest htiles fun j hj => hroots j (List.mem_cons_of_mem _ hj)
    have hhead' := hwritten id head hhead
    intro block hblock
    rw [Forest.blocks_cons hhead] at hblock
    rcases List.mem_cons.1 hblock with rfl | hblock
    · exact ⟨Nat.le_of_eq hstart.symm, hle⟩
    rcases List.mem_append.1 hblock with hblock | hblock
    · -- below the node is what stands between its markers
      rcases hplain : head.type.isPlain with _ | _
      · have hmarkers := hhead'.placed.markers_le
        obtain ⟨hlo, hhi⟩ := ihbelow (hhead'.body hplain) (fun c hc => harena.child_block hc) block
          hblock
        unfold Block.bodyStop at hhi
        unfold Block.bodyStart at hlo
        omega
      · rw [hhead'.plain hplain] at hbelow
        cases hbelow
        cases hblock
    · obtain ⟨hlo, hhi⟩ := hinside block hblock
      omega

theorem Document.Written.below_contained {id : Nat} {block : Block}
    (h : doc.Written interpreter main id block) (harena : doc.Arena)
    (hwritten : doc.AllWritten interpreter main) {below : Forest}
    (hbelow : below.Spells doc (doc.childrenOf id)) :
    ∀ inner ∈ below.blocks doc, block.bodyStart ≤ inner.start ∧
      inner.stopIn main.text.byteLen ≤ block.bodyStop main.text.byteLen := by
  rcases hplain : block.type.isPlain with _ | _
  · exact hbelow.contained harena hwritten (h.body hplain) fun c hc => harena.child_block hc
  · rw [h.plain hplain] at hbelow
    cases hbelow
    intro inner hinner
    cases hinner

theorem Document.Written.compose {id : Nat} {block : Block}
    (h : doc.Written interpreter main id block) (hblock : doc.blockOf? id = some block)
    (inner : Text) :
    doc.compose id inner =
      block.render main.text (if doc.childrenOf id = [] then none else some inner) := by
  obtain ⟨node, hnode, hnodeBlock⟩ := Option.bind_eq_some_iff.1 hblock
  have hspliced : node.spliced = false := by
    simpa [Document.splicedAt, hnode] using h.spliced
  have hchildren : doc.childrenOf id = node.children.toList := by
    simp [Document.childrenOf, hnode]
  unfold Document.compose
  simp only [Document.node, hnode, bind, Except.bind, hnodeBlock, h.text]
  rw [hchildren]
  by_cases hempty : node.children.toList = []
  · simp [Node.isChildless, hspliced, Array.toList_eq_nil_iff.1 hempty]
  · have hmore : node.isChildless = false := by
      simpa [Node.isChildless, ← Array.toList_eq_nil_iff] using hempty
    simp [hmore, hempty]

/-- Where nothing stands between the markers, there are no children. -/
theorem Document.Written.childless {id : Nat} {block : Block}
    (h : doc.Written interpreter main id block) (harena : doc.Arena)
    (hplain : block.type.isPlain = false)
    (himm : block.type.flags.closeImmediately = true) : doc.childrenOf id = [] := by
  obtain ⟨-, -, -, -, hstop⟩ := (h.ends hplain).of_closeImmediately himm
  have hempty : block.bodyStart = block.bodyStop main.text.byteLen := by
    rw [Block.bodyStop, Block.stopIn, hstop, Option.getD_some, Nat.add_sub_cancel]
  exact (harena.members_eq_nil_iff id).1 ((h.body hplain).eq_nil_iff.2 hempty)

/-- The part of a block behind its body is its close marker. -/
theorem Document.Written.closeTag {id : Nat} {block : Block} {tags : Delimiters} {part : Text}
    (h : doc.Written interpreter main id block) (hplain : block.type.isPlain = false)
    (htags : block.type.delimiters? = some tags)
    (himm : block.type.flags.closeImmediately = false) (hlen : 0 < block.closeLen)
    (hpart : main.text.Between (block.bodyStop main.text.byteLen)
      (block.stopIn main.text.byteLen) part) :
    List.Forall₂ (fun t c => tags.mode.sameChar c t = true) tags.closeTag part := by
  have hclosed : block.stop ≠ none := by
    intro hopen
    exact Nat.ne_of_gt hlen (h.placed.closeLen_eq hopen)
  rcases (h.ends hplain).of_closed himm hclosed with
    ⟨pos, -, hcloses, -, hcloseLen, hstop⟩ | ⟨-, hzero, -⟩
  · have htag : block.closeLen = Text.byteLen tags.closeTag := by
      rw [hcloseLen, BlockType.closeLen, BlockType.closeTag, htags]
    rw [Block.bodyStop, Block.stopIn, hstop, Option.getD_some, Nat.add_sub_cancel, htag] at hpart
    exact hpart.closes htags hcloses
  · omega

end

/-! ### Characters that a rendering may exchange -/

/-- The relation holds of a character and itself, and of a character of a tag and the one
    that stands for it in a text. -/
structure Interpreter.Respects (interpreter : Interpreter) (R : Char → Char → Prop) : Prop where
  refl : ∀ c, R c c
  tag : ∀ type ∈ interpreter.types, ∀ tags, type.delimiters? = some tags →
    ∀ t c, tags.mode.sameChar c t = true → R t c

/-- All types are delimited ones or comments. -/
def Interpreter.Textual (interpreter : Interpreter) : Prop :=
  ∀ type ∈ interpreter.types,
    (∃ tags, type.kind = .delimited tags) ∨ ∃ tags, type.kind = .comment tags

section

variable {doc : Document} {interpreter : Interpreter} {main : Source} {R : Char → Char → Prop}
  {id : Nat} {block : Block} {part inner : Text} {dead : Nat → Bool}

/-- A delimited block is its open tag, the text of its children and its close tag, each
    of them matched by a part of the text. -/
theorem Document.Written.render_delimited {tags : Delimiters} (hR : interpreter.Respects R)
    (h : doc.Written interpreter main id block) (hplain : block.type.isPlain = false)
    (htags : block.type.delimiters? = some tags)
    (himm : block.type.flags.closeImmediately = false)
    (hpart : main.text.Between block.start (block.stopIn main.text.byteLen) part)
    (hinner : ∀ body, main.text.Between block.bodyStart (block.bodyStop main.text.byteLen) body →
      List.Forall₂ R inner (body.without dead block.bodyStart))
    (hdead : ∀ q, dead q = true →
      block.bodyStart ≤ q ∧ q < block.bodyStop main.text.byteLen) :
    List.Forall₂ R
      (if 0 < block.closeLen then tags.openTag ++ (inner ++ tags.closeTag)
        else tags.openTag ++ inner)
      (part.without dead block.start) := by
  have hplaced := h.placed
  have hmarkers := hplaced.markers_le
  have hopenLen : block.bodyStart = block.start + Text.byteLen tags.openTag := by
    rw [Block.bodyStart, BlockType.openLen, BlockType.openTag, htags]
  have hbodyStop : block.bodyStop main.text.byteLen + block.closeLen =
      block.stopIn main.text.byteLen := by
    unfold Block.bodyStop
    omega
  have hlive : ∀ q, q < block.bodyStart ∨ block.bodyStop main.text.byteLen ≤ q →
      dead q = false := by
    intro q hq
    refine Bool.eq_false_iff.2 fun hq' => ?_
    have hrange := hdead q hq'
    omega
  -- the three parts: up to the body, the body, and behind it
  obtain ⟨first, rest, rfl, hfirst, hrest⟩ :=
    hpart.split hplaced.bodyStart_boundary (by omega) (by omega)
  obtain ⟨body, last, rfl, hbody, hlast⟩ :=
    hrest.split hplaced.bodyStop_boundary (by omega) (by omega)
  have hfirstLen : block.start + Text.byteLen first = block.bodyStart := by
    obtain ⟨_, _, -, -, hlength⟩ := hfirst
    exact hlength
  have hbodyLen : block.bodyStart + Text.byteLen body = block.bodyStop main.text.byteLen := by
    obtain ⟨_, _, -, -, hlength⟩ := hbody
    exact hlength
  rw [Text.without_append, Text.without_append, hfirstLen, hbodyLen,
    Text.without_none fun q _ hq => hlive q (Or.inl (by omega)),
    Text.without_none fun q hq _ => hlive q (Or.inr hq)]
  obtain ⟨htype, hopens⟩ := h.opens hplain
  rw [hopenLen] at hfirst
  have hopenTag := (hfirst.opens htags hopens).imp (hR.tag _ htype tags htags)
  split
  · next hlen =>
    have hcloseTag := (h.closeTag hplain htags himm hlen hlast).imp (hR.tag _ htype tags htags)
    exact List.rel_append hopenTag (List.rel_append (hinner body hbody) hcloseTag)
  · next hlen =>
    have hnil : last = [] := hlast.eq_nil (by omega)
    rw [hnil, List.append_nil]
    exact List.rel_append hopenTag (hinner body hbody)

/-- A block renders as its part of the text, if its children do.  Of the text around
    them, `dead` concerns nothing. -/
theorem Document.Written.render (hR : interpreter.Respects R) (htextual : interpreter.Textual)
    (harena : doc.Arena) (h : doc.Written interpreter main id block)
    (hblock : doc.blockOf? id = some block)
    (hpart : main.text.Between block.start (block.stopIn main.text.byteLen) part)
    (hleaf : doc.childrenOf id = [] → inner = [] ∧ ∀ q, dead q = false)
    (hinner : block.type.isPlain = false → ∀ body, main.text.Between block.bodyStart
      (block.bodyStop main.text.byteLen) body →
      List.Forall₂ R inner (body.without dead block.bodyStart))
    (hdead : ∀ q, dead q = true →
      block.bodyStart ≤ q ∧ q < block.bodyStop main.text.byteLen) :
    ∃ text, doc.compose id inner = .ok text ∧
      List.Forall₂ R text (part.without (fun q => block.type.isComment || dead q) block.start) := by
  rw [h.compose hblock]
  -- without children a block that is no comment keeps all of its text
  have hwhole : doc.childrenOf id = [] → block.type.isComment = false →
      List.Forall₂ R part
        (part.without (fun q => block.type.isComment || dead q) block.start) := by
    intro hchildren hcomment
    rw [Text.without_none]
    · exact List.forall₂_same.2 fun c _ => hR.refl c
    · intro q _ _
      rw [hcomment, (hleaf hchildren).2 q]
      rfl
  rcases hplain : block.type.isPlain with _ | _
  · rcases htextual block.type (h.opens hplain).1 with ⟨tags, hkind⟩ | ⟨tags, hkind⟩
    · have hcomment : block.type.isComment = false := by
        rw [BlockType.isComment, hkind]
      have htags : block.type.delimiters? = some tags := by
        rw [BlockType.delimiters?, hkind]
      rcases himm : block.type.flags.closeImmediately with _ | _
      · have hinner' : (if doc.childrenOf id = [] then none else some inner).getD [] = inner := by
          split
          · next hchildren => exact (hleaf hchildren).1.symm
          · rfl
        have hrendered := h.render_delimited hR hplain htags himm hpart (hinner hplain) hdead
        refine ⟨_, ?_, by simpa only [hcomment, Bool.false_or] using hrendered⟩
        rw [Block.render_delimited hkind himm, hinner']
      · have hchildren := h.childless harena hplain himm
        refine ⟨part, ?_, hwhole hchildren hcomment⟩
        rw [if_pos hchildren]
        simp only [Block.render, hkind, himm, if_true]
        exact hpart.slice
    · have hcomment : block.type.isComment = true := by
        rw [BlockType.isComment, hkind]
      refine ⟨[], ?_, ?_⟩
      · simp only [Block.render, hkind]
      · rw [Text.without_all]
        · exact .nil
        · intro q _ _
          rw [hcomment]
          rfl
  · have hkind : block.type.kind = .plain := by
      unfold BlockType.isPlain at hplain
      split at hplain
      · assumption
      · cases hplain
    have hcomment : block.type.isComment = false := by
      rw [BlockType.isComment, hkind]
    refine ⟨part, ?_, hwhole (h.plain hplain) hcomment⟩
    rw [if_pos (h.plain hplain)]
    simp only [Block.render, hkind]
    exact hpart.slice

/-- **A forest renders as the part of the text that its top nodes tile,** less what
    stands in its comments. -/
theorem Forest.render_written (hR : interpreter.Respects R) (htextual : interpreter.Textual)
    (harena : doc.Arena) (hwritten : doc.AllWritten interpreter main) {forest : Forest}
    {roots : List Nat} (hspells : forest.Spells doc roots)
    (hroots : ∀ id ∈ roots, ∃ block, doc.blockOf? id = some block) {lo hi : Nat} {part : Text}
    (htiles : Tiles 0 main.text.byteLen (roots.filterMap doc.blockOf?) lo hi)
    (hpart : main.text.Between lo hi part) :
    ∃ texts, forest.render doc = .ok texts ∧ List.Forall₂ R texts.flatten
      (part.without (covers main.text.byteLen (forest.comments doc)) lo) := by
  induction hspells generalizing lo hi part with
  | nil =>
    rw [hpart.eq_nil htiles]
    exact ⟨[], rfl, .nil⟩
  | @cons id below rest roots hbelow hrest ihbelow ihrest =>
    obtain ⟨block, hblock⟩ := hroots id (List.mem_cons_self ..)
    have hroots' := fun j hj => hroots j (List.mem_cons_of_mem _ hj)
    have hchildren := fun c (hc : c ∈ doc.childrenOf id) => harena.child_block hc
    have hnode := hwritten id block hblock
    rw [List.filterMap_cons_some hblock] at htiles
    obtain ⟨-, rfl, hlt, htiles⟩ := htiles
    obtain ⟨own, others, rfl, hown, hothers⟩ :=
      hpart.split hnode.placed.stop_boundary (Nat.le_of_lt hlt) htiles.le
    obtain ⟨texts, htexts, hrendered⟩ := ihrest hroots' htiles hothers
    have hafter := hrest.contained harena hwritten htiles hroots'
    have hinside := hnode.below_contained harena hwritten hbelow
    obtain ⟨inner, hinner, hbody⟩ : ∃ inner, below.render doc = .ok inner ∧
        (block.type.isPlain = false → ∀ body, main.text.Between block.bodyStart
          (block.bodyStop main.text.byteLen) body → List.Forall₂ R inner.flatten
          (body.without (covers main.text.byteLen (below.comments doc)) block.bodyStart)) := by
      rcases hplain : block.type.isPlain with _ | _
      · have hmarkers := hnode.placed.markers_le
        obtain ⟨_, _, -, -, hrest'⟩ :=
          hown.split hnode.placed.bodyStart_boundary (Nat.le_add_right ..) (by omega)
        obtain ⟨body, _, -, hbody, -⟩ := hrest'.split hnode.placed.bodyStop_boundary
          (Nat.le_sub_of_add_le hmarkers) (Nat.sub_le ..)
        obtain ⟨inner, hinner, -⟩ := ihbelow hchildren (hnode.body hplain) hbody
        refine ⟨inner, hinner, fun _ body' hbody' => ?_⟩
        obtain ⟨inner', hinner', hall⟩ := ihbelow hchildren (hnode.body hplain) hbody'
        cases hinner.symm.trans hinner'
        exact hall
      · rw [hnode.plain hplain] at hbelow
        cases hbelow
        exact ⟨[], rfl, nofun⟩
    obtain ⟨text, htext, hmatch⟩ := hnode.render hR htextual harena hblock hown
      (by
        intro hnil
        rw [hnil] at hbelow
        cases hbelow
        cases hinner
        exact ⟨rfl, fun _ => rfl⟩)
      hbody
      (by
        intro q hq
        obtain ⟨found, hfound, hlo, hhi⟩ := covers_eq_true_iff.1 hq
        obtain ⟨hstart, hstop⟩ := hinside found (List.mem_of_mem_filter hfound)
        omega)
    refine ⟨text :: texts, ?_, ?_⟩
    · simp only [Forest.render, hinner, htext, htexts, bind, Except.bind]
      rfl
    · have hownLen : block.start + Text.byteLen own = block.stopIn main.text.byteLen := by
        obtain ⟨_, _, -, -, hlength⟩ := hown
        exact hlength
      rw [List.flatten_cons, Text.without_append, hownLen]
      refine List.rel_append ?_ ?_
      · rw [Text.without_congr fun q hlo hhi => Forest.covers_first hblock
          (fun found hfound => (hafter found hfound).1) hlo (by omega)]
        exact hmatch
      · rw [Text.without_congr fun q hlo _ => Forest.covers_others hblock (fun found hfound => by
          have := (hinside found hfound).2
          exact Nat.le_trans this (Nat.sub_le ..)) hlo]
        exact hrendered

end

/-! ### Scans that follow no includes -/

namespace Document.Single

variable {doc doc' : Document} {source : Source}

theorem push (h : doc.Single source) (hin : doc.innermost < doc.nodes.size) (block : Block) :
    (doc.push block).Single source := by
  refine ⟨h.sources, ?_⟩
  intro id hroot hid
  rw [size_push] at hid
  rw [parentOf?_push block hin]
  split
  · exact Option.some_ne_none _
  · exact h.parents id hroot (by omega)

theorem closedAlong {ids : List Nat} {pos markerLen : Nat} (h : doc.Single source)
    (hsources : doc'.sources = doc.sources) (hclosed : doc.ClosedAlong doc' ids pos markerLen) :
    doc'.Single source := by
  refine ⟨hsources.trans h.sources, ?_⟩
  intro id hroot hid
  rw [hclosed.size_eq] at hid
  rw [hclosed.parentOf?]
  exact h.parents id hroot hid

end Document.Single

namespace Scan

variable {disk : Disk} {interpreter : Interpreter} {source : Source} {phase : Phase}

theorem flush_single {scan flushed : Scan} (hscan : scan.Standing interpreter source phase)
    (h : scan.doc.Single source) (hflush : scan.flush = .ok flushed) :
    flushed.doc.Single source := by
  obtain ⟨doc, rfl, ⟨-, hclose⟩ | ⟨-, rfl⟩⟩ := flush_eq_ok hflush
  · obtain ⟨hsources, -, hclosed, -⟩ :=
      Document.closeInnermost_eq_ok (Document.openBlocks_push ..) hclose
    exact (h.push hscan.draft.building.innermost_lt _).closedAlong hsources hclosed
  · exact h

theorem Reached.single {scan : Scan} (h : Reached disk interpreter source phase scan)
    (hreg : interpreter.Registered) (hno : ∀ type ∈ interpreter.types, type.inclusion? = none) :
    scan.doc.Single source := by
  induction h with
  | start interpreter source =>
    refine ⟨rfl, ?_⟩
    intro id hroot hid
    exact absurd (Nat.lt_one_iff.1 hid) hroot
  | read _ _ _ _ ih => exact ih hreg hno
  | opened hscan _ _ hflush ih =>
    have hstanding := hscan.standing
    obtain ⟨-, hdraft, -, -, -⟩ := flush_draft hstanding.draft hflush
    exact (flush_single hstanding (ih hreg hno) hflush).push hdraft.building.innermost_lt _
  | closing hscan _ _ _ hflush ih =>
    have hflushed := flush_single hscan.standing (ih hreg hno) hflush
    exact hflushed
  | passed _ _ ih => exact ih hreg hno
  | included hscan hinc =>
    -- no registered type includes a file
    have hstanding := hscan.standing
    rw [hno _ (hstanding.innermost_eq hstanding.pending).2] at hinc
    cases hinc
  | closed hscan hclose ih =>
    obtain ⟨-, outer, _, hopen, -, -⟩ := hscan.standing.pending
    obtain ⟨doc, hdoc, rfl⟩ := changeDoc_eq_ok_iff.1 hclose
    obtain ⟨hsources, -, hclosed, -⟩ := Document.closeInnermost_eq_ok hopen hdoc
    exact (ih hreg hno).closedAlong hsources hclosed

theorem finish_single {scan : Scan} {doc : Document}
    (hscan : scan.Standing interpreter source phase) (h : scan.doc.Single source)
    (hend : Holds scan.finish.result doc) : doc.Single source := by
  obtain ⟨flushed, closed, left, hflush, hsources, -, -, halong, -, -, -⟩ :=
    finish_holds hend hscan.draft
  exact (flush_single hscan h hflush).closedAlong hsources halong

theorem Leads.eq_self {inner : Interpreter} {content : Source}
    (h : Leads disk interpreter source inner content) (hreg : interpreter.Registered)
    (hno : ∀ type ∈ interpreter.types, type.inclusion? = none) :
    inner = interpreter ∧ content = source := by
  induction h with
  | refl => exact ⟨rfl, rfl⟩
  | step _ hscan hinc _ _ ih =>
    obtain ⟨rfl, rfl⟩ := ih
    have hstanding := hscan.standing
    rw [hno _ (hstanding.innermost_eq hstanding.pending).2] at hinc
    cases hinc

end Scan

/-! ### Whole interpretations -/

/-- The comments of the forest of a document are those of the document. -/
theorem Forest.Spells.mem_comments {doc : Document} {source : Source} {forest : Forest}
    (hspells : forest.Spells doc [Document.root]) (harena : doc.Arena)
    (hsingle : doc.Single source) (block : Block) :
    block ∈ forest.comments doc ↔ block ∈ doc.comments := by
  unfold Forest.comments Forest.blocks Document.comments
  simp only [List.mem_filter, List.mem_filterMap]
  refine and_congr_left fun _ => ?_
  constructor
  · rintro ⟨id, -, hblock⟩
    obtain ⟨node, hnode, hnodeBlock⟩ := Option.bind_eq_some_iff.1 hblock
    exact ⟨node, Array.mem_toList_iff.2 (Array.mem_of_getElem? hnode), hnodeBlock⟩
  · rintro ⟨node, hnode, hblock⟩
    obtain ⟨id, hid, rfl⟩ := Array.mem_iff_getElem.1 (Array.mem_toList_iff.1 hnode)
    refine ⟨id, hspells.mem_of_reachable (hsingle.reachable harena hid), ?_⟩
    rw [Document.blockOf?, Array.getElem?_eq_getElem hid]
    exact hblock

/-- A document of one text renders as the text without its comments. -/
theorem Document.Single.render {doc : Document} {interpreter : Interpreter} {main : Source}
    {R : Char → Char → Prop} (h : doc.Single main) (harena : doc.Arena)
    (hR : interpreter.Respects R) (htextual : interpreter.Textual)
    (hwritten : doc.AllWritten interpreter main)
    (htop : Tiles 0 main.text.byteLen ((doc.childrenOf root).filterMap doc.blockOf?) 0
      main.text.byteLen) :
    ∃ rendered, doc.render = .ok rendered ∧ List.Forall₂ R rendered doc.withoutComments := by
  obtain ⟨below, hbelow⟩ : ∃ below : Forest, below.Spells doc (doc.childrenOf root) :=
    harena.exists_forest fun c hc => (harena.child root c hc).2.1
  have hspells : (Forest.cons root below .nil).Spells doc [root] := .cons hbelow .nil
  obtain ⟨texts, htexts, hrendered⟩ := Forest.render_written hR htextual harena hwritten hbelow
    (fun c hc => harena.child_block hc) htop (Text.between_whole _)
  -- the root has no block: it adds neither text nor a comment
  have hcompose := harena.compose_root texts.flatten
  have hcomments : (Forest.cons root below .nil).comments doc = below.comments doc := by
    simp [Forest.comments, Forest.blocks, Forest.ids, harena.root_block]
  refine ⟨texts.flatten, ?_, ?_⟩
  · rw [Document.render, renderNode_eq harena hspells harena.size_pos]
    simp only [Forest.render, htexts, hcompose, bind, Except.bind]
    simp [pure, Except.pure, Except.map]
  · have htext : doc.text = main.text := text_eq (by rw [h.sources]; rfl)
    rw [Document.withoutComments, htext]
    rw [Text.without_congr fun q _ _ => covers_congr fun block _ _ =>
      (hspells.mem_comments harena h block).symm, hcomments]
    exact hrendered

namespace Interpreter

open Scan

theorem Textual.inclusion?_eq_none {interpreter : Interpreter} (h : interpreter.Textual) :
    ∀ type ∈ interpreter.types, type.inclusion? = none := by
  intro type htype
  rcases h type htype with ⟨tags, hkind⟩ | ⟨tags, hkind⟩
  · rw [BlockType.inclusion?, hkind]
  · rw [BlockType.inclusion?, hkind]

/-- A tag and the text it was recognised in have the same lower-case form. -/
theorem respects_lower (interpreter : Interpreter) :
    interpreter.Respects fun c k => c.utf8Size = k.utf8Size ∧ Text.lower c = Text.lower k := by
  refine ⟨fun c => ⟨rfl, rfl⟩, ?_⟩
  intro type _ tags _ t c hsame
  exact ⟨(CaseMode.sameChar_utf8Size hsame).symm, (CaseMode.sameChar_lower hsame).symm⟩

theorem respects_eq {interpreter : Interpreter} (h : ∀ type ∈ interpreter.types, ∀ tags,
    type.delimiters? = some tags → tags.mode = .sensitive) :
    interpreter.Respects fun c k => c = k := by
  refine ⟨fun c => rfl, ?_⟩
  intro type htype tags htags t c hsame
  rw [h type htype tags htags] at hsame
  exact (eq_of_beq hsame).symm

/-- What an interpretation of textual types holds is a document of its text. -/
theorem Textual.written {disk : Disk} {interpreter : Interpreter} {text : Text} {doc : Document}
    (htextual : interpreter.Textual) (hreg : interpreter.Registered)
    (h : Holds (interpreter.interpret disk text).result doc) :
    doc.Arena ∧ doc.Single ⟨none, text⟩ ∧ doc.AllWritten interpreter ⟨none, text⟩ ∧
      Tiles 0 text.byteLen ((doc.childrenOf Document.root).filterMap doc.blockOf?) 0
        text.byteLen := by
  have hno := htextual.inclusion?_eq_none
  obtain ⟨hok, hpartial⟩ := interpretSource_endsIn .checked disk (interpreter.depthLimit disk)
    interpreter [] ⟨none, text⟩
  obtain ⟨ended, hended, hrest, hfinish⟩ : ∃ ended, Reached disk interpreter ⟨none, text⟩
      .scanning ended ∧ ended.rest = [] ∧ Holds ended.finish.result doc := by
    rcases h with h | ⟨label, h⟩
    · obtain ⟨ended, hended, hrest, hfinish⟩ := hok doc h
      exact ⟨ended, hended, hrest, Or.inl hfinish⟩
    · obtain ⟨inner, content, hleads, ended, hended, hrest, hfinish⟩ := hpartial label doc h
      obtain ⟨rfl, rfl⟩ := hleads.eq_self hreg hno
      exact ⟨ended, hended, hrest, Or.inr ⟨label, hfinish⟩⟩
  have hstanding := hended.standing
  obtain ⟨harena, hmain, htiled⟩ := finish_tiled hstanding hrest (hended.tiling hreg) hfinish
  have hrules := finish_recognised hstanding (hended.reading hreg) hfinish
  have hsingle := finish_single hstanding (hended.single hreg hno) hfinish
  refine ⟨harena, hsingle, ?_, ?_⟩
  · intro id block hblock
    have hid : id < doc.nodes.size := by
      obtain ⟨node, hnode, -⟩ := Option.bind_eq_some_iff.1 hblock
      exact (Array.getElem?_eq_some_iff.1 hnode).1
    exact hsingle.written harena htiled hrules hno hid hblock
  · obtain ⟨main, hmain', htop⟩ := (htiled _ harena.size_pos).of_root harena.root_block
    cases hmain.symm.trans hmain'
    exact htop

/-- **Rendering loses nothing but comments.**  All nodes of the document are in its tree,
    and its comments begin and end between characters, so a byte is left out only with
    the whole of its character. -/
theorem rendering_keeps_text {disk : Disk} {interpreter : Interpreter} {text : Text}
    {doc : Document} (hreg : interpreter.Registered) (htextual : interpreter.Textual)
    (h : Holds (interpreter.interpret disk text).result doc) :
    doc.text = text ∧ (∀ id < doc.nodes.size, doc.Reachable id) ∧
    (∀ comment ∈ doc.comments, text.isBoundary comment.start = true ∧
      text.isBoundary (comment.stopIn text.byteLen) = true) ∧
    ∃ rendered, doc.render = .ok rendered ∧
      rendered.length = doc.withoutComments.length ∧
      List.Forall₂ (fun c k => c.utf8Size = k.utf8Size ∧ Text.lower c = Text.lower k) rendered
        doc.withoutComments ∧
      ((∀ type ∈ interpreter.types, ∀ tags, type.delimiters? = some tags →
        tags.mode = .sensitive) → rendered = doc.withoutComments) ∧
      ((∀ type ∈ interpreter.types, type.isComment = false) → doc.withoutComments = text) := by
  obtain ⟨harena, hsingle, hwritten, htop⟩ := htextual.written hreg h
  have hcomments : ∀ comment ∈ doc.comments, ∃ id, doc.blockOf? id = some comment := by
    intro comment hcomment
    obtain ⟨node, hnode, hblock⟩ := List.mem_filterMap.1 (List.mem_of_mem_filter hcomment)
    obtain ⟨id, hid, rfl⟩ := Array.mem_iff_getElem.1 (Array.mem_toList_iff.1 hnode)
    exact ⟨id, by rw [Document.blockOf?, Array.getElem?_eq_getElem hid]; exact hblock⟩
  have htext : doc.text = text := Document.text_eq (by rw [hsingle.sources]; rfl)
  obtain ⟨rendered, hrendered, hlower⟩ :=
    hsingle.render harena (respects_lower interpreter) htextual hwritten htop
  refine ⟨htext, fun id hid => hsingle.reachable harena hid, ?_, rendered, hrendered,
    hlower.length_eq, hlower, ?_, ?_⟩
  · intro comment hmem
    obtain ⟨id, hblock⟩ := hcomments comment hmem
    have hplaced := (hwritten id comment hblock).placed
    exact ⟨hplaced.start_boundary, hplaced.stop_boundary⟩
  · intro hsensitive
    obtain ⟨rendered', hrendered', hsame⟩ :=
      hsingle.render harena (respects_eq hsensitive) htextual hwritten htop
    cases hrendered.symm.trans hrendered'
    exact List.forall₂_eq_eq_eq ▸ hsame
  · intro hnone
    rw [Document.withoutComments, htext]
    refine Text.without_none fun q _ _ => Bool.eq_false_iff.2 fun hcovers => ?_
    -- a comment would have a registered type
    obtain ⟨comment, hmem, -, -⟩ := covers_eq_true_iff.1 hcovers
    obtain ⟨id, hblock⟩ := hcomments comment hmem
    have hflag : comment.type.isComment = true := (List.mem_filter.1 hmem).2
    have htype := ((hwritten id comment hblock).opens (BlockType.isPlain_of_isComment hflag)).1
    rw [hnone _ htype] at hflag
    cases hflag

/-- Two of the types of the sample. -/
def sampleTextual : Interpreter := { sample with types := sample.types.take 2 }

theorem sampleTextual_keeps_text :
    ∃ doc rendered, (sampleTextual.interpret ⟨[], []⟩ ['a', '[', '%', 'b', '\n', ']', '%']).result =
        .ok doc ∧ doc.render = .ok rendered ∧ rendered = doc.withoutComments := by
  have hreg : sampleTextual.Registered := by
    refine @Registered.intro _ _ rfl ?_
    intro type htype settings inner hinc
    rcases List.mem_cons.1 htype with rfl | htype
    · cases hinc
    · cases List.mem_singleton.1 htype
      cases hinc
  have htextual : sampleTextual.Textual := by
    intro type htype
    rcases List.mem_cons.1 htype with rfl | htype
    · exact Or.inr ⟨_, rfl⟩
    · cases List.mem_singleton.1 htype
      exact Or.inl ⟨_, rfl⟩
  have hsensitive : ∀ type ∈ sampleTextual.types, ∀ tags, type.delimiters? = some tags →
      tags.mode = .sensitive := by
    intro type htype tags htags
    rcases List.mem_cons.1 htype with rfl | htype
    · cases htags
      rfl
    · cases List.mem_singleton.1 htype
      cases htags
      rfl
  obtain ⟨doc, hdoc⟩ := exists_eq_ok (show (sampleTextual.interpret ⟨[], []⟩
    ['a', '[', '%', 'b', '\n', ']', '%']).result.isOk = true by decide +kernel)
  obtain ⟨-, -, -, rendered, hrendered, -, -, hsame, -⟩ :=
    rendering_keeps_text hreg htextual (Or.inl hdoc)
  exact ⟨doc, rendered, hdoc, hrendered, hsame hsensitive⟩

end Interpreter

end Blockwise
