/-
  Blockwise/Proofs/Document/Tiling.lean
  =====================================
  **Children cover the text of their parent.**  `Tiles s len blocks lo hi` says that
  the blocks lie in source `s`, which has `len` bytes, and take up the bytes from
  `lo` to `hi` one after the other, none of them empty, without a gap and without an
  overlap.  A block that is still open runs to the end of its source.

  `Family.Tiled` is what that comes to for a node: the children of the root tile the
  main text, those of a block tile what stands between its markers, and those of an
  include that was followed tile the whole file.  `Document.Tiled` says the same of
  all nodes below the root, by index.
-/
import Blockwise.Proofs.Document.Family
import Blockwise.Proofs.Text.Parts

namespace Blockwise

/-- The type is that of text which no other block claims. -/
def BlockType.isPlain (type : BlockType) : Bool :=
  match type.kind with
  | .plain => true
  | _ => false

theorem BlockType.isPlain_eq (type : BlockType) : type.isPlain = type.delimiters?.isNone := by
  unfold isPlain delimiters?
  cases type.kind <;> rfl

theorem BlockType.isPlain_of_inclusion {type : BlockType} {settings : Inclusion}
    (h : type.inclusion? = some settings) : type.isPlain = false := by
  unfold inclusion? at h
  unfold isPlain
  split at h
  · next hkind => rw [hkind]
  · cases h

/-! ### Where blocks stand -/

namespace Block

/-- Where the block ends in a source of `len` bytes. -/
def stopIn (len : Nat) (block : Block) : Nat := block.stop.getD len

/-- Where the text between the markers begins. -/
def bodyStart (block : Block) : Nat := block.start + block.type.openLen

/-- Where the text between the markers ends in a source of `len` bytes. -/
def bodyStop (len : Nat) (block : Block) : Nat := block.stopIn len - block.closeLen

theorem stopIn_of_open {block : Block} (h : block.stop = none) (len : Nat) :
    block.stopIn len = len := by
  rw [stopIn, h]
  rfl

/-- The block is not empty, its markers lie in it one behind the other, and no end of
    the block or of a marker cuts a character of the text. -/
structure Placed (text : Text) (block : Block) : Prop where
  start_boundary : text.isBoundary block.start = true
  bodyStart_boundary : text.isBoundary block.bodyStart = true
  bodyStop_boundary : text.isBoundary (block.bodyStop text.byteLen) = true
  stop_boundary : text.isBoundary (block.stopIn text.byteLen) = true
  start_lt : block.start < block.stopIn text.byteLen
  markers_le : block.bodyStart + block.closeLen ≤ block.stopIn text.byteLen
  closeLen_eq : block.stop = none → block.closeLen = 0

theorem Placed.shifted {text : Text} {block : Block} (h : block.Placed text) (shift : Nat) :
    (block.shifted shift).Placed text :=
  ⟨h.start_boundary, h.bodyStart_boundary, h.bodyStop_boundary, h.stop_boundary, h.start_lt,
    h.markers_le, h.closeLen_eq⟩

/-- The end of input leaves blocks where they stand. -/
theorem AtEof.same_place {block block' : Block} {stop len : Nat} (h : AtEof stop block block')
    (hlen : block.source = 0 → len = stop) :
    block'.type = block.type ∧ block'.source = block.source ∧ block'.start = block.start ∧
      block'.stopIn len = block.stopIn len ∧
      ((block.stop = none → block.closeLen = 0) → block'.closeLen = block.closeLen) := by
  cases h with
  | same => exact ⟨rfl, rfl, rfl, rfl, fun _ => rfl⟩
  | eof hopen hmain hflag =>
    refine ⟨rfl, rfl, rfl, ?_, ?_⟩
    · rw [stopIn_of_open hopen, hlen hmain]
      rfl
    · intro hzero
      exact (hzero hopen).symm

theorem Placed.atEof {text : Text} {block block' : Block} {stop : Nat} (h : block.Placed text)
    (heof : AtEof stop block block') (hlen : block.source = 0 → text.byteLen = stop) :
    block'.Placed text := by
  obtain ⟨htype, -, hstart, hstop, hclose⟩ := heof.same_place hlen
  have hclose := hclose h.closeLen_eq
  have hbody : block'.bodyStart = block.bodyStart := by
    rw [bodyStart, hstart, htype]
    rfl
  have hbodyStop : block'.bodyStop text.byteLen = block.bodyStop text.byteLen := by
    rw [bodyStop, hstop, hclose]
    rfl
  refine ⟨?_, ?_, ?_, ?_, ?_, ?_, ?_⟩
  · rw [hstart]
    exact h.start_boundary
  · rw [hbody]
    exact h.bodyStart_boundary
  · rw [hbodyStop]
    exact h.bodyStop_boundary
  · rw [hstop]
    exact h.stop_boundary
  · rw [hstart, hstop]
    exact h.start_lt
  · rw [hbody, hclose, hstop]
    exact h.markers_le
  · intro hopen
    cases heof with
    | same => exact h.closeLen_eq hopen
    | eof => cases hopen

end Block

/-! ### Blocks one after the other -/

def Tiles (s len : Nat) : List Block → Nat → Nat → Prop
  | [], lo, hi => lo = hi
  | block :: blocks, lo, hi =>
    block.source = s ∧ block.start = lo ∧ lo < block.stopIn len ∧
      Tiles s len blocks (block.stopIn len) hi

namespace Tiles

variable {s len lo mid hi : Nat} {blocks blocks' : List Block} {block : Block}

theorem append (h : Tiles s len blocks lo mid) (h' : Tiles s len blocks' mid hi) :
    Tiles s len (blocks ++ blocks') lo hi := by
  induction blocks generalizing lo with
  | nil =>
    cases h
    exact h'
  | cons block blocks ih =>
    obtain ⟨hs, hstart, hlt, hrest⟩ := h
    exact ⟨hs, hstart, hlt, ih hrest⟩

/-- The last of some tiles begins where the ones before it end. -/
theorem split_last (h : Tiles s len (blocks ++ [block]) lo hi) :
    Tiles s len blocks lo block.start ∧ block.source = s ∧ block.start < block.stopIn len ∧
      block.stopIn len = hi := by
  induction blocks generalizing lo with
  | nil =>
    obtain ⟨hs, hstart, hlt, hend⟩ := h
    exact ⟨hstart.symm, hs, hstart ▸ hlt, hend⟩
  | cons first blocks ih =>
    obtain ⟨hs, hstart, hlt, hrest⟩ := h
    obtain ⟨hbefore, hlast⟩ := ih hrest
    exact ⟨⟨hs, hstart, hlt, hbefore⟩, hlast⟩

theorem le (h : Tiles s len blocks lo hi) : lo ≤ hi := by
  induction blocks generalizing lo with
  | nil => exact Nat.le_of_eq h
  | cons block blocks ih =>
    obtain ⟨-, -, hlt, hrest⟩ := h
    exact Nat.le_trans (Nat.le_of_lt hlt) (ih hrest)

theorem of_mem (h : Tiles s len blocks lo hi) (hblock : block ∈ blocks) :
    block.source = s ∧ lo ≤ block.start ∧ block.stopIn len ≤ hi := by
  induction blocks generalizing lo with
  | nil => cases hblock
  | cons first blocks ih =>
    obtain ⟨hs, hstart, hlt, hrest⟩ := h
    rcases List.mem_cons.1 hblock with rfl | hblock
    · exact ⟨hs, Nat.le_of_eq hstart.symm, hrest.le⟩
    · obtain ⟨hs', hlo, hhi⟩ := ih hrest hblock
      exact ⟨hs', Nat.le_trans (Nat.le_of_lt hlt) hlo, hhi⟩

/-- Nothing is left out, so there are no tiles only where there is nothing to cover. -/
theorem eq_nil_iff (h : Tiles s len blocks lo hi) : blocks = [] ↔ lo = hi := by
  cases blocks with
  | nil => exact ⟨fun _ => h, fun _ => rfl⟩
  | cons block blocks =>
    obtain ⟨-, -, hlt, hrest⟩ := h
    have hle := hrest.le
    constructor
    · intro hnil
      cases hnil
    · intro heq
      omega

theorem shifted (h : Tiles s len blocks lo hi) (shift : Nat) :
    Tiles (s + shift) len (blocks.map (Block.shifted shift)) lo hi := by
  induction blocks generalizing lo with
  | nil => exact h
  | cons block blocks ih =>
    obtain ⟨hs, hstart, hlt, hrest⟩ := h
    exact ⟨congrArg (· + shift) hs, hstart, hlt, ih hrest⟩

theorem atEof {stop : Nat} (h : Tiles s len blocks lo hi)
    (heof : List.Forall₂ (Block.AtEof stop) blocks blocks') (hlen : s = 0 → len = stop) :
    Tiles s len blocks' lo hi := by
  induction heof generalizing lo with
  | nil => exact h
  | cons hblock _ ih =>
    obtain ⟨hs, hstart, hlt, hrest⟩ := h
    obtain ⟨-, hs', hstart', hstop', -⟩ := hblock.same_place (hs ▸ hlen)
    refine ⟨hs'.trans hs, hstart'.trans hstart, ?_, ?_⟩
    · rw [hstop']
      exact hlt
    · rw [hstop']
      exact ih hrest

end Tiles

/-! ### Families -/

/-- The members cover what the head leaves to them.  `file settings source` tells
    which sources an include with these settings may bring in. -/
inductive Family.Tiled (sources : Array Source) (file : Inclusion → Source → Prop) : Family → Prop
  | top {main members} : sources[0]? = some main →
      Tiles 0 main.text.byteLen members 0 main.text.byteLen →
      Tiled sources file ⟨none, false, members⟩
  | plain {block source} : sources[block.source]? = some source → block.Placed source.text →
      block.type.isPlain = true → block.stop ≠ none → Tiled sources file ⟨some block, false, []⟩
  | body {block source members} : sources[block.source]? = some source →
      block.Placed source.text → block.type.isPlain = false → 0 < block.type.openLen →
      Tiles block.source source.text.byteLen members block.bodyStart
        (block.bodyStop source.text.byteLen) →
      Tiled sources file ⟨some block, false, members⟩
  | spliced {block source members settings content} {s : Nat} :
      sources[block.source]? = some source →
      block.Placed source.text → block.type.inclusion? = some settings → block.stop ≠ none →
      block.source < s → sources[s]? = some content → file settings content →
      Tiles s content.text.byteLen members 0 content.text.byteLen →
      Tiled sources file ⟨some block, true, members⟩

namespace Family.Tiled

variable {sources : Array Source} {file file' : Inclusion → Source → Prop} {family : Family}

/-- Sources that are added behind the others change nothing. -/
theorem append (h : family.Tiled sources file) (more : Array Source) :
    family.Tiled (sources ++ more) file := by
  have hkeep : ∀ {s : Nat} {source : Source}, sources[s]? = some source →
      (sources ++ more)[s]? = some source := by
    intro s source hs
    obtain ⟨hlt, -⟩ := Array.getElem?_eq_some_iff.1 hs
    rw [Array.getElem?_append_left hlt, hs]
  cases h with
  | top hmain htiles => exact .top (hkeep hmain) htiles
  | plain hsource hplaced hplain hclosed => exact .plain (hkeep hsource) hplaced hplain hclosed
  | body hsource hplaced hplain hlen htiles =>
    exact .body (hkeep hsource) hplaced hplain hlen htiles
  | spliced hsource hplaced hinc hclosed hlater hcontent hfile htiles =>
    exact .spliced (hkeep hsource) hplaced hinc hclosed hlater (hkeep hcontent) hfile htiles

/-- A family below the root keeps its tiling behind the sources of another document. -/
theorem shifted {first : Array Source} (h : family.Tiled sources file) (hhead : family.head ≠ none)
    (hfile : ∀ settings source, file settings source → file' settings source) :
    (family.shifted first.size).Tiled (first ++ sources) file' := by
  have hkeep : ∀ {s : Nat} {source : Source}, sources[s]? = some source →
      (first ++ sources)[s + first.size]? = some source := by
    intro s source hs
    rw [Array.getElem?_append_right (Nat.le_add_left ..), Nat.add_sub_cancel, hs]
  cases h with
  | top => exact absurd rfl hhead
  | plain hsource hplaced hplain hclosed =>
    exact .plain (hkeep hsource) (hplaced.shifted _) hplain hclosed
  | body hsource hplaced hplain hlen htiles =>
    exact .body (hkeep hsource) (hplaced.shifted _) hplain hlen (htiles.shifted _)
  | spliced hsource hplaced hinc hclosed hlater hcontent hmatch htiles =>
    exact .spliced (hkeep hsource) (hplaced.shifted _) hinc hclosed
      (Nat.add_lt_add_right hlater _) (hkeep hcontent) (hfile _ _ hmatch) (htiles.shifted _)

/-- The end of the main text closes blocks that run to it anyway. -/
theorem atEof {main : Source} {family' : Family} (h : family.Tiled sources file)
    (hmain : sources[0]? = some main) (heof : family.AtEof main.text.byteLen family') :
    family'.Tiled sources file := by
  -- only blocks of the main source are closed, and they are closed at its length
  have hlen : ∀ {s : Nat} {source : Source}, sources[s]? = some source → s = 0 →
      source.text.byteLen = main.text.byteLen := by
    intro s source hs hzero
    rw [hzero, hmain] at hs
    cases hs
    rfl
  obtain ⟨head', spliced', members'⟩ := family'
  obtain ⟨hhead, hspliced, hmembers⟩ := heof
  cases h with
  | top hmain' htiles =>
    cases hhead
    cases hspliced
    exact .top hmain' (htiles.atEof hmembers (hlen hmain'))
  | plain hsource hplaced hplain hclosed =>
    cases hspliced
    cases hmembers
    cases hhead with
    | some hblock =>
      cases hblock with
      | same => exact .plain hsource hplaced hplain hclosed
      | eof hopen => exact absurd hopen hclosed
  | body hsource hplaced hplain hopenLen htiles =>
    cases hspliced
    cases hhead with
    | some hblock =>
      obtain ⟨htype, hs, hstart, hstop, hclose⟩ := hblock.same_place (hlen hsource)
      refine .body (hs ▸ hsource) (hplaced.atEof hblock (hlen hsource)) (htype ▸ hplain)
        (htype ▸ hopenLen) ?_
      rw [hs, Block.bodyStart, Block.bodyStop, hstart, htype, hstop, hclose hplaced.closeLen_eq]
      exact htiles.atEof hmembers (hlen hsource)
  | spliced hsource hplaced hinc hclosed hlater hcontent hmatch htiles =>
    cases hspliced
    cases hhead with
    | some hblock =>
      cases hblock with
      | same =>
        exact .spliced hsource hplaced hinc hclosed hlater hcontent hmatch
          (htiles.atEof hmembers (hlen hcontent))
      | eof hopen => exact absurd hopen hclosed

theorem of_root (h : family.Tiled sources file) (hhead : family.head = none) :
    ∃ main, sources[0]? = some main ∧
      Tiles 0 main.text.byteLen family.members 0 main.text.byteLen := by
  cases h with
  | top hmain htiles => exact ⟨_, hmain, htiles⟩
  | plain => cases hhead
  | body => cases hhead
  | spliced => cases hhead

theorem of_body {block : Block} (h : family.Tiled sources file) (hhead : family.head = some block)
    (hplain : block.type.isPlain = false) (hspliced : family.spliced = false) :
    ∃ source, sources[block.source]? = some source ∧ block.Placed source.text ∧
      Tiles block.source source.text.byteLen family.members block.bodyStart
        (block.bodyStop source.text.byteLen) := by
  cases h with
  | top => cases hhead
  | plain _ _ hplain' =>
    cases hhead
    rw [hplain] at hplain'
    cases hplain'
  | body hsource hplaced _ _ htiles =>
    cases hhead
    exact ⟨_, hsource, hplaced, htiles⟩
  | spliced => cases hspliced

theorem of_spliced (h : family.Tiled sources file) (hspliced : family.spliced = true) :
    ∃ block settings s content, family.head = some block ∧
      block.type.inclusion? = some settings ∧ block.source < s ∧ sources[s]? = some content ∧
      file settings content ∧
      Tiles s content.text.byteLen family.members 0 content.text.byteLen := by
  cases h with
  | top => cases hspliced
  | plain => cases hspliced
  | body => cases hspliced
  | spliced _ _ hinc _ hlater hcontent hmatch htiles =>
    exact ⟨_, _, _, _, rfl, hinc, hlater, hcontent, hmatch, htiles⟩

theorem closed_of_spliced {block : Block} (h : family.Tiled sources file)
    (hspliced : family.spliced = true) (hhead : family.head = some block) :
    block.stop ≠ none := by
  cases h with
  | top => cases hspliced
  | plain => cases hspliced
  | body => cases hspliced
  | spliced _ _ _ hclosed =>
    cases hhead
    exact hclosed

theorem of_head {block : Block} (h : family.Tiled sources file)
    (hhead : family.head = some block) :
    (∃ source, sources[block.source]? = some source ∧ block.Placed source.text) ∧
      (block.type.isPlain = true → block.stop ≠ none ∧ family.members = []) := by
  cases h with
  | top => cases hhead
  | plain hsource hplaced _ hclosed =>
    cases hhead
    exact ⟨⟨_, hsource, hplaced⟩, fun _ => ⟨hclosed, rfl⟩⟩
  | body hsource hplaced hplain =>
    cases hhead
    exact ⟨⟨_, hsource, hplaced⟩, by simp [hplain]⟩
  | spliced hsource hplaced hinc =>
    cases hhead
    exact ⟨⟨_, hsource, hplaced⟩, by simp [BlockType.isPlain_of_inclusion hinc]⟩

end Family.Tiled

/-! ### Documents -/

namespace Document

/-- The children of the node have these blocks. -/
def HasChildren (doc : Document) (id : Nat) (blocks : List Block) : Prop :=
  (doc.childrenOf id).map doc.blockOf? = blocks.map some

theorem Arena.hasChildren {doc : Document} (h : doc.Arena) (id : Nat) :
    doc.HasChildren id (doc.family id).members := by
  have hblocks : ∀ c ∈ doc.childrenOf id, ∃ block, doc.blockOf? c = some block :=
    fun c hc => h.child_block hc
  unfold HasChildren family
  generalize doc.childrenOf id = children at hblocks
  induction children with
  | nil => rfl
  | cons c cs ih =>
    obtain ⟨block, hblock⟩ := hblocks c (List.mem_cons_self ..)
    have hrest := ih fun c' hc' => hblocks c' (List.mem_cons_of_mem _ hc')
    rw [List.map_cons, hrest, hblock]
    simp only [List.filterMap_cons_some hblock, List.map_cons]

theorem HasChildren.eq_nil_iff {doc : Document} {id : Nat} {blocks : List Block}
    (h : doc.HasChildren id blocks) : doc.childrenOf id = [] ↔ blocks = [] := by
  have hlen := congrArg List.length h
  rw [List.length_map, List.length_map] at hlen
  rw [← List.length_eq_zero_iff, hlen, List.length_eq_zero_iff]

theorem HasChildren.mem {doc : Document} {id c : Nat} {blocks : List Block} {block : Block}
    (h : doc.HasChildren id blocks) (hc : c ∈ doc.childrenOf id)
    (hblock : doc.blockOf? c = some block) : block ∈ blocks := by
  have hmem : some block ∈ (doc.childrenOf id).map doc.blockOf? := List.mem_map.2 ⟨c, hc, hblock⟩
  rw [h] at hmem
  obtain ⟨found, hfound, heq⟩ := List.mem_map.1 hmem
  cases heq
  exact hfound

/-- **The nodes of a document tile its sources.**  An open block counts as one that
    ends with its source and has no close marker. -/
structure Tiled (doc : Document) (main : Source) (file : Inclusion → Source → Prop) : Prop where
  first : doc.sources[0]? = some main
  /-- The children of the root tile the main text. -/
  top : ∃ blocks, doc.HasChildren root blocks ∧
    Tiles 0 main.text.byteLen blocks 0 main.text.byteLen ∧
    (doc.childrenOf root = [] ↔ main.text = [])
  /-- The children of a block tile the text between its markers. -/
  body : ∀ id block, doc.Reachable id → doc.blockOf? id = some block →
    block.type.isPlain = false → doc.splicedAt id = false →
    ∃ source blocks, doc.sources[block.source]? = some source ∧ doc.HasChildren id blocks ∧
      Tiles block.source source.text.byteLen blocks block.bodyStart
        (block.bodyStop source.text.byteLen) ∧
      (doc.childrenOf id = [] ↔ block.bodyStart = block.bodyStop source.text.byteLen)
  /-- The children of an include that was followed tile the file. -/
  spliced : ∀ id, doc.Reachable id → doc.splicedAt id = true →
    ∃ block settings s content blocks, doc.blockOf? id = some block ∧
      block.type.inclusion? = some settings ∧ block.source < s ∧
      doc.sources[s]? = some content ∧ file settings content ∧ doc.HasChildren id blocks ∧
      Tiles s content.text.byteLen blocks 0 content.text.byteLen ∧
      (doc.childrenOf id = [] ↔ content.text = [])
  /-- Every other node is a block that stands in its source, plain text has no
      children, and parents know their children. -/
  nodes : ∀ id, doc.Reachable id → id ≠ root →
    ∃ block source parent, doc.blockOf? id = some block ∧
      doc.sources[block.source]? = some source ∧ block.Placed source.text ∧
      (block.type.isPlain = true → block.stop ≠ none ∧ doc.childrenOf id = []) ∧
      doc.Reachable parent ∧ doc.parentOf? id = some parent ∧ id ∈ doc.childrenOf parent

theorem Tiled.placed_main {doc : Document} {main : Source} {file : Inclusion → Source → Prop}
    (h : doc.Tiled main file) (harena : doc.Arena) {id : Nat} {block : Block}
    (hid : doc.Reachable id) (hblock : doc.blockOf? id = some block)
    (hsource : block.source = 0) : block.Placed main.text := by
  obtain ⟨found, source, _, hfound, hfirst, hplaced, -⟩ := h.nodes id hid (harena.ne_root hblock)
  cases hblock.symm.trans hfound
  rw [hsource, h.first] at hfirst
  cases hfirst
  exact hplaced

/-- What is around a block of the main text is a block of it that has not been followed,
    and has that one between its markers. -/
theorem Tiled.around_main {doc : Document} {main : Source} {file : Inclusion → Source → Prop}
    (h : doc.Tiled main file) (harena : doc.Arena) {id parent : Nat} {block around : Block}
    (hid : doc.Reachable id) (hblock : doc.blockOf? id = some block) (hsource : block.source = 0)
    (hparent : doc.parentOf? id = some parent) (haround : doc.blockOf? parent = some around) :
    doc.Reachable parent ∧ around.source = 0 ∧ around.type.isPlain = false ∧
      around.bodyStart ≤ block.start ∧
      block.stopIn main.text.byteLen ≤ around.bodyStop main.text.byteLen := by
  obtain ⟨-, -, found, -, -, -, -, hreach, hfound, hchild⟩ := h.nodes id hid (harena.ne_root hblock)
  cases hparent.symm.trans hfound
  obtain ⟨around', -, -, haround', -, -, hplain, -, -, -⟩ :=
    h.nodes parent hreach (harena.ne_root haround)
  cases haround.symm.trans haround'
  have htype : around.type.isPlain = false := by
    refine Bool.eq_false_iff.2 fun htype => ?_
    rw [(hplain htype).2] at hchild
    cases hchild
  rcases hspliced : doc.splicedAt parent with _ | _
  · obtain ⟨source, blocks, hsource', hblocks, htiles, -⟩ :=
      h.body parent around hreach haround htype hspliced
    obtain ⟨hs, hstart, hstop⟩ := htiles.of_mem (hblocks.mem hchild hblock)
    have hzero : around.source = 0 := hs.symm.trans hsource
    rw [hzero, h.first] at hsource'
    cases hsource'
    exact ⟨hreach, hzero, htype, hstart, hstop⟩
  · -- the children of an include that was followed are in a later source
    obtain ⟨around', -, s, content, blocks, -, -, hlater, -, -, hblocks, htiles, -⟩ :=
      h.spliced parent hreach hspliced
    obtain ⟨hs, -, -⟩ := htiles.of_mem (hblocks.mem hchild hblock)
    omega

theorem Tiled.mono {doc : Document} {main : Source} {file file' : Inclusion → Source → Prop}
    (h : doc.Tiled main file) (hfile : ∀ settings source, file settings source →
      file' settings source) : doc.Tiled main file' := by
  refine ⟨h.first, h.top, h.body, ?_, h.nodes⟩
  intro id hid hspliced
  obtain ⟨block, settings, s, content, blocks, hblock, hinc, hlater, hcontent, hmatch, hrest⟩ :=
    h.spliced id hid hspliced
  exact ⟨block, settings, s, content, blocks, hblock, hinc, hlater, hcontent, hfile _ _ hmatch,
    hrest⟩

theorem Arena.tiled {doc : Document} {main : Source} {file : Inclusion → Source → Prop}
    (h : doc.Arena) (hmain : doc.sources[0]? = some main)
    (hall : ∀ id < doc.nodes.size, (doc.family id).Tiled doc.sources file) :
    doc.Tiled main file := by
  have hchildren := h.hasChildren
  -- where the members tile a range, there are no children only if the range is empty
  have hempty : ∀ {id s len lo hi}, Tiles s len (doc.family id).members lo hi →
      (doc.childrenOf id = [] ↔ lo = hi) :=
    fun htiles => (hchildren _).eq_nil_iff.trans htiles.eq_nil_iff
  have hnil : ∀ {text : Text}, 0 = text.byteLen ↔ text = [] :=
    fun {text} => eq_comm.trans Text.byteLen_eq_zero
  refine ⟨hmain, ?_, ?_, ?_, ?_⟩
  · obtain ⟨main', hmain', htiles⟩ := (hall root h.size_pos).of_root h.root_block
    cases hmain.symm.trans hmain'
    exact ⟨_, hchildren root, htiles, (hempty htiles).trans hnil⟩
  · intro id block hid hblock hplain hspliced
    obtain ⟨source, hsource, -, htiles⟩ :=
      (hall id (hid.lt_size h)).of_body hblock hplain hspliced
    exact ⟨source, _, hsource, hchildren id, htiles, hempty htiles⟩
  · intro id hid hspliced
    obtain ⟨block, settings, s, content, hblock, hinc, hlater, hcontent, hmatch, htiles⟩ :=
      (hall id (hid.lt_size h)).of_spliced hspliced
    exact ⟨block, settings, s, content, _, hblock, hinc, hlater, hcontent, hmatch, hchildren id,
      htiles, (hempty htiles).trans hnil⟩
  · intro id hid hroot
    obtain ⟨block, hblock⟩ := h.block id hroot (hid.lt_size h)
    obtain ⟨⟨source, hsource, hplaced⟩, hplain⟩ := (hall id (hid.lt_size h)).of_head hblock
    cases hid with
    | root => exact absurd rfl hroot
    | @child parent _ hparent hc =>
      refine ⟨block, source, parent, hblock, hsource, hplaced, ?_, hparent,
        (h.child parent id hc).2.2, hc⟩
      intro htype
      obtain ⟨hclosed, hmembers⟩ := hplain htype
      exact ⟨hclosed, (h.members_eq_nil_iff id).1 hmembers⟩

end Document

end Blockwise
