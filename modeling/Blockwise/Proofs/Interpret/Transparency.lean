/-
  Blockwise/Proofs/Interpret/Transparency.lean
  ============================================
  **An include stands for the document of its file.**  When an include block is closed,
  by its close tag or at once, the text of its children names a file, and the children
  of that file's document take their place.  That document is the one which the file has
  on its own: nothing of it depends on the text that includes it or on the files that are
  underway (`interpretFile_eq_ok`).

  What an include holds at that moment (`Document.Included`) it holds to the end.  The
  nodes are settled, so later moves of the scan, and splicing into the documents of other
  files, only move them (`Included.embed`, `Told.carry`).  The node therefore renders as
  the file does, and a walk below it tells the same (`includes_transparent`).
-/
import Blockwise.Proofs.Document.Mirrors
import Blockwise.Proofs.Interpret.Nesting
import Blockwise.Proofs.Interpret.Recognition

namespace Blockwise

/-- The block was left open up to the end of its text, which closed it. -/
structure Block.EndsWithText (text : Text) (block : Block) : Prop where
  waits : block.type.flags.closeImmediately = false
  closeLen : block.closeLen = 0
  stop : block.stop = some text.byteLen

/-! ### A file on its own -/

namespace Interpreter

/-- **A file that gives a document inside a chain gives the same one on its own.** -/
theorem interpretFile_eq_ok {disk : Disk} {depth : Nat} {interpreter : Interpreter}
    {chain longer : List Path} {path : Path} {text : Text} {sub : Document}
    (henter : Guard.checked.enter chain (interpreter.reader.identity disk path) = .ok longer)
    (hread : interpreter.reader.read disk path = .ok text)
    (h : (interpretSource .checked disk depth interpreter longer ⟨some path, text⟩).result =
      .ok sub) :
    (interpreter.interpretFile disk path).result = .ok sub := by
  have hlonger : [interpreter.reader.identity disk path] ⊆ longer := by
    rw [(enter_checked_eq_ok henter).2]
    simp
  rcases interpretFile_cases disk interpreter path with ⟨_, hunread, -⟩ | ⟨_, hread', halone⟩
  · cases hunread.symm.trans hread
  cases hread'.symm.trans hread
  have hchain := (chained_nil disk interpreter).enter .refl rfl hread
  have hlimit := Nat.lt_of_succ_lt (fileCount_lt_depthLimit disk interpreter)
  -- both bounds are enough, so the larger one gives what either gives
  rw [halone, ← interpretSource_deeper hchain hlimit (Nat.le_max_right depth _)]
  exact interpretSource_eq_ok (Nat.le_max_left ..) hlonger h

end Interpreter

/-! ### What an include holds -/

namespace Document

/-- The nodes `old` were the children of the block up to `hi`: they tile its text so far,
    have no parent any more, and look as they did when they rendered as `reference`. -/
structure Former (doc : Document) (block : Block) (len hi : Nat) (old : List Nat)
    (reference : Text) : Prop where
  settled : ∀ j ∈ old, doc.Settled j
  detached : ∀ j ∈ old, doc.parentOf? j = none
  tiles : Tiles block.source len (old.filterMap doc.blockOf?) block.bodyStart hi
  text : ∃ (before : Document) (ids : List Nat), before.Arena ∧
    (∀ j ∈ ids, j < before.nodes.size) ∧ doc.Mirrors before old ids ∧
    before.renders ids = .ok reference

/-- Node `id` has the children of the document of a file.  The interpreter of source `s` is
    `scanner s`. -/
structure Included (doc : Document) (disk : Disk) (scanner : Nat → Interpreter)
    (settings : Inclusion) (id : Nat) (block : Block) (len hi : Nat) : Prop where
  spliced : doc.splicedAt id = true
  scanned : ∀ c ∈ doc.childrenOf id, ∀ child, doc.blockOf? c = some child →
    scanner child.source = settings.override.getD (scanner block.source)
  file : ∃ (old : List Nat) (reference : Text) (sub : Document),
    doc.Former block len hi old reference ∧
    ((settings.override.getD (scanner block.source)).interpretFile disk
      (settings.resolve reference)).result = .ok sub ∧
    sub.Arena ∧ sub.LegibleFrom 0 ∧ doc.Mirrors sub (doc.childrenOf id) (sub.childrenOf root)

/-- All include nodes hold what they stand for, also those which have been detached. -/
def Told (doc : Document) (disk : Disk) (scanner : Nat → Interpreter) : Prop :=
  ∀ id block settings source, doc.blockOf? id = some block →
    block.type.inclusion? = some settings → doc.sources[block.source]? = some source →
    block.stop ≠ none → (doc.splicedAt id = true ∨ ¬ block.EndsWithText source.text) →
    doc.Included disk scanner settings id block source.text.byteLen
      (block.bodyStop source.text.byteLen)

/-- The settled nodes of `doc` stand in `doc'`, where their sources have the interpreters
    that they had. -/
structure Carries (doc doc' : Document) (scanner scanner' : Nat → Interpreter)
    (move : Nat → Nat) (shift : Nat) : Prop where
  building : doc.Building
  embeds : doc.Embeds doc' move shift
  sourced : doc.Sourced
  scanners : ∀ s < doc.sources.size, scanner' (s + shift) = scanner s

section

variable {doc doc' : Document} {disk : Disk} {scanner scanner' : Nat → Interpreter}
  {move : Nat → Nat} {shift len hi : Nat} {settings : Inclusion} {id id' : Nat}
  {block block' : Block}

theorem Former.embed {old : List Nat} {reference : Text}
    (h : doc.Former block len hi old reference) (hembeds : doc.Embeds doc' move shift)
    (hdoc : doc.Building) (hsource : block'.source = block.source + shift)
    (hstart : block'.bodyStart = block.bodyStart) :
    doc'.Former block' len hi (old.map move) reference := by
  refine ⟨?_, ?_, ?_, ?_⟩
  · intro j hj
    obtain ⟨i, hi, rfl⟩ := List.mem_map.1 hj
    exact hembeds.settled i (h.settled i hi)
  · intro j hj
    obtain ⟨i, hi, rfl⟩ := List.mem_map.1 hj
    exact hembeds.detached i (h.settled i hi) (h.detached i hi)
  · rw [hembeds.blocks h.settled, hsource, hstart]
    exact h.tiles.shifted shift
  · obtain ⟨before, ids, harena, hids, hmirrors, htext⟩ := h.text
    exact ⟨before, ids, harena, hids, hmirrors.embed hembeds hdoc h.settled, htext⟩

/-- What an include holds it holds in the next document. -/
theorem Included.embed (h : doc.Included disk scanner settings id block len hi)
    (hcarries : doc.Carries doc' scanner scanner' move shift)
    (hlt : block.source < doc.sources.size) (hspliced : doc'.splicedAt id' = doc.splicedAt id)
    (hchildren : doc'.childrenOf id' = (doc.childrenOf id).map move)
    (hbelow : ∀ c ∈ doc.childrenOf id, doc.Settled c)
    (hsource : block'.source = block.source + shift)
    (hstart : block'.bodyStart = block.bodyStart) :
    doc'.Included disk scanner' settings id' block' len hi := by
  have hscanner : scanner' block'.source = scanner block.source := by
    rw [hsource]
    exact hcarries.scanners _ hlt
  refine ⟨hspliced.trans h.spliced, ?_, ?_⟩
  · intro c hc child hchild
    rw [hchildren] at hc
    obtain ⟨i, hi, rfl⟩ := List.mem_map.1 hc
    rw [hcarries.embeds.blockOf? i (hbelow i hi)] at hchild
    obtain ⟨before, hbefore, rfl⟩ := Option.map_eq_some_iff.1 hchild
    rw [hscanner, ← h.scanned i hi before hbefore]
    exact hcarries.scanners _ (hcarries.sourced i before (hbelow i hi) hbefore)
  · obtain ⟨old, reference, sub, hformer, hfile, harena, hlegible, hmirrors⟩ := h.file
    refine ⟨old.map move, reference, sub,
      hformer.embed hcarries.embeds hcarries.building hsource hstart, ?_, harena, hlegible, ?_⟩
    · rw [hscanner]
      exact hfile
    · rw [hchildren]
      exact hmirrors.embed hcarries.embeds hcarries.building hbelow

theorem Told.embed (h : doc.Told disk scanner)
    (hcarries : doc.Carries doc' scanner scanner' move shift) {source : Source}
    (hblock : doc.blockOf? id = some block) (hinc : block.type.inclusion? = some settings)
    (hclosed : block.stop ≠ none) (hsource : doc'.sources[block.source + shift]? = some source)
    (hends : doc'.splicedAt (move id) = true ∨ ¬ block.EndsWithText source.text) :
    doc'.Included disk scanner' settings (move id) (block.shifted shift) source.text.byteLen
      (block.bodyStop source.text.byteLen) := by
  have hid := hcarries.building.settled_of_closed hblock hclosed
  have hlt := hcarries.sourced id block hid hblock
  have hfound := hcarries.embeds.sources _ _ (Array.getElem?_eq_getElem hlt)
  cases hsource.symm.trans hfound
  rw [hcarries.embeds.splicedAt id hid] at hends
  exact (h id block settings _ hblock hinc (Array.getElem?_eq_getElem hlt) hclosed hends).embed
    hcarries hlt (hcarries.embeds.splicedAt id hid) (hcarries.embeds.childrenOf id hid)
    (fun c hc => hcarries.building.settled_child hid hc) rfl rfl

end

/-- **What the include nodes hold stays,** so only those that are new or have just been
    closed are to be looked at. -/
theorem Told.carry {doc doc' : Document} {disk : Disk} {scanner scanner' : Nat → Interpreter}
    (h : doc.Told disk scanner) (hcarries : doc.Carries doc' scanner scanner' id 0)
    (hnew : ∀ id block settings source, doc'.blockOf? id = some block →
      doc.blockOf? id ≠ some block → block.type.inclusion? = some settings →
      doc'.sources[block.source]? = some source → block.stop ≠ none →
      (doc'.splicedAt id = true ∨ ¬ block.EndsWithText source.text) →
      doc'.Included disk scanner' settings id block source.text.byteLen
        (block.bodyStop source.text.byteLen)) : doc'.Told disk scanner' := by
  intro id block settings source hblock hinc hsource hclosed hends
  by_cases hold : doc.blockOf? id = some block
  · exact h.embed hcarries hold hinc hclosed hsource hends
  · exact hnew id block settings source hblock hold hinc hsource hclosed hends

/-- The interpreters of `count` sources and of those behind them. -/
def joined (count : Nat) (scanner scanner' : Nat → Interpreter) (s : Nat) : Interpreter :=
  if s < count then scanner s else scanner' (s - count)

section

variable {count s : Nat} {scanner scanner' : Nat → Interpreter}

theorem joined_of_lt (h : s < count) : joined count scanner scanner' s = scanner s := if_pos h

theorem joined_add : joined count scanner scanner' (s + count) = scanner' s := by
  rw [joined, if_neg (Nat.not_lt.2 (Nat.le_add_left ..)), Nat.add_sub_cancel]

end

/-- The include nodes of a file and of the text that includes it keep what they hold. -/
theorem Told.graft {doc sub doc' : Document} {target : Nat} {disk : Disk}
    {scanner scanner' : Nat → Interpreter} (h : doc.Told disk scanner)
    (hsub : sub.Told disk scanner') (hgraft : doc.Grafted sub doc' target) (hdoc : doc.Building)
    (htarget : target ∈ doc.openBlocks) (hbuilding : sub.Building)
    (hsourced : doc.Sourced) (hsourced' : sub.Sourced) :
    doc'.Told disk (joined doc.sources.size scanner scanner') := by
  have hold : doc.Carries doc' scanner (joined doc.sources.size scanner scanner') id 0 :=
    ⟨hdoc, hgraft.embeds_old htarget, hsourced, fun _ hs => joined_of_lt hs⟩
  have hnew : sub.Carries doc' scanner' (joined doc.sources.size scanner scanner')
      (landing doc.nodes.size) doc.sources.size :=
    ⟨hbuilding, hgraft.embeds_new hdoc, hsourced', fun _ _ => joined_add⟩
  refine h.carry hold ?_
  intro j block settings content hblock hne hinc hcontent hclosed hends
  by_cases hlt : j < doc.nodes.size
  · exact absurd ((hgraft.blockOf? j hlt).symm.trans hblock) hne
  · obtain ⟨i, rfl⟩ := exists_add_of_not_lt hlt
    rw [hgraft.blockOf?_new] at hblock
    obtain ⟨before, hbefore, rfl⟩ := Option.map_eq_some_iff.1 hblock
    rw [← landing_succ] at hends ⊢
    exact hsub.embed hnew hbefore hinc hclosed hcontent
      (hends.imp_right fun hnot hends => hnot ⟨hends.waits, hends.closeLen, hends.stop⟩)

theorem Families.sourced {doc : Document} {file : Inclusion → Source → Prop} {Q : Family → Prop}
    (h : doc.Families (Family.Tiled doc.sources file) Q) : doc.Sourced := by
  intro id block hid hblock
  obtain ⟨⟨source, hsource, -⟩, -⟩ := (h.1 id hid.lt_size hid.ne_innermost).of_head hblock
  exact (Array.getElem?_eq_some_iff.1 hsource).1

/-- A document that is spliced in is what the include holds from then on. -/
theorem Grafted.included {doc sub doc' : Document} {disk : Disk} {scanner : Nat → Interpreter}
    {settings : Inclusion} {block : Block} {len hi : Nat} {reference : Text}
    (hgraft : doc.Grafted sub doc' doc.innermost) (hdoc : doc.Building)
    (htarget : doc.innermost ∈ doc.openBlocks) (hsub : sub.Building)
    (hfinished : sub.openBlocks = []) (hlegible : doc.LegibleFrom (doc.innermost + 1))
    (hlegible' : sub.LegibleFrom 0)
    (htiles : Tiles block.source len (doc.family doc.innermost).members block.bodyStart hi)
    (hrenders : doc.renders (doc.childrenOf doc.innermost) = .ok reference)
    (hfile : ((settings.override.getD (scanner block.source)).interpretFile disk
      (settings.resolve reference)).result = .ok sub)
    (hscanned : ∀ c ∈ sub.childrenOf root, ∀ child, sub.blockOf? c = some child →
      scanner (child.source + doc.sources.size) =
        settings.override.getD (scanner block.source)) :
    doc'.Included disk scanner settings doc.innermost block len hi := by
  have hin := hdoc.innermost_lt
  have hold := hgraft.embeds_old htarget
  have hnew := hgraft.embeds_new hdoc
  have hchildren : doc'.childrenOf doc.innermost =
      (sub.childrenOf root).map (landing doc.nodes.size) := by
    rw [hgraft.childrenOf _ hin, if_pos rfl]
  have hsettled : ∀ c ∈ doc.childrenOf doc.innermost, doc.Settled c :=
    fun c hc => hdoc.settled_of_innermost hc
  have hsettled' : ∀ c ∈ sub.childrenOf root, sub.Settled c := by
    intro c hc
    refine hsub.settled_of_innermost ?_
    rw [innermost_eq, hfinished]
    exact hc
  refine ⟨?_, ?_, doc.childrenOf doc.innermost, reference, sub, ⟨?_, ?_, ?_, ?_⟩, hfile,
    hsub.arena, hlegible', ?_⟩
  · rw [hgraft.splicedAt _ hin]
    simp
  · intro c hc child hchild
    rw [hchildren] at hc
    obtain ⟨i, hi, rfl⟩ := List.mem_map.1 hc
    rw [hnew.blockOf? i (hsettled' i hi)] at hchild
    obtain ⟨before, hbefore, rfl⟩ := Option.map_eq_some_iff.1 hchild
    exact hscanned i hi before hbefore
  · intro c hc
    exact hold.settled c (hsettled c hc)
  · intro c hc
    rw [hgraft.parentOf? c (hsettled c hc).lt_size, if_pos hc]
  · have hblocks : (doc.childrenOf doc.innermost).filterMap doc'.blockOf? =
        (doc.family doc.innermost).members :=
      List.filterMap_congr fun c hc => hgraft.blockOf? c (hsettled c hc).lt_size
    rw [hblocks]
    exact htiles
  · refine ⟨doc, doc.childrenOf doc.innermost, hdoc.arena, fun c hc => (hsettled c hc).lt_size, ?_,
      hrenders⟩
    have hmirrors := (mirrors_children hdoc.arena hlegible).embed hold hdoc hsettled
    rwa [List.map_id] at hmirrors
  · rw [hchildren]
    exact (mirrors_children hsub.arena (hlegible'.mono (Nat.zero_le _))).embed hnew hsub hsettled'

end Document

/-! ### The run of a scan -/

namespace Scan

open Document

/-- An include that has been followed holds its file already when it is closed. -/
def Phase.Holding (disk : Disk) (scanner : Nat → Interpreter) (len : Nat) : Phase → Scan → Prop
  | .followed id type _, scan => ∀ settings block, type.inclusion? = some settings →
      scan.doc.blockOf? id = some block →
      scan.doc.Included disk scanner settings id block len scan.pos
  | _, _ => True

structure Tells (disk : Disk) (interpreter : Interpreter) (source : Source) (phase : Phase)
    (scan : Scan) : Prop where
  reached : Reached disk interpreter source phase scan
  told : ∃ scanner, scanner 0 = interpreter ∧ scan.doc.Told disk scanner ∧
    phase.Holding disk scanner source.text.byteLen scan

section

variable {disk : Disk} {interpreter : Interpreter} {source : Source} {scan flushed : Scan}
  {scanner : Nat → Interpreter} {doc : Document}

theorem flush_told (hreg : interpreter.Registered)
    (hscan : Reached disk interpreter source .scanning scan) (h : scan.doc.Told disk scanner)
    (hflush : scan.flush = .ok flushed) : flushed.doc.Told disk scanner := by
  have hbuilding := hscan.standing.draft.building
  obtain ⟨doc, rfl, ⟨-, hclose⟩ | ⟨-, rfl⟩⟩ := flush_eq_ok hflush
  · obtain ⟨-, -, hclosed, -⟩ := closeInnermost_eq_ok (openBlocks_push ..) hclose
    have hcarries : scan.doc.Carries doc scanner scanner id 0 :=
      ⟨hbuilding, hbuilding.embeds_leaf hclose, Families.sourced (hscan.tiling hreg),
        fun _ _ => rfl⟩
    refine h.carry hcarries ?_
    intro j block settings _ hblock hold hinc
    rw [hclosed.blockOf?, blockOf?_push _ hbuilding.innermost_lt] at hblock
    by_cases hj : j = scan.doc.nodes.size
    · -- the new leaf is plain text
      rw [if_pos (List.mem_singleton.2 hj), if_pos hj] at hblock
      cases hblock
      cases hinc
    · rw [if_neg (mt List.mem_singleton.1 hj), if_neg hj] at hblock
      exact absurd hblock hold
  · exact h

theorem push_told {block : Block} {file : Inclusion → Source → Prop} {Q : Family → Prop}
    (hdoc : doc.Building) (hfamilies : doc.Families (Family.Tiled doc.sources file) Q)
    (h : doc.Told disk scanner) (hopen : block.stop = none) :
    (doc.push block).Told disk scanner := by
  refine h.carry ⟨hdoc, hdoc.embeds_push block, hfamilies.sourced, fun _ _ => rfl⟩ ?_
  intro j found settings _ hfound hold _ _ hclosed
  rw [blockOf?_push _ hdoc.innermost_lt] at hfound
  split at hfound
  · cases hfound
    exact absurd hopen hclosed
  · exact absurd hfound hold

theorem close_told {id count : Nat} {type : BlockType} (hreg : interpreter.Registered)
    (hscan : Reached disk interpreter source (.followed id type count) scan)
    (h : scan.doc.Told disk scanner)
    (hheld : Phase.Holding disk scanner source.text.byteLen (.followed id type count) scan)
    (hclose : scan.doc.closeInnermost scan.pos (Text.byteLen (scan.rest.take count)) = .ok doc) :
    doc.Told disk scanner := by
  have hdraft := hscan.standing.draft
  obtain ⟨-, outer, block, hopen, hblock, rfl⟩ := hscan.standing.pending
  obtain ⟨hsources, hopen', hclosed, -⟩ := closeInnermost_eq_ok hopen hclose
  have hmem : id ∈ scan.doc.openBlocks := hopen ▸ List.mem_cons_self ..
  have hcarries : scan.doc.Carries doc scanner scanner (fun j => j) 0 := by
    refine ⟨hdraft.building, hclosed.embeds hsources ?_ ?_, Families.sourced (hscan.tiling hreg),
      fun _ _ => rfl⟩
    · intro j hj
      rw [List.mem_singleton.1 hj]
      exact hmem
    · rw [hopen', hopen]
      exact List.subset_cons_self ..
  refine h.carry hcarries ?_
  intro j found settings content hfound hold hinc hcontent _ _
  rw [hclosed.blockOf?] at hfound
  split at hfound
  · next hj =>
    -- the include that has just been closed
    obtain rfl := List.mem_singleton.1 hj
    rw [hblock, Option.map_some] at hfound
    cases hfound
    have hzero : block.source = 0 := (hdraft.registered j hmem block hblock).2
    have hmain : source = content := by
      rw [hsources, show (block.closedAt scan.pos _).source = 0 from hzero, hdraft.main] at hcontent
      exact Option.some.inj hcontent
    have hbody : (block.closedAt scan.pos (Text.byteLen (scan.rest.take count))).bodyStop
        content.text.byteLen = scan.pos := Nat.add_sub_cancel ..
    have hin : scan.doc.innermost = j := by rw [innermost_eq, hopen]; rfl
    rw [hbody, ← hmain]
    refine (hheld settings block hinc hblock).embed hcarries ?_ (hclosed.splicedAt j) ?_ ?_ rfl rfl
    · rw [hzero]
      exact (Array.getElem?_eq_some_iff.1 hdraft.main).1
    · rw [hclosed.childrenOf, List.map_id']
    · intro c hc
      exact hdraft.building.settled_of_innermost (hin.symm ▸ hc)
  · exact absurd hfound hold

/-- What the end of input closes has not been followed, and ends with its text. -/
theorem finish_told (hreg : interpreter.Registered)
    (hscan : Reached disk interpreter source .scanning scan) (hrest : scan.rest = [])
    (h : scan.doc.Told disk scanner) (hfinish : scan.finish.result = .ok doc) :
    doc.Told disk scanner := by
  have hstanding := hscan.standing
  have htiling := hscan.tiling hreg
  obtain ⟨flushed, closed, left, hflush, hsources, hsplit, hopen, halong, -, -, hleft⟩ :=
    finish_holds (Or.inl hfinish) hstanding.draft
  obtain ⟨-, hdraft, -, hopen', hkeep⟩ := flush_draft hstanding.draft hflush
  have htiled := flush_tiled_at_end hstanding hrest htiling hflush
  have hids : ∀ j ∈ closed, j ∈ flushed.doc.openBlocks := by
    intro j hj
    rw [← List.mem_reverse, hsplit]
    exact List.mem_append_left _ hj
  have hcarries : flushed.doc.Carries doc scanner scanner (fun j => j) 0 := by
    refine ⟨hdraft.building, halong.embeds hsources hids ?_,
      Families.sourced (flush_tiled hstanding htiling hflush), fun _ _ => rfl⟩
    rw [hopen, hleft hfinish]
    exact List.nil_subset _
  refine (flush_told hreg hscan h hflush).carry hcarries ?_
  intro j found settings content hfound hold _ hcontent _ hends
  rw [halong.blockOf?] at hfound
  split at hfound
  · next hj =>
    exfalso
    obtain ⟨block, hblock, rfl⟩ := Option.map_eq_some_iff.1 hfound
    have hmem := hids j hj
    obtain ⟨other, hother, hstop⟩ := hdraft.building.spine.exists_block j hmem
    cases hblock.symm.trans hother
    rcases hends with hspliced | hends
    · rw [halong.splicedAt] at hspliced
      exact (htiled j (lt_size_of_block hblock)).closed_of_spliced hspliced hblock hstop
    · have hzero : block.source = 0 := (hdraft.registered j hmem block hblock).2
      have hmain : source = content := by
        rw [hsources, show (block.closedAt _ 0).source = 0 from hzero, hdraft.main] at hcontent
        exact Option.some.inj hcontent
      rw [← hmain] at hends
      rw [hopen'] at hmem
      have hlt := hstanding.draft.building.spine.lt_size hstanding.draft.building.arena j hmem
      have himm := (hscan.reading hreg).closeImmediately_of_open
        ((hkeep j hlt).symm.trans hblock) hstop
      exact hends ⟨himm, rfl, rfl⟩
  · exact absurd hfound hold

theorem kept_tells {follow : Follow} (hreg : interpreter.Registered)
    (hsound : follow.Sound disk interpreter source)
    (hfollow : ∀ {scan id type count settings doc},
      Tells disk interpreter source (.closing id type count) scan →
      type.inclusion? = some settings → (follow scan.doc id settings).result = .ok doc →
      ∃ scanner, scanner 0 = interpreter ∧ doc.Told disk scanner ∧
        Phase.Holding disk scanner source.text.byteLen (.followed id type count)
          (scan.mapDoc fun _ => doc)) :
    Kept interpreter follow (fun _ _ => True) fun _ => Tells disk interpreter source := by
  refine ⟨?_, fun _ _ => trivial, ?_, ?_, ?_, ?_, fun _ _ => trivial, ?_⟩
  · intro n scan hscan hrest hopening hclosing
    obtain ⟨scanner, hzero, htold, -⟩ := hscan.told
    exact ⟨hscan.reached.read hrest hopening hclosing, scanner, hzero, htold, trivial⟩
  · intro n scan type flushed hscan hrest hopening hflush
    obtain ⟨scanner, hzero, htold, -⟩ := hscan.told
    have hstanding := hscan.reached.standing
    obtain ⟨-, hdraft, -, -, -⟩ := flush_draft hstanding.draft hflush
    have hfamilies := flush_tiled hstanding (hscan.reached.tiling hreg) hflush
    have htold' := flush_told hreg hscan.reached htold hflush
    refine ⟨hscan.reached.opened hrest hopening hflush, scanner, hzero,
      push_told hdraft.building hfamilies htold' rfl, ?_⟩
    unfold Phase.afterOpen
    split
    · trivial
    · trivial
  · intro n scan id type flushed hscan hrest hopening hclosing hflush
    obtain ⟨scanner, hzero, htold, -⟩ := hscan.told
    have htold' := flush_told hreg hscan.reached htold hflush
    exact ⟨hscan.reached.closing hrest hopening hclosing hflush, scanner, hzero, htold', trivial⟩
  · intro n scan id type count hscan hinc
    obtain ⟨scanner, hzero, htold, -⟩ := hscan.told
    refine ⟨hscan.reached.passed hinc, scanner, hzero, htold, ?_⟩
    intro settings block hinc'
    cases hinc.symm.trans hinc'
  · intro n scan id type count settings hscan hinc
    unfold Traced.Meets
    rcases hresult : (follow scan.doc id settings).result with cause | doc
    · trivial
    · exact ⟨hsound _ _ _ _ _ _ hscan.reached hinc hresult, hfollow hscan hinc hresult⟩
  · intro n scan id type count doc hscan hdoc
    obtain ⟨scanner, hzero, htold, hheld⟩ := hscan.told
    exact ⟨hscan.reached.closed (changeDoc_eq_ok_iff.2 ⟨doc, hdoc, rfl⟩), scanner, hzero,
      close_told hreg hscan.reached htold hheld hdoc, trivial⟩

end

end Scan

/-! ### Whole interpretations -/

namespace Interpreter

open Document Scan

section

variable {disk : Disk} {depth : Nat} {interpreter : Interpreter} {chain : List Path}
  {source : Source} {doc : Document}

theorem followInclude_told {scan : Scan} {id count : Nat} {type : BlockType} {settings : Inclusion}
    (hreg : interpreter.Registered)
    (hfile : ∀ {inner longer file sub}, inner.Registered →
      (interpretSource .checked disk depth inner longer file).result = .ok sub →
      ∃ scanner, scanner 0 = inner ∧ sub.Told disk scanner)
    (hscan : Tells disk interpreter source (.closing id type count) scan)
    (hinc : type.inclusion? = some settings)
    (hfollow : (followInclude .checked disk depth interpreter chain scan.doc id settings).result =
      .ok doc) :
    ∃ scanner, scanner 0 = interpreter ∧ doc.Told disk scanner ∧
      Phase.Holding disk scanner source.text.byteLen (.followed id type count)
        (scan.mapDoc fun _ => doc) := by
  obtain ⟨reference, longer, text, sub, href, henter, hread, hsub, hsplice⟩ :=
    followInclude_eq_ok hfollow
  have hstanding := hscan.reached.standing
  have htiling := hscan.reached.tiling hreg
  have hdraft := hstanding.draft
  obtain ⟨rfl, htype⟩ := hstanding.innermost_eq hstanding.pending
  have hinner := hreg.inner htype hinc
  obtain ⟨hbuilding, hfinished, -, htiled⟩ :=
    ((interpretSource_endsIn _ _ _ _ _ _).1 sub hsub).finished hinner
  have hgraft := hdraft.building.grafted hbuilding.arena hsplice
  have htarget : scan.doc.innermost ∈ scan.doc.openBlocks := by
    obtain ⟨-, outer, -, hopen, -, -⟩ := hstanding.pending
    exact hopen ▸ List.mem_cons_self ..
  obtain ⟨scanner, hzero, htold, -⟩ := hscan.told
  obtain ⟨scanner', hzero', htold'⟩ := hfile hinner hsub
  have hsize : 0 < scan.doc.sources.size := (Array.getElem?_eq_some_iff.1 hdraft.main).1
  have hmain : joined scan.doc.sources.size scanner scanner' 0 = interpreter :=
    (joined_of_lt hsize).trans hzero
  refine ⟨joined scan.doc.sources.size scanner scanner', hmain,
    htold.graft htold' hgraft hdraft.building htarget hbuilding (Families.sourced htiling) ?_, ?_⟩
  · intro j block hj hblock
    obtain ⟨⟨found, hfound, -⟩, -⟩ := (htiled j hj.lt_size).of_head hblock
    exact (Array.getElem?_eq_some_iff.1 hfound).1
  · intro settings' block hinc' hblock
    cases hinc.symm.trans hinc'
    have hblock' : scan.doc.blockOf? scan.doc.innermost = some block :=
      (hgraft.blockOf? _ hdraft.building.innermost_lt).symm.trans hblock
    obtain ⟨hsource, hopen, htiles⟩ := Family.Growing.of_head htiling.2 hblock'
    rw [hstanding.pending.1, ← hsource] at htiles
    have hscanner : joined scan.doc.sources.size scanner scanner' block.source = interpreter := by
      rw [hsource]
      exact hmain
    refine hgraft.included hdraft.building htarget hbuilding hfinished ?_ ?_ htiles
      ((innerText_of_open hblock' hopen).symm.trans href) ?_ ?_
    · refine legibleFrom_of_tiled fun j hfirst hj => htiling.1 j hj ?_
      exact Nat.ne_of_gt hfirst
    · exact legibleFrom_of_tiled fun j _ hj => htiled j hj
    · rw [hscanner]
      exact interpretFile_eq_ok henter hread hsub
    · intro c hc child hchild
      obtain ⟨_, -, hroot⟩ :=
        (htiled root hbuilding.arena.size_pos).of_root hbuilding.arena.root_block
      obtain ⟨hs, -, -⟩ := hroot.of_mem (mem_members_iff.2 ⟨c, hc, hchild⟩)
      rw [hs, hscanner, joined_add, hzero']

/-- **All include nodes of a document hold what they stand for.** -/
theorem interpretSource_told (hreg : interpreter.Registered)
    (h : (interpretSource .checked disk depth interpreter chain source).result = .ok doc) :
    ∃ scanner, scanner 0 = interpreter ∧ doc.Told disk scanner := by
  induction depth generalizing interpreter chain source doc with
  | zero => cases h
  | succ depth ih =>
    rw [interpretSource_succ] at h
    have hkept : Kept interpreter (followInclude .checked disk depth interpreter chain)
        (fun _ _ => True) fun _ => Tells disk interpreter source :=
      kept_tells hreg (followInclude_sound .checked disk depth interpreter chain source)
        fun hscan hinc hfollow => followInclude_told hreg ih hscan hinc hfollow
    have hstart : Tells disk interpreter source .scanning (.start source) := by
      refine ⟨.start interpreter source, fun _ => interpreter, rfl, ?_, trivial⟩
      intro id block _ _ hblock
      cases id <;> cases hblock
    have hmeets : (run interpreter (followInclude .checked disk depth interpreter chain)
        source).Meets 0 (fun _ _ => True) fun _ doc =>
          ∃ scanner, scanner 0 = interpreter ∧ doc.Told disk scanner := by
      refine hkept.run_meets (fun _ => trivial) hstart ?_
      intro m ended hended hrest
      obtain ⟨scanner, hzero, htold, -⟩ := hended.told
      unfold Traced.Meets
      rcases hfinish : ended.finish.result with cause | doc
      · trivial
      · exact ⟨scanner, hzero, finish_told hreg hended.reached hrest htold hfinish⟩
    exact hmeets.of_ok h

end

end Interpreter

/-! ### What include nodes stand for -/

namespace Document

/-- The interpreter `scanner` has scanned the source that the node is in: `interpreter` the
    main one, and below an include that was followed its override, if it has one. -/
inductive ScannedBy (doc : Document) (interpreter : Interpreter) : Nat → Interpreter → Prop
  | top {c} : c ∈ doc.childrenOf root → ScannedBy doc interpreter c interpreter
  | inside {id c scanner} : ScannedBy doc interpreter id scanner → doc.splicedAt id = false →
      c ∈ doc.childrenOf id → ScannedBy doc interpreter c scanner
  | file {id c scanner block settings} : ScannedBy doc interpreter id scanner →
      doc.splicedAt id = true → doc.blockOf? id = some block →
      block.type.inclusion? = some settings → c ∈ doc.childrenOf id →
      ScannedBy doc interpreter c (settings.override.getD scanner)

/-- The include node with this block stands for a file that `inner` interprets.  The file is
    named by the nodes `old` that have been its children: they have no parent any more, and
    tile the text between its markers.  Below the node a walk finds the rows of the file's
    own document: depths, labels, the text that each block covers and that of its source. -/
structure StandsFor (doc : Document) (disk : Disk) (inner : Interpreter) (settings : Inclusion)
    (id : Nat) (block : Block) (len : Nat) : Prop where
  spliced : doc.splicedAt id = true
  file : ∃ (old : List Nat) (reference : Text) (sub : Document) (rendered : Text)
    (rows : List Row),
    (∀ j ∈ old, j ≠ root ∧ j < doc.nodes.size ∧ doc.parentOf? j = none) ∧
    Tiles block.source len (old.filterMap doc.blockOf?) block.bodyStart (block.bodyStop len) ∧
    doc.renders old = .ok reference ∧
    (inner.interpretFile disk (settings.resolve reference)).result = .ok sub ∧
    doc.renderNode id = .ok rendered ∧ sub.render = .ok rendered ∧
    doc.rowsBelow id = .ok rows ∧ sub.rowsBelow root = .ok rows

/-- Every include that did not end with its text stands for a file. -/
def Transparent (doc : Document) (disk : Disk) (interpreter : Interpreter) : Prop :=
  ∀ id block settings, doc.Reachable id → doc.blockOf? id = some block →
    block.type.inclusion? = some settings →
    ∃ source, doc.sources[block.source]? = some source ∧ (¬ block.EndsWithText source.text →
      ∃ scanner, doc.ScannedBy interpreter id scanner ∧
        doc.StandsFor disk (settings.override.getD scanner) settings id block
          source.text.byteLen)

section

variable {doc : Document} {disk : Disk} {interpreter : Interpreter}
  {scanner : Nat → Interpreter} {settings : Inclusion} {id : Nat} {block : Block}

/-- Children are in the source of their parent, or in that of the file it holds. -/
theorem Told.scannedBy {file : Inclusion → Source → Prop} (h : doc.Told disk scanner)
    (hzero : scanner 0 = interpreter) (harena : doc.Arena)
    (htiled : ∀ id < doc.nodes.size, (doc.family id).Tiled doc.sources file)
    (hid : doc.Reachable id) (hblock : doc.blockOf? id = some block) :
    doc.ScannedBy interpreter id (scanner block.source) := by
  induction hid generalizing block with
  | root => cases harena.root_block.symm.trans hblock
  | @child parent c hparent hc ih =>
    have hlt := hparent.lt_size harena
    have hmember : block ∈ (doc.family parent).members := mem_members_iff.2 ⟨c, hc, hblock⟩
    by_cases hroot : parent = root
    · subst hroot
      obtain ⟨_, -, htiles⟩ := (htiled root hlt).of_root harena.root_block
      rw [(htiles.of_mem hmember).1, hzero]
      exact .top hc
    · obtain ⟨around, haround⟩ := harena.block parent hroot hlt
      have hscanned := ih haround
      obtain ⟨⟨source, hsource, -⟩, hplain⟩ := (htiled parent hlt).of_head haround
      rcases hspliced : doc.splicedAt parent with _ | _
      · have hbody : around.type.isPlain = false := by
          refine Bool.eq_false_iff.2 fun htype => ?_
          rw [(hplain htype).2] at hmember
          cases hmember
        obtain ⟨_, -, -, htiles⟩ := (htiled parent hlt).of_body haround hbody hspliced
        rw [(htiles.of_mem hmember).1]
        exact hscanned.inside hspliced hc
      · obtain ⟨found, settings, _, _, hfound, hinc, -⟩ := (htiled parent hlt).of_spliced hspliced
        cases haround.symm.trans hfound
        have hclosed := (htiled parent hlt).closed_of_spliced hspliced haround
        have hincluded := h parent around settings source haround hinc hsource hclosed
          (Or.inl hspliced)
        rw [hincluded.scanned c hc block hblock]
        exact hscanned.file hspliced haround hinc hc

theorem Included.standsFor {source : Source} {len : Nat}
    (h : doc.Included disk scanner settings id block len (block.bodyStop len))
    (harena : doc.Arena) (hblock : doc.blockOf? id = some block)
    (hsource : doc.sources[block.source]? = some source)
    (hinc : block.type.inclusion? = some settings) :
    doc.StandsFor disk (settings.override.getD (scanner block.source)) settings id block len := by
  have hid := lt_size_of_block hblock
  obtain ⟨old, reference, sub, hformer, hfile, harena', hlegible, hmirrors⟩ := h.file
  obtain ⟨before, ids, harena'', hids, hold, hreference⟩ := hformer.text
  have hroot : root < sub.nodes.size := harena'.size_pos
  obtain ⟨rendered, hrendered⟩ := exists_renderNode harena' hlegible (Nat.zero_le root) hroot
  obtain ⟨rows, hrows⟩ := exists_rowsBelow harena' (hlegible.mono (Nat.zero_le (root + 1))) hroot
  refine ⟨h.spliced, old, reference, sub, rendered, rows, ?_, hformer.tiles, ?_, hfile, ?_,
    hrendered, ?_, hrows⟩
  · intro j hj
    have hsettled := hformer.settled j hj
    exact ⟨hsettled.ne_root, hsettled.lt_size, hformer.detached j hj⟩
  · rw [← hreference]
    exact hold.renders harena harena'' (fun j hj => (hformer.settled j hj).lt_size) hids
  · -- neither the include nor the root of the file adds anything to the text of its children
    have hcompose : ∀ inner, doc.compose id inner = .ok inner := by
      intro inner
      rw [compose_of_card (card?_of_block hblock hsource), h.spliced, Bool.not_true, Bool.and_false,
        if_neg Bool.false_ne_true]
      exact Block.render_inclusion hinc source.text (some inner)
    rw [← hrendered, renderNode_eq_renders harena hid hcompose,
      renderNode_eq_renders harena' hroot harena'.compose_root]
    exact hmirrors.renders harena harena' (fun c hc => (harena.child id c hc).2.1)
      fun c hc => (harena'.child root c hc).2.1
  · rw [← hrows]
    exact hmirrors.rowsBelow harena harena' hid hroot

end

end Document

namespace Interpreter

theorem interpretSource_transparent {disk : Disk} {depth : Nat} {interpreter : Interpreter}
    {chain : List Path} {source : Source} {doc : Document} (hreg : interpreter.Registered)
    (h : (interpretSource .checked disk depth interpreter chain source).result = .ok doc) :
    doc.Transparent disk interpreter := by
  intro id block settings hid hblock hinc
  obtain ⟨hbuilding, -, hclosed, htiled⟩ :=
    ((interpretSource_endsIn _ _ _ _ _ _).1 doc h).finished hreg
  obtain ⟨scanner, hzero, htold⟩ := interpretSource_told hreg h
  obtain ⟨⟨content, hcontent, -⟩, -⟩ := (htiled id (hid.lt_size hbuilding.arena)).of_head hblock
  refine ⟨content, hcontent, fun hends => ?_⟩
  have hincluded := htold id block settings content hblock hinc hcontent (hclosed id block hblock)
    (Or.inr hends)
  exact ⟨scanner block.source, htold.scannedBy hzero hbuilding.arena htiled hid hblock,
    hincluded.standsFor hbuilding.arena hblock hcontent hinc⟩

/-- **Includes are transparent:** in the document of a text or a file, every include that was
    closed by a marker or at once is spliced, renders as the file that it names does on its
    own, and has the same below it.  And whatever an interpretation comes to with some files
    underway, other than a cycle, it comes to with fewer of them. -/
theorem includes_transparent (disk : Disk) (interpreter : Interpreter)
    (hreg : interpreter.Registered) :
    (∀ text doc, (interpreter.interpret disk text).result = .ok doc →
        doc.Transparent disk interpreter) ∧
      (∀ path doc, (interpreter.interpretFile disk path).result = .ok doc →
        doc.Transparent disk interpreter) ∧
      ∀ depth chain chain' source, chain' ⊆ chain →
        (∀ key, (interpretSource .checked disk depth interpreter chain source).result ≠
          .error (.cyclicInclude key)) →
        (interpretSource .checked disk depth interpreter chain' source).result =
          (interpretSource .checked disk depth interpreter chain source).result := by
  refine ⟨fun text doc h => interpretSource_transparent hreg h, ?_,
    fun depth chain chain' source hchain h => interpretSource_shorter hchain h⟩
  intro path doc h
  rcases interpretFile_cases disk interpreter path with ⟨_, -, hfile⟩ | ⟨_, -, hfile⟩
  · rw [hfile] at h
    cases h
  · rw [hfile] at h
    exact interpretSource_transparent hreg h

theorem sample_includes_transparent :
    ∃ doc block settings source scanner,
      (sample.interpret ⟨[], []⟩ ['[', '<', 'f', '>', ']']).result = .ok doc ∧
      doc.Reachable 2 ∧ doc.blockOf? 2 = some block ∧
      block.type.inclusion? = some settings ∧ doc.sources[block.source]? = some source ∧
      ¬ block.EndsWithText source.text ∧ doc.ScannedBy sample 2 scanner ∧
      doc.StandsFor ⟨[], []⟩ (settings.override.getD scanner) settings 2 block
        source.text.byteLen := by
  obtain ⟨doc, hdoc⟩ := exists_eq_ok (show (sample.interpret ⟨[], []⟩
    ['[', '<', 'f', '>', ']']).result.isOk = true by decide +kernel)
  have hnode : (sample.interpret ⟨[], []⟩ ['[', '<', 'f', '>', ']']).result.toOption.any
      (fun doc => decide (1 ∈ doc.childrenOf Document.root) && decide (2 ∈ doc.childrenOf 1) &&
        (doc.blockOf? 2).any fun block =>
          block.type.inclusion?.isSome && block.closeLen != 0) = true := by
    decide +kernel
  rw [hdoc] at hnode
  simp only [Except.toOption, Option.any_some, Bool.and_eq_true, decide_eq_true_eq] at hnode
  obtain ⟨⟨hfirst, hsecond⟩, hsome⟩ := hnode
  rcases hblock : doc.blockOf? 2 with _ | block
  · rw [hblock] at hsome
    cases hsome
  · simp only [hblock, Option.any_some, Bool.and_eq_true, bne_iff_ne] at hsome
    obtain ⟨settings, hsettings⟩ := Option.isSome_iff_exists.1 hsome.1
    have hreach : doc.Reachable 2 := .child (.child .root hfirst) hsecond
    obtain ⟨source, hsource, hstands⟩ :=
      (includes_transparent ⟨[], []⟩ sample sample_registered).1 _ doc hdoc 2 block settings
        hreach hblock hsettings
    have hends : ¬ block.EndsWithText source.text := fun hends => hsome.2 hends.closeLen
    obtain ⟨scanner, hscanned, hstands⟩ := hstands hends
    exact ⟨doc, block, settings, source, scanner, hdoc, hreach, hblock, hsettings, hsource, hends,
      hscanned, hstands⟩

end Interpreter

end Blockwise
