/-
  Blockwise/Proofs/Interpret/Tiling.lean
  ======================================
  **No byte of a source is lost or claimed twice.**  Whatever an interpretation
  answers with, a document or what had been built when the input ended inside a
  block, its nodes tile their sources (`Document.Tiled`).

  While a document is being built all families are tiled, open blocks counted to the
  end of the text, except the innermost one.  That one is tiled up to the place where
  the current run of plain text began (`Family.Growing`), or holds the file that has
  just been spliced in (`Family.Followed`).  Each move of the scanner keeps this
  (`Reached.tiling`), and the end of input completes it (`finish_tiled`).
-/
import Blockwise.Proofs.Document.Tiling
import Blockwise.Proofs.Interpret.Draft

namespace Blockwise

/-! ### Files that includes bring in -/

/-- The second interpreter is the first one or one nested in its include types. -/
inductive Interpreter.Within (interpreter : Interpreter) : Interpreter → Prop
  | refl : Within interpreter interpreter
  | step {middle type settings} : Within interpreter middle → type ∈ middle.types →
      type.inclusion? = some settings → Within interpreter (settings.override.getD middle)

theorem Interpreter.Within.trans {first second third : Interpreter} (h : first.Within second)
    (h' : second.Within third) : first.Within third := by
  induction h' with
  | refl => exact h
  | step _ htype hinc ih => exact ih.step htype hinc

theorem Interpreter.Within.registered {interpreter inner : Interpreter}
    (h : interpreter.Within inner) (hreg : interpreter.Registered) : inner.Registered := by
  induction h with
  | refl => exact hreg
  | step _ htype hinc ih => exact ih.inner htype hinc

/-- The source is a file that an include with these settings names: its text is what
    the reader in charge finds at a path that the settings resolve a reference to. -/
def Interpreter.Includes (disk : Disk) (interpreter : Interpreter) (settings : Inclusion)
    (source : Source) : Prop :=
  ∃ scanner reference, interpreter.Within scanner ∧
    source.path = some (settings.resolve reference) ∧
    (settings.override.getD scanner).reader.read disk (settings.resolve reference) =
      .ok source.text

theorem Interpreter.Includes.outer {disk : Disk} {interpreter inner : Interpreter}
    {settings : Inclusion} {source : Source} (hinner : interpreter.Within inner)
    (h : inner.Includes disk settings source) : interpreter.Includes disk settings source := by
  obtain ⟨scanner, reference, hwithin, hpath, hread⟩ := h
  exact ⟨scanner, reference, hinner.trans hwithin, hpath, hread⟩

/-! ### The innermost family -/

namespace Family

/-- The members cover the text up to `run`, and the head is open. -/
inductive Growing (text : Text) (run : Nat) : Family → Prop
  | top {members} : Tiles 0 text.byteLen members 0 run → Growing text run ⟨none, false, members⟩
  | body {block members} : block.source = 0 → block.stop = none → block.closeLen = 0 →
      block.type.isPlain = false → 0 < block.type.openLen →
      text.isBoundary block.start = true → text.isBoundary block.bodyStart = true →
      Tiles 0 text.byteLen members block.bodyStart run →
      Growing text run ⟨some block, false, members⟩

/-- The innermost family between following its head and closing it. -/
inductive Followed (sources : Array Source) (file : Inclusion → Source → Prop) (text : Text)
    (run : Nat) : Family → Prop
  | kept {family} : Growing text run family → Followed sources file text run family
  | replaced {block settings content members} {s : Nat} {old : List Block} :
      Growing text run ⟨some block, false, old⟩ → block.type.inclusion? = some settings →
      0 < s → sources[s]? = some content → file settings content →
      Tiles s content.text.byteLen members 0 content.text.byteLen →
      Followed sources file text run ⟨some block, true, members⟩

namespace Growing

variable {sources : Array Source} {file : Inclusion → Source → Prop} {main : Source}
  {run pos markerLen : Nat} {family : Family} {block : Block}

/-- One more block, which begins where the members end. -/
theorem add (h : family.Growing main.text run) (hsource : block.source = 0)
    (hstart : block.start = run) (hstop : block.stopIn main.text.byteLen = pos)
    (hlt : run < pos) : (family.add block).Growing main.text pos := by
  have hlast : Tiles 0 main.text.byteLen [block] run pos := ⟨hsource, hstart, hstop ▸ hlt, hstop⟩
  cases h with
  | top htiles => exact .top (htiles.append hlast)
  | body hs hopen hclose hplain hlen hb hb' htiles =>
    exact .body hs hopen hclose hplain hlen hb hb' (htiles.append hlast)

theorem of_head (h : family.Growing main.text run) (hhead : family.head = some block) :
    block.source = 0 ∧ block.stop = none ∧
      Tiles 0 main.text.byteLen family.members block.bodyStart run := by
  cases h with
  | top => cases hhead
  | body hs hopen _ _ _ _ _ htiles =>
    cases hhead
    exact ⟨hs, hopen, htiles⟩

theorem placed_closed {members : List Block}
    (h : Growing main.text pos ⟨some block, false, members⟩)
    (hpos : main.text.isBoundary pos = true)
    (hstop : main.text.isBoundary (pos + markerLen) = true) :
    (block.closedAt pos markerLen).Placed main.text := by
  cases h with
  | body hs hopen hclose hplain hlen hb hb' htiles =>
    have hle := htiles.le
    have hbody : block.start < block.bodyStart := Nat.lt_add_of_pos_right hlen
    refine ⟨hb, hb', ?_, hstop, ?_, ?_, ?_⟩
    · show main.text.isBoundary (pos + markerLen - markerLen) = true
      rw [Nat.add_sub_cancel]
      exact hpos
    · show block.start < pos + markerLen
      omega
    · exact Nat.add_le_add_right hle markerLen
    · intro hnone
      cases hnone

/-- The head is closed where the members end. -/
theorem closed (h : family.Growing main.text pos) (hmain : sources[0]? = some main)
    (hhead : family.head = some block) (hpos : main.text.isBoundary pos = true)
    (hstop : main.text.isBoundary (pos + markerLen) = true) :
    Tiled sources file { family with head := some (block.closedAt pos markerLen) } := by
  cases h with
  | top => cases hhead
  | body hs hopen hclose hplain hlen hb hb' htiles =>
    cases hhead
    have hplaced := placed_closed (.body hs hopen hclose hplain hlen hb hb' htiles) hpos hstop
    have hsource : sources[(block.closedAt pos markerLen).source]? = some main := hs ▸ hmain
    refine .body hsource hplaced hplain hlen ?_
    have hend : (block.closedAt pos markerLen).bodyStop main.text.byteLen = pos :=
      Nat.add_sub_cancel ..
    rw [hend]
    exact hs ▸ htiles

/-- A family that has grown to the end of the text is tiled. -/
theorem tiled (h : family.Growing main.text main.text.byteLen)
    (hmain : sources[0]? = some main) : family.Tiled sources file := by
  have hend := main.text.isBoundary_byteLen
  cases h with
  | top htiles => exact .top hmain htiles
  | @body block members hs hopen hclose hplain hlen hb hb' htiles =>
    have hstop := Block.stopIn_of_open hopen main.text.byteLen
    have hbodyStop : block.bodyStop main.text.byteLen = main.text.byteLen := by
      rw [Block.bodyStop, hstop, hclose]
      rfl
    have hle := htiles.le
    have hbody : block.start < block.bodyStart := Nat.lt_add_of_pos_right hlen
    refine .body (hs ▸ hmain) ⟨hb, hb', ?_, ?_, ?_, ?_, fun _ => hclose⟩ hplain hlen ?_
    · rw [hbodyStop]
      exact hend
    · rw [hstop]
      exact hend
    · rw [hstop]
      omega
    · rw [hstop, hclose]
      exact hle
    · rw [hbodyStop, hs]
      exact htiles

end Growing

variable {sources : Array Source} {file : Inclusion → Source → Prop} {main : Source}
  {pos markerLen : Nat} {family : Family} {block : Block}

/-- The children of the head are replaced by those of a file. -/
theorem Growing.replaced {run s : Nat} {settings : Inclusion} {content : Source}
    {members : List Block} (h : family.Growing main.text run) (hhead : family.head = some block)
    (hinc : block.type.inclusion? = some settings) (hlater : 0 < s)
    (hcontent : sources[s]? = some content) (hfile : file settings content)
    (htiles : Tiles s content.text.byteLen members 0 content.text.byteLen) :
    Followed sources file main.text run { family with spliced := true, members := members } := by
  cases h with
  | top => cases hhead
  | body hs hopen hclose hplain hlen hb hb' hold =>
    cases hhead
    exact .replaced (.body hs hopen hclose hplain hlen hb hb' hold) hinc hlater hcontent hfile
      htiles

theorem Followed.closed (h : family.Followed sources file main.text pos)
    (hmain : sources[0]? = some main) (hhead : family.head = some block)
    (hpos : main.text.isBoundary pos = true)
    (hstop : main.text.isBoundary (pos + markerLen) = true) :
    Tiled sources file { family with head := some (block.closedAt pos markerLen) } := by
  cases h with
  | kept h => exact h.closed hmain hhead hpos hstop
  | replaced h hinc hlater hcontent hmatch htiles =>
    cases hhead
    have hplaced := h.placed_closed hpos hstop
    cases h with
    | body hs =>
      have hsource : sources[(block.closedAt pos markerLen).source]? = some main := hs ▸ hmain
      refine .spliced hsource hplaced hinc (Option.some_ne_none _) ?_ hcontent hmatch htiles
      show block.source < _
      rw [hs]
      exact hlater

theorem Followed.head_source (h : family.Followed sources file main.text pos)
    (hhead : family.head = some block) : block.source = 0 ∧ block.start < pos := by
  obtain ⟨members, hgrowing⟩ : ∃ members,
      Growing main.text pos ⟨some block, false, members⟩ := by
    cases h with
    | kept h =>
      cases h with
      | top => cases hhead
      | body hs hopen hclose hplain hlen hb hb' htiles =>
        cases hhead
        exact ⟨_, .body hs hopen hclose hplain hlen hb hb' htiles⟩
    | replaced h =>
      cases hhead
      exact ⟨_, h⟩
  cases hgrowing with
  | body hs hopen hclose hplain hlen hb hb' htiles =>
    exact ⟨hs, Nat.lt_of_lt_of_le (Nat.lt_add_of_pos_right hlen) htiles.le⟩

/-- When the last member is closed, its family goes on growing behind it. -/
theorem Tiled.closeLast {before : List Block} (h : family.Tiled sources file)
    (hmain : sources[0]? = some main)
    (hopen : ∀ around, family.head = some around → around.stop = none)
    (hmembers : family.members = before ++ [block]) (hsource : block.source = 0)
    (hlt : block.start < pos + markerLen) :
    Growing main.text (pos + markerLen)
      { family with members := before ++ [block.closedAt pos markerLen] } := by
  have hlast : Tiles 0 main.text.byteLen [block.closedAt pos markerLen] block.start
      (pos + markerLen) := ⟨hsource, rfl, hlt, rfl⟩
  cases h with
  | @top main' members hmain' htiles =>
    rw [show members = before ++ [block] from hmembers] at htiles
    cases hmain.symm.trans hmain'
    exact .top (htiles.split_last.1.append hlast)
  | plain _ _ _ hclosed => exact absurd (hopen _ rfl) hclosed
  | @body around source members hs hplaced hplain hlen htiles =>
    rw [show members = before ++ [block] from hmembers] at htiles
    obtain ⟨hbefore, hs', -, -⟩ := htiles.split_last
    -- the head is in the source of its members, the main one
    have hzero : around.source = 0 := hs'.symm.trans hsource
    rw [hzero, hmain] at hs
    cases hs
    rw [hzero] at hbefore
    exact .body hzero (hopen _ rfl) (hplaced.closeLen_eq (hopen _ rfl)) hplain hlen
      hplaced.start_boundary hplaced.bodyStart_boundary (hbefore.append hlast)
  | spliced _ _ _ hclosed => exact absurd (hopen _ rfl) hclosed

end Family

/-! ### The run of a scan -/

namespace Scan

/-- What holds of the innermost family. -/
def Phase.Grown (sources : Array Source) (file : Inclusion → Source → Prop) (text : Text)
    (run : Nat) : Phase → Family → Prop
  | .scanning => Family.Growing text run
  | .closing _ _ _ => Family.Growing text run
  | .followed _ _ _ => Family.Followed sources file text run

variable {disk : Disk} {interpreter : Interpreter} {source : Source} {phase : Phase}
  {file : Inclusion → Source → Prop}

/-- The text that was waiting becomes a leaf, so the innermost family reaches up to
    the position. -/
theorem flush_tiled {scan flushed : Scan} (hscan : scan.Standing interpreter source phase)
    (h : scan.doc.Families (Family.Tiled scan.doc.sources file)
      (Family.Growing source.text scan.runStart))
    (hflush : scan.flush = .ok flushed) :
    flushed.doc.Families (Family.Tiled flushed.doc.sources file)
      (Family.Growing source.text scan.pos) := by
  obtain ⟨-, -, hsources, -, -⟩ := flush_draft hscan.draft hflush
  obtain ⟨doc, rfl, ⟨hlt, hclose⟩ | ⟨hle, rfl⟩⟩ := flush_eq_ok hflush
  · have hpos := hscan.place.isBoundary
    have hmain := hscan.draft.main
    rw [hsources]
    refine h.leaf hscan.draft.building rfl hclose ?_ ?_
    · have hplaced : ((Block.opened .plain 0 scan.runStart).closedAt scan.pos 0).Placed
          source.text :=
        ⟨hscan.runBoundary, hscan.runBoundary, hpos, hpos, hlt, hscan.runStart_le, nofun⟩
      exact .plain hmain hplaced rfl (Option.some_ne_none _)
    · intro family hfamily
      exact hfamily.add rfl rfl rfl hlt
  · have heq : scan.runStart = scan.pos :=
      Nat.le_antisymm hscan.runStart_le (Nat.le_of_not_lt hle)
    rw [← heq]
    exact h

/-- At the end of the text the innermost family has grown to the end, so all are tiled. -/
theorem flush_tiled_at_end {scan flushed : Scan} (hscan : scan.Standing interpreter source phase)
    (hrest : scan.rest = [])
    (h : scan.doc.Families (Family.Tiled scan.doc.sources file)
      (Family.Growing source.text scan.runStart))
    (hflush : scan.flush = .ok flushed) :
    ∀ id < flushed.doc.nodes.size, (flushed.doc.family id).Tiled flushed.doc.sources file := by
  obtain ⟨-, hdraft, -, -, -⟩ := flush_draft hscan.draft hflush
  have hfamilies := flush_tiled hscan h hflush
  have hpos : scan.pos = source.text.byteLen := by
    have := hscan.place.pos_add_byteLen
    rwa [hrest, Text.byteLen_nil, Nat.add_zero] at this
  rw [hpos] at hfamilies
  intro id hid
  by_cases hin : id = flushed.doc.innermost
  · rw [hin]
    exact hfamilies.2.tiled hdraft.main
  · exact hfamilies.1 id hid hin

/-- What the end of input makes of a scan of tiled families. -/
theorem finish_tiled {scan : Scan} {doc : Document} (hscan : scan.Standing interpreter source phase)
    (hrest : scan.rest = [])
    (h : scan.doc.Families (Family.Tiled scan.doc.sources file)
      (Family.Growing source.text scan.runStart))
    (hend : Holds scan.finish.result doc) :
    doc.Arena ∧ doc.sources[0]? = some source ∧
      ∀ id < doc.nodes.size, (doc.family id).Tiled doc.sources file := by
  obtain ⟨flushed, closed, left, hflush, hsources, hsplit, -, halong, hcloseable, -, -⟩ :=
    finish_holds hend hscan.draft
  obtain ⟨-, hdraft, -, -, -⟩ := flush_draft hscan.draft hflush
  refine ⟨hdraft.building.arena.closedAlong halong, hsources ▸ hdraft.main, ?_⟩
  intro id hid
  rw [halong.size_eq] at hid
  have hbefore := flush_tiled_at_end hscan hrest h hflush id hid
  rw [hsources]
  refine hbefore.atEof hdraft.main
    (Document.family_atEof hdraft.building hsplit halong hcloseable ?_ id)
  intro j hj block hblock
  exact (hdraft.registered j hj block hblock).2

/-- The source is tiled up to where the waiting text begins. -/
def Tiling (scan : Scan) (source : Source) (file : Inclusion → Source → Prop) (phase : Phase) :
    Prop :=
  scan.doc.Families (Family.Tiled scan.doc.sources file)
    (phase.Grown scan.doc.sources file source.text scan.runStart)

namespace Tiling

variable {scan : Scan} {id count : Nat} {type : BlockType}

theorem opened {flushed : Scan} (h : scan.Tiling source file .scanning)
    (hscan : scan.Standing interpreter source .scanning) (hreg : interpreter.Registered)
    (hrest : scan.rest ≠ []) (hopening : scan.opening? interpreter = some type)
    (hflush : scan.flush = .ok flushed)
    (hentered : (flushed.enter type).Standing interpreter source phase) :
    (flushed.enter type).Tiling source file
      (.afterOpen interpreter flushed.doc.nodes.size type) := by
  have hfamilies := flush_tiled hscan h hflush
  obtain ⟨hsame, hdraft, -, -, -⟩ := flush_draft hscan.draft hflush
  obtain ⟨-, htags, hlen, htake⟩ := tag_of_opening hreg hopening
  have hplain : type.isPlain = false := by
    rwa [BlockType.isPlain_eq, Option.isNone_eq_false_iff, Option.isSome_iff_ne_none]
  have hpos : flushed.pos = scan.pos := by rw [hsame]
  have hrun : (flushed.enter type).runStart = flushed.pos + type.openLen := by
    refine enter_runStart ?_
    rw [hsame]
    exact htake
  have hinside := hentered.runBoundary
  have hlt : flushed.pos < source.text.byteLen := by
    have hsum := hscan.place.pos_add_byteLen
    have hne := mt Text.byteLen_eq_zero.1 hrest
    omega
  have hgrown : (flushed.enter type).doc.Families
      (Family.Tiled (flushed.enter type).doc.sources file)
      (Family.Growing source.text (flushed.enter type).runStart) := by
    rw [hrun] at hinside ⊢
    refine hfamilies.push hdraft.building ?_ ?_
    · intro hfamily
      rw [← hpos] at hfamily
      have hadded : ((flushed.doc.family flushed.doc.innermost).add
          (.opened type 0 flushed.pos)).Growing source.text source.text.byteLen :=
        hfamily.add rfl rfl rfl hlt
      exact hadded.tiled hdraft.main
    · refine .body rfl rfl rfl hplain hlen ?_ hinside rfl
      show source.text.isBoundary flushed.pos = true
      rw [hpos]
      exact hscan.place.isBoundary
  unfold Phase.afterOpen
  split
  · exact hgrown
  · exact hgrown

theorem closing {flushed : Scan} (h : scan.Tiling source file .scanning)
    (hscan : scan.Standing interpreter source .scanning) (hflush : scan.flush = .ok flushed) :
    flushed.startRun.Tiling source file (.closing id type count) := by
  have hfamilies := flush_tiled hscan h hflush
  obtain ⟨hsame, -, -, -, -⟩ := flush_draft hscan.draft hflush
  have hpos : flushed.pos = scan.pos := by rw [hsame]
  show Document.Families _ _ (Family.Growing _ flushed.pos)
  rw [hpos]
  exact hfamilies

/-- The children of the file's root take the place of those of the block, and they tile
    the file. -/
theorem included {settings : Inclusion} {content : Source} {sub doc : Document}
    {inner : Inclusion → Source → Prop} (h : scan.Tiling source file (.closing id type count))
    (hscan : scan.Standing interpreter source (.closing id type count))
    (hinc : type.inclusion? = some settings) (harena : sub.Arena)
    (hfirst : sub.sources[0]? = some content)
    (hall : ∀ i < sub.nodes.size, (sub.family i).Tiled sub.sources inner)
    (hinner : ∀ settings content, inner settings content → file settings content)
    (hfile : file settings content) (hsplice : scan.doc.splice id sub = .ok doc) :
    (scan.mapDoc fun _ => doc).Tiling source file (.followed id type count) := by
  obtain ⟨rfl, -⟩ := hscan.innermost_eq hscan.pending
  have hgraft := hscan.draft.building.grafted harena hsplice
  obtain ⟨-, outer, block, -, hblock, rfl⟩ := hscan.pending
  show doc.Families (Family.Tiled doc.sources file) _
  refine Document.Families.graft h hscan.draft.building harena hgraft ?_ ?_ ?_
  · intro family hfamily
    rw [hgraft.sources]
    exact hfamily.append _
  · intro hgrowing
    obtain ⟨found, hfound, htiles⟩ := (hall _ harena.size_pos).of_root harena.root_block
    cases hfirst.symm.trans hfound
    have hsource : doc.sources[0 + scan.doc.sources.size]? = some content := by
      rw [hgraft.sources, Array.getElem?_append_right (Nat.le_add_left ..), Nat.add_sub_cancel]
      exact hfirst
    have hsize : 0 < scan.doc.sources.size := (Array.getElem?_eq_some_iff.1 hscan.draft.main).1
    refine hgrowing.replaced hblock hinc ?_ hsource hfile (htiles.shifted _)
    omega
  · intro i hi
    rw [hgraft.sources]
    refine (hall (i + 1) hi).shifted ?_ hinner
    obtain ⟨found, hfound⟩ := harena.block (i + 1) (Nat.succ_ne_zero i) hi
    rw [Document.family_head, hfound]
    exact Option.some_ne_none _

theorem closed {after : Scan} (h : scan.Tiling source file (.followed id type count))
    (hscan : scan.Standing interpreter source (.followed id type count))
    (hclose : scan.changeDoc (·.closeInnermost scan.pos (Text.byteLen (scan.rest.take count))) =
      .ok after)
    (hafter : (after.advance count).startRun.Standing interpreter source .scanning) :
    (after.advance count).startRun.Tiling source file .scanning := by
  obtain ⟨hrun, outer, block, hopen, hblock, -⟩ := hscan.pending
  obtain ⟨doc, hdoc, rfl⟩ := changeDoc_eq_ok_iff.1 hclose
  obtain ⟨hsources, hopen', hclosed, -⟩ := Document.closeInnermost_eq_ok hopen hdoc
  unfold Tiling at h
  rw [hrun] at h
  have hmain := hscan.draft.main
  obtain ⟨hs, hlt⟩ : block.source = 0 ∧ block.start < scan.pos := by
    refine h.2.head_source ?_
    rw [Document.family_head, Document.innermost_eq, hopen]
    exact hblock
  show doc.Families (Family.Tiled doc.sources file)
    (Family.Growing source.text (scan.pos + Text.byteLen (scan.rest.take count)))
  rw [hsources]
  refine h.close hscan.draft.building hopen hopen' hblock hclosed ?_ ?_
  · intro family hhead hfamily
    exact hfamily.closed hmain hhead hscan.place.isBoundary hafter.place.isBoundary
  · intro family before haround hmembers hfamily
    exact hfamily.closeLast hmain haround hmembers hs (Nat.lt_add_right _ hlt)

end Tiling

/-- **Every state of a scan has tiled its source up to where it stands.** -/
theorem Reached.tiling {scan : Scan} (h : Reached disk interpreter source phase scan)
    (hreg : interpreter.Registered) : scan.Tiling source (interpreter.Includes disk) phase := by
  induction h with
  | start interpreter source =>
    refine ⟨?_, .top rfl⟩
    intro id hlt hne
    exact absurd (Nat.lt_one_iff.1 hlt) hne
  | read _ _ _ _ ih => exact ih hreg
  | opened hscan hrest hopening hflush ih =>
    exact (ih hreg).opened hscan.standing hreg hrest hopening hflush
      (hscan.opened hrest hopening hflush).standing
  | closing hscan hrest hopening hclosing hflush ih =>
    exact (ih hreg).closing hscan.standing hflush
  | passed hscan hinc ih => exact ⟨(ih hreg).1, .kept (ih hreg).2⟩
  | @included interpreter _ _ _ _ _ _ reference _ _ _ _ hscan hinc href hread hended hend hfinish
      hsplice ih ihsub =>
    have hstanding := hscan.standing
    have htype := (hstanding.innermost_eq hstanding.pending).2
    obtain ⟨harena, hfirst, hall⟩ :=
      finish_tiled hended.standing hend (ihsub (hreg.inner htype hinc)) (Or.inl hfinish)
    -- what the inner interpreter includes, the outer one does through it
    exact (ih hreg).included hstanding hinc harena hfirst hall
      (fun _ _ => Interpreter.Includes.outer (.step .refl htype hinc))
      ⟨interpreter, reference, .refl, rfl, hread⟩ hsplice
  | closed hscan hclose ih =>
    exact (ih hreg).closed hscan.standing hclose (hscan.closed hclose).standing

theorem Ended.tiled {outcome : Except Failure Document} {doc : Document}
    (h : Ended disk interpreter source outcome) (hreg : interpreter.Registered)
    (hdoc : Holds outcome doc) : doc.Tiled source (interpreter.Includes disk) := by
  obtain ⟨ended, hended, hrest, rfl⟩ := h
  obtain ⟨harena, hmain, hall⟩ :=
    finish_tiled hended.standing hrest (hended.tiling hreg) hdoc
  exact harena.tiled hmain hall

theorem Ended.finished {doc : Document} (h : Ended disk interpreter source (.ok doc))
    (hreg : interpreter.Registered) :
    doc.Building ∧ doc.openBlocks = [] ∧
      (∀ id block, doc.blockOf? id = some block → block.stop ≠ none) ∧
      ∀ id < doc.nodes.size, (doc.family id).Tiled doc.sources (interpreter.Includes disk) := by
  obtain ⟨ended, hended, hrest, hfinish⟩ := h
  have hstanding := hended.standing
  obtain ⟨harena, -, htiled⟩ :=
    finish_tiled hstanding hrest (hended.tiling hreg) (Or.inl hfinish)
  obtain ⟨-, -, hclosed⟩ := closed_of_finish hstanding.draft hfinish
  obtain ⟨-, -, left, -, -, -, hopen, -, -, -, hleft⟩ :=
    finish_holds (Or.inl hfinish) hstanding.draft
  rw [hleft hfinish] at hopen
  refine ⟨⟨harena, ?_⟩, hopen, hclosed, htiled⟩
  rw [hopen]
  trivial

/-- A source that is come to is the first one or a file that includes bring in. -/
theorem Leads.within {inner : Interpreter} {content : Source}
    (h : Leads disk interpreter source inner content) :
    interpreter.Within inner ∧
      (content = source ∨ ∃ settings, interpreter.Includes disk settings content) := by
  induction h with
  | refl => exact ⟨.refl, Or.inl rfl⟩
  | @step middle mid scan id type count settings reference text _ hscan hinc href hread ih =>
    obtain ⟨hwithin, -⟩ := ih
    have hstanding := hscan.standing
    have htype := (hstanding.innermost_eq hstanding.pending).2
    exact ⟨hwithin.step htype hinc, Or.inr ⟨settings, middle, reference, hwithin, rfl, hread⟩⟩

end Scan

/-! ### Whole interpretations -/

namespace Interpreter

open Scan

/-- The document of a source is tiled and has no open block.  What had been built of
    one whose block is not terminated is tiled, too; it is that of the source or of a
    file below it. -/
def TiledOutcome (disk : Disk) (interpreter : Interpreter) (source : Source)
    (result : Except Failure Document) : Prop :=
  (∀ doc, result = .ok doc → doc.Tiled source (interpreter.Includes disk) ∧
    ∀ id block, doc.Reachable id → doc.blockOf? id = some block → block.isClosed = true) ∧
  ∀ label doc, result = .error (.unterminated label doc) →
    ∃ content, (content = source ∨ ∃ settings, interpreter.Includes disk settings content) ∧
      doc.Tiled content (interpreter.Includes disk)

theorem interpretSource_tiles {guard : Guard} {disk : Disk} {depth : Nat}
    {interpreter : Interpreter} {chain : List Path} {source : Source}
    (hreg : interpreter.Registered) :
    interpreter.TiledOutcome disk source
      (interpretSource guard disk depth interpreter chain source).result := by
  obtain ⟨hok, hpartial⟩ := interpretSource_endsIn guard disk depth interpreter chain source
  refine ⟨?_, ?_⟩
  · intro doc hdoc
    refine ⟨(hok doc hdoc).tiled hreg (Or.inl rfl), ?_⟩
    intro id block _ hblock
    obtain ⟨ended, hended, -, hfinish⟩ := hok doc hdoc
    obtain ⟨-, -, hclosed⟩ := closed_of_finish hended.standing.draft hfinish
    exact Option.isSome_iff_ne_none.2 (hclosed id block hblock)
  · intro label doc hdoc
    obtain ⟨inner, content, hleads, hended⟩ := hpartial label doc hdoc
    obtain ⟨hwithin, hcontent⟩ := hleads.within
    have htiled := hended.tiled (hwithin.registered hreg) (Or.inr ⟨label, rfl⟩)
    exact ⟨content, hcontent, htiled.mono fun _ _ => Interpreter.Includes.outer hwithin⟩

/-- **The nodes of every document tile its sources,** for all registered types and all
    texts, also if a block is not terminated. -/
theorem interpretation_tiles (disk : Disk) (interpreter : Interpreter)
    (hreg : interpreter.Registered) :
    (∀ text, interpreter.TiledOutcome disk ⟨none, text⟩
        (interpreter.interpret disk text).result) ∧
      ∀ path, (∃ cause, interpreter.reader.read disk path = .error cause ∧
          (interpreter.interpretFile disk path).result = .error (.unreadableSource path cause)) ∨
        ∃ text, interpreter.reader.read disk path = .ok text ∧
          interpreter.TiledOutcome disk ⟨some path, text⟩
            (interpreter.interpretFile disk path).result := by
  refine ⟨fun text => interpretSource_tiles hreg, ?_⟩
  intro path
  unfold interpretFile interpretFileWithin
  rcases hread : interpreter.reader.read disk path with cause | text
  · exact Or.inl ⟨cause, rfl, rfl⟩
  · exact Or.inr ⟨text, rfl, interpretSource_tiles hreg⟩

/-- The types of the sample, with files that a caller provides; the second one is a link to
    the first. -/
def sampleLinked : Interpreter :=
  { sample with
    reader := .caller (.ofTable [(⟨['f']⟩, ['x', '[', 'y', ']']), (⟨['l']⟩, ['x', '[', 'y', ']'])]
      fun path => if path = ⟨['l']⟩ then .ok ⟨['f']⟩ else .ok path) }

theorem sampleLinked_registered : sampleLinked.Registered := sample_registered.of_types_eq rfl

theorem sampleLinked_tiles :
    ∃ doc, (sampleLinked.interpret ⟨[], []⟩ "a[<f><l>]%".toList).result = .ok doc ∧
      doc.Tiled ⟨none, "a[<f><l>]%".toList⟩ (sampleLinked.Includes ⟨[], []⟩) := by
  obtain ⟨doc, hdoc⟩ := exists_eq_ok (show (sampleLinked.interpret ⟨[], []⟩
    "a[<f><l>]%".toList).result.isOk = true by decide +kernel)
  obtain ⟨htext, -⟩ := interpretation_tiles ⟨[], []⟩ sampleLinked sampleLinked_registered
  obtain ⟨htiled, -⟩ := (htext "a[<f><l>]%".toList).1 doc hdoc
  exact ⟨doc, hdoc, htiled⟩

end Interpreter

end Blockwise
