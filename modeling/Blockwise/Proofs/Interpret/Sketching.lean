/-
  Blockwise/Proofs/Interpret/Sketching.lean
  =========================================
  **Every scan follows its sketch.**  Each state that the scan of a text passes through
  shows a sketch that the steps come to (`Passed.sketched`): an operation on the document
  makes the change to the finished texts that the step makes to the sketch.  So where the
  steps end decides what rendering the text comes to, the same failure or the text of the
  last sketch (`render_sketched`).

  Types that close immediately are left out, and of the open blocks the end of input may
  close only comments (`Interpreter.Orderly`).
-/
import Blockwise.Preset
import Blockwise.Proofs.Interpret.Bodies
import Blockwise.Proofs.Interpret.Rendering
import Blockwise.Proofs.Interpret.Sketch

namespace Blockwise

/-! ### Scans that show a sketch -/

/-- No block closes immediately, and the end of input may close no block but a comment. -/
structure Interpreter.Orderly (interpreter : Interpreter) : Prop where
  registered : interpreter.Registered
  bodies : ∀ type ∈ interpreter.types, type.flags.closeImmediately = false
  ends : ∀ type ∈ interpreter.types, type.flags.closeableByEof = true → type.isComment = true

namespace Scan

open Document

/-- The scan is where the sketch is, and renders as it tells. -/
structure Shows (scan : Scan) (text : Text) (s : Sketch) : Prop where
  framed : scan.doc.Framed s.inner s.frames
  run : text.Between scan.runStart scan.pos s.run
  sources : scan.doc.sources.size = s.sources
  previous : scan.previous = s.previous
  rest : scan.rest = s.rest

theorem At.between {scan : Scan} {text : Text} (h : scan.At text) :
    text.Between scan.pos scan.pos [] := by
  obtain ⟨before, htext, hlen, -⟩ := h
  exact ⟨before, scan.rest, by simpa using htext, hlen, rfl⟩

namespace Shows

variable {scan : Scan} {text : Text} {s : Sketch} {interpreter : Interpreter}

theorem head_type {doc : Document} {inner : Text} {frames : List Frame}
    (h : doc.Framed inner frames) :
    doc.activeBlock?.map Block.type = frames.head?.map Frame.type := by
  unfold Framed at h
  unfold activeBlock? active?
  generalize doc.openBlocks = ids at h
  cases h with
  | top _ => rfl
  | block hblock htype _ _ =>
    unfold blockOf? at hblock
    simp [hblock, htype]

theorem opening? (h : scan.Shows text s) : scan.opening? interpreter = s.opening? interpreter := by
  have htype := head_type h.framed
  unfold Scan.opening? Sketch.opening?
  rw [h.previous, h.rest]
  cases hblock : scan.doc.activeBlock? with
  | none =>
    rw [hblock] at htype
    cases hframe : s.frames.head? with
    | none => simp
    | some frame => simp [hframe] at htype
  | some block =>
    rw [hblock] at htype
    cases hframe : s.frames.head? with
    | none => simp [hframe] at htype
    | some frame =>
      simp only [hframe, Option.map_some, Option.some.injEq] at htype
      simp [htype]

theorem closing? (h : scan.Shows text s) : scan.closing?.map Prod.snd = s.closing? := by
  have htype := head_type h.framed
  unfold Sketch.closing?
  rw [← htype, ← h.previous, ← h.rest]
  unfold Scan.closing?
  cases hid : scan.doc.active? with
  | none => simp [activeBlock?, hid]
  | some id =>
    cases hblock : scan.doc.activeBlock? with
    | none => rfl
    | some block =>
      simp only [Option.bind_eq_bind, Option.bind_some, Option.map_some, Option.filter_some]
      split <;> rfl

/-- A new run begins behind `count` characters, with another document. -/
theorem moved {doc : Document} {inner : Text} {frames : List Frame} {sources : Nat}
    (h : scan.Shows text s) (hplace : scan.At text) (hdoc : doc.Framed inner frames)
    (hsources : doc.sources.size = sources) (count : Nat) :
    (({ scan with doc := doc } : Scan).advance count).startRun.Shows text
      { s.advance count with frames, inner, run := [], sources } := by
  have hplace' : (({ scan with doc := doc } : Scan).advance count).At text := by
    have hsame : ({ scan with doc := doc } : Scan).At text := hplace
    exact hsame.advance count
  refine ⟨hdoc, hplace'.between, hsources, ?_, ?_⟩
  · show (scan.rest.take count).getLast?.or scan.previous = _
    rw [h.rest, h.previous]
    rfl
  · show scan.rest.drop count = _
    rw [h.rest]
    rfl

theorem read (h : scan.Shows text s) (hplace : scan.At text) :
    (scan.advance 1).Shows text s.read := by
  obtain ⟨framed, ⟨before, after, htext, hlen, hstop⟩, sources, previous, rest⟩ := h
  obtain ⟨found, hfound, hpos, -⟩ := hplace
  refine ⟨framed, ⟨before, scan.rest.drop 1, ?_, hlen, ?_⟩, sources, ?_, ?_⟩
  · -- what is behind the run is what is still to be read
    have hsplit : after = scan.rest := by
      rw [htext, ← List.append_assoc] at hfound
      refine (Text.append_inj_byteLen hfound ?_).2
      rw [Text.byteLen_append, hlen, hstop, hpos]
    rw [htext, hsplit, Sketch.read, ← rest, List.append_assoc, List.take_append_drop]
  · show scan.runStart + Text.byteLen (s.run ++ s.rest.take 1) = scan.pos + _
    rw [Text.byteLen_append, ← rest, ← hstop, Nat.add_assoc]
  · show (scan.rest.take 1).getLast?.or scan.previous = _
    rw [rest, previous]
    rfl
  · show scan.rest.drop 1 = _
    rw [rest]
    rfl

end Shows

end Scan

/-! ### Blocks that are closed -/

namespace Document

variable {doc : Document} {id : Nat} {block : Block} {source : Source} {inner : Text}

theorem Concluded.sourced (h : doc.Concluded) : doc.Sourced := by
  intro id block _ hblock
  obtain ⟨source, hsource, -⟩ := h id block hblock
  exact (Array.getElem?_eq_some_iff.1 hsource).1

/-- A leaf of plain text renders as the text that it covers. -/
theorem renderNode_plain {text : Text} (harena : doc.Arena) (hblock : doc.blockOf? id = some block)
    (hsource : doc.sources[block.source]? = some source) (hkind : block.type.kind = .plain)
    (hchildren : doc.childrenOf id = []) (hspliced : doc.splicedAt id = false)
    (htext : source.text.Between block.start (block.stop.getD source.text.byteLen) text) :
    doc.renderNode id = .ok text := by
  have hid := lt_size_of_block hblock
  rw [renderNode_eq_compose harena hid, hchildren]
  show doc.compose id [] = _
  rw [compose_eq hid, hblock]
  simp only [textOf_eq_ok hsource, hchildren, hspliced, bind, Except.bind, and_self, if_true,
    Block.render, hkind]
  exact htext.slice

theorem renderNode_comment {text : Text} (harena : doc.Arena)
    (hblock : doc.blockOf? id = some block) (hcomment : block.type.isComment = true)
    (h : doc.renderNode id = .ok text) : text = [] := by
  have hid := lt_size_of_block hblock
  rw [renderNode_eq_compose harena hid] at h
  obtain ⟨inner, -, hcompose⟩ := bind_eq_ok_iff.1 h
  rw [compose_eq hid, hblock] at hcompose
  obtain ⟨content, -, hrender⟩ := bind_eq_ok_iff.1 hcompose
  unfold BlockType.isComment at hcomment
  unfold Block.render at hrender
  split at hcomment
  · next hkind =>
    simp only [hkind, ite_self, Except.ok.injEq] at hrender
    exact hrender.symm
  · cases hcomment

/-- A block that its tag has closed renders as its type encloses the text inside it. -/
theorem renderNode_enclose (harena : doc.Arena) (hblock : doc.blockOf? id = some block)
    (hsource : doc.sources[block.source]? = some source) (hplain : block.type.isPlain = false)
    (himm : block.type.flags.closeImmediately = false) (hlen : block.closeLen = block.type.closeLen)
    (hspliced : block.type.inclusion? ≠ none → doc.splicedAt id = true)
    (hinner : doc.renders (doc.childrenOf id) = .ok inner) :
    doc.renderNode id = .ok (block.type.enclose inner) := by
  have hid := lt_size_of_block hblock
  cases hkind : block.type.kind with
  | plain => simp [BlockType.isPlain, hkind] at hplain
  | delimited tags =>
    rw [renderNode_delimited harena hblock hsource hkind himm hinner, BlockType.enclose, hkind]
    split
    · rfl
    · next hzero =>
      -- an empty close tag adds nothing
      rw [hlen, BlockType.closeLen, BlockType.closeTag, BlockType.delimiters?, hkind] at hzero
      simp [Text.byteLen_eq_zero.1 (Nat.eq_zero_of_not_pos hzero)]
  | comment tags =>
    rw [renderNode_eq_compose harena hid, hinner, BlockType.enclose, hkind]
    show doc.compose id inner = _
    rw [compose_eq hid, hblock]
    simp [textOf_eq_ok hsource, bind, Except.bind, Block.render, hkind]
  | inclusion settings =>
    have hinc : block.type.inclusion? = some settings := by rw [BlockType.inclusion?, hkind]
    rw [renderNode_eq_compose harena hid, hinner, BlockType.enclose, hkind]
    show doc.compose id inner = _
    rw [compose_eq hid, hblock]
    simp only [textOf_eq_ok hsource, hspliced (by simp [hinc]), bind, Except.bind,
      Bool.true_eq_false, and_false, if_false]
    exact Block.render_inclusion hinc source.text (some inner)

end Document

/-! ### Files -/

/-- The sources of all blocks can be numbered behind `count` others. -/
def Document.fits (doc : Document) (count : Nat) : Bool :=
  doc.nodes.toList.all fun node => node.block.all fun block =>
    decide (block.source + count < offsetLimit)

theorem Document.fits_eq_true_iff {doc : Document} {count : Nat} :
    doc.fits count = true ↔
      ∀ id block, doc.blockOf? id = some block → block.source + count < offsetLimit := by
  simp only [fits, List.all_eq_true, Option.all_eq_true, decide_eq_true_eq]
  constructor
  · intro h id block hblock
    obtain ⟨node, hnode, hhead⟩ := Option.bind_eq_some_iff.1 hblock
    exact h node (Array.mem_toList_iff.2 (Array.mem_of_getElem? hnode)) block hhead
  · intro h node hnode block hblock
    obtain ⟨id, hid, rfl⟩ := Array.mem_iff_getElem.1 (Array.mem_toList_iff.1 hnode)
    apply h id block
    rw [blockOf?, Array.getElem?_eq_getElem hid]
    exact hblock

namespace Interpreter

/-- The files that the includes of a text itself name. -/
def fetched (disk : Disk) (interpreter : Interpreter) : Sketch.Fetch :=
  fun count settings reference => do
    let sub ← fetch .checked disk (interpreter.reach disk + 1)
      (settings.override.getD interpreter) [] (settings.resolve reference)
    let text ← sub.render.mapError .fault
    if sub.fits count then return (text, sub.sources.size) else throw (.fault .offsetOverflow)

theorem fetch_eq_ok {guard : Guard} {disk : Disk} {depth : Nat} {interpreter : Interpreter}
    {chain : List Path} {path : Path} {doc : Document}
    (h : fetch guard disk depth interpreter chain path = .ok doc) :
    ∃ text, interpreter.reader.read disk path = .ok text ∧
      Scan.Ended disk interpreter ⟨some path, text⟩ (.ok doc) := by
  obtain ⟨longer, -, hread⟩ := bind_eq_ok_iff.1 h
  cases htext : interpreter.reader.read disk path with
  | error cause =>
    rw [htext] at hread
    cases hread
  | ok text =>
    rw [htext] at hread
    exact ⟨text, rfl, (interpretSource_endsIn guard disk depth interpreter longer _).1 doc hread⟩

end Interpreter

namespace Scan

theorem Ended.exists_render {disk : Disk} {interpreter : Interpreter} {source : Source}
    {doc : Document} (h : Ended disk interpreter source (.ok doc)) (hreg : interpreter.Registered)
    {id : Nat} (hid : id < doc.nodes.size) : ∃ text, doc.renderNode id = .ok text := by
  obtain ⟨hbuilding, -, -, htiled⟩ := h.finished hreg
  have hlegible : doc.LegibleFrom 0 := Document.legibleFrom_of_tiled fun j _ hj => htiled j hj
  exact Document.exists_renderNode hbuilding.arena hlegible (Nat.zero_le id) hid

/-! ### The moves of a scan, sketched -/

section Moves

open Document

variable {disk : Disk} {interpreter : Interpreter} {source : Source} {phase : Phase}
  {scan : Scan} {s : Sketch}

/-- The waiting text becomes a leaf. -/
theorem Shows.flush {flushed : Scan} (h : scan.Shows source.text s)
    (hscan : Reached disk interpreter source phase scan) (hflush : scan.flush = .ok flushed) :
    flushed.startRun.Shows source.text s.flush := by
  have hstanding := hscan.standing
  have hbuilding := hstanding.draft.building
  have hin := hbuilding.innermost_lt
  obtain ⟨doc, rfl, ⟨-, hclose⟩ | ⟨hempty, rfl⟩⟩ := flush_eq_ok hflush
  · obtain ⟨hsources, hopen, hclosed, -⟩ := closeInnermost_eq_ok (openBlocks_push ..) hclose
    rw [sources_push] at hsources
    have hbuilding' := hbuilding.push
      (show Block.stop (.opened .plain 0 scan.runStart) = none from rfl)
    have harena := (hbuilding'.close (openBlocks_push ..) hopen hclosed).arena
    have hnew : scan.doc.nodes[scan.doc.nodes.size]? = none :=
      Array.getElem?_eq_none (Nat.le_refl _)
    have hleaf : doc.blockOf? scan.doc.nodes.size =
        some ((Block.opened .plain 0 scan.runStart).closedAt scan.pos 0) := by
      rw [hclosed.blockOf?, if_pos (List.mem_singleton.2 rfl), blockOf?_push _ hin, if_pos rfl]
      rfl
    have hmain : doc.sources[0]? = some source := by
      rw [hsources]
      exact hstanding.draft.main
    have hchildren : doc.childrenOf scan.doc.nodes.size = [] := by
      rw [hclosed.childrenOf, childrenOf_push _ hin, if_neg (Nat.ne_of_gt hin), childrenOf, hnew]
      rfl
    have hspliced : doc.splicedAt scan.doc.nodes.size = false := by
      rw [hclosed.splicedAt, splicedAt_push _ hin, splicedAt, hnew]
      rfl
    have hrender := renderNode_plain harena hleaf hmain rfl hchildren hspliced h.run
    have hframed := h.framed.leaf hbuilding hscan.concluded.1.sourced rfl hclose hrender
    exact h.moved hstanding.place hframed (by rw [hsources, h.sources]) 0
  · have hnil : s.run = [] := by
      have hle := hstanding.runStart_le
      exact h.run.eq_nil (by omega)
    refine h.moved hstanding.place ?_ h.sources 0
    rw [hnil, List.append_nil]
    exact h.framed

/-- A block opens. -/
theorem Shows.enter {flushed : Scan} {type : BlockType} (h : scan.Shows source.text s)
    (hscan : Reached disk interpreter source phase scan) (hflush : scan.flush = .ok flushed) :
    (flushed.enter type).Shows source.text (s.flush.enter type) := by
  obtain ⟨hsame, hdraft, -⟩ := flush_draft hscan.standing.draft hflush
  have hplace : flushed.startRun.At source.text := by
    rw [hsame]
    exact hscan.standing.place
  have hconcluded := flush_concluded hscan.standing hscan.concluded.1 hflush
  have hflushed := h.flush hscan hflush
  have hpushed := hflushed.framed.push hdraft.building hconcluded.sourced
    (show Block.stop (.opened type 0 flushed.pos) = none from rfl)
  exact hflushed.moved hplace hpushed hflushed.sources type.openTag.length

/-- An include is followed. -/
theorem Shows.follow {id count n : Nat} {type : BlockType} {settings : Inclusion}
    (h : scan.Shows source.text s) (hreg : interpreter.Registered)
    (hscan : Reached disk interpreter source (.closing id type count) scan)
    (hinc : type.inclusion? = some settings) :
    (interpreter.followed disk scan.doc id settings).Meets n
      (fun _ cause => s.follow (interpreter.fetched disk) type = .error cause)
      fun _ doc => ∃ s', s.follow (interpreter.fetched disk) type = .ok s' ∧
        (scan.mapDoc fun _ => doc).Shows source.text s' := by
  have hstanding := hscan.standing
  have hbuilding := hstanding.draft.building
  obtain ⟨hin, htype⟩ := hstanding.innermost_eq hstanding.pending
  obtain ⟨-, outer, block, hopen, hblock, -⟩ := hstanding.pending
  obtain ⟨found, hfound, hstop⟩ := hbuilding.spine.exists_block id (hopen ▸ List.mem_cons_self ..)
  cases hblock.symm.trans hfound
  have hinner : scan.doc.innerText id = .ok s.inner := by
    rw [innerText_of_open hblock hstop, ← hin, h.framed.renders]
  have hlt : id < scan.doc.nodes.size := hin ▸ hbuilding.innermost_lt
  unfold Traced.Meets
  rw [Interpreter.followed, Interpreter.followInclude_result, hinner]
  unfold Sketch.follow
  rw [hinc, ← h.sources]
  unfold Interpreter.fetched
  simp only [lift, Except.mapError, Traced.result_ofExcept, bind, Except.bind]
  rcases hfetch : Interpreter.fetch .checked disk (interpreter.reach disk + 1)
    (settings.override.getD interpreter) [] (settings.resolve s.inner) with cause | sub
  · rfl
  · obtain ⟨file, -, hended⟩ := Interpreter.fetch_eq_ok hfetch
    obtain ⟨hsub, hclosed, -, -⟩ := hended.finished (hreg.inner htype hinc)
    obtain ⟨text, htext⟩ := hended.exists_render (hreg.inner htype hinc) hsub.arena.size_pos
    have hrender : sub.render = .ok text := htext
    simp only [hrender]
    rcases hsplice : scan.doc.splice id sub with fault | doc
    · -- there is no index for one of the sources
      obtain ⟨rfl, i, bad, hbad, hmany⟩ := splice_eq_error hlt hsplice
      have hfits : sub.fits scan.doc.sources.size = false := by
        rw [Bool.eq_false_iff, Ne, fits_eq_true_iff]
        intro hall
        exact absurd (hall i bad hbad) (Nat.not_lt.2 hmany)
      simp [hfits]
      rfl
    · have hfits : sub.fits scan.doc.sources.size = true := by
        rw [fits_eq_true_iff]
        intro i found hfound
        exact splice_lt (hsub.arena.ne_root hfound) hfound hsplice
      rw [← hin] at hsplice
      have hgraft := hbuilding.grafted hsub.arena hsplice
      have hframed := h.framed.graft hbuilding hscan.concluded.1.sourced hopen hsub
        hended.concluded.sourced hclosed hgraft hrender
      simp only [hfits]
      refine ⟨_, rfl, hframed, h.run, ?_, h.previous, h.rest⟩
      show doc.sources.size = _
      rw [hgraft.sources, Array.size_append]

/-- The innermost block closes. -/
theorem Shows.leave {id count : Nat} {type : BlockType} {doc : Document}
    (h : scan.Shows source.text s)
    (hscan : Reached disk interpreter source (.followed id type count) scan)
    (himm : type.flags.closeImmediately = false) (hrun : s.run = [])
    (hclose : scan.doc.closeInnermost scan.pos (Text.byteLen (scan.rest.take count)) = .ok doc) :
    (({ scan with doc := doc } : Scan).advance count).startRun.Shows source.text
      (s.leave type) := by
  have hstanding := hscan.standing
  have hbuilding := hstanding.draft.building
  obtain ⟨-, outer, block, hopen, hblock, rfl⟩ := hstanding.pending
  obtain ⟨-, hcloses, rfl⟩ := hscan.concluded.2 himm
  have hmain := (hstanding.draft.registered id (hopen ▸ List.mem_cons_self ..) block hblock).2
  obtain ⟨hsources, hopen', hclosed, -⟩ := closeInnermost_eq_ok hopen hclose
  obtain ⟨frame, frames, hframes⟩ : ∃ frame frames, s.frames = frame :: frames := by
    have htype := Shows.head_type h.framed
    have hactive : scan.doc.activeBlock? = some block := by
      unfold blockOf? at hblock
      simp [activeBlock?, active?, hopen, hblock]
    rw [hactive] at htype
    cases hframes : s.frames with
    | nil => simp [hframes] at htype
    | cons frame frames => exact ⟨frame, frames, rfl⟩
  obtain ⟨before, hcut, -⟩ := hstanding.place.cut?_eq
  have hlen := take_of_closes hcloses hcut
  rw [hstanding.place.closes_eq] at hcloses
  obtain ⟨tags, htags, -⟩ := beginsWith_of_closesBetween hcloses
  have hrender : doc.renders (doc.childrenOf id) = .ok s.inner →
      doc.renderNode id = .ok (block.type.enclose s.inner) := by
    intro hinner
    have hblock' : doc.blockOf? id = some (block.closedAt scan.pos
        (Text.byteLen (scan.rest.take block.type.closeTag.length))) := by
      rw [hclosed.blockOf?, if_pos (List.mem_singleton.2 rfl), hblock]
      rfl
    have hsource : doc.sources[block.source]? = some source := by
      rw [hsources, hmain, hstanding.draft.main]
    have hplain : block.type.isPlain = false := by
      rw [BlockType.isPlain_eq, htags]
      rfl
    have hspliced : block.type.inclusion? ≠ none → doc.splicedAt id = true := by
      intro hinc
      rw [hclosed.splicedAt, hscan.includesFollowed.2 hinc]
    have hnode := renderNode_enclose (hbuilding.close hopen hopen' hclosed).arena hblock' hsource
      hplain himm hlen hspliced hinner
    exact hnode
  have hframed : doc.Framed (frame.before ++ block.type.enclose s.inner) frames := by
    have hbefore := h.framed
    rw [hframes] at hbefore
    exact hbefore.close hbuilding hscan.concluded.1.sourced hopen hclose hrender
  have hleave : s.leave block.type = { s.advance block.type.closeTag.length with
      frames, inner := frame.before ++ block.type.enclose s.inner, run := [] } := by
    unfold Sketch.leave
    rw [hframes, ← hrun]
    rfl
  rw [hleave]
  exact h.moved hstanding.place hframed (hsources ▸ h.sources) _

end Moves

/-! ### Runs of a scan, sketched -/

/-- The sketches that a state shows, by what the scanner is about to do. -/
def Phase.Sketched (interpreter : Interpreter) (fetch : Sketch.Fetch) (text : Text) (scan : Scan) :
    Phase → Prop
  | .scanning => ∃ s, Sketch.Steps interpreter fetch (.start text) s ∧ scan.Shows text s
  | .closing _ type _ => ∃ s, Sketch.Steps interpreter fetch (.start text) s ∧
      s.Closes interpreter type ∧ scan.Shows text s.flush
  | .followed _ type _ => ∃ s s', Sketch.Steps interpreter fetch (.start text) s ∧
      s.Closes interpreter type ∧ s.flush.follow fetch type = .ok s' ∧ scan.Shows text s'

/-- Steps come to a sketch whose step fails for this cause. -/
def Sketch.Fails (interpreter : Interpreter) (fetch : Sketch.Fetch) (text : Text)
    (cause : Failure) : Prop :=
  ∃ s, Sketch.Steps interpreter fetch (.start text) s ∧ s.rest ≠ [] ∧
    s.next interpreter fetch = .error cause

section Runs

open Document

variable {disk : Disk} {interpreter : Interpreter} {path : Option Path} {text : Text}

theorem kept_sketched (h : interpreter.Orderly) (hlen : text.byteLen < offsetLimit) :
    Kept interpreter (interpreter.followed disk)
      (fun _ cause => cause = .stalled ∨
        Sketch.Fails interpreter (interpreter.fetched disk) text cause)
      fun _ phase scan => Reached disk interpreter ⟨none, text⟩ phase scan ∧
        phase.Sketched interpreter (interpreter.fetched disk) text scan := by
  have hreg := h.registered
  have hsound := Interpreter.followInclude_sound .checked disk (interpreter.reach disk + 1)
    interpreter [] ⟨none, text⟩
  refine ⟨?_, ?_, ?_, ?_, ?_, ?_, ?_, ?_⟩
  · rintro n scan ⟨hscan, s, hsteps, hshows⟩ hrest hopening hclosing
    refine ⟨hscan.read hrest hopening hclosing, s.read, hsteps.tail ⟨hshows.rest ▸ hrest, ?_⟩,
      hshows.read hscan.standing.place⟩
    unfold Sketch.next
    rw [← hshows.opening?, hopening, ← hshows.closing?, hclosing]
    rfl
  · rintro n scan cause ⟨hscan, -⟩ hflush
    obtain ⟨flushed, hok⟩ := hscan.standing.exists_flush hlen
    cases hok.symm.trans hflush
  · rintro n scan type flushed ⟨hscan, s, hsteps, hshows⟩ hrest hopening hflush
    refine ⟨hscan.opened hrest hopening hflush, ?_⟩
    have htype := List.mem_of_find?_eq_some (opening?_eq_some hopening).1
    rw [Phase.afterOpen, h.bodies type htype]
    refine ⟨s.flush.enter type, hsteps.tail ⟨hshows.rest ▸ hrest, ?_⟩, hshows.enter hscan hflush⟩
    unfold Sketch.next
    rw [← hshows.opening?, hopening]
  · rintro n scan id type flushed ⟨hscan, s, hsteps, hshows⟩ hrest hopening hclosing hflush
    refine ⟨hscan.closing hrest hopening hclosing hflush, s, hsteps, ⟨hshows.rest ▸ hrest, ?_, ?_⟩,
      hshows.flush hscan hflush⟩
    · rw [← hshows.opening?, hopening]
    · rw [← hshows.closing?, hclosing]
      rfl
  · rintro n scan id type count ⟨hscan, s, hsteps, hcloses, hshows⟩ hinc
    refine ⟨hscan.passed hinc, s, s.flush, hsteps, hcloses, ?_, hshows⟩
    unfold Sketch.follow
    rw [hinc]
  · rintro n scan id type count settings ⟨hscan, s, hsteps, hcloses, hshows⟩ hinc
    have hfollow : ((interpreter.followed disk) scan.doc id settings).Meets n _ _ :=
      hshows.follow hreg hscan hinc
    unfold Traced.Meets at hfollow ⊢
    rcases hresult : ((interpreter.followed disk) scan.doc id settings).result with cause | doc
    · simp only [hresult] at hfollow ⊢
      refine Or.inr ⟨s, hsteps, hcloses.rest, ?_⟩
      unfold Sketch.next
      rw [hcloses.opening, hcloses.closing]
      simp only [hfollow]
      rfl
    · simp only [hresult] at hfollow ⊢
      obtain ⟨s', hfollow, hshows'⟩ := hfollow
      exact ⟨hsound _ _ _ _ _ _ hscan hinc hresult, s, s', hsteps, hcloses, hfollow, hshows'⟩
  · rintro n scan id type count cause ⟨hscan, -⟩ hclose
    obtain ⟨doc, hok⟩ := hscan.standing.exists_close (hscan.tiling hreg) hlen
    cases hok.symm.trans hclose
  · rintro n scan id type count doc ⟨hscan, s, s', hsteps, hcloses, hfollow, hshows⟩ hdoc
    have htype := (hscan.standing.innermost_eq hscan.standing.pending).2
    refine ⟨hscan.closed (changeDoc_eq_ok_iff.2 ⟨doc, hdoc, rfl⟩), s'.leave type,
      hsteps.tail ⟨hcloses.rest, ?_⟩, hshows.leave hscan (h.bodies type htype) ?_ hdoc⟩
    · unfold Sketch.next
      rw [hcloses.opening, hcloses.closing]
      simp only [hfollow]
      rfl
    · obtain ⟨inner, sources, rfl⟩ := Sketch.follow_eq_ok hfollow
      rfl

/-- The states that the scan of a text passes through. -/
inductive Passed (disk : Disk) (interpreter : Interpreter) (text : Text) : Scan → Prop
  | start : Passed disk interpreter text (.start ⟨none, text⟩)
  | step {scan after} : Passed disk interpreter text scan → scan.rest ≠ [] →
      (scan.step interpreter (interpreter.followed disk)).result = .ok after →
      Passed disk interpreter text after

theorem shows_start (text : Text) : (start ⟨none, text⟩).Shows text (.start text) :=
  ⟨.ofSource _, ⟨[], text, rfl, rfl, rfl⟩, rfl, rfl, rfl⟩

/-- **Every state shows a sketch that the steps come to.** -/
theorem Passed.sketched {scan : Scan} (h : Passed disk interpreter text scan)
    (horderly : interpreter.Orderly) (hlen : text.byteLen < offsetLimit) :
    Reached disk interpreter ⟨none, text⟩ .scanning scan ∧
      ∃ s, Sketch.Steps interpreter (interpreter.fetched disk) (.start text) s ∧
        scan.Shows text s := by
  induction h with
  | start => exact ⟨.start interpreter _, .start text, .refl, shows_start text⟩
  | @step scan after _ hrest hstep ih =>
    have hmeets : (scan.step interpreter (interpreter.followed disk)).Meets 0 _ _ :=
      (kept_sketched horderly hlen).step_meets ih hrest
    exact hmeets.of_ok hstep

/-! ### The end of input, sketched -/

theorem closeable_iff_frames {doc : Document} {inner : Text} {frames : List Frame}
    (h : doc.Framed inner frames) :
    (∀ id ∈ doc.openBlocks, doc.isCloseableByEof id = true) ↔
      ∀ frame ∈ frames, frame.type.flags.closeableByEof = true := by
  unfold Framed at h
  generalize doc.openBlocks = ids, ([] : List Nat) = last at h
  induction h with
  | top _ => simp
  | block hblock htype _ _ ih =>
    rw [List.forall_mem_cons, List.forall_mem_cons, ih, isCloseableByEof_eq hblock, htype]

/-- A document that the end of input completes renders as the sketch tells. -/
theorem Shows.render_finished {scan : Scan} {s : Sketch} {doc : Document}
    (h : scan.Shows text s) (horderly : interpreter.Orderly)
    (hscan : Reached disk interpreter ⟨none, text⟩ .scanning scan) (hrest : scan.rest = [])
    (hfinish : scan.finish.result = .ok doc) : doc.render = .ok s.text := by
  have hended : Ended disk interpreter ⟨none, text⟩ (.ok doc) := ⟨scan, hscan, hrest, hfinish⟩
  obtain ⟨hbuilding, hopen, hstops, -⟩ := hended.finished horderly.registered
  obtain ⟨flushed, closed, left, hflush, hsources, hsplit, -, halong, hcloseable, -, hleft⟩ :=
    finish_holds (Or.inl hfinish) hscan.standing.draft
  rw [hleft hfinish, List.append_nil] at hsplit
  obtain ⟨-, hdraft, -⟩ := flush_draft hscan.standing.draft hflush
  have hconcluded := flush_concluded hscan.standing hscan.concluded.1 hflush
  have hframed : flushed.doc.Framed (s.inner ++ s.run) s.frames := (h.flush hscan hflush).framed
  have hkeeps : flushed.doc.Keeps doc := by
    refine (halong.embeds hsources ?_ ?_).keeps hdraft.building hbuilding.arena hconcluded.sourced
    · intro id hid
      rwa [← List.mem_reverse, hsplit]
    · rw [hopen]
      exact List.nil_subset _
  have hsame : ∀ j, doc.childrenOf j = flushed.doc.childrenOf j ++ [] := by
    intro j
    rw [halong.childrenOf, List.append_nil]
  have hroot : doc.render = doc.renders (doc.childrenOf root) :=
    renderNode_eq_renders hbuilding.arena hbuilding.arena.size_pos hbuilding.arena.compose_root
  rw [hroot]
  unfold Sketch.text
  cases hlast : s.frames.getLast? with
  | none =>
    rw [List.getLast?_eq_none_iff.1 hlast] at hframed
    unfold Framed at hframed
    generalize flushed.doc.openBlocks = ids at hframed
    cases hframed with
    | top hfilled => exact (hfilled.keep hkeeps (hsame root)).renders
  | some frame =>
    obtain ⟨id, block, hid, hblock, htype, hfilled⟩ := hframed.outermost hlast
    have hmem := List.mem_of_getLast? hid
    have hclosed : id ∈ closed := by
      rw [← hsplit]
      exact List.mem_reverse.2 hmem
    have hcomment : block.type.isComment = true := by
      apply horderly.ends _ (hdraft.registered id hmem block hblock).1
      rw [← isCloseableByEof_eq hblock, hcloseable id hclosed]
    have hblock' : doc.blockOf? id = some (block.closedAt text.byteLen 0) := by
      rw [halong.blockOf?, if_pos hclosed, hblock]
      rfl
    obtain ⟨rendered, hrendered⟩ :=
      hended.exists_render horderly.registered (lt_size_of_block hblock')
    have hnil := renderNode_comment hbuilding.arena hblock' hcomment hrendered
    have hsettled := hbuilding.settled_of_closed hblock' (hstops id _ hblock')
    have hfinal := (hfilled.keep hkeeps (hsame root)).settle hsettled hrendered
    rw [hnil, List.append_nil] at hfinal
    exact hfinal.renders

end Runs

end Scan

namespace Interpreter

open Scan

/-- **Where the steps of the sketch end decides what rendering comes to.** -/
theorem render_sketched {interpreter : Interpreter} (disk : Disk) (h : interpreter.Orderly)
    {text : Text} (hlen : text.byteLen < offsetLimit) :
    ∃ s, Sketch.Steps interpreter (interpreter.fetched disk) (.start text) s ∧
      s.Ends interpreter (interpreter.fetched disk) (interpreter.render disk text).result := by
  have hmeets : (interpreter.scanned disk text).Meets 0 _ _ :=
    (kept_sketched h hlen).loop_meets (fun _ => Or.inl rfl)
      ⟨.start interpreter _, .start text, .refl, shows_start text⟩
  have hresult : (interpreter.render disk text).result =
      (interpreter.interpret disk text).result >>= fun doc => (lift doc.render).result :=
    Traced.result_bind _ _
  rw [hresult]
  rcases interpret_decides disk interpreter h.registered hlen with
    ⟨cause, hscanned, -, hinterpret⟩ | ⟨ended, hscanned, hended, hrest, hinterpret, hdecides⟩
  · rw [hinterpret]
    rcases hmeets.of_error hscanned with rfl | ⟨s, hsteps, hrest, hnext⟩
    · exact absurd hinterpret (interpretSource_ne_stalled h.registered)
    · exact ⟨s, hsteps, .failed hrest hnext⟩
  · obtain ⟨⟨-, s, hsteps, hshows⟩, -⟩ := hmeets.of_ok hscanned
    refine ⟨s, hsteps, ?_⟩
    have hnil : s.rest = [] := by rw [← hshows.rest, hrest]
    by_cases hall : ∀ frame ∈ s.frames, frame.type.flags.closeableByEof = true
    · obtain ⟨doc, hdoc⟩ := hdecides.accepted ((closeable_iff_frames hshows.framed).2 hall)
      have htext := hshows.render_finished h hended hrest (hinterpret ▸ hdoc)
      rw [hdoc]
      simp only [bind, Except.bind, htext]
      exact .accepted hnil hall
    · have hblocked : ∃ id ∈ ended.doc.openBlocks, ended.doc.isCloseableByEof id = false := by
        by_contra hnone
        refine hall ((closeable_iff_frames hshows.framed).1 ?_)
        intro id hid
        exact eq_true_of_ne_false fun hfalse => hnone ⟨id, hid, hfalse⟩
      obtain ⟨label, partly, hfails⟩ := hdecides.unterminated_iff.2 hblocked
      rw [hfails]
      exact .unterminated hnil hall

end Interpreter

/-! ### The LaTeX types -/

namespace Preset

theorem mem_latexTypes {type : BlockType} (h : type ∈ latexTypes) :
    type = bracket ∨ type = comment ∨ type = cite ∨ type = input := by
  simpa [latexTypes] using h

/-- Some of the LaTeX types, in whatever order. -/
theorem orderly_of_latexTypes {interpreter : Interpreter}
    (h : ∀ type ∈ interpreter.types, type ∈ latexTypes) : interpreter.Orderly := by
  have hvalid : interpreter.types.forM BlockType.validate = .ok () := by
    rw [forM_validate_eq_ok_iff, List.all_eq_true]
    intro type htype
    rcases mem_latexTypes (h type htype) with rfl | rfl | rfl | rfl <;> rfl
  have haccepted : Interpreter.ofTypes interpreter.types interpreter.reader =
      .ok ⟨interpreter.types, Interpreter.defaultSelfCloseSkip, interpreter.reader⟩ := by
    unfold Interpreter.ofTypes
    rw [hvalid]
    rfl
  refine ⟨.intro haccepted ?_, ?_, ?_⟩
  · intro type htype settings inner hinc hover
    rcases mem_latexTypes (h type htype) with rfl | rfl | rfl | rfl <;> cases hinc
    cases hover
  · intro type htype
    rcases mem_latexTypes (h type htype) with rfl | rfl | rfl | rfl <;> rfl
  · intro type htype hcloseable
    rcases mem_latexTypes (h type htype) with rfl | rfl | rfl | rfl
    · cases hcloseable
    · rfl
    · cases hcloseable
    · cases hcloseable

end Preset

end Blockwise
