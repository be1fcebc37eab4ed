/-
  Blockwise/Proofs/Interpret/Faults.lean
  ======================================
  **No interpretation stops with a fault.**  Where a scan stands, every operation that
  it does on its document has a meaning: positions only grow, open blocks begin before
  the position, and the nodes below the one that is followed are tiled, so its
  reference can be read.  What an interpretation answers with, a document or what had
  been built of one, can be rendered and drawn, and so can each of its nodes.

  The offsets of a text are words as long as the text is shorter than the first number
  that is none.  Sources are counted in words, too.  Each file that is included brings
  in one source and is reported, so the sources are not more than the events.
-/
import Blockwise.Proofs.Document.Legible
import Blockwise.Proofs.Files.Memory
import Blockwise.Proofs.Interpret.Tiling

namespace Blockwise

/-! ### Operations on a document -/

namespace Document

variable {doc : Document} {id pos markerLen stop : Nat} {outer ids : List Nat}

theorem exists_closeNode (hid : id < doc.nodes.size)
    (hstart : ∀ block, doc.blockOf? id = some block → block.start ≤ pos)
    (hfits : pos + markerLen < offsetLimit) :
    ∃ doc', doc.closeNode id pos markerLen = .ok doc' := by
  obtain ⟨node, hnode, hhead, -⟩ := exists_node hid
  unfold closeNode
  simp only [hnode, bind, Except.bind]
  rcases hblock : node.block with _ | block
  · exact ⟨doc, rfl⟩
  · have hle := hstart block (hhead.symm.trans hblock)
    simp only [Block.close, if_neg (Nat.not_lt.2 hle), addOffsets_eq_ok hfits]
    exact ⟨_, rfl⟩

theorem exists_closeInnermost (hopen : doc.openBlocks = id :: outer) (hid : id < doc.nodes.size)
    (hstart : ∀ block, doc.blockOf? id = some block → block.start ≤ pos)
    (hfits : pos + markerLen < offsetLimit) :
    ∃ doc', doc.closeInnermost pos markerLen = .ok doc' := by
  obtain ⟨sources, nodes, openBlocks⟩ := doc
  cases hopen
  have hclose : ∃ doc', closeNode ⟨sources, nodes, outer⟩ id pos markerLen = .ok doc' :=
    exists_closeNode hid hstart hfits
  exact hclose

theorem exists_closeWhile (hids : ∀ id ∈ ids, id < doc.nodes.size ∧
      ∀ block, doc.blockOf? id = some block → block.start ≤ stop) (hfits : stop < offsetLimit) :
    ∃ outcome, doc.closeWhile stop ids = .ok outcome := by
  induction ids generalizing doc with
  | nil => exact ⟨(doc, []), rfl⟩
  | cons id inner ih =>
    obtain ⟨hid, hstart⟩ := hids id (List.mem_cons_self ..)
    unfold closeWhile
    split
    · refine exists_bind_ok (exists_closeNode hid hstart hfits) fun closed hclosed => ih ?_
      obtain ⟨-, -, halong, -⟩ := closeNode_eq_ok hclosed
      intro j hj
      obtain ⟨hlt, hstart'⟩ := hids j (List.mem_cons_of_mem _ hj)
      refine ⟨halong.size_eq ▸ hlt, ?_⟩
      -- a block keeps its start when it is closed
      intro block hblock
      rw [halong.blockOf?] at hblock
      split at hblock
      · obtain ⟨old, hold, rfl⟩ := Option.map_eq_some_iff.1 hblock
        exact hstart' old hold
      · exact hstart' block hblock
    · exact ⟨(doc, id :: inner), rfl⟩

theorem exists_closeAtEof (hids : ∀ id ∈ doc.openBlocks, id < doc.nodes.size ∧
      ∀ block, doc.blockOf? id = some block → block.start ≤ doc.text.byteLen)
    (hfits : doc.text.byteLen < offsetLimit) : ∃ outcome, doc.closeAtEof = .ok outcome := by
  refine exists_bind_ok (exists_closeWhile ?_ hfits) fun _ _ => ⟨_, rfl⟩
  intro id hid
  exact hids id (List.mem_reverse.1 hid)

end Document

/-! ### Moves of the scanner -/

namespace Scan

variable {interpreter : Interpreter} {source : Source} {phase : Phase} {scan : Scan}
  {file : Inclusion → Source → Prop} {id count : Nat} {type : BlockType}

theorem Standing.pos_add_le (h : scan.Standing interpreter source phase) (count : Nat) :
    scan.pos + Text.byteLen (scan.rest.take count) ≤ source.text.byteLen := by
  have hsum := h.place.pos_add_byteLen
  have hrest : Text.byteLen (scan.rest.take count) + Text.byteLen (scan.rest.drop count) =
      Text.byteLen scan.rest := by
    rw [← Text.byteLen_append, List.take_append_drop]
  omega

theorem Standing.exists_flush (h : scan.Standing interpreter source phase)
    (hlen : source.text.byteLen < offsetLimit) : ∃ flushed, scan.flush = .ok flushed := by
  have hpos := h.pos_add_le 0
  rw [List.take_zero, Text.byteLen_nil] at hpos
  unfold flush
  dsimp only
  split
  · have hclose : ∃ doc, (scan.doc.push (.opened .plain 0 scan.runStart)).closeInnermost
        scan.pos 0 = .ok doc := by
      refine Document.exists_closeInnermost (Document.openBlocks_push ..) ?_ ?_ (by omega)
      · rw [Document.size_push]
        exact Nat.lt_succ_self _
      · intro block hblock
        rw [Document.blockOf?_push _ h.draft.building.innermost_lt, if_pos rfl] at hblock
        cases hblock
        exact h.runStart_le
    obtain ⟨doc, hdoc⟩ := hclose
    exact ⟨_, changeDoc_eq_ok_iff.2 ⟨doc, hdoc, rfl⟩⟩
  · exact ⟨scan, rfl⟩

theorem Standing.exists_close (h : scan.Standing interpreter source (.followed id type count))
    (htiling : scan.Tiling source file (.followed id type count))
    (hlen : source.text.byteLen < offsetLimit) :
    ∃ doc, scan.doc.closeInnermost scan.pos (Text.byteLen (scan.rest.take count)) = .ok doc := by
  obtain ⟨hrun, outer, block, hopen, hblock, -⟩ := h.pending
  have hpos := h.pos_add_le count
  refine Document.exists_closeInnermost hopen ?_ ?_ (by omega)
  · exact h.draft.building.spine.lt_size h.draft.building.arena id (hopen ▸ List.mem_cons_self ..)
  · intro found hfound
    cases hblock.symm.trans hfound
    have hgrown := htiling.2
    rw [hrun] at hgrown
    refine Nat.le_of_lt (hgrown.head_source ?_).2
    rw [Document.family_head, Document.innermost_eq, hopen]
    exact hblock

theorem Standing.exists_innerText (h : scan.Standing interpreter source (.closing id type count))
    (htiling : scan.Tiling source file (.closing id type count))
    (hbounded : ShortSources scan.doc.sources) :
    ∃ reference, scan.doc.innerText id = .ok reference := by
  obtain ⟨hin, -⟩ := h.innermost_eq h.pending
  obtain ⟨-, outer, block, hopen, hblock, -⟩ := h.pending
  have hspine := h.draft.building.spine
  refine Document.exists_innerText h.draft.building.arena ?_ ?_ hbounded ?_
  · refine Document.legibleFrom_of_tiled fun j hfirst hj => htiling.1 j hj ?_
    omega
  · rw [← hin]
    exact h.draft.building.innermost_lt
  · intro found hfound
    cases hblock.symm.trans hfound
    obtain ⟨other, hother, hstop⟩ := hspine.exists_block id (hopen ▸ List.mem_cons_self ..)
    cases hblock.symm.trans hother
    exact Or.inl hstop

theorem Standing.exists_closeAtEof {flushed : Scan} (h : scan.Standing interpreter source .scanning)
    (htiling : scan.Tiling source file .scanning) (hrest : scan.rest = [])
    (hlen : source.text.byteLen < offsetLimit) (hflush : scan.flush = .ok flushed) :
    ∃ outcome, flushed.doc.closeAtEof = .ok outcome := by
  obtain ⟨-, hdraft, -, -, -⟩ := flush_draft h.draft hflush
  have htiled := flush_tiled_at_end h hrest htiling hflush
  have htext := Document.text_eq hdraft.main
  refine Document.exists_closeAtEof ?_ (htext ▸ hlen)
  intro id hid
  have hlt := hdraft.building.spine.lt_size hdraft.building.arena id hid
  refine ⟨hlt, ?_⟩
  intro block hblock
  -- an open block is in the main source and begins before its end
  obtain ⟨⟨main, hmain, hplaced⟩, -⟩ := (htiled id hlt).of_head hblock
  rw [(hdraft.registered id hid block hblock).2, hdraft.main] at hmain
  cases hmain
  obtain ⟨other, hother, hstop⟩ := hdraft.building.spine.exists_block id hid
  cases hblock.symm.trans hother
  have hstart := hplaced.start_lt
  rw [Block.stopIn_of_open hstop] at hstart
  rw [htext]
  exact Nat.le_of_lt hstart

/-- What the end of input leaves can be read. -/
theorem finish_legible {doc : Document} (h : scan.Standing interpreter source .scanning)
    (htiling : scan.Tiling source file .scanning) (hrest : scan.rest = [])
    (hbounded : ShortSources scan.doc.sources)
    (hend : Holds scan.finish.result doc) : doc.sources = scan.doc.sources ∧ doc.Legible := by
  obtain ⟨flushed, -, -, hflush, hsources, -⟩ := finish_holds hend h.draft
  obtain ⟨-, -, hsame, -, -⟩ := flush_draft h.draft hflush
  obtain ⟨harena, -, htiled⟩ := finish_tiled h hrest htiling hend
  have hdoc := hsources.trans hsame
  have hbounded' : ShortSources doc.sources := by
    rw [hdoc]
    exact hbounded
  exact ⟨hdoc, harena, hbounded',
    Document.legibleFrom_of_tiled fun id _ hid => htiled id hid⟩

/-- A failure after `n` events: an operation stops only if the events are more than a word
    can count, and a partial document can be read. -/
def Harmless (n : Nat) (cause : Failure) : Prop :=
  (∀ fault, cause = .fault fault → fault = .offsetOverflow ∧ offsetLimit ≤ n) ∧
    ∀ label doc, cause = .unterminated label doc → doc.Legible

/-- A state after `n` events of a scan that began after `first`: its sources are short, and
    not more than the events since then allow. -/
structure Counted (disk : Disk) (interpreter : Interpreter) (source : Source) (first n : Nat)
    (phase : Phase) (scan : Scan) : Prop where
  reached : Reached disk interpreter source phase scan
  sources : scan.doc.sources.size + first ≤ n + 1
  bounded : ShortSources scan.doc.sources

/-- The document of a run that began after `first` events and ended after `n`. -/
structure Accounted (first n : Nat) (doc : Document) : Prop where
  sources : doc.sources.size + first ≤ n + 1
  legible : doc.Legible

/-- Moves that keep the sources keep their count. -/
theorem Counted.move {disk : Disk} {first n : Nat} {phase' : Phase} {after : Scan}
    (h : Counted disk interpreter source first n phase scan)
    (hreached : Reached disk interpreter source phase' after)
    (hsources : after.doc.sources = scan.doc.sources) :
    Counted disk interpreter source first n phase' after := by
  refine ⟨hreached, ?_, ?_⟩
  · rw [hsources]
    exact h.sources
  · rw [hsources]
    exact h.bounded

theorem kept_counted {disk : Disk} {first : Nat} {follow : Follow} (hreg : interpreter.Registered)
    (hlen : source.text.byteLen < offsetLimit) (hsound : follow.Sound disk interpreter source)
    (hfollow : ∀ {n scan id type count settings},
      Counted disk interpreter source first n (.closing id type count) scan →
      type.inclusion? = some settings →
      (follow scan.doc id settings).Meets n Harmless fun m doc =>
        doc.sources.size + first ≤ m + 1 ∧
          ShortSources doc.sources) :
    Kept interpreter follow Harmless (Counted disk interpreter source first) := by
  refine ⟨?_, ?_, ?_, ?_, ?_, ?_, ?_, ?_⟩
  · intro n scan hscan hrest hopening hclosing
    exact hscan.move (hscan.reached.read hrest hopening hclosing) rfl
  · intro n scan cause hscan hflush
    obtain ⟨flushed, hok⟩ := hscan.reached.standing.exists_flush hlen
    cases hok.symm.trans hflush
  · intro n scan type flushed hscan hrest hopening hflush
    obtain ⟨-, -, hsources, -, -⟩ := flush_draft hscan.reached.standing.draft hflush
    exact hscan.move (hscan.reached.opened hrest hopening hflush) hsources
  · intro n scan id type flushed hscan hrest hopening hclosing hflush
    obtain ⟨-, -, hsources, -, -⟩ := flush_draft hscan.reached.standing.draft hflush
    exact hscan.move (hscan.reached.closing hrest hopening hclosing hflush) hsources
  · intro n scan id type count hscan hinc
    exact hscan.move (hscan.reached.passed hinc) rfl
  · intro n scan id type count settings hscan hinc
    have hmeets := hfollow hscan hinc
    unfold Traced.Meets at hmeets ⊢
    rcases hresult : (follow scan.doc id settings).result with cause | doc
    · simp only [hresult] at hmeets ⊢
      exact hmeets
    · simp only [hresult] at hmeets ⊢
      exact ⟨hsound _ _ _ _ _ _ hscan.reached hinc hresult, hmeets.1, hmeets.2⟩
  · intro n scan id type count cause hscan hclose
    obtain ⟨doc, hok⟩ :=
      hscan.reached.standing.exists_close (hscan.reached.tiling hreg) hlen
    cases hok.symm.trans hclose
  · intro n scan id type count doc hscan hdoc
    obtain ⟨-, outer, block, hopen, -, -⟩ := hscan.reached.standing.pending
    exact hscan.move (hscan.reached.closed (changeDoc_eq_ok_iff.2 ⟨doc, hdoc, rfl⟩))
      (Document.closeInnermost_eq_ok hopen hdoc).1

theorem finish_meets_legible {disk : Disk} {first n : Nat} (hreg : interpreter.Registered)
    (hlen : source.text.byteLen < offsetLimit)
    (h : Counted disk interpreter source first n .scanning scan) (hrest : scan.rest = []) :
    scan.finish.Meets n Harmless (Accounted first) := by
  have hstanding := h.reached.standing
  have htiling := h.reached.tiling hreg
  have hlegible := fun doc => @finish_legible _ _ _ _ doc hstanding htiling hrest h.bounded
  have hfault : scan.finish.Meets n (fun _ cause => ∀ fault, cause ≠ .fault fault)
      fun _ _ => True := by
    refine finish_meets ?_ ?_ (by simp) (by simp)
    · intro cause hflush
      obtain ⟨flushed, hok⟩ := hstanding.exists_flush hlen
      cases hok.symm.trans hflush
    · intro flushed cause hflush hclose
      obtain ⟨outcome, hok⟩ := hstanding.exists_closeAtEof htiling hrest hlen hflush
      cases hok.symm.trans hclose
  unfold Traced.Meets
  rcases hresult : scan.finish.result with cause | doc
  · refine ⟨fun fault hcause => absurd hcause (hfault.of_error hresult fault), ?_⟩
    rintro label doc rfl
    exact (hlegible doc (Or.inr ⟨label, hresult⟩)).2
  · obtain ⟨hsources, hdoc⟩ := hlegible doc (Or.inl hresult)
    have hcount := h.sources
    rw [← hsources] at hcount
    exact ⟨by omega, hdoc⟩

end Scan

/-! ### Whole interpretations -/

namespace Interpreter

open Scan

/-- The files that the interpreter and those nested in it can read are short enough for
    their offsets to be words. -/
def ShortFiles (disk : Disk) (interpreter : Interpreter) : Prop :=
  ∀ inner, interpreter.Within inner → ∀ path text, inner.reader.read disk path = .ok text →
    text.byteLen < offsetLimit

theorem ShortFiles.inner {disk : Disk} {interpreter : Interpreter} {type : BlockType}
    {settings : Inclusion} (h : interpreter.ShortFiles disk) (htype : type ∈ interpreter.types)
    (hinc : type.inclusion? = some settings) :
    (settings.override.getD interpreter).ShortFiles disk :=
  fun inner hinner => h inner ((Within.refl.step htype hinc).trans hinner)

section

variable {guard : Guard} {disk : Disk} {depth first n m id count : Nat} {interpreter : Interpreter}
  {chain : List Path} {source : Source} {scan : Scan} {type : BlockType} {settings : Inclusion}
  {sub : Document}

/-- A block of a file names one of the file's sources, and these have been counted. -/
theorem splice_meets (hscan : Counted disk interpreter source first n (.closing id type count) scan)
    (hsub : Accounted (n + 1) m sub) :
    (lift (scan.doc.splice id sub)).Meets m Harmless fun m doc =>
      doc.sources.size + first ≤ m + 1 ∧
        ShortSources doc.sources := by
  have hstanding := hscan.reached.standing
  obtain ⟨rfl, -⟩ := hstanding.innermost_eq hstanding.pending
  have hscanned := hscan.sources
  have hcount := hsub.sources
  refine (meets_lift ?_).mono (fun _ _ hcause => hcause) ?_
  · intro cause hcause
    obtain ⟨rfl, i, block, hblock, hsum⟩ :=
      Document.splice_eq_error hstanding.draft.building.innermost_lt hcause
    obtain ⟨found, hfound, -⟩ := hsub.legible.blocks i block (Nat.zero_le i) hblock
    obtain ⟨hlt, -⟩ := Array.getElem?_eq_some_iff.1 hfound
    refine ⟨?_, by simp⟩
    intro fault hfault
    cases hfault
    exact ⟨rfl, by omega⟩
  · rintro _ doc ⟨rfl, hsplice⟩
    have hgraft := hstanding.draft.building.grafted hsub.legible.arena hsplice
    rw [hgraft.sources, Array.size_append]
    refine ⟨by omega, ?_⟩
    intro i found hfound
    rw [Array.getElem?_append] at hfound
    split at hfound
    · exact hscan.bounded i found hfound
    · exact hsub.legible.bounded _ found hfound

theorem followInclude_meets (hreg : interpreter.Registered) (hfiles : interpreter.ShortFiles disk)
    (hfile : ∀ {inner : Interpreter} {longer : List Path} {file : Source} {before : Nat},
      inner.Registered → inner.ShortFiles disk → file.text.byteLen < offsetLimit →
      (interpretSource guard disk depth inner longer file).Meets before Harmless
        (Accounted before))
    (hscan : Counted disk interpreter source first n (.closing id type count) scan)
    (hinc : type.inclusion? = some settings) :
    (followInclude guard disk depth interpreter chain scan.doc id settings).Meets n Harmless
      fun m doc => doc.sources.size + first ≤ m + 1 ∧
        ShortSources doc.sources := by
  have hstanding := hscan.reached.standing
  obtain ⟨-, htype⟩ := hstanding.innermost_eq hstanding.pending
  unfold followInclude
  refine (meets_lift ?_).bind ?_
  · intro cause hcause
    obtain ⟨reference, hok⟩ :=
      hstanding.exists_innerText (hscan.reached.tiling hreg) hscan.bounded
    cases hok.symm.trans hcause
  rintro _ reference - ⟨rfl, -⟩
  refine Traced.meets_report.bind ?_
  rintro _ - - rfl
  refine (Traced.meets_ofExcept ?_).bind ?_
  · intro cause hcause
    rw [Guard.enter_eq_error hcause]
    exact ⟨by simp, by simp⟩
  rintro _ longer - ⟨rfl, -⟩
  rcases hread : (settings.override.getD interpreter).reader.read disk
      (settings.resolve reference) with why | text
  · exact ⟨by simp, by simp⟩
  · have hinner := hfiles.inner htype hinc
    refine (hfile (hreg.inner htype hinc) hinner (hinner _ .refl _ _ hread)).bind ?_
    intro m sub _ hsub
    exact splice_meets hscan hsub

/-- **An interpretation meets no fault,** whatever it answers with. -/
theorem interpretSource_meets (hreg : interpreter.Registered) (hfiles : interpreter.ShortFiles disk)
    (hlen : source.text.byteLen < offsetLimit) :
    (interpretSource guard disk depth interpreter chain source).Meets first Harmless
      (Accounted first) := by
  induction depth generalizing interpreter chain source first with
  | zero => exact ⟨by simp, by simp⟩
  | succ depth ih =>
    rw [interpretSource_succ]
    have hkept : Kept interpreter (followInclude guard disk depth interpreter chain) Harmless
        (Counted disk interpreter source first) :=
      kept_counted hreg hlen (followInclude_sound guard disk depth interpreter chain source)
        fun hscan hinc => followInclude_meets hreg hfiles ih hscan hinc
    refine hkept.run_meets (fun m => ⟨by simp, by simp⟩) ?_ ?_
    · refine ⟨.start interpreter source, Nat.le_of_eq (Nat.add_comm _ _), ?_⟩
      intro i found hfound
      cases i with
      | zero =>
        cases hfound
        exact hlen
      | succ i => cases hfound
    · intro m ended hended hrest
      exact finish_meets_legible hreg hlen hended hrest

end

/-- No fault in the outcome, and none in reading what it holds.  Each included file is
    reported and brings in a source, so only a run that includes more files than a word
    can count might run out of indices for its sources. -/
structure Faultless (work : Traced Failure Document) : Prop where
  no_fault : work.events.length < offsetLimit → ∀ fault, work.result ≠ .error (.fault fault)
  overflow_only : ∀ fault, work.result = .error (.fault fault) → fault = .offsetOverflow
  render : ∀ doc, Holds work.result doc → ∃ text, doc.render = .ok text
  drawing : ∀ doc, Holds work.result doc → ∃ text, doc.drawing = .ok text
  nodes : ∀ doc, Holds work.result doc → ∀ id < doc.nodes.size,
    (∃ text, doc.renderNode id = .ok text) ∧ (∃ text, doc.renderChildren id = .ok text) ∧
      ∃ text, doc.innerText id = .ok text

theorem faultless_of_meets {work : Traced Failure Document}
    (h : work.Meets 0 Harmless (Accounted 0)) : Faultless work := by
  have hlegible : ∀ doc, Holds work.result doc → doc.Legible := by
    rintro doc (hok | ⟨label, hopen⟩)
    · exact (h.of_ok hok).legible
    · exact (h.of_error hopen).2 label doc rfl
  refine ⟨?_, ?_, ?_, ?_, ?_⟩
  · intro hevents fault hfault
    have hmany := ((h.of_error hfault).1 fault rfl).2
    omega
  · intro fault hfault
    exact ((h.of_error hfault).1 fault rfl).1
  · intro doc hdoc
    have hread := hlegible doc hdoc
    exact Document.exists_renderNode hread.arena hread.blocks (Nat.zero_le _) hread.arena.size_pos
  · intro doc hdoc
    exact (hlegible doc hdoc).exists_drawing
  · intro doc hdoc id hid
    have hread := hlegible doc hdoc
    have hbelow := hread.blocks.mono (Nat.zero_le (id + 1))
    refine ⟨Document.exists_renderNode hread.arena hread.blocks (Nat.zero_le id) hid,
      Document.exists_renderChildren hread.arena hbelow hid,
      Document.exists_innerText hread.arena hbelow hid hread.bounded ?_⟩
    intro block hblock
    exact Or.inr (hread.blocks id block (Nat.zero_le id) hblock)

/-- **Nothing stops with a fault,** for all registered types and for all texts and files
    that are short enough for their offsets to be words. -/
theorem interpretation_faultless (disk : Disk) (interpreter : Interpreter)
    (hreg : interpreter.Registered) (hfiles : interpreter.ShortFiles disk) :
    (∀ text : Text, text.byteLen < offsetLimit → Faultless (interpreter.interpret disk text)) ∧
      ∀ path, Faultless (interpreter.interpretFile disk path) := by
  refine ⟨fun text hlen => faultless_of_meets (interpretSource_meets hreg hfiles hlen), ?_⟩
  intro path
  refine faultless_of_meets ?_
  rcases interpretFile_cases disk interpreter path with ⟨cause, -, hfile⟩ | ⟨text, hread, hfile⟩
  · rw [hfile]
    exact ⟨by simp, by simp⟩
  · rw [hfile]
    exact interpretSource_meets hreg hfiles (hfiles _ .refl _ _ hread)

theorem sample_shortFiles : sample.ShortFiles ⟨[], []⟩ := by
  intro inner hinner
  have hsame : inner = sample := by
    induction hinner with
    | refl => rfl
    | @step middle type settings _ htype hinc ih =>
      have hmiddle : middle = sample := ih
      subst hmiddle
      simp only [sample, List.mem_cons, List.not_mem_nil, or_false] at htype
      rcases htype with rfl | rfl | rfl <;> cases hinc
      rfl
  subst hsame
  intro path text hread
  have hfound := MemoryFiles.read_eq_ok_iff.1 hread
  obtain ⟨entry, hentry, rfl⟩ := Option.map_eq_some_iff.1 hfound
  have hmem := List.mem_of_find?_eq_some hentry
  rw [List.mem_singleton] at hmem
  subst hmem
  decide

/-- A text with a block of each kind, characters of several bytes and an include. -/
theorem sample_faultless :
    ∃ doc, (sample.interpret ⟨[], []⟩ ['é', '[', '<', 'f', '>', 'é', ']', '%']).result = .ok doc ∧
      Faultless (sample.interpret ⟨[], []⟩ ['é', '[', '<', 'f', '>', 'é', ']', '%']) := by
  obtain ⟨doc, hdoc⟩ := exists_eq_ok (show (sample.interpret ⟨[], []⟩
    ['é', '[', '<', 'f', '>', 'é', ']', '%']).result.isOk = true by decide +kernel)
  refine ⟨doc, hdoc, ?_⟩
  exact (interpretation_faultless ⟨[], []⟩ sample sample_registered sample_shortFiles).1 _
    (by decide)

end Interpreter

end Blockwise
