/-
  Blockwise/Proofs/Interpret/EndOfInput.lean
  ==========================================
  **What the end of input does is decided by the open blocks alone.**  It closes them from
  the outside in, with an empty marker at the end of the main text, up to the first one
  whose type does not allow it.  That one and all inside it stay open, in their order, and
  nothing else of the document changes (`Built.exists_closeAtEof`).

  So an interpretation whose scan comes to the end of the text fails there exactly if some
  block is open that the end of input may not close, and it names the outermost of these
  (`finish_decides`).  And the scan does come to the end, unless an include on the way
  fails (`loop_ends`).
-/
import Blockwise.Proofs.Document.Construction
import Blockwise.Proofs.Interpret.Faults
import Blockwise.Proofs.Interpret.Nesting

namespace Blockwise

namespace Document

variable {P : Block → Prop} {doc doc' : Document}

theorem isCloseableByEof_eq {id : Nat} {block : Block}
    (h : doc.blockOf? id = some block) :
    doc.isCloseableByEof id = block.type.flags.closeableByEof := by
  unfold blockOf? at h
  unfold isCloseableByEof
  rw [h]

theorem isCloseableByEof_congr {id : Nat} (h : doc'.blockOf? id = doc.blockOf? id) :
    doc'.isCloseableByEof id = doc.isCloseableByEof id := by
  unfold blockOf? at h
  unfold isCloseableByEof
  rw [h]

/-- The open blocks of `doc`, such that `P` holds of them, are `closed` and, inside of these,
    `left`.  In `doc'` the former end with the text, and all else is as it was. -/
structure Unwound (P : Block → Prop) (doc doc' : Document) (closed left : List Nat) :
    Prop where
  stack : doc.openNodes = root :: (closed ++ left)
  stack_left : doc'.openNodes = root :: left
  closeable : ∀ id ∈ closed, doc.isCloseableByEof id = true
  blocked : ∀ id ∈ left.head?, doc.isCloseableByEof id = false
  ended : ∀ id ∈ closed, ∃ block, doc.blockOf? id = some block ∧ P block ∧
    doc'.blockOf? id = some { block with stop := some doc.text.byteLen, closeLen := 0 }
  waiting : ∀ id ∈ left, ∃ block, doc'.blockOf? id = some block ∧ P block
  others : ∀ id, id ∉ closed → doc'.nodes[id]? = doc.nodes[id]?
  links : ∀ id, doc'.childrenOf id = doc.childrenOf id ∧ doc'.parentOf? id = doc.parentOf? id ∧
    doc'.splicedAt id = doc.splicedAt id
  sources : doc'.sources = doc.sources

theorem BuildingWith.unwound {blocked : Option Nat} (h : doc.BuildingWith P)
    (hclose : doc.closeAtEof = .ok (doc', blocked)) :
    ∃ closed left, blocked = left.head? ∧ doc.Unwound P doc' closed left := by
  have hnodup := h.spine.nodup h.arena
  obtain ⟨hsources, closed, left, hsplit, hopen', hblocked, halong, hall, hleft⟩ :=
    closeAtEof_eq_ok hclose hnodup
  have hstack : ∀ id ∈ closed ++ left, ∃ block, doc.blockOf? id = some block ∧ P block := by
    intro id hid
    apply h.spine.exists_block id
    rw [← List.mem_reverse, hsplit]
    exact hid
  have hapart : ∀ id ∈ left, id ∉ closed := by
    intro id hid hmem
    rw [← List.nodup_reverse, hsplit] at hnodup
    exact (List.nodup_append'.1 hnodup).2.2 hmem hid
  refine ⟨closed, left, hblocked, ?_⟩
  constructor
  case stack => rw [openNodes, hsplit]
  case stack_left => rw [openNodes, hopen', List.reverse_reverse]
  case closeable => exact hall
  case blocked => exact hleft
  case ended =>
    intro id hid
    obtain ⟨block, hblock, hholds⟩ := hstack id (List.mem_append_left _ hid)
    refine ⟨block, hblock, hholds, ?_⟩
    rw [halong.blockOf?, if_pos hid, hblock]
    rfl
  case waiting =>
    intro id hid
    rw [halong.blockOf?, if_neg (hapart id hid)]
    exact hstack id (List.mem_append_right _ hid)
  case others =>
    intro id hid
    simp [halong id, hid]
  case links =>
    intro id
    exact ⟨halong.childrenOf id, halong.parentOf? id, halong.splicedAt id⟩
  case sources => exact hsources

theorem Unwound.left_eq_nil_iff {closed left : List Nat} (h : doc.Unwound P doc' closed left) :
    left = [] ↔ ∀ id ∈ doc.openBlocks, doc.isCloseableByEof id = true := by
  have hstack : ∀ id, id ∈ doc.openBlocks ↔ id ∈ closed ++ left := by
    intro id
    rw [← List.mem_reverse, (List.cons.inj h.stack).2]
  constructor
  · rintro rfl id hid
    rw [hstack, List.append_nil] at hid
    exact h.closeable id hid
  · intro hall
    cases left with
    | nil => rfl
    | cons id inside =>
      have hid := hall id ((hstack id).2 (by simp))
      rw [h.blocked id rfl] at hid
      cases hid

theorem Built.exists_closeAtEof (h : Built P doc)
    (hstarts : ∀ id ∈ doc.openBlocks, ∀ block, doc.blockOf? id = some block →
      block.start ≤ doc.text.byteLen) (hfits : doc.text.byteLen < offsetLimit) :
    ∃ doc' closed left, doc.closeAtEof = .ok (doc', left.head?) ∧
      doc.Unwound P doc' closed left ∧
      (left = [] ↔ ∀ id ∈ doc.openBlocks, doc.isCloseableByEof id = true) := by
  have hbuilding := h.building
  have hids := hbuilding.spine.lt_size hbuilding.arena
  obtain ⟨⟨doc', blocked⟩, hclose⟩ :=
    Document.exists_closeAtEof (fun id hid => ⟨hids id hid, hstarts id hid⟩) hfits
  obtain ⟨closed, left, rfl, hunwound⟩ := hbuilding.unwound hclose
  exact ⟨doc', closed, left, hclose, hunwound, hunwound.left_eq_nil_iff⟩

end Document

/-! ### The end of a scan -/

namespace Scan

open Document

/-- What the open blocks of the document decide about the outcome. -/
structure Decides (doc : Document) (outcome : Except Failure Document) : Prop where
  accepted : (∀ id ∈ doc.openBlocks, doc.isCloseableByEof id = true) →
    ∃ closed, outcome = .ok closed
  unterminated_iff : (∃ label partly, outcome = .error (.unterminated label partly)) ↔
    ∃ id ∈ doc.openBlocks, doc.isCloseableByEof id = false
  label : ∀ label partly, outcome = .error (.unterminated label partly) →
    ∃ outside id inside block, doc.openNodes = root :: (outside ++ id :: inside) ∧
      (∀ j ∈ outside, doc.isCloseableByEof j = true) ∧ doc.isCloseableByEof id = false ∧
      doc.blockOf? id = some block ∧ label = block.label

variable {disk : Disk} {interpreter : Interpreter} {source : Source} {follow : Follow}
  {scan : Scan}

theorem finish_accepts {flushed : Scan} {doc : Document} (hflush : scan.flush = .ok flushed)
    (hclose : flushed.doc.closeAtEof = .ok (doc, none)) : scan.finish.result = .ok doc := by
  unfold finish
  simp only [hflush, Traced.result_bind]
  show (flushed.doc.closeAtEof.mapError Failure.fault >>= _) = _
  rw [hclose]
  rfl

theorem finish_refuses {flushed : Scan} {doc : Document} {id : Nat} {block : Block}
    (hflush : scan.flush = .ok flushed) (hclose : flushed.doc.closeAtEof = .ok (doc, some id))
    (hblock : doc.blockOf? id = some block) :
    scan.finish.result = .error (.unterminated block.label doc) := by
  unfold blockOf? at hblock
  unfold finish
  simp only [hflush, Traced.result_bind]
  show (flushed.doc.closeAtEof.mapError Failure.fault >>= _) = _
  rw [hclose]
  simp only [Except.mapError, bind, Except.bind, hblock]
  rfl

/-- **The open blocks decide how a scan ends.** -/
theorem finish_decides (hreg : interpreter.Registered) (hlen : source.text.byteLen < offsetLimit)
    (hscan : Reached disk interpreter source .scanning scan) (hrest : scan.rest = []) :
    Decides scan.doc scan.finish.result := by
  have hstanding := hscan.standing
  obtain ⟨flushed, hflush⟩ := hstanding.exists_flush hlen
  obtain ⟨⟨doc, blocked⟩, hclose⟩ :=
    hstanding.exists_closeAtEof (hscan.tiling hreg) hrest hlen hflush
  obtain ⟨-, hdraft, -, hopen, hkeep⟩ := flush_draft hstanding.draft hflush
  obtain ⟨closed, left, rfl, hunwound⟩ := hdraft.building.unwound hclose
  -- the waiting text becomes a leaf, which no open block can tell
  have hblocks : ∀ id ∈ scan.doc.openBlocks, flushed.doc.blockOf? id = scan.doc.blockOf? id := by
    intro id hid
    exact hkeep id (hstanding.draft.building.spine.lt_size hstanding.draft.building.arena id hid)
  have hcloseable : ∀ id ∈ scan.doc.openBlocks,
      flushed.doc.isCloseableByEof id = scan.doc.isCloseableByEof id :=
    fun id hid => isCloseableByEof_congr (hblocks id hid)
  have hstack : scan.doc.openNodes = root :: (closed ++ left) := by
    rw [← hunwound.stack, openNodes, openNodes, hopen]
  have hmem : ∀ id ∈ closed ++ left, id ∈ scan.doc.openBlocks := by
    intro id hid
    rwa [← List.mem_reverse, (List.cons.inj hstack).2]
  have hnil : left = [] ↔ ∀ id ∈ scan.doc.openBlocks, scan.doc.isCloseableByEof id = true := by
    rw [hunwound.left_eq_nil_iff, hopen]
    exact forall₂_congr fun id hid => by rw [hcloseable id hid]
  cases left with
  | nil =>
    have hall := hnil.1 rfl
    rw [finish_accepts hflush hclose]
    refine ⟨fun _ => ⟨doc, rfl⟩, ?_, by simp⟩
    constructor
    · rintro ⟨_, _, ⟨⟩⟩
    · rintro ⟨id, hid, hopen⟩
      rw [hall id hid] at hopen
      cases hopen
  | cons id inside =>
    have hid : id ∈ scan.doc.openBlocks := hmem id (by simp)
    have hblocked : scan.doc.isCloseableByEof id = false := by
      rw [← hcloseable id hid]
      exact hunwound.blocked id rfl
    obtain ⟨block, hblock, -⟩ := hunwound.waiting id (List.mem_cons_self ..)
    rw [finish_refuses hflush hclose hblock]
    refine ⟨?_, ?_, ?_⟩
    · intro hall
      rw [hall id hid] at hblocked
      cases hblocked
    · exact ⟨fun _ => ⟨id, hid, hblocked⟩, fun _ => ⟨_, _, rfl⟩⟩
    · rintro _ _ ⟨⟩
      refine ⟨closed, id, inside, block, hstack, ?_, hblocked, ?_, rfl⟩
      · intro j hj
        rw [← hcloseable j (hmem j (List.mem_append_left _ hj))]
        exact hunwound.closeable j hj
      · have hnot : id ∉ closed := by
          intro hin
          have hyes := hunwound.closeable id hin
          rw [hunwound.blocked id rfl] at hyes
          cases hyes
        have hsame := hunwound.others id hnot
        rw [← hblocks id hid, ← hblock, blockOf?, blockOf?, hsame]

/-- **A scan comes to the end of its text** or to an include that fails. -/
theorem loop_ends (hreg : interpreter.Registered) (hlen : source.text.byteLen < offsetLimit)
    (hopen : follow.KeepsOpen) (hsound : follow.Sound disk interpreter source) :
    (∃ cause, (loop interpreter follow (stepLimit source.text) (.start source)).result =
        .error cause ∧ follow.Breaks disk interpreter source cause) ∨
      ∃ ended, (loop interpreter follow (stepLimit source.text) (.start source)).result =
        .ok ended ∧ Reached disk interpreter source .scanning ended ∧ ended.rest = [] := by
  have hkept : Kept interpreter follow
      (fun _ cause => follow.Breaks disk interpreter source cause ∨ cause = .stalled)
      fun _ => Reached disk interpreter source := by
    refine ⟨.read, ?_, .opened, .closing, .passed, ?_, ?_, ?_⟩
    · intro _ scan cause hscan hflush
      obtain ⟨flushed, hok⟩ := hscan.standing.exists_flush hlen
      cases hok.symm.trans hflush
    · intro _ scan id type count settings hscan hinc
      unfold Traced.Meets
      rcases hresult : (follow scan.doc id settings).result with cause | doc
      · exact Or.inl ⟨scan, id, type, count, settings, hscan, hinc, hresult⟩
      · exact hsound scan id type count settings doc hscan hinc hresult
    · intro _ scan id type count cause hscan hclose
      obtain ⟨doc, hok⟩ := hscan.standing.exists_close (hscan.tiling hreg) hlen
      cases hok.symm.trans hclose
    · intro _ scan id type count doc hscan hdoc
      exact hscan.closed (changeDoc_eq_ok_iff.2 ⟨doc, hdoc, rfl⟩)
  have hmeets : (loop interpreter follow (stepLimit source.text) (.start source)).Meets 0 _ _ :=
    hkept.loop_meets (fun _ => Or.inr rfl) (.start interpreter source)
  rcases hresult : (loop interpreter follow (stepLimit source.text) (.start source)).result
    with cause | ended
  · rcases hmeets.of_error hresult with hbreaks | rfl
    · exact Or.inl ⟨cause, rfl, hbreaks⟩
    · refine Or.inl ⟨.stalled, rfl, ?_⟩
      by_contra hbreaks
      exact loop_ne_stalled hreg hopen hsound hbreaks (.start interpreter source)
        (weight_start source) hresult
  · obtain ⟨hended, hrest⟩ := hmeets.of_ok hresult
    exact Or.inr ⟨ended, rfl, hended, hrest⟩

end Scan

namespace Interpreter

open Scan Document

/-- How the includes of a text itself are followed. -/
def followed (disk : Disk) (interpreter : Interpreter) : Follow :=
  followInclude .checked disk (interpreter.reach disk + 1) interpreter []

/-- The scan of a text up to its end. -/
def scanned (disk : Disk) (interpreter : Interpreter) (text : Text) : Traced Failure Scan :=
  loop interpreter (interpreter.followed disk) (stepLimit text) (.start ⟨none, text⟩)

theorem interpret_result (disk : Disk) (interpreter : Interpreter) (text : Text) :
    (interpreter.interpret disk text).result =
      (interpreter.scanned disk text).result >>= fun ended => ended.finish.result :=
  Traced.result_bind _ _

/-- The scan of a text ends at an include that fails, or at the end of the text, where the
    open blocks decide. -/
theorem interpret_decides (disk : Disk) (interpreter : Interpreter) (hreg : interpreter.Registered)
    {text : Text} (hlen : text.byteLen < offsetLimit) :
    (∃ cause, (interpreter.scanned disk text).result = .error cause ∧
        (interpreter.followed disk).Breaks disk interpreter ⟨none, text⟩ cause ∧
        (interpreter.interpret disk text).result = .error cause) ∨
      ∃ ended, (interpreter.scanned disk text).result = .ok ended ∧
        Reached disk interpreter ⟨none, text⟩ .scanning ended ∧ ended.rest = [] ∧
        (interpreter.interpret disk text).result = ended.finish.result ∧
        Decides ended.doc (interpreter.interpret disk text).result := by
  have hopen := followInclude_keepsOpen .checked disk (interpreter.reach disk + 1) interpreter []
  have hsound := followInclude_sound .checked disk (interpreter.reach disk + 1) interpreter []
    ⟨none, text⟩
  rcases loop_ends hreg hlen hopen hsound with ⟨cause, hresult, hbreaks⟩ |
    ⟨ended, hresult, hended, hrest⟩
  · refine Or.inl ⟨cause, hresult, hbreaks, ?_⟩
    rw [interpret_result, scanned, followed, hresult]
    rfl
  · have hfinish : (interpreter.interpret disk text).result = ended.finish.result := by
      rw [interpret_result, scanned, followed, hresult]
      rfl
    refine Or.inr ⟨ended, hresult, hended, hrest, hfinish, ?_⟩
    rw [hfinish]
    exact finish_decides hreg hlen hended hrest

/-- **The end of input is exact.**  A document that is built has its open blocks closed from
    the outside in, up to the first one that has to be closed otherwise; they are such as were
    pushed.  And the scan of a text, unless an include on the way fails, comes to the end,
    where an interpretation fails if and only if there is such a block, and names the
    outermost one. -/
theorem end_of_input_exact :
    (∀ P doc, Built P doc →
      (∀ id ∈ doc.openBlocks, ∀ block, doc.blockOf? id = some block →
        block.start ≤ doc.text.byteLen) →
      doc.text.byteLen < offsetLimit →
      ∃ doc' closed left, doc.closeAtEof = .ok (doc', left.head?) ∧
        doc.Unwound P doc' closed left ∧
        (left = [] ↔ ∀ id ∈ doc.openBlocks, doc.isCloseableByEof id = true)) ∧
      ∀ disk (interpreter : Interpreter) (text : Text), interpreter.Registered →
        text.byteLen < offsetLimit →
        (∃ cause, (interpreter.scanned disk text).result = .error cause ∧
          (interpreter.followed disk).Breaks disk interpreter ⟨none, text⟩ cause ∧
          (interpreter.interpret disk text).result = .error cause) ∨
        ∃ ended, (interpreter.scanned disk text).result = .ok ended ∧ ended.rest = [] ∧
          Decides ended.doc (interpreter.interpret disk text).result := by
  constructor
  · intro P doc hbuilt hstarts hfits
    exact hbuilt.exists_closeAtEof hstarts hfits
  · intro disk interpreter text hreg hlen
    rcases interpret_decides disk interpreter hreg hlen with hfails | hends
    · exact Or.inl hfails
    · obtain ⟨ended, hscanned, -, hrest, -, hdecides⟩ := hends
      exact Or.inr ⟨ended, hscanned, hrest, hdecides⟩

/-- A block that the end of input may not close, between two that it may. -/
def sampleStack : Document :=
  (((ofSource ⟨none, ['%', '[', 'b']⟩).push (.opened (.comment ['c'] ['%']) 0 0)).push
    (.opened (.delimited ['b'] ['['] [']']) 0 1)).push (.opened .plain 0 2)

/-- The outermost block of the stack ends and the middle one is left.  In the text, a block
    around an include that succeeds is not terminated. -/
theorem sampleStack_end_of_input :
    (∃ doc' closed left, sampleStack.closeAtEof = .ok (doc', left.head?) ∧
      sampleStack.Unwound (fun block => block.stop = none) doc' closed left ∧ left ≠ []) ∧
    ∃ ended, (sample.scanned ⟨[], []⟩ ['[', '<', 'f', '>']).result = .ok ended ∧
      ended.rest = [] ∧
      Decides ended.doc (sample.interpret ⟨[], []⟩ ['[', '<', 'f', '>']).result := by
  constructor
  · have hbuilt : Built (fun block => block.stop = none) sampleStack :=
      .push (.push (.push (.ofSource _) rfl) rfl) rfl
    have hstarts : ∀ id ∈ sampleStack.openBlocks, ∀ block ∈ sampleStack.blockOf? id,
        block.start ≤ sampleStack.text.byteLen := by decide +kernel
    obtain ⟨doc', closed, left, hclose, hunwound, hnil⟩ :=
      end_of_input_exact.1 _ sampleStack hbuilt hstarts (by decide)
    refine ⟨doc', closed, left, hclose, hunwound, ?_⟩
    rw [Ne, hnil]
    decide +kernel
  · rcases end_of_input_exact.2 ⟨[], []⟩ sample ['[', '<', 'f', '>'] sample_registered (by decide)
      with ⟨cause, hfails, -⟩ | hends
    · have hok : (sample.scanned ⟨[], []⟩ ['[', '<', 'f', '>']).result.isOk = true := by
        decide +kernel
      rw [hfails] at hok
      cases hok
    · exact hends

end Interpreter

end Blockwise
