/-
  Blockwise/Proofs/Interpret/Moves.lean
  =====================================
  **The moves of the scanner, and a rule for whole scans.**  An iteration of the scan
  loop (`step`) is up to four operations on the document: the text that is waiting
  becomes a leaf, a block begins, an include is followed, a block ends.  `Kept` lists
  what each of them has to keep of a property of states; `loop_meets` concludes that a
  scan keeps it from its first state to its last.

  The property is told how many events were reported before, so that it can speak of the
  work that was done; and what an operation fails with meets a property of failures.
-/
import Blockwise.Interpret.Scan
import Blockwise.Proofs.Document.Nodes

namespace Blockwise

theorem bind_eq_error_iff {ε α β : Type} {first : Except ε α} {next : α → Except ε β} {cause : ε} :
    first >>= next = .error cause ↔
      first = .error cause ∨ ∃ a, first = .ok a ∧ next a = .error cause := by
  cases first with
  | error other =>
    constructor
    · intro h
      cases h
      exact Or.inl rfl
    · rintro (h | ⟨a, ha, _⟩)
      · cases h
        rfl
      · cases ha
  | ok a =>
    constructor
    · intro h
      exact Or.inr ⟨a, rfl, h⟩
    · rintro (h | ⟨a', ha, h⟩)
      · cases h
      · cases ha
        exact h

/-! ### Work that meets a specification -/

namespace Traced

variable {ε α β : Type} {fails : Nat → ε → Prop}

/-- After `n` events the work ends in a result of which `holds`, or for a cause that
    `fails` allows; both are told the number of events by then. -/
def Meets (work : Traced ε α) (n : Nat) (fails : Nat → ε → Prop) (holds : Nat → α → Prop) : Prop :=
  match work.result with
  | .ok a => holds (n + work.events.length) a
  | .error cause => fails (n + work.events.length) cause

theorem Meets.of_ok {work : Traced ε α} {n : Nat} {holds : Nat → α → Prop} {a : α}
    (h : work.Meets n fails holds) (hresult : work.result = .ok a) :
    holds (n + work.events.length) a := by
  rw [Meets, hresult] at h
  exact h

theorem Meets.of_error {work : Traced ε α} {n : Nat} {holds : Nat → α → Prop} {cause : ε}
    (h : work.Meets n fails holds) (hresult : work.result = .error cause) :
    fails (n + work.events.length) cause := by
  rw [Meets, hresult] at h
  exact h

theorem Meets.mono {work : Traced ε α} {n : Nat} {holds holds' : Nat → α → Prop}
    {fails' : Nat → ε → Prop} (h : work.Meets n fails holds)
    (hfails : ∀ m cause, fails m cause → fails' m cause)
    (hholds : ∀ m a, holds m a → holds' m a) : work.Meets n fails' holds' := by
  unfold Meets at *
  rcases hresult : work.result with cause | a
  · simp only [hresult] at h ⊢
    exact hfails _ _ h
  · simp only [hresult] at h ⊢
    exact hholds _ _ h

theorem Meets.bind {first : Traced ε α} {next : α → Traced ε β} {n : Nat}
    {middle : Nat → α → Prop} {holds : Nat → β → Prop} (h : first.Meets n fails middle)
    (hnext : ∀ m a, first.result = .ok a → middle m a → (next a).Meets m fails holds) :
    (first >>= next).Meets n fails holds := by
  obtain ⟨events, cause | a⟩ := first
  · exact h
  · have hlater := hnext _ a rfl h
    simp only [Meets, Bind.bind, Traced.bind] at hlater ⊢
    rw [List.length_append, ← Nat.add_assoc]
    exact hlater

theorem meets_pure {n : Nat} {holds : Nat → α → Prop} {a : α} (h : holds n a) :
    (pure a : Traced ε α).Meets n fails holds := h

theorem meets_ofExcept {n : Nat} {result : Except ε α}
    (herror : ∀ cause, result = .error cause → fails n cause) :
    (ofExcept result).Meets n fails fun m a => n = m ∧ result = .ok a := by
  rcases result with cause | a
  · exact herror cause rfl
  · exact ⟨rfl, rfl⟩

theorem meets_report {n : Nat} {event : Event} :
    (report event : Traced ε Unit).Meets n fails fun m _ => n + 1 = m := rfl

end Traced

namespace Scan

/-! ### Operations on the document -/

theorem changeDoc_eq_ok_iff {scan after : Scan} {change : Document → Except Fault Document} :
    scan.changeDoc change = .ok after ↔
      ∃ doc, change scan.doc = .ok doc ∧ after = { scan with doc := doc } := by
  obtain ⟨doc, previous, rest, pos, runStart⟩ := scan
  simp only [changeDoc, map_eq_ok_iff]
  constructor
  · rintro ⟨new, hnew, rfl⟩
    exact ⟨new, hnew, rfl⟩
  · rintro ⟨new, hnew, rfl⟩
    exact ⟨new, hnew, rfl⟩

theorem changeDoc_eq_error_iff {scan : Scan} {change : Document → Except Fault Document}
    {cause : Fault} : scan.changeDoc change = .error cause ↔ change scan.doc = .error cause := by
  obtain ⟨doc, previous, rest, pos, runStart⟩ := scan
  simp only [changeDoc]
  cases change doc <;> simp [Except.map]

theorem lift_result_eq_ok_iff {α : Type} {result : Except Fault α} {a : α} :
    (lift result).result = .ok a ↔ result = .ok a := by
  cases result <;> simp [lift, Except.mapError]

theorem lift_result_eq_error_iff {α : Type} {result : Except Fault α} {cause : Failure} :
    (lift result).result = .error cause ↔
      ∃ fault, result = .error fault ∧ cause = .fault fault := by
  cases result <;> simp [lift, Except.mapError, eq_comm]

theorem meets_lift {α : Type} {fails : Nat → Failure → Prop} {n : Nat} {result : Except Fault α}
    (herror : ∀ cause, result = .error cause → fails n (.fault cause)) :
    (lift result).Meets n fails fun m a => n = m ∧ result = .ok a := by
  rcases result with cause | a
  · exact herror cause rfl
  · exact ⟨rfl, rfl⟩

theorem flush_eq_ok {scan flushed : Scan} (h : scan.flush = .ok flushed) :
    ∃ doc, flushed = { scan with doc := doc } ∧
      ((scan.runStart < scan.pos ∧
          (scan.doc.push (.opened .plain 0 scan.runStart)).closeInnermost scan.pos 0 = .ok doc) ∨
        (¬ scan.runStart < scan.pos ∧ doc = scan.doc)) := by
  unfold flush at h
  by_cases hrun : scan.runStart < scan.pos
  · rw [if_pos hrun] at h
    obtain ⟨doc, hdoc, rfl⟩ := changeDoc_eq_ok_iff.1 h
    exact ⟨doc, rfl, Or.inl ⟨hrun, hdoc⟩⟩
  · rw [if_neg hrun] at h
    cases h
    exact ⟨scan.doc, rfl, Or.inr ⟨hrun, rfl⟩⟩

theorem closing?_eq_some {scan : Scan} {id : Nat} {type : BlockType}
    (h : scan.closing? = some (id, type)) :
    scan.doc.active? = some id ∧ ∃ block, scan.doc.activeBlock? = some block ∧
      block.type = type ∧ type.closesBetween scan.previous scan.rest = true := by
  unfold closing? at h
  obtain ⟨found, hfound, hrest⟩ := Option.bind_eq_some_iff.1 h
  obtain ⟨block, hblock, hif⟩ := Option.bind_eq_some_iff.1 hrest
  split at hif
  · next hcloses =>
    cases hif
    exact ⟨hfound, block, hblock, rfl, hcloses⟩
  · cases hif

/-! ### Tags that stand in the text -/

/-- The tag that is found is as long as the tag that was looked for. -/
theorem byteLen_take_of_beginsWith {mode : CaseMode} {tag text : Text}
    (h : Tag.beginsWith mode tag text = true) :
    Text.byteLen (text.take tag.length) = Text.byteLen tag := by
  obtain ⟨found, rest, rfl, hlen, hbytes⟩ := Tag.beginsWith_split h
  rw [← hlen, List.take_left, hbytes]

theorem beginsWith_of_closesBetween {type : BlockType} {previous : Option Char} {rest : Text}
    (h : type.closesBetween previous rest = true) :
    ∃ tags, type.delimiters? = some tags ∧ Tag.beginsWith tags.mode tags.closeTag rest = true := by
  unfold BlockType.closesBetween at h
  rw [Bool.and_eq_true] at h
  rcases htags : type.delimiters? with _ | tags
  · rw [htags] at h
    cases h.2
  · rw [htags] at h
    exact ⟨tags, rfl, h.2⟩

theorem beginsWith_of_opensBetween {type : BlockType} {previous : Option Char} {rest : Text}
    (h : type.opensBetween previous rest = true) :
    ∃ tags, type.delimiters? = some tags ∧ Tag.beginsWith tags.mode tags.openTag rest = true := by
  unfold BlockType.opensBetween at h
  rw [Bool.and_eq_true] at h
  rcases htags : type.delimiters? with _ | tags
  · rw [htags] at h
    cases h.2
  · rw [htags] at h
    exact ⟨tags, rfl, h.2⟩

theorem byteLen_take_of_closing {scan : Scan} {id : Nat} {type : BlockType}
    (h : scan.closing? = some (id, type)) :
    Text.byteLen (scan.rest.take type.closeTag.length) = type.closeLen := by
  obtain ⟨-, -, -, -, hcloses⟩ := closing?_eq_some h
  obtain ⟨tags, htags, hbegins⟩ := beginsWith_of_closesBetween hcloses
  have htag : type.closeTag = tags.closeTag := by simp [BlockType.closeTag, htags]
  rw [← htag] at hbegins
  exact byteLen_take_of_beginsWith hbegins

/-! ### What is about to happen -/

/-- The scan inside a block of the given type that begins here. -/
def enter (scan : Scan) (type : BlockType) : Scan :=
  ((scan.mapDoc (·.push (.opened type 0 scan.pos))).advance type.openTag.length).startRun

/-- What the scanner is about to do. -/
inductive Phase where
  /-- Look at the next character. -/
  | scanning
  /-- Follow node `id`, the innermost one, and close it with `count` characters. -/
  | closing (id : Nat) (type : BlockType) (count : Nat)
  /-- Close node `id`, which has been followed, with `count` characters. -/
  | followed (id : Nat) (type : BlockType) (count : Nat)

/-- A block that closes immediately is closed by the next characters. -/
def Phase.afterOpen (interpreter : Interpreter) (id : Nat) (type : BlockType) : Phase :=
  if type.flags.closeImmediately then .closing id type interpreter.selfCloseSkip else .scanning

/-! ### One iteration -/

/-- One iteration of the scan loop. -/
def step (interpreter : Interpreter) (follow : Follow) (scan : Scan) : Traced Failure Scan :=
  match scan.opening? interpreter with
  | some type => scan.openBlock interpreter follow type
  | none =>
    match scan.closing? with
    | some (id, type) => scan.closeBlock follow id type
    | none => pure (scan.advance 1)

theorem loop_succ (interpreter : Interpreter) (follow : Follow) (limit : Nat) (scan : Scan) :
    loop interpreter follow (limit + 1) scan =
      if scan.rest.isEmpty then pure scan
      else scan.step interpreter follow >>= loop interpreter follow limit := by
  unfold step
  rw [loop]
  split
  · rfl
  · rcases scan.opening? interpreter with _ | type
    · rcases scan.closing? with _ | ⟨id, type⟩
      · exact (pure_bind _ _).symm
      · rfl
    · rfl

/-- What the moves of the scanner keep: `P` holds of all states that a scan passes
    through, and what an operation fails with is allowed. -/
structure Kept (interpreter : Interpreter) (follow : Follow) (fails : Nat → Failure → Prop)
    (P : Nat → Phase → Scan → Prop) : Prop where
  read : ∀ {n scan}, P n .scanning scan → scan.rest ≠ [] → scan.opening? interpreter = none →
    scan.closing? = none → P n .scanning (scan.advance 1)
  flush : ∀ {n scan cause}, P n .scanning scan → scan.flush = .error cause →
    fails n (.fault cause)
  opened : ∀ {n scan type flushed}, P n .scanning scan → scan.rest ≠ [] →
    scan.opening? interpreter = some type → scan.flush = .ok flushed →
    P n (.afterOpen interpreter flushed.doc.nodes.size type) (flushed.enter type)
  closing : ∀ {n scan id type flushed}, P n .scanning scan → scan.rest ≠ [] →
    scan.opening? interpreter = none → scan.closing? = some (id, type) →
    scan.flush = .ok flushed → P n (.closing id type type.closeTag.length) flushed.startRun
  passed : ∀ {n scan id type count}, P n (.closing id type count) scan →
    type.inclusion? = none → P n (.followed id type count) scan
  followed : ∀ {n scan id type count settings}, P n (.closing id type count) scan →
    type.inclusion? = some settings → (follow scan.doc id settings).Meets n fails fun m doc =>
      P m (.followed id type count) (scan.mapDoc fun _ => doc)
  close : ∀ {n scan id type count cause}, P n (.followed id type count) scan →
    scan.doc.closeInnermost scan.pos (Text.byteLen (scan.rest.take count)) = .error cause →
    fails n (.fault cause)
  closed : ∀ {n scan id type count doc}, P n (.followed id type count) scan →
    scan.doc.closeInnermost scan.pos (Text.byteLen (scan.rest.take count)) = .ok doc →
    P n .scanning (({ scan with doc := doc } : Scan).advance count).startRun

namespace Kept

variable {interpreter : Interpreter} {follow : Follow} {fails : Nat → Failure → Prop}
  {P : Nat → Phase → Scan → Prop} {n : Nat}

/-- Following changes the document only, so it makes no difference that the run of plain
    text starts anew before it. -/
theorem followNode_meets (h : Kept interpreter follow fails P) {scan : Scan} {id count : Nat}
    {type : BlockType} (hscan : P n (.closing id type count) scan.startRun) :
    (scan.followNode follow id type).Meets n fails fun m followed =>
      P m (.followed id type count) followed.startRun ∧
        ∃ doc, followed = { scan with doc := doc } := by
  unfold followNode
  rcases hinc : type.inclusion? with _ | settings
  · exact Traced.meets_pure ⟨h.passed hscan hinc, scan.doc, rfl⟩
  · refine (h.followed hscan hinc).bind ?_
    intro m doc _ hfollowed
    exact Traced.meets_pure ⟨hfollowed, doc, rfl⟩

/-- The block ends behind a marker of `count` characters. -/
theorem close_meets (h : Kept interpreter follow fails P) {scan : Scan} {id count len : Nat}
    {type : BlockType} (hscan : P n (.followed id type count) scan.startRun)
    (hlen : Text.byteLen (scan.rest.take count) = len) :
    (lift (scan.changeDoc (·.closeInnermost scan.pos len))).Meets n fails fun m after =>
      P m .scanning (after.advance count).startRun := by
  subst hlen
  refine (meets_lift ?_).mono (fun _ _ hcause => hcause) ?_
  · intro cause hcause
    exact h.close hscan (changeDoc_eq_error_iff.1 hcause)
  · rintro _ after ⟨rfl, hafter⟩
    obtain ⟨doc, hdoc, rfl⟩ := changeDoc_eq_ok_iff.1 hafter
    have hclosed := h.closed hscan hdoc
    exact hclosed

theorem openBlock_meets (h : Kept interpreter follow fails P) {scan : Scan} {type : BlockType}
    (hscan : P n .scanning scan) (hrest : scan.rest ≠ [])
    (hopening : scan.opening? interpreter = some type) :
    (scan.openBlock interpreter follow type).Meets n fails fun m after => P m .scanning after := by
  unfold openBlock
  refine (meets_lift fun _ hcause => h.flush hscan hcause).bind ?_
  rintro _ flushed - ⟨rfl, hflushed⟩
  have hpos : flushed.pos = scan.pos := by
    obtain ⟨doc, rfl, -⟩ := flush_eq_ok hflushed
    rfl
  have hentered := h.opened hscan hrest hopening hflushed
  rw [← hpos]
  unfold Phase.afterOpen at hentered
  split
  · next himm =>
    rw [if_pos himm] at hentered
    refine (h.followNode_meets hentered).bind ?_
    rintro m followed - ⟨hfollowed, -⟩
    have hlen : (followed.advance interpreter.selfCloseSkip).pos - followed.pos =
        Text.byteLen (followed.rest.take interpreter.selfCloseSkip) :=
      Nat.add_sub_cancel_left _ _
    have hclose := h.close_meets hfollowed hlen.symm
    -- the marker is passed before the block is closed, which makes no difference
    have hskipped : (lift ((followed.advance interpreter.selfCloseSkip).changeDoc
        (·.closeInnermost followed.pos ((followed.advance interpreter.selfCloseSkip).pos -
          followed.pos)))).Meets m fails fun m closed => P m .scanning closed.startRun := by
      rcases hclosed : followed.doc.closeInnermost followed.pos
        ((followed.advance interpreter.selfCloseSkip).pos - followed.pos) with cause | doc
      · rw [changeDoc_eq_error_iff.2 hclosed] at hclose ⊢
        exact hclose
      · rw [changeDoc_eq_ok_iff.2 ⟨doc, hclosed, rfl⟩] at hclose ⊢
        exact hclose
    refine hskipped.bind ?_
    intro m closed _ hclosed
    exact Traced.meets_pure hclosed
  · next himm =>
    rw [if_neg himm] at hentered
    exact Traced.meets_pure hentered

theorem closeBlock_meets (h : Kept interpreter follow fails P) {scan : Scan} {id : Nat}
    {type : BlockType} (hscan : P n .scanning scan) (hrest : scan.rest ≠ [])
    (hopening : scan.opening? interpreter = none) (hclosing : scan.closing? = some (id, type)) :
    (scan.closeBlock follow id type).Meets n fails fun m after => P m .scanning after := by
  unfold closeBlock
  refine (meets_lift fun _ hcause => h.flush hscan hcause).bind ?_
  rintro _ flushed - ⟨rfl, hflushed⟩
  have hrest' : flushed.rest = scan.rest := by
    obtain ⟨doc, rfl, -⟩ := flush_eq_ok hflushed
    rfl
  refine (h.followNode_meets (h.closing hscan hrest hopening hclosing hflushed)).bind ?_
  rintro m followed - ⟨hfollowed, doc, rfl⟩
  have hlen : Text.byteLen (flushed.rest.take type.closeTag.length) = type.closeLen := by
    rw [hrest']
    exact byteLen_take_of_closing hclosing
  refine (h.close_meets hfollowed hlen).bind ?_
  intro m closed _ hclosed
  exact Traced.meets_pure hclosed

theorem step_meets (h : Kept interpreter follow fails P) {scan : Scan}
    (hscan : P n .scanning scan) (hrest : scan.rest ≠ []) :
    (scan.step interpreter follow).Meets n fails fun m after => P m .scanning after := by
  unfold step
  rcases hopening : scan.opening? interpreter with _ | type
  · rcases hclosing : scan.closing? with _ | ⟨id, type⟩
    · exact Traced.meets_pure (h.read hscan hrest hopening hclosing)
    · exact h.closeBlock_meets hscan hrest hopening hclosing
  · exact h.openBlock_meets hscan hrest hopening

/-- **What every move keeps, the loop keeps.** -/
theorem loop_meets (h : Kept interpreter follow fails P) (hstalled : ∀ m, fails m .stalled)
    {limit : Nat} {scan : Scan} (hscan : P n .scanning scan) :
    (loop interpreter follow limit scan).Meets n fails fun m ended =>
      P m .scanning ended ∧ ended.rest = [] := by
  induction limit generalizing n scan with
  | zero => exact hstalled n
  | succ limit ih =>
    rw [loop_succ]
    split
    · next hempty => exact Traced.meets_pure ⟨hscan, List.isEmpty_iff.1 hempty⟩
    · next hempty =>
      refine (h.step_meets hscan (mt List.isEmpty_iff.2 hempty)).bind ?_
      intro m after _ hafter
      exact ih hafter

theorem run_meets (h : Kept interpreter follow fails P) (hstalled : ∀ m, fails m .stalled)
    {source : Source} {holds : Nat → Document → Prop} (hstart : P n .scanning (.start source))
    (hfinish : ∀ m ended, P m .scanning ended → ended.rest = [] →
      ended.finish.Meets m fails holds) :
    (run interpreter follow source).Meets n fails holds := by
  unfold run
  refine (h.loop_meets hstalled hstart).bind ?_
  rintro m ended - ⟨hended, hrest⟩
  exact hfinish m ended hended hrest

end Kept

/-! ### The end of input -/

/-- The end of input leaves a document without open blocks, or one that is blocked. -/
theorem finish_meets {fails : Nat → Failure → Prop} {holds : Nat → Document → Prop} {n : Nat}
    {scan : Scan} (hflush : ∀ cause, scan.flush = .error cause → fails n (.fault cause))
    (hclose : ∀ flushed cause, scan.flush = .ok flushed →
      flushed.doc.closeAtEof = .error cause → fails n (.fault cause))
    (hdone : ∀ flushed closed, scan.flush = .ok flushed →
      flushed.doc.closeAtEof = .ok (closed, none) → holds n closed)
    (hblocked : ∀ flushed closed id label, scan.flush = .ok flushed →
      flushed.doc.closeAtEof = .ok (closed, some id) → fails (n + 2) (.unterminated label closed)) :
    scan.finish.Meets n fails holds := by
  unfold finish
  refine (meets_lift hflush).bind ?_
  rintro _ flushed - ⟨rfl, hflushed⟩
  refine (meets_lift fun cause hcause => hclose flushed cause hflushed hcause).bind ?_
  rintro _ ⟨closed, blocked⟩ - ⟨rfl, houtcome⟩
  cases blocked with
  | none => exact Traced.meets_pure (hdone _ _ hflushed houtcome)
  | some id => exact hblocked _ _ id _ hflushed houtcome

end Scan

end Blockwise
