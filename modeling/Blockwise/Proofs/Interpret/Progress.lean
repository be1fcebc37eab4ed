/-
  Blockwise/Proofs/Interpret/Progress.lean
  ========================================
  **Every iteration of a scan makes progress.**  The position alone does not measure it:
  a close tag may be empty, and then a block closes without a character being read.  So
  the measure is the pair of the bytes that are left and the number of open nodes, in
  lexicographic order (`step_decreases`); an open tag is never empty.

  An iteration opens one block at most, so twice the characters that are left and the
  number of open blocks bound the number of iterations.  A loop that is given more than
  this many does not stall, and it makes no difference how many more (`loop_stable`).
-/
import Blockwise.Proofs.Interpret.Draft

namespace Blockwise

theorem Traced.bind_congr {ε α β : Type} {first : Traced ε α} {next next' : α → Traced ε β}
    (h : ∀ a, first.result = .ok a → next a = next' a) : first >>= next = first >>= next' := by
  obtain ⟨events, cause | a⟩ := first
  · rfl
  · simp only [Bind.bind, Traced.bind, h a rfl]

namespace Scan

/-- What an iteration makes smaller: the bytes that are left, then the open nodes. -/
def remaining (scan : Scan) : Nat × Nat :=
  (Text.byteLen scan.rest, scan.doc.openNodes.length)

/-- Following an include leaves the open nodes as they are. -/
def Follow.KeepsOpen (follow : Follow) : Prop :=
  ∀ doc id settings doc', (follow doc id settings).result = .ok doc' →
    doc'.openBlocks = doc.openBlocks

/-- Scan `after` has read `count` more characters than `scan` has.  It has one block more
    open at most; or it has closed one, and then it may have read nothing. -/
def Ahead (scan after : Scan) (count : Nat) : Prop :=
  after.rest = scan.rest.drop count ∧
    (0 < count ∧ after.doc.openBlocks.length ≤ scan.doc.openBlocks.length + 1 ∨
      after.doc.openBlocks.length + 1 = scan.doc.openBlocks.length)

/-! ### The operations of an iteration -/

section

variable {scan after : Scan}

theorem changeDoc_closeInnermost_openBlocks {pos markerLen : Nat}
    (h : scan.changeDoc (·.closeInnermost pos markerLen) = .ok after) :
    after.rest = scan.rest ∧ after.doc.openBlocks = scan.doc.openBlocks.tail := by
  obtain ⟨doc, hdoc, rfl⟩ := changeDoc_eq_ok_iff.1 h
  exact ⟨rfl, Document.openBlocks_closeInnermost hdoc⟩

theorem flush_openBlocks (h : scan.flush = .ok after) :
    after.rest = scan.rest ∧ after.doc.openBlocks = scan.doc.openBlocks := by
  obtain ⟨doc, rfl, ⟨-, hclose⟩ | ⟨-, rfl⟩⟩ := flush_eq_ok h
  · exact ⟨rfl, Document.openBlocks_closeInnermost hclose⟩
  · exact ⟨rfl, rfl⟩

theorem followNode_openBlocks {follow : Follow} (hfollow : follow.KeepsOpen) {id : Nat}
    {type : BlockType} (h : (scan.followNode follow id type).result = .ok after) :
    after.rest = scan.rest ∧ after.doc.openBlocks = scan.doc.openBlocks := by
  unfold followNode at h
  split at h
  · cases h
    exact ⟨rfl, rfl⟩
  · simp only [Traced.result_bind] at h
    obtain ⟨doc, hdoc, hret⟩ := bind_eq_ok_iff.1 h
    cases hret
    exact ⟨rfl, hfollow _ _ _ _ hdoc⟩

end

section Steps

variable {interpreter : Interpreter} {follow : Follow} {scan after : Scan}

theorem openBlock_ahead (hfollow : follow.KeepsOpen) {type : BlockType}
    (htag : type.openTag ≠ [])
    (h : (scan.openBlock interpreter follow type).result = .ok after) :
    ∃ count, scan.Ahead after count := by
  have hpos : 0 < type.openTag.length := List.length_pos_iff.2 htag
  unfold openBlock at h
  simp only [Traced.result_bind] at h
  obtain ⟨flushed, hflush, hinside⟩ := bind_eq_ok_iff.1 h
  obtain ⟨hrest, hopen⟩ := flush_openBlocks (lift_result_eq_ok_iff.1 hflush)
  split at hinside
  · -- the block is closed again, and both the tag and what is skipped are behind
    simp only [Traced.result_bind] at hinside
    obtain ⟨followed, hfollowed, hclose⟩ := bind_eq_ok_iff.1 hinside
    obtain ⟨closed, hclosed, hret⟩ := bind_eq_ok_iff.1 hclose
    cases hret
    obtain ⟨hrest', hopen'⟩ := followNode_openBlocks hfollow hfollowed
    obtain ⟨hrest'', hopen''⟩ :=
      changeDoc_closeInnermost_openBlocks (lift_result_eq_ok_iff.1 hclosed)
    refine ⟨type.openTag.length + interpreter.selfCloseSkip, ?_, Or.inl ⟨by omega, ?_⟩⟩
    · show closed.rest = _
      rw [hrest'', ← List.drop_drop, ← hrest]
      exact congrArg (List.drop _) hrest'
    · show closed.doc.openBlocks.length ≤ _
      have houter : (followed.advance interpreter.selfCloseSkip).doc.openBlocks =
          flushed.doc.nodes.size :: scan.doc.openBlocks := by
        rw [← hopen]
        exact hopen'
      rw [hopen'', houter]
      exact Nat.le_succ _
  · cases hinside
    refine ⟨type.openTag.length, ?_, Or.inl ⟨hpos, ?_⟩⟩
    · rw [← hrest]
      rfl
    · rw [← hopen]
      exact Nat.le_refl _

theorem closeBlock_ahead (hfollow : follow.KeepsOpen) {id : Nat} {type : BlockType}
    (hclosing : scan.closing? = some (id, type))
    (h : (scan.closeBlock follow id type).result = .ok after) :
    scan.Ahead after type.closeTag.length := by
  obtain ⟨hactive, -⟩ := closing?_eq_some hclosing
  obtain ⟨outer, houter⟩ := List.head?_eq_some_iff.1 hactive
  unfold closeBlock at h
  simp only [Traced.result_bind] at h
  obtain ⟨flushed, hflush, hfollowing⟩ := bind_eq_ok_iff.1 h
  obtain ⟨hrest, hopen⟩ := flush_openBlocks (lift_result_eq_ok_iff.1 hflush)
  obtain ⟨followed, hfollowed, hclose⟩ := bind_eq_ok_iff.1 hfollowing
  obtain ⟨hrest', hopen'⟩ := followNode_openBlocks hfollow hfollowed
  obtain ⟨closed, hclosed, hret⟩ := bind_eq_ok_iff.1 hclose
  cases hret
  obtain ⟨hrest'', hopen''⟩ := changeDoc_closeInnermost_openBlocks (lift_result_eq_ok_iff.1 hclosed)
  refine ⟨?_, Or.inr ?_⟩
  · show closed.rest.drop _ = _
    rw [hrest'', hrest', hrest]
  · show closed.doc.openBlocks.length + 1 = _
    rw [hopen'', hopen', hopen, houter]
    rfl

theorem step_ahead (hreg : interpreter.Registered) (hfollow : follow.KeepsOpen)
    (h : (scan.step interpreter follow).result = .ok after) : ∃ count, scan.Ahead after count := by
  unfold step at h
  rcases hopening : scan.opening? interpreter with _ | type
  · simp only [hopening] at h
    rcases hclosing : scan.closing? with _ | ⟨id, type⟩
    · simp only [hclosing] at h
      cases h
      exact ⟨1, rfl, Or.inl ⟨Nat.one_pos, Nat.le_succ _⟩⟩
    · simp only [hclosing] at h
      exact ⟨_, closeBlock_ahead hfollow hclosing h⟩
  · simp only [hopening] at h
    obtain ⟨-, -, hlen, -⟩ := tag_of_opening hreg hopening
    refine openBlock_ahead hfollow ?_ h
    rwa [Ne, ← Text.byteLen_eq_zero, ← Ne, ← Nat.pos_iff_ne_zero]

theorem Ahead.decreases {count : Nat} (h : scan.Ahead after count) (hrest : scan.rest ≠ []) :
    Prod.Lex (· < ·) (· < ·) after.remaining scan.remaining := by
  obtain ⟨hdrop, hopen⟩ := h
  have hsum : Text.byteLen (scan.rest.take count) + Text.byteLen after.rest =
      Text.byteLen scan.rest := by
    rw [hdrop, ← Text.byteLen_append, List.take_append_drop]
  rw [Prod.lex_def]
  rcases hopen with ⟨hpos, -⟩ | hopen
  · left
    have htaken : Text.byteLen (scan.rest.take count) ≠ 0 := by
      rw [Ne, Text.byteLen_eq_zero, List.take_eq_nil_iff]
      simp [hrest, Nat.ne_of_gt hpos]
    show Text.byteLen after.rest < Text.byteLen scan.rest
    omega
  · -- if nothing was read, the stack of open nodes is shorter
    by_cases hread : Text.byteLen (scan.rest.take count) = 0
    · right
      refine ⟨?_, ?_⟩
      · show Text.byteLen after.rest = Text.byteLen scan.rest
        omega
      · simp only [remaining, Document.openNodes, List.length_cons, List.length_reverse]
        omega
    · left
      show Text.byteLen after.rest < Text.byteLen scan.rest
      omega

/-- **Every iteration decreases what remains.** -/
theorem step_decreases (hreg : interpreter.Registered) (hfollow : follow.KeepsOpen)
    (hrest : scan.rest ≠ []) (h : (scan.step interpreter follow).result = .ok after) :
    Prod.Lex (· < ·) (· < ·) after.remaining scan.remaining := by
  obtain ⟨count, hahead⟩ := step_ahead hreg hfollow h
  exact hahead.decreases hrest

/-! ### The number of iterations -/

/-- A bound on the iterations that are left. -/
def weight (scan : Scan) : Nat := 2 * scan.rest.length + scan.doc.openBlocks.length

theorem Ahead.weight_lt {count : Nat} (h : scan.Ahead after count) (hrest : scan.rest ≠ []) :
    after.weight < scan.weight := by
  obtain ⟨hdrop, hopen⟩ := h
  have hlen : after.rest.length = scan.rest.length - count := by rw [hdrop, List.length_drop]
  have hpos : 0 < scan.rest.length := List.length_pos_iff.2 hrest
  unfold weight
  omega

theorem weight_start (source : Source) : (start source).weight < stepLimit source.text :=
  Nat.lt_succ_self _

theorem loop_stable (hreg : interpreter.Registered) (hfollow : follow.KeepsOpen)
    {limit limit' : Nat} (h : scan.weight < limit) (h' : scan.weight < limit') :
    loop interpreter follow limit scan = loop interpreter follow limit' scan := by
  induction limit generalizing limit' scan with
  | zero => cases h
  | succ limit ih =>
    cases limit' with
    | zero => cases h'
    | succ limit' =>
      rw [loop_succ, loop_succ]
      split
      · rfl
      · next hempty =>
        refine Traced.bind_congr ?_
        intro after hafter
        obtain ⟨count, hahead⟩ := step_ahead hreg hfollow hafter
        have hlt := hahead.weight_lt (mt List.isEmpty_iff.2 hempty)
        exact ih (by omega) (by omega)

theorem loop_ne_stalled {disk : Disk} {source : Source} (hreg : interpreter.Registered)
    (hfollow : follow.KeepsOpen) (hsound : follow.Sound disk interpreter source)
    (hbreaks : ¬ follow.Breaks disk interpreter source .stalled)
    (hscan : Reached disk interpreter source .scanning scan) {limit : Nat}
    (h : scan.weight < limit) : (loop interpreter follow limit scan).result ≠ .error .stalled := by
  induction limit generalizing scan with
  | zero => cases h
  | succ limit ih =>
    rw [loop_succ]
    split
    · simp
    · next hempty =>
      have hrest := mt List.isEmpty_iff.2 hempty
      have hkept : Kept interpreter follow (fun _ cause => cause ≠ .stalled)
          fun _ => Reached disk interpreter source :=
        kept_reached hsound (by simp) fun _ hbreak hstalled => hbreaks (hstalled ▸ hbreak)
      intro hloop
      rw [Traced.result_bind] at hloop
      rcases bind_eq_error_iff.1 hloop with hstep | ⟨after, hafter, hlater⟩
      · have hmeets : (scan.step interpreter follow).Meets 0 _ _ := hkept.step_meets hscan hrest
        exact hmeets.of_error hstep rfl
      · obtain ⟨count, hahead⟩ := step_ahead hreg hfollow hafter
        have hlt := hahead.weight_lt hrest
        exact ih (step_reached hsound hscan hrest hafter) (by omega) hlater

theorem finish_ne_stalled (scan : Scan) : scan.finish.result ≠ .error .stalled := by
  intro h
  rcases finish_eq_error h with ⟨fault, ⟨⟩⟩ | ⟨label, doc, ⟨⟩⟩

theorem run_ne_stalled {disk : Disk} {source : Source} (hreg : interpreter.Registered)
    (hfollow : follow.KeepsOpen) (hsound : follow.Sound disk interpreter source)
    (hbreaks : ¬ follow.Breaks disk interpreter source .stalled) :
    (run interpreter follow source).result ≠ .error .stalled := by
  intro h
  unfold run at h
  rw [Traced.result_bind] at h
  rcases bind_eq_error_iff.1 h with hloop | ⟨ended, -, hfinish⟩
  · exact loop_ne_stalled hreg hfollow hsound hbreaks (.start interpreter source)
      (weight_start source) hloop
  · exact finish_ne_stalled ended hfinish

end Steps

end Scan

end Blockwise
