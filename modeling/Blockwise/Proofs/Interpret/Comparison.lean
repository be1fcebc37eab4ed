/-
  Blockwise/Proofs/Interpret/Comparison.lean
  ==========================================
  **Two interpretations side by side.**  A text is scanned twice, by two interpreters
  with two ways to follow includes.  As long as both open blocks of types that are alike
  and follow alike (`InStep`), both scans pass through states that are alike, so the
  outcomes compare as those of following do.

  `Related o R first second` is such a comparison of outcomes: both have a result, and
  `R` holds of the two; or both fail, for causes that `o.same` allows; or one of them
  fails for a cause that `o.left` or `o.right` names, whatever the other does.  It is
  kept by doing one thing after another (`Related.bind`), and so by whole scans
  (`run_related`).

  The documents of the two scans may differ in their sources as far as `allowed` says,
  not at all or only in the paths, and in the nested interpreters of their block types
  as far as `nested` says.
-/
import Blockwise.Proofs.Document.Alike
import Blockwise.Proofs.Interpret.Draft

namespace Blockwise

/-! ### Comparing outcomes -/

/-- Which failures of two runs go together. -/
structure Comparison where
  /-- If the first run fails like this, the second may do anything. -/
  left : Failure → Prop
  /-- If the second run fails like this, the first may do anything. -/
  right : Failure → Prop
  same : Failure → Failure → Prop

inductive Related (o : Comparison) {α β : Type} (R : α → β → Prop) :
    Except Failure α → Except Failure β → Prop
  | left {cause second} : o.left cause → Related o R (.error cause) second
  | right {first cause} : o.right cause → Related o R first (.error cause)
  | error {cause cause'} : o.same cause cause' → Related o R (.error cause) (.error cause')
  | ok {a b} : R a b → Related o R (.ok a) (.ok b)

theorem Related.bind {o : Comparison} {α β α' β' : Type} {R : α → β → Prop}
    {S : α' → β' → Prop} {first : Except Failure α} {second : Except Failure β}
    {next : α → Except Failure α'} {next' : β → Except Failure β'}
    (h : Related o R first second)
    (hnext : ∀ a b, first = .ok a → R a b → Related o S (next a) (next' b)) :
    Related o S (first >>= next) (second >>= next') := by
  cases h with
  | left hcause => exact .left hcause
  | right hcause => exact .right hcause
  | error hsame => exact .error hsame
  | ok hab => exact hnext _ _ rfl hab

theorem Related.mono {o : Comparison} {α β : Type} {R S : α → β → Prop}
    {first : Except Failure α} {second : Except Failure β} (h : Related o R first second)
    (hmono : ∀ a b, R a b → S a b) : Related o S first second := by
  cases h with
  | left hcause => exact .left hcause
  | right hcause => exact .right hcause
  | error hsame => exact .error hsame
  | ok hab => exact .ok (hmono _ _ hab)

/-! ### Types that open alike -/

/-- Wherever in the text, the types that the two interpreters open are alike. -/
def Interpreter.OpensAlike (nested : Interpreter → Interpreter → Prop)
    (interpreter interpreter' : Interpreter) (text : Text) : Prop :=
  ∀ pos, Option.Rel (BlockType.Alike nested)
    (interpreter.types.find? fun type => type.opens text pos)
    (interpreter'.types.find? fun type => type.opens text pos)

theorem Interpreter.opensAlike_refl (interpreter : Interpreter) (text : Text) :
    interpreter.OpensAlike Eq interpreter text := by
  intro pos
  generalize interpreter.types.find? _ = found
  cases found with
  | none => exact .none
  | some type => exact .some (BlockType.alike_eq_iff.2 rfl)

/-! ### Scans side by side -/

namespace Scan

structure Alike (allowed : Array Source → Array Source → Prop)
    (nested : Interpreter → Interpreter → Prop) (scan scan' : Scan) : Prop where
  doc : scan.doc.Alike allowed nested scan'.doc
  previous : scan'.previous = scan.previous
  rest : scan'.rest = scan.rest
  pos : scan'.pos = scan.pos
  runStart : scan'.runStart = scan.runStart

/-- The comparison allows what a scan fails with by itself. -/
structure Neutral (o : Comparison) (allowed : Array Source → Array Source → Prop)
    (nested : Interpreter → Interpreter → Prop) : Prop where
  fault : ∀ cause, o.same (.fault cause) (.fault cause)
  stalled : o.same .stalled .stalled
  unterminated : ∀ label doc doc', doc.Alike allowed nested doc' →
    o.same (.unterminated label doc) (.unterminated label doc')

section

variable {allowed : Array Source → Array Source → Prop}
  {nested : Interpreter → Interpreter → Prop} {scan scan' : Scan}

theorem Alike.opening? (h : scan.Alike allowed nested scan')
    {interpreter interpreter' : Interpreter} {text : Text} (hplace : scan.At text)
    (hopens : interpreter.OpensAlike nested interpreter' text) :
    Option.Rel (BlockType.Alike nested) (scan.opening? interpreter)
      (scan'.opening? interpreter') := by
  have hfound := hopens scan.pos
  simp only [hplace.opens_eq] at hfound
  have hactive := h.doc.activeBlock?
  unfold Scan.opening?
  rw [h.previous, h.rest]
  generalize scan.doc.activeBlock? = active, scan'.doc.activeBlock? = active' at hactive
  cases hactive with
  | none => exact hfound
  | some hblock =>
    dsimp only
    rw [hblock.type.flags]
    split
    · exact .none
    · exact hfound

theorem Alike.closing? (h : scan.Alike allowed nested scan') :
    Option.Rel (fun a b => b.1 = a.1 ∧ a.2.Alike nested b.2) scan.closing? scan'.closing? := by
  have hactive := h.doc.activeBlock?
  unfold Scan.closing?
  rw [h.previous, h.rest, h.doc.active?]
  cases scan.doc.active? with
  | none => exact .none
  | some id =>
    generalize scan.doc.activeBlock? = active, scan'.doc.activeBlock? = active' at hactive
    cases hactive with
    | none => exact .none
    | some hblock =>
      simp only [Option.bind_eq_bind, Option.bind_some, hblock.type.closesBetween]
      split
      · exact .some ⟨rfl, hblock.type⟩
      · exact .none

theorem Alike.advance (h : scan.Alike allowed nested scan') (count : Nat) :
    (scan.advance count).Alike allowed nested (scan'.advance count) := by
  refine ⟨h.doc, ?_, ?_, ?_, h.runStart⟩
  · simp only [Scan.advance, h.rest, h.previous]
  · simp only [Scan.advance, h.rest]
  · simp only [Scan.advance, h.rest, h.pos]

theorem Alike.startRun (h : scan.Alike allowed nested scan') :
    scan.startRun.Alike allowed nested scan'.startRun :=
  ⟨h.doc, h.previous, h.rest, h.pos, h.pos⟩

theorem Alike.withDoc (h : scan.Alike allowed nested scan') {doc doc' : Document}
    (hdoc : doc.Alike allowed nested doc') :
    Alike allowed nested { scan with doc := doc } { scan' with doc := doc' } :=
  ⟨hdoc, h.previous, h.rest, h.pos, h.runStart⟩

theorem Alike.changeDoc (h : scan.Alike allowed nested scan')
    {change change' : Document → Except Fault Document}
    (hchange : Parallel (Document.Alike allowed nested) (change scan.doc) (change' scan'.doc)) :
    Parallel (Alike allowed nested) (scan.changeDoc change) (scan'.changeDoc change') := by
  obtain ⟨doc, previous, rest, pos, runStart⟩ := scan
  obtain ⟨doc', previous', rest', pos', runStart'⟩ := scan'
  exact hchange.map fun _ _ hdoc => h.withDoc hdoc

theorem Alike.flush (h : scan.Alike allowed nested scan') :
    Parallel (Alike allowed nested) scan.flush scan'.flush := by
  unfold Scan.flush
  rw [h.runStart, h.pos]
  dsimp only
  split
  · apply h.changeDoc
    apply Document.Alike.closeInnermost
    exact h.doc.push (.mk BlockType.alike_plain)
  · exact .ok h

end

/-- Two interpreters of one source go along with each other: they open blocks of types
    that are alike, and what their include blocks come to compares as outcomes should. -/
structure InStep (o : Comparison) (allowed : Array Source → Array Source → Prop)
    (nested : Interpreter → Interpreter → Prop) (disk : Disk) (source : Source)
    (interpreter : Interpreter) (follow : Follow) (interpreter' : Interpreter)
    (follow' : Follow) : Prop where
  selfCloseSkip : interpreter'.selfCloseSkip = interpreter.selfCloseSkip
  opens : interpreter.OpensAlike nested interpreter' source.text
  follow : ∀ scan id type count settings doc' settings',
    Reached disk interpreter source (.closing id type count) scan →
    type.inclusion? = some settings → settings.Alike nested settings' →
    scan.doc.Alike allowed nested doc' →
    Related o (Document.Alike allowed nested) (follow scan.doc id settings).result
      (follow' doc' id settings').result

section

variable {o : Comparison} {allowed : Array Source → Array Source → Prop}
  {nested : Interpreter → Interpreter → Prop} {disk : Disk}
  {interpreter interpreter' : Interpreter} {source source' : Source} {follow follow' : Follow}

theorem lift_related (ho : Neutral o allowed nested) {α β : Type} {R : α → β → Prop}
    {first : Except Fault α} {second : Except Fault β} (h : Parallel R first second) :
    Related o R (lift first).result (lift second).result := by
  cases h with
  | error cause => exact .error (ho.fault cause)
  | ok hab => exact .ok hab

theorem followNode_related
    (hstep : InStep o allowed nested disk source interpreter follow interpreter' follow')
    {scan scan' reached : Scan} {id count : Nat} {type type' : BlockType}
    (hreached : Reached disk interpreter source (.closing id type count) reached)
    (h : scan.Alike allowed nested scan') (hdoc : reached.doc = scan.doc)
    (htype : type.Alike nested type') :
    Related o (Alike allowed nested) (scan.followNode follow id type).result
      (scan'.followNode follow' id type').result := by
  have hsettings := htype.inclusion?
  unfold followNode
  rcases hinc : type.inclusion? with _ | settings
  · rw [hinc] at hsettings
    rw [optionRel_none_left hsettings]
    exact .ok h
  · rw [hinc] at hsettings
    obtain ⟨settings', hinc', hsettings⟩ := optionRel_some_left hsettings
    rw [hinc']
    simp only [Traced.result_bind]
    have hrelated := hstep.follow reached id type count settings scan'.doc settings' hreached hinc
      hsettings (hdoc ▸ h.doc)
    rw [hdoc] at hrelated
    apply hrelated.bind
    intro doc doc' _ hdoc
    exact .ok (h.withDoc hdoc)

theorem openBlock_related (ho : Neutral o allowed nested)
    (hstep : InStep o allowed nested disk source interpreter follow interpreter' follow')
    {scan scan' : Scan} {type type' : BlockType}
    (hscan : Reached disk interpreter source .scanning scan)
    (hrest : scan.rest ≠ []) (hopening : scan.opening? interpreter = some type)
    (h : scan.Alike allowed nested scan') (htype : type.Alike nested type') :
    Related o (Alike allowed nested) (scan.openBlock interpreter follow type).result
      (scan'.openBlock interpreter' follow' type').result := by
  unfold openBlock
  simp only [Traced.result_bind]
  refine (lift_related ho h.flush).bind ?_
  intro flushed flushed' hflush hflushed
  rw [lift_result_eq_ok_iff] at hflush
  have hpos : flushed.pos = scan.pos := by
    obtain ⟨doc, rfl, -⟩ := flush_eq_ok hflush
    rfl
  have hentered := hscan.opened hrest hopening hflush
  rw [← hpos, h.pos, ← hpos, hflushed.doc.nodes.size_eq, htype.openTag, htype.flags]
  have hinside : ((flushed.mapDoc (·.push (.opened type 0 flushed.pos))).advance
      type.openTag.length).Alike allowed nested
      ((flushed'.mapDoc (·.push (.opened type' 0 flushed.pos))).advance type.openTag.length) :=
    (hflushed.withDoc (hflushed.doc.push (.mk htype))).advance _
  by_cases himm : type.flags.closeImmediately = true
  · rw [Phase.afterOpen, if_pos himm] at hentered
    simp only [if_pos himm, Traced.result_bind]
    refine (followNode_related hstep hentered hinside rfl htype).bind ?_
    intro followed followed' _ hfollowed
    have hskipped := hfollowed.advance interpreter.selfCloseSkip
    rw [hstep.selfCloseSkip, hskipped.pos, hfollowed.pos]
    refine (lift_related ho (hskipped.changeDoc (hskipped.doc.closeInnermost _ _))).bind ?_
    intro closed closed' _ hclosed
    exact .ok hclosed.startRun
  · simp only [if_neg himm]
    exact .ok hinside.startRun

theorem closeBlock_related (ho : Neutral o allowed nested)
    (hstep : InStep o allowed nested disk source interpreter follow interpreter' follow')
    {scan scan' : Scan} {id : Nat} {type type' : BlockType}
    (hscan : Reached disk interpreter source .scanning scan)
    (hrest : scan.rest ≠ []) (hopening : scan.opening? interpreter = none)
    (hclosing : scan.closing? = some (id, type)) (h : scan.Alike allowed nested scan')
    (htype : type.Alike nested type') :
    Related o (Alike allowed nested) (scan.closeBlock follow id type).result
      (scan'.closeBlock follow' id type').result := by
  unfold closeBlock BlockType.closeLen
  simp only [Traced.result_bind, htype.closeTag]
  refine (lift_related ho h.flush).bind ?_
  intro flushed flushed' hflush hflushed
  rw [lift_result_eq_ok_iff] at hflush
  refine (followNode_related hstep (hscan.closing hrest hopening hclosing hflush) hflushed
    rfl htype).bind ?_
  intro followed followed' _ hfollowed
  rw [hfollowed.pos]
  refine (lift_related ho (hfollowed.changeDoc (hfollowed.doc.closeInnermost _ _))).bind ?_
  intro closed closed' _ hclosed
  exact .ok (hclosed.advance _).startRun

theorem step_related (ho : Neutral o allowed nested)
    (hstep : InStep o allowed nested disk source interpreter follow interpreter' follow')
    {scan scan' : Scan} (hscan : Reached disk interpreter source .scanning scan)
    (hrest : scan.rest ≠ []) (h : scan.Alike allowed nested scan') :
    Related o (Alike allowed nested) (scan.step interpreter follow).result
      (scan'.step interpreter' follow').result := by
  have hopenings := h.opening? hscan.standing.place hstep.opens
  have hclosings := h.closing?
  unfold step
  rcases hopening : scan.opening? interpreter with _ | type
  · rw [hopening] at hopenings
    rw [optionRel_none_left hopenings]
    rcases hclosing : scan.closing? with _ | ⟨id, type⟩
    · rw [hclosing] at hclosings
      rw [optionRel_none_left hclosings]
      exact .ok (h.advance 1)
    · rw [hclosing] at hclosings
      obtain ⟨⟨_, type'⟩, hclosing', rfl, htype⟩ := optionRel_some_left hclosings
      rw [hclosing']
      exact closeBlock_related ho hstep hscan hrest hopening hclosing h htype
  · rw [hopening] at hopenings
    obtain ⟨type', hopening', htype⟩ := optionRel_some_left hopenings
    rw [hopening']
    exact openBlock_related ho hstep hscan hrest hopening h htype

theorem loop_related (ho : Neutral o allowed nested)
    (hsound : follow.Sound disk interpreter source)
    (hstep : InStep o allowed nested disk source interpreter follow interpreter' follow')
    {limit : Nat} {scan scan' : Scan} (hscan : Reached disk interpreter source .scanning scan)
    (h : scan.Alike allowed nested scan') :
    Related o (Alike allowed nested) (loop interpreter follow limit scan).result
      (loop interpreter' follow' limit scan').result := by
  induction limit generalizing scan scan' with
  | zero => exact .error ho.stalled
  | succ limit ih =>
    rw [loop_succ, loop_succ, h.rest]
    split
    · exact .ok h
    · next hempty =>
      have hrest := mt List.isEmpty_iff.2 hempty
      simp only [Traced.result_bind]
      refine (step_related ho hstep hscan hrest h).bind ?_
      intro after after' hafter halike
      exact ih (step_reached hsound hscan hrest hafter) halike

theorem finish_related (ho : Neutral o allowed nested) (hallowed : SameTexts allowed)
    {scan scan' : Scan} (h : scan.Alike allowed nested scan') :
    Related o (Document.Alike allowed nested) scan.finish.result scan'.finish.result := by
  unfold finish
  simp only [Traced.result_bind]
  refine (lift_related ho h.flush).bind ?_
  intro flushed flushed' _ hflushed
  refine (lift_related ho (hflushed.doc.closeAtEof hallowed)).bind ?_
  rintro ⟨closed, blocked⟩ ⟨closed', blocked'⟩ - ⟨hclosed, hblocked⟩
  dsimp only at hclosed hblocked ⊢
  rw [hblocked]
  cases blocked with
  | none => exact .ok hclosed
  | some id =>
    have hblock := hclosed.blockOf? id
    unfold Document.blockOf? at hblock
    dsimp only
    generalize closed.nodes[id]?.bind Node.block = found,
      closed'.nodes[id]?.bind Node.block = found' at hblock ⊢
    apply Related.error
    cases hblock with
    | none => exact ho.unterminated _ _ _ hclosed
    | some hblock =>
      dsimp only
      rw [hblock.label]
      exact ho.unterminated _ _ _ hclosed

/-- **Two scans that go along with each other end alike.** -/
theorem run_related (ho : Neutral o allowed nested) (hallowed : SameTexts allowed)
    (hsound : follow.Sound disk interpreter source)
    (hstep : InStep o allowed nested disk source interpreter follow interpreter' follow')
    (hsource : allowed #[source] #[source']) :
    Related o (Document.Alike allowed nested) (run interpreter follow source).result
      (run interpreter' follow' source').result := by
  have htext : source'.text = source.text := by
    have htexts := hallowed.texts hsource
    simpa using htexts
  have hstart : (start source).Alike allowed nested (start source') :=
    ⟨⟨hsource, .cons (.mk .none) .nil, rfl⟩, rfl, htext, rfl, rfl⟩
  unfold run
  simp only [Traced.result_bind]
  rw [htext]
  refine (loop_related ho hsound hstep (.start interpreter source) hstart).bind ?_
  intro ended ended' _ halike
  exact finish_related ho hallowed halike

end

end Scan

end Blockwise
