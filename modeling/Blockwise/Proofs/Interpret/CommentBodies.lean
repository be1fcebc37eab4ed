/-
  Blockwise/Proofs/Interpret/CommentBodies.lean
  =============================================
  **What stands in a comment changes nothing.**  Two texts that differ in the body of one
  line comment render alike, or fail for the same cause (`comment_body_irrelevant`).

  In front of the comment, the scan does not see what follows its percent sign
  (`Passed.at_percent`).  In the comment it reads character after character, and behind the
  end of the line its sketch has nothing left of what it has read (`Sketch.Steps.comment`).
-/
import Blockwise.Proofs.Interpret.Braces
import Blockwise.Proofs.Interpret.Lookahead

namespace Blockwise

namespace Sketch

/-! ### In a comment -/

/-- In a comment behind `s`: of its body `read` has been read. -/
def commented (s : Sketch) (read rest : Text) : Sketch :=
  ⟨⟨Preset.comment, s.inner ++ s.run⟩ :: s.frames, [], read, s.sources,
    read.getLast?.or (some '%'), rest⟩

/-- Behind a comment behind `s`. -/
def uncommented (s : Sketch) (rest : Text) : Sketch :=
  { s.flush with
    previous := some '\n'
    rest }

section

variable {interpreter : Interpreter} {fetch : Fetch} {s s' : Sketch} {read body after : Text}

theorem next_percent (h : s.opening? interpreter = some Preset.comment)
    (hrest : s.rest = '%' :: after) : s.next interpreter fetch = .ok (s.commented [] after) := by
  unfold next
  rw [h]
  show Except.ok (Sketch.mk _ _ _ _ ((s.rest.take 1).getLast?.or s.previous) (s.rest.drop 1)) = _
  rw [hrest]
  rfl

theorem next_commented {c : Char} (hc : c ≠ '\n') :
    (s.commented read (c :: after)).next interpreter fetch =
      .ok (s.commented (read ++ [c]) after) := by
  have hclosing : (s.commented read (c :: after)).closing? = none := by
    show Option.filter _ (some Preset.comment) = none
    rw [Option.filter_some, if_neg]
    show ¬ Preset.comment.closesBetween _ (c :: after) = true
    rw [Preset.closes_comment, beq_false_of_ne hc, Bool.and_false]
    exact Bool.false_ne_true
  have hread : s.commented (read ++ [c]) after = (s.commented read (c :: after)).read := by
    unfold commented
    rw [List.getLast?_concat]
    rfl
  unfold next
  rw [hclosing, hread]
  rfl

theorem next_lineEnd (h : read.getLast? ≠ some '\\') :
    (s.commented read ('\n' :: after)).next interpreter fetch = .ok (s.uncommented after) := by
  have hprevious : read.getLast?.or (some '%') ≠ some '\\' := by
    cases hlast : read.getLast? with
    | none => simp
    | some c => rwa [hlast] at h
  have hclosing : (s.commented read ('\n' :: after)).closing? = some Preset.comment := by
    show Option.filter _ (some Preset.comment) = _
    rw [Option.filter_some, if_pos]
    show Preset.comment.closesBetween (read.getLast?.or (some '%')) ('\n' :: after) = true
    rw [Preset.closes_comment, beq_false_of_ne hprevious]
    rfl
  unfold next
  rw [hclosing]
  show Except.ok (Sketch.mk _ (s.inner ++ s.run ++ []) _ _ _ _) = _
  rw [List.append_nil]
  rfl

/-- **Behind a comment, nothing is left of its body.** -/
theorem Steps.comment (hbody : '\n' ∉ body) (hlast : body.getLast? ≠ some '\\')
    (h : s.opening? interpreter = some Preset.comment)
    (hrest : s.rest = '%' :: (body ++ '\n' :: after)) :
    Steps interpreter fetch s (s.uncommented after) := by
  have hread : ∀ read left, body = read ++ left →
      Steps interpreter fetch (s.commented read (left ++ '\n' :: after)) (s.uncommented after) := by
    intro read left hsplit
    induction left generalizing read with
    | nil =>
      rw [List.append_nil] at hsplit
      refine .single ⟨List.cons_ne_nil _ _, next_lineEnd ?_⟩
      rwa [← hsplit]
    | cons c left ih =>
      have hc : c ≠ '\n' := by
        rintro rfl
        exact hbody (by simp [hsplit])
      refine .head ⟨List.cons_ne_nil _ _, next_commented hc⟩ (ih (read ++ [c]) ?_)
      rw [hsplit, List.append_assoc, List.singleton_append]
  refine .head ⟨?_, next_percent h hrest⟩ (hread [] body rfl)
  rw [hrest]
  exact List.cons_ne_nil _ _

/-- From the percent sign on, the scan is in the comment or behind it. -/
theorem Steps.in_comment
    (hbody : '\n' ∉ body) (hlast : body.getLast? ≠ some '\\')
    (h : s.opening? interpreter = some Preset.comment)
    (hrest : s.rest = '%' :: (body ++ '\n' :: after)) (hsteps : Steps interpreter fetch s s') :
    s' = s ∨ (∃ read left, body = read ++ left ∧ s' = s.commented read (left ++ '\n' :: after)) ∨
      s'.rest <:+ after := by
  induction hsteps with
  | refl => exact Or.inl rfl
  | @tail middle final hsteps hstep ih =>
    right
    have hnext := hstep.2
    rcases ih with rfl | ⟨read, left, hsplit, rfl⟩ | hbehind
    · rw [next_percent h hrest] at hnext
      cases hnext
      exact Or.inl ⟨[], body, rfl, rfl⟩
    · cases left with
      | nil =>
        rw [List.append_nil] at hsplit
        rw [List.nil_append, next_lineEnd (by rwa [← hsplit])] at hnext
        cases hnext
        exact Or.inr (List.suffix_refl _)
      | cons c left =>
        have hc : c ≠ '\n' := by
          rintro rfl
          exact hbody (by simp [hsplit])
        rw [List.cons_append, next_commented hc] at hnext
        cases hnext
        refine Or.inl ⟨read ++ [c], left, ?_, rfl⟩
        rw [hsplit, List.append_assoc, List.singleton_append]
    · exact Or.inr (hstep.suffix.trans hbehind)

end

end Sketch

/-! ### The LaTeX types -/

namespace Preset

/-- Of the LaTeX tags, the percent sign is the only one that has a percent sign. -/
theorem stopsAt_percent : ∀ type ∈ latexTypes, type.StopsAt '%' := by
  intro type htype
  rcases mem_latexTypes htype with rfl | rfl | rfl | rfl
  · exact ⟨_, rfl, ⟨by decide, Or.inl rfl⟩, by decide, Or.inl rfl⟩
  · exact ⟨_, rfl, ⟨by decide, Or.inl rfl⟩, by decide, Or.inl rfl⟩
  · exact ⟨_, rfl, ⟨by decide, Tag.StopsAt.of_all (by decide +kernel)⟩, by decide, Or.inl rfl⟩
  · exact ⟨_, rfl, ⟨by decide, Tag.StopsAt.of_all (by decide +kernel)⟩, by decide, Or.inl rfl⟩

theorem latex_orderly (reader : Reader) : (latex reader).Orderly :=
  orderly_of_latexTypes fun _ htype => htype

end Preset

/-! ### Two bodies of one comment -/

/-- Two renderings of the same text, or two failures of the same kind.  Of two texts that
    end inside a block, the labels and the documents may differ. -/
inductive RenderAlike : Except Failure Text → Except Failure Text → Prop
  | rendered {text} : RenderAlike (.ok text) (.ok text)
  | failed {cause} : RenderAlike (.error cause) (.error cause)
  | unterminated {label label' doc doc'} :
      RenderAlike (.error (.unterminated label doc)) (.error (.unterminated label' doc'))

theorem Sketch.Ends.same {interpreter : Interpreter} {fetch : Fetch} {s : Sketch}
    {outcome outcome' : Except Failure Text} (h : s.Ends interpreter fetch outcome)
    (h' : s.Ends interpreter fetch outcome') : RenderAlike outcome outcome' := by
  cases h with
  | failed hrest hcause =>
    cases h' with
    | failed _ hcause' =>
      cases hcause.symm.trans hcause'
      exact .failed
    | accepted hnil => exact absurd hnil hrest
    | unterminated hnil => exact absurd hnil hrest
  | accepted hnil hall =>
    cases h' with
    | failed hrest => exact absurd hnil hrest
    | accepted => exact .rendered
    | unterminated _ hopen => exact absurd hall hopen
  | unterminated hnil hopen =>
    cases h' with
    | failed hrest => exact absurd hnil hrest
    | accepted _ hall => exact absurd hall hopen
    | unterminated => exact .unterminated

namespace Scan

variable {disk : Disk} {reader : Reader} {before rest body after : Text} {scan inside : Scan}

/-- Where a comment begins, the scan shows a sketch that has not seen the comment. -/
theorem Passed.at_percent
    (h : Passed disk (Preset.latex reader) (before ++ '%' :: rest) scan)
    (hlen : Text.byteLen (before ++ '%' :: rest) < offsetLimit)
    (hpos : scan.pos = Text.byteLen before)
    (hopening : scan.opening? (Preset.latex reader) = some Preset.comment) :
    ∃ s, Sketch.Steps (Preset.latex reader) ((Preset.latex reader).fetched disk)
        (.start before) s ∧ s.rest = [] ∧
      (s.append ('%' :: rest)).opening? (Preset.latex reader) = some Preset.comment := by
  obtain ⟨hreached, found, hsteps, hshows⟩ := h.sketched (Preset.latex_orderly reader) hlen
  obtain ⟨read, htext, hread, -⟩ := hreached.standing.place
  have hrest : scan.rest = '%' :: rest :=
    (Text.append_inj_byteLen htext (by rw [hread, hpos])).2.symm
  obtain ⟨s, rfl, hs⟩ := @Sketch.Steps.of_append _ (.start before) _ _ _
    Preset.stopsAt_percent rest hsteps (Sketch.known_start before)
    (by rw [← hshows.rest, hrest])
  refine ⟨s, hs, ?_, ?_⟩
  · have hsame : s.rest ++ '%' :: rest = '%' :: rest := hshows.rest.symm.trans hrest
    exact List.append_left_eq_self.1 hsame
  · rw [← hshows.opening?, hopening]

/-- In a comment no block opens, and only the comment closes. -/
theorem Passed.in_comment (hbody : '\n' ∉ body) (hlast : body.getLast? ≠ some '\\')
    (hlen : Text.byteLen (before ++ '%' :: (body ++ '\n' :: after)) < offsetLimit)
    (h : Passed disk (Preset.latex reader) (before ++ '%' :: (body ++ '\n' :: after)) scan)
    (hpos : scan.pos = Text.byteLen before)
    (hopening : scan.opening? (Preset.latex reader) = some Preset.comment)
    (hinside : Passed disk (Preset.latex reader) (before ++ '%' :: (body ++ '\n' :: after)) inside)
    (hlo : Text.byteLen before < inside.pos)
    (hhi : inside.pos ≤ Text.byteLen before + 1 + Text.byteLen body) :
    inside.opening? (Preset.latex reader) = none ∧
      ∀ id type, inside.closing? = some (id, type) → type = Preset.comment ∧
        inside.pos = Text.byteLen before + 1 + Text.byteLen body := by
  have horderly := Preset.latex_orderly reader
  obtain ⟨s, hs, hrest, hcomment⟩ := h.at_percent hlen hpos hopening
  have hsteps := hs.append Preset.stopsAt_percent (Sketch.known_start before)
    (body ++ '\n' :: after)
  obtain ⟨hreached, found, hfound, hshows⟩ := hinside.sketched horderly hlen
  have htotal := hreached.standing.place.pos_add_byteLen
  simp only [Text.byteLen_append, Text.byteLen_cons, hshows.rest] at htotal
  have hpercent : Char.utf8Size '%' = 1 := rfl
  have hnewline : Char.utf8Size '\n' = 1 := rfl
  have hbegin : (s.append ('%' :: (body ++ '\n' :: after))).rest =
      '%' :: (body ++ '\n' :: after) := by
    rw [Sketch.append, hrest]
    rfl
  rcases Sketch.Steps.total hsteps hfound with hahead | hback
  · rcases hahead.in_comment hbody hlast hcomment hbegin with
      rfl | ⟨read, left, hsplit, rfl⟩ | ⟨read, hread⟩
    · -- the scan is in front of the percent sign
      rw [hbegin] at htotal
      simp only [Text.byteLen_append, Text.byteLen_cons] at htotal
      omega
    · refine ⟨hshows.opening?.trans rfl, ?_⟩
      intro id type hclosing
      have hclosed := hshows.closing?
      rw [hclosing] at hclosed
      obtain ⟨frame, outer, hframes, rfl, hcloses⟩ := Sketch.closing?_eq_some hclosed.symm
      cases hframes
      refine ⟨rfl, ?_⟩
      cases left with
      | nil =>
        simp only [Sketch.commented, List.nil_append, Text.byteLen_cons] at htotal
        omega
      | cons c left =>
        have hend : Preset.comment.closesBetween _ (c :: (left ++ '\n' :: after)) = true := hcloses
        rw [Preset.closes_comment, Bool.and_eq_true, beq_iff_eq] at hend
        refine absurd ?_ hbody
        rw [hsplit, ← hend.2]
        simp
    · -- the scan is behind the line
      have hbytes := congrArg Text.byteLen hread
      rw [Text.byteLen_append] at hbytes
      omega
  · -- the scan has not come to the percent sign
    obtain ⟨read, hread⟩ := hback.suffix
    have hbytes := congrArg Text.byteLen hread
    rw [hbegin] at hbytes
    simp only [Text.byteLen_append, Text.byteLen_cons] at hbytes
    omega

end Scan

namespace Interpreter

open Scan

/-- **The body of a comment does not matter.**  Where a comment of the LaTeX types begins,
    its line may say something else: both texts render alike or fail alike.  Within the line
    no block opens, and nothing closes but the comment at its end; no include is followed. -/
theorem comment_body_irrelevant (disk : Disk) (reader : Reader) (before body body' after : Text)
    (hbody : '\n' ∉ body) (hlast : body.getLast? ≠ some '\\')
    (hbody' : '\n' ∉ body') (hlast' : body'.getLast? ≠ some '\\')
    (hlen : Text.byteLen (before ++ '%' :: (body ++ '\n' :: after)) < offsetLimit)
    (hlen' : Text.byteLen (before ++ '%' :: (body' ++ '\n' :: after)) < offsetLimit)
    (scan : Scan)
    (hscan : Passed disk (Preset.latex reader) (before ++ '%' :: (body ++ '\n' :: after)) scan)
    (hpos : scan.pos = Text.byteLen before)
    (hopening : scan.opening? (Preset.latex reader) = some Preset.comment) :
    RenderAlike
      ((Preset.latex reader).render disk (before ++ '%' :: (body ++ '\n' :: after))).result
      ((Preset.latex reader).render disk (before ++ '%' :: (body' ++ '\n' :: after))).result ∧
    ∀ inside, Passed disk (Preset.latex reader) (before ++ '%' :: (body ++ '\n' :: after)) inside →
      Text.byteLen before < inside.pos →
      inside.pos ≤ Text.byteLen before + 1 + Text.byteLen body →
      inside.opening? (Preset.latex reader) = none ∧
        (∀ id type, inside.closing? = some (id, type) → type = Preset.comment ∧
          inside.pos = Text.byteLen before + 1 + Text.byteLen body) ∧
        ∀ follow follow', inside.step (Preset.latex reader) follow =
          inside.step (Preset.latex reader) follow' := by
  have horderly := Preset.latex_orderly reader
  constructor
  · obtain ⟨s, hs, hrest, hcomment⟩ := hscan.at_percent hlen hpos hopening
    -- both scans come to one sketch behind the comment
    have hbehind : ∀ line, '\n' ∉ line → line.getLast? ≠ some '\\' →
        Sketch.Steps (Preset.latex reader) ((Preset.latex reader).fetched disk)
          (.start (before ++ '%' :: (line ++ '\n' :: after))) (s.uncommented after) := by
      intro line hline hend
      have hopens : (s.append ('%' :: (line ++ '\n' :: after))).opening? (Preset.latex reader) =
          some Preset.comment := by
        rw [Sketch.opening?_stop Preset.stopsAt_percent hrest _ (body ++ '\n' :: after), hcomment]
      have hsteps := hs.append Preset.stopsAt_percent (Sketch.known_start before)
        (line ++ '\n' :: after)
      refine hsteps.trans (Sketch.Steps.comment hline hend hopens ?_)
      rw [Sketch.append, hrest]
      rfl
    obtain ⟨final, hfinal, hends⟩ := render_sketched disk horderly hlen
    obtain ⟨final', hfinal', hends'⟩ := render_sketched disk horderly hlen'
    have hon := hends.stuck.steps hfinal (hbehind body hbody hlast)
    have hon' := hends'.stuck.steps hfinal' (hbehind body' hbody' hlast')
    cases Sketch.Steps.unique hon hon' hends.stuck hends'.stuck
    exact hends.same hends'
  · intro inside hinside hlo hhi
    obtain ⟨hnone, hcloses⟩ :=
      hscan.in_comment hbody hlast hlen hpos hopening hinside hlo hhi
    refine ⟨hnone, hcloses, ?_⟩
    intro follow follow'
    unfold step
    rw [hnone]
    cases hclosing : inside.closing? with
    | none => rfl
    | some closing =>
      obtain ⟨id, type⟩ := closing
      obtain ⟨rfl, -⟩ := hcloses id type hclosing
      rfl

/-- A comment in a group, with the end of the group or an include in its line. -/
theorem comment_body_irrelevant_brace :
    ∃ scan, Passed ⟨[], []⟩ (Preset.latex (.memory .empty)) ['{', '%', '}', '\n', '}'] scan ∧
      scan.pos = 1 ∧
      scan.opening? (Preset.latex (.memory .empty)) = some Preset.comment ∧
      RenderAlike
        ((Preset.latex (.memory .empty)).render ⟨[], []⟩ ['{', '%', '}', '\n', '}']).result
        ((Preset.latex (.memory .empty)).render ⟨[], []⟩
          ('{' :: '%' :: ("\\input\x7bx\x7d".toList ++ ['\n', '}']))).result := by
  have hstep : Passed ⟨[], []⟩ (Preset.latex (.memory .empty)) ['{', '%', '}', '\n', '}'] _ :=
    .step .start (List.cons_ne_nil _ _) rfl
  refine ⟨_, hstep, rfl, rfl, ?_⟩
  exact (comment_body_irrelevant ⟨[], []⟩ (.memory .empty) ['{'] ['}'] "\\input\x7bx\x7d".toList
    ['}'] (by decide) (by decide) (by decide) (by decide) (by decide) (by decide) _ hstep rfl rfl).1

end Interpreter

end Blockwise
