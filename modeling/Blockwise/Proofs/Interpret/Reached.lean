/-
  Blockwise/Proofs/Interpret/Reached.lean
  =======================================
  **The states that a scan passes through.**  `Reached disk interpreter source phase
  scan` says that scanning `source` comes through the state `scan`.  Its
  constructors are the moves of the scanner, one operation on the document each:

    * `read`     — one character of plain text;
    * `opened`   — a block begins, and the scan goes on inside it;
    * `closing`  — the close tag of the innermost block stands here;
    * `passed`, `included` — nothing is to be followed, or the document of the file
      that the block names is spliced in;
    * `closed`   — the block ends behind its close marker.

  The document of an included file comes from the last state of another scan, so
  one induction over `Reached` covers the text and all files below it.  Whatever an
  interpretation answers with, a document or a block that is not terminated, is the
  end of such a scan (`interpretSource_endsIn`).
-/
import Blockwise.Interpret.Include
import Blockwise.Proofs.Interpret.Moves

namespace Blockwise

namespace Scan

/-- The states of the scan of a source, and of the scans of the files below it. -/
inductive Reached (disk : Disk) : Interpreter → Source → Phase → Scan → Prop
  | start (interpreter : Interpreter) (source : Source) :
      Reached disk interpreter source .scanning (.start source)
  | read {interpreter source scan} :
      Reached disk interpreter source .scanning scan → scan.rest ≠ [] →
      scan.opening? interpreter = none → scan.closing? = none →
      Reached disk interpreter source .scanning (scan.advance 1)
  | opened {interpreter source scan type flushed} :
      Reached disk interpreter source .scanning scan → scan.rest ≠ [] →
      scan.opening? interpreter = some type → scan.flush = .ok flushed →
      Reached disk interpreter source (.afterOpen interpreter flushed.doc.nodes.size type)
        (flushed.enter type)
  | closing {interpreter source scan id type flushed} :
      Reached disk interpreter source .scanning scan → scan.rest ≠ [] →
      scan.opening? interpreter = none → scan.closing? = some (id, type) →
      scan.flush = .ok flushed →
      Reached disk interpreter source (.closing id type type.closeTag.length) flushed.startRun
  | passed {interpreter source scan id type count} :
      Reached disk interpreter source (.closing id type count) scan → type.inclusion? = none →
      Reached disk interpreter source (.followed id type count) scan
  | included {interpreter source scan id type count settings reference text ended sub doc} :
      Reached disk interpreter source (.closing id type count) scan →
      type.inclusion? = some settings → scan.doc.innerText id = .ok reference →
      (settings.override.getD interpreter).reader.read disk (settings.resolve reference) =
        .ok text →
      Reached disk (settings.override.getD interpreter)
        ⟨some (settings.resolve reference), text⟩ .scanning ended →
      ended.rest = [] → ended.finish.result = .ok sub → scan.doc.splice id sub = .ok doc →
      Reached disk interpreter source (.followed id type count) (scan.mapDoc fun _ => doc)
  | closed {interpreter source scan id type count after} :
      Reached disk interpreter source (.followed id type count) scan →
      scan.changeDoc (·.closeInnermost scan.pos (Text.byteLen (scan.rest.take count))) =
        .ok after →
      Reached disk interpreter source .scanning (after.advance count).startRun

/-- The scan of a source comes to its end with this outcome. -/
def Ended (disk : Disk) (interpreter : Interpreter) (source : Source)
    (outcome : Except Failure Document) : Prop :=
  ∃ ended, Reached disk interpreter source .scanning ended ∧ ended.rest = [] ∧
    ended.finish.result = outcome

/-- Scanning one source leads into another one: itself, or one that an include block
    on the way names. -/
inductive Leads (disk : Disk) (interpreter : Interpreter) (source : Source) :
    Interpreter → Source → Prop
  | refl : Leads disk interpreter source interpreter source
  | step {middle mid scan id type count settings reference text} :
      Leads disk interpreter source middle mid →
      Reached disk middle mid (.closing id type count) scan →
      type.inclusion? = some settings → scan.doc.innerText id = .ok reference →
      (settings.override.getD middle).reader.read disk (settings.resolve reference) = .ok text →
      Leads disk interpreter source (settings.override.getD middle)
        ⟨some (settings.resolve reference), text⟩

/-! ### Steps of the scanner are moves -/

section Steps

variable {disk : Disk} {interpreter : Interpreter} {source : Source} {follow : Follow}

/-- What `follow` answers with is a move of the scan. -/
def Follow.Sound (follow : Follow) (disk : Disk) (interpreter : Interpreter) (source : Source) :
    Prop :=
  ∀ scan id type count settings doc, Reached disk interpreter source (.closing id type count) scan →
    type.inclusion? = some settings → (follow scan.doc id settings).result = .ok doc →
    Reached disk interpreter source (.followed id type count) (scan.mapDoc fun _ => doc)

/-- An include block on the way is followed into a block that is not terminated. -/
def Follow.Breaks (follow : Follow) (disk : Disk) (interpreter : Interpreter) (source : Source)
    (failure : Failure) : Prop :=
  ∃ scan id type count settings, Reached disk interpreter source (.closing id type count) scan ∧
    type.inclusion? = some settings ∧ (follow scan.doc id settings).result = .error failure

theorem kept_reached (hfollow : follow.Sound disk interpreter source) {fails : Failure → Prop}
    (hfault : ∀ fault, fails (.fault fault))
    (hbreaks : ∀ cause, follow.Breaks disk interpreter source cause → fails cause) :
    Kept interpreter follow (fun _ => fails) fun _ => Reached disk interpreter source := by
  refine ⟨.read, fun _ _ => hfault _, .opened, .closing, .passed, ?_, fun _ _ => hfault _, ?_⟩
  · intro n scan id type count settings hscan hinc
    unfold Traced.Meets
    rcases hresult : (follow scan.doc id settings).result with cause | doc
    · exact hbreaks cause ⟨scan, id, type, count, settings, hscan, hinc, hresult⟩
    · exact hfollow scan id type count settings doc hscan hinc hresult
  · intro n scan id type count doc hscan hdoc
    exact hscan.closed (changeDoc_eq_ok_iff.2 ⟨doc, hdoc, rfl⟩)

theorem step_reached (hfollow : follow.Sound disk interpreter source) {scan after : Scan}
    (hscan : Reached disk interpreter source .scanning scan) (hrest : scan.rest ≠ [])
    (h : (scan.step interpreter follow).result = .ok after) :
    Reached disk interpreter source .scanning after := by
  have hmeets : (scan.step interpreter follow).Meets 0 (fun _ _ => True) fun _ after =>
      Reached disk interpreter source .scanning after :=
    (kept_reached hfollow (fun _ => trivial) fun _ _ => trivial).step_meets hscan hrest
  exact hmeets.of_ok h

/-- A failure that is no fault of an operation lies at the end of the scan or in an
    include on the way. -/
def Follow.Fails (follow : Follow) (disk : Disk) (interpreter : Interpreter) (source : Source)
    (cause : Failure) : Prop :=
  (∀ fault, cause ≠ .fault fault) → cause ≠ .stalled →
    Ended disk interpreter source (.error cause) ∨ follow.Breaks disk interpreter source cause

/-- **A run ends its scan,** unless an include does not end its own. -/
theorem run_meets_ended (hfollow : follow.Sound disk interpreter source) :
    (run interpreter follow source).Meets 0 (fun _ => follow.Fails disk interpreter source)
      fun _ doc => Ended disk interpreter source (.ok doc) := by
  have hkept : Kept interpreter follow (fun _ => follow.Fails disk interpreter source)
      fun _ => Reached disk interpreter source :=
    kept_reached hfollow (fun fault hfault _ => absurd rfl (hfault fault))
      fun _ hbreaks _ _ => Or.inr hbreaks
  refine hkept.run_meets ?_ (.start interpreter source) ?_
  · intro m _ hstalled
    exact absurd rfl hstalled
  · intro m ended hended hrest
    unfold Traced.Meets
    rcases hresult : ended.finish.result with cause | doc
    · exact fun _ _ => Or.inl ⟨ended, hended, hrest, hresult⟩
    · exact ⟨ended, hended, hrest, hresult⟩

end Steps

end Scan

/-! ### Interpretations end a scan -/

theorem Guard.enter_eq_error {guard : Guard} {chain : List Path} {key : Path} {cause : Failure}
    (h : guard.enter chain key = .error cause) : cause = .cyclicInclude key := by
  unfold Guard.enter at h
  split at h
  · cases h
  · split at h
    · cases h
      rfl
    · cases h

theorem Scan.Leads.trans {disk : Disk} {first second third : Interpreter} {one two three : Source}
    (h : Scan.Leads disk first one second two) (h' : Scan.Leads disk second two third three) :
    Scan.Leads disk first one third three := by
  induction h' with
  | refl => exact h
  | step _ hscan hinc href hread ih => exact ih.step hscan hinc href hread

namespace Interpreter

open Scan

/-- How an include block is followed, with includes nested less than `depth` deep in
    the file that it names. -/
def followInclude (guard : Guard) (disk : Disk) (depth : Nat) (interpreter : Interpreter)
    (chain : List Path) : Follow := fun doc id settings => do
  let reference ← Scan.lift (doc.innerText id)
  let path := settings.resolve reference
  .report (.including path (Text.trim reference))
  let inner := settings.override.getD interpreter
  let longer ← .ofExcept (guard.enter chain (inner.reader.identity disk path))
  match inner.reader.read disk path with
  | .error cause => .fail (.unresolvedInclude path cause)
  | .ok text => do
    let sub ← interpretSource guard disk depth inner longer ⟨some path, text⟩
    Scan.lift (doc.splice id sub)

theorem interpretSource_succ (guard : Guard) (disk : Disk) (depth : Nat)
    (interpreter : Interpreter) (chain : List Path) (source : Source) :
    interpretSource guard disk (depth + 1) interpreter chain source =
      Scan.run interpreter (followInclude guard disk depth interpreter chain) source := rfl

/-- A file is interpreted with itself underway, if it can be read. -/
theorem interpretFile_cases (disk : Disk) (interpreter : Interpreter) (path : Path) :
    (∃ cause, interpreter.reader.read disk path = .error cause ∧
      interpreter.interpretFile disk path = .fail (.unreadableSource path cause)) ∨
    ∃ text, interpreter.reader.read disk path = .ok text ∧
      interpreter.interpretFile disk path =
        interpretSource .checked disk (interpreter.depthLimit disk) interpreter
          [interpreter.reader.identity disk path] ⟨some path, text⟩ := by
  unfold interpretFile interpretFileWithin
  rcases interpreter.reader.read disk path with cause | text
  · exact Or.inl ⟨cause, rfl, rfl⟩
  · exact Or.inr ⟨text, rfl, rfl⟩

/-- A document is that of the source, a partial one that of the source or of a file
    below it. -/
def EndsIn (disk : Disk) (interpreter : Interpreter) (source : Source)
    (result : Except Failure Document) : Prop :=
  (∀ doc, result = .ok doc → Ended disk interpreter source (.ok doc)) ∧
    ∀ label doc, result = .error (.unterminated label doc) →
      ∃ inner file, Leads disk interpreter source inner file ∧
        Ended disk inner file (.error (.unterminated label doc))

section Follow

variable {guard : Guard} {disk : Disk} {depth : Nat} {interpreter : Interpreter}
  {chain : List Path} {doc : Document} {id : Nat} {settings : Inclusion}

theorem followInclude_eq_ok {after : Document}
    (h : (followInclude guard disk depth interpreter chain doc id settings).result = .ok after) :
    ∃ reference longer text sub, doc.innerText id = .ok reference ∧
      guard.enter chain ((settings.override.getD interpreter).reader.identity disk
        (settings.resolve reference)) = .ok longer ∧
      (settings.override.getD interpreter).reader.read disk (settings.resolve reference) =
        .ok text ∧
      (interpretSource guard disk depth (settings.override.getD interpreter) longer
        ⟨some (settings.resolve reference), text⟩).result = .ok sub ∧
      doc.splice id sub = .ok after := by
  unfold followInclude at h
  rw [Traced.result_bind] at h
  obtain ⟨reference, href, hrest⟩ := bind_eq_ok_iff.1 h
  rw [lift_result_eq_ok_iff] at href
  rw [Traced.result_bind] at hrest
  obtain ⟨-, -, hrest⟩ := bind_eq_ok_iff.1 hrest
  rw [Traced.result_bind] at hrest
  obtain ⟨longer, hlonger, hrest⟩ := bind_eq_ok_iff.1 hrest
  rcases hread : (settings.override.getD interpreter).reader.read disk
      (settings.resolve reference) with cause | text
  · simp only [hread] at hrest
    cases hrest
  · simp only [hread] at hrest
    rw [Traced.result_bind] at hrest
    obtain ⟨sub, hsub, hsplice⟩ := bind_eq_ok_iff.1 hrest
    rw [lift_result_eq_ok_iff] at hsplice
    exact ⟨reference, longer, text, sub, href, hlonger, hread, hsub, hsplice⟩

/-- If following an include fails for no reason of its own, interpreting the file does. -/
theorem followInclude_eq_error {cause : Failure} (hfault : ∀ fault, cause ≠ .fault fault)
    (hcyclic : ∀ key, cause ≠ .cyclicInclude key)
    (hunresolved : ∀ path why, cause ≠ .unresolvedInclude path why)
    (h : (followInclude guard disk depth interpreter chain doc id settings).result =
      .error cause) :
    ∃ reference longer text, doc.innerText id = .ok reference ∧
      guard.enter chain ((settings.override.getD interpreter).reader.identity disk
        (settings.resolve reference)) = .ok longer ∧
      (settings.override.getD interpreter).reader.read disk (settings.resolve reference) =
        .ok text ∧
      (interpretSource guard disk depth (settings.override.getD interpreter) longer
        ⟨some (settings.resolve reference), text⟩).result = .error cause := by
  unfold followInclude at h
  rw [Traced.result_bind] at h
  rcases bind_eq_error_iff.1 h with hlift | ⟨reference, href, hrest⟩
  · obtain ⟨fault, -, hcause⟩ := lift_result_eq_error_iff.1 hlift
    exact absurd hcause (hfault fault)
  rw [lift_result_eq_ok_iff] at href
  rw [Traced.result_bind] at hrest
  rcases bind_eq_error_iff.1 hrest with hreport | ⟨-, -, hrest⟩
  · cases hreport
  rw [Traced.result_bind] at hrest
  rcases bind_eq_error_iff.1 hrest with henter | ⟨longer, hlonger, hrest⟩
  · exact absurd (Guard.enter_eq_error henter) (hcyclic _)
  rcases hread : (settings.override.getD interpreter).reader.read disk
      (settings.resolve reference) with why | text
  · simp only [hread] at hrest
    cases hrest
    exact absurd rfl (hunresolved _ _)
  · simp only [hread] at hrest
    rw [Traced.result_bind] at hrest
    rcases bind_eq_error_iff.1 hrest with hsub | ⟨sub, -, hsplice⟩
    · exact ⟨reference, longer, text, href, hlonger, hread, hsub⟩
    · obtain ⟨fault, -, hcause⟩ := lift_result_eq_error_iff.1 hsplice
      exact absurd hcause (hfault fault)

/-- Following an include is sound if interpreting the files below ends their scans. -/
theorem followInclude_sound_of_endsIn
    (h : ∀ interpreter chain source, EndsIn disk interpreter source
      (interpretSource guard disk depth interpreter chain source).result) (source : Source) :
    (followInclude guard disk depth interpreter chain).Sound disk interpreter source := by
  intro scan id type count settings doc hscan hinc hfollow
  obtain ⟨reference, longer, text, sub, href, -, hread, hsub, hsplice⟩ :=
    followInclude_eq_ok hfollow
  obtain ⟨ended, hended, hrest, hfinish⟩ := (h _ _ _).1 sub hsub
  exact hscan.included hinc href hread hended hrest hfinish hsplice

end Follow

/-- **Every interpretation ends a scan.** -/
theorem interpretSource_endsIn (guard : Guard) (disk : Disk) (depth : Nat)
    (interpreter : Interpreter) (chain : List Path) (source : Source) :
    EndsIn disk interpreter source
      (interpretSource guard disk depth interpreter chain source).result := by
  induction depth generalizing interpreter chain source with
  | zero =>
    refine ⟨?_, ?_⟩
    · intro doc h
      cases h
    · intro label doc h
      cases h
  | succ depth ih =>
    rw [interpretSource_succ]
    have hsound : (followInclude guard disk depth interpreter chain).Sound disk interpreter
        source := followInclude_sound_of_endsIn ih source
    refine ⟨fun doc h => (run_meets_ended hsound).of_ok h, ?_⟩
    intro label doc h
    rcases (run_meets_ended hsound).of_error h (by simp) (by simp) with hended | hbreaks
    · exact ⟨interpreter, source, .refl, hended⟩
    · obtain ⟨scan, id, type, count, settings, hscan, hinc, hfollow⟩ := hbreaks
      obtain ⟨reference, longer, text, href, -, hread, hsub⟩ :=
        followInclude_eq_error (by simp) (by simp) (by simp) hfollow
      obtain ⟨inner, file, hleads, hended⟩ := (ih _ _ _).2 label doc hsub
      exact ⟨inner, file, (Leads.refl.step hscan hinc href hread).trans hleads, hended⟩

theorem followInclude_sound (guard : Guard) (disk : Disk) (depth : Nat) (interpreter : Interpreter)
    (chain : List Path) (source : Source) :
    (followInclude guard disk depth interpreter chain).Sound disk interpreter source :=
  followInclude_sound_of_endsIn (interpretSource_endsIn guard disk depth) source

end Interpreter

end Blockwise
