/-
  Blockwise/Proofs/Interpret/Lookups.lean
  =======================================
  **The files that an interpretation looks for.**  An include block that closes asks for a
  file: its type and the text inside it name the path, and the interpreter that its type
  carries, or else the one that scans it, reads the file (`Request`).  The requests of a
  source are those of its scan and of the scans of the files that it leads to
  (`Requested`).

  Nothing else is looked for.  What is reported as included was requested, by induction on
  the depth of includes over the steps of the scans (`loop_reports`).  The sources of a
  document were read at the paths of requests, by induction over the states of its scan
  (`Reached.sources`).  What cannot be read, or is refused as a cycle, is at the path of a
  request (`exists_request_of_error`).  `interpretSource_looksUp` puts the three together.
-/
import Blockwise.Proofs.Interpret.Fetching
import Blockwise.Proofs.Interpret.Tiling
import Blockwise.Proofs.Path.Resolution

namespace Blockwise

/-! ### Requests -/

/-- What an include block asks for: the interpreter that scans the block, the settings of
    its type, and the text inside it. -/
structure Request where
  looker : Interpreter
  settings : Inclusion
  reference : Text

namespace Request

/-- The path that is looked for. -/
def path (request : Request) : Path := request.settings.resolve request.reference

/-- The interpreter that reads the file and interprets it. -/
def inner (request : Request) : Interpreter := request.settings.override.getD request.looker

/-- The request is met by a file. -/
def Brings (request : Request) (disk : Disk) (file : Source) : Prop :=
  file.path = some request.path ∧ request.inner.reader.read disk request.path = .ok file.text

/-- The request is not met: the file cannot be read, or it is being interpreted. -/
def Fails (request : Request) (disk : Disk) : Failure → Prop
  | .unresolvedInclude path cause =>
    request.path = path ∧ request.inner.reader.read disk path = .error cause
  | .cyclicInclude key => request.inner.reader.identity disk request.path = key
  | _ => False

end Request

namespace Scan

open Traced

/-- The request is that of an include block which closes while the source, or a file that
    it leads to, is scanned. -/
def Requested (disk : Disk) (interpreter : Interpreter) (source : Source) (request : Request) :
    Prop :=
  ∃ mid scan id type count, Leads disk interpreter source request.looker mid ∧
    Reached disk request.looker mid (.closing id type count) scan ∧
    type.inclusion? = some request.settings ∧ scan.doc.innerText id = .ok request.reference

/-- The file was requested and read. -/
def Fetched (disk : Disk) (interpreter : Interpreter) (source file : Source) : Prop :=
  ∃ request, Requested disk interpreter source request ∧ request.Brings disk file

section Requests

variable {disk : Disk} {interpreter inner : Interpreter} {source content file : Source}
  {request : Request}

/-- An include block that closes in the source itself makes a request. -/
theorem Reached.requested {scan : Scan} {id count : Nat} {type : BlockType} {settings : Inclusion}
    {reference : Text} (h : Reached disk interpreter source (.closing id type count) scan)
    (hinc : type.inclusion? = some settings) (href : scan.doc.innerText id = .ok reference) :
    Requested disk interpreter source ⟨interpreter, settings, reference⟩ :=
  ⟨source, scan, id, type, count, .refl, h, hinc, href⟩

theorem Requested.outer (hleads : Leads disk interpreter source inner content)
    (h : Requested disk inner content request) : Requested disk interpreter source request := by
  obtain ⟨mid, scan, id, type, count, hmid, hscan⟩ := h
  exact ⟨mid, scan, id, type, count, hleads.trans hmid, hscan⟩

theorem Fetched.outer (hleads : Leads disk interpreter source inner content)
    (h : Fetched disk inner content file) : Fetched disk interpreter source file := by
  obtain ⟨request, hrequested, hbrings⟩ := h
  exact ⟨request, hrequested.outer hleads, hbrings⟩

/-- A block requests a file by an include type of the interpreter that scans it. -/
theorem Requested.within (h : Requested disk interpreter source request) :
    interpreter.Within request.looker ∧
      ∃ type ∈ request.looker.types, type.inclusion? = some request.settings := by
  obtain ⟨mid, scan, id, type, count, hleads, hscan, hinc, -⟩ := h
  have hstanding := hscan.standing
  have htype := (hstanding.innermost_eq hstanding.pending).2
  exact ⟨hleads.within.1, type, htype, hinc⟩

/-- A source that is come to is the first one, or was requested. -/
theorem Leads.fetched (h : Leads disk interpreter source inner file) :
    file = source ∨ Fetched disk interpreter source file := by
  cases h with
  | refl => exact Or.inl rfl
  | @step middle mid scan id type count settings reference text hleads hscan hinc href hread =>
    exact Or.inr ⟨_, (hscan.requested hinc href).outer hleads, rfl, hread⟩

/-! ### The sources of documents -/

theorem sources_finish {scan : Scan} {doc : Document}
    (hdraft : scan.doc.Draft interpreter source) (h : Holds scan.finish.result doc) :
    doc.sources = scan.doc.sources := by
  obtain ⟨flushed, -, -, hflush, hsources, -⟩ := finish_holds h hdraft
  obtain ⟨-, -, hsame, -⟩ := flush_draft hdraft hflush
  exact hsources.trans hsame

/-- **The sources of a document are the first one and files that were requested.** -/
theorem Reached.sources {phase : Phase} {scan : Scan}
    (h : Reached disk interpreter source phase scan) :
    ∀ file ∈ scan.doc.sources, file = source ∨ Fetched disk interpreter source file := by
  induction h with
  | start interpreter source =>
    intro file hfile
    exact Or.inl (List.mem_singleton.1 (Array.mem_toList_iff.2 hfile))
  | read _ _ _ _ ih => exact ih
  | @opened interpreter source scan type flushed hscan _ _ hflush ih =>
    obtain ⟨-, -, hsame, -⟩ := flush_draft hscan.standing.draft hflush
    rw [← hsame] at ih
    exact ih
  | @closing interpreter source scan id type flushed hscan _ _ _ hflush ih =>
    obtain ⟨-, -, hsame, -⟩ := flush_draft hscan.standing.draft hflush
    rw [← hsame] at ih
    exact ih
  | passed _ _ ih => exact ih
  | @included interpreter source scan id type count settings reference text ended sub doc
      hscan hinc href hread hended _ hfinish hsplice ih ihsub =>
    intro file hfile
    obtain ⟨hsources, -⟩ := Document.frame_splice hsplice
    have hmem : file ∈ scan.doc.sources ∨ file ∈ sub.sources := by
      rw [← Array.mem_append, ← hsources]
      exact hfile
    rcases hmem with hmem | hmem
    · exact ih file hmem
    · -- the file of the block itself, or one that it leads to
      rw [sources_finish hended.standing.draft (Or.inl hfinish)] at hmem
      have hleads := Leads.refl.step hscan hinc href hread
      rcases ihsub file hmem with rfl | hfetched
      · exact hleads.fetched
      · exact Or.inr (hfetched.outer hleads)
  | @closed interpreter source scan id type count after hscan hclose ih =>
    obtain ⟨doc, hdoc, rfl⟩ := changeDoc_eq_ok_iff.1 hclose
    obtain ⟨-, outer, -, hopen, -⟩ := hscan.standing.pending
    obtain ⟨hsame, -⟩ := Document.closeInnermost_eq_ok hopen hdoc
    rw [← hsame] at ih
    exact ih

theorem Ended.sources {outcome : Except Failure Document} {doc : Document}
    (h : Ended disk interpreter source outcome) (hdoc : Holds outcome doc) :
    ∀ file ∈ doc.sources, file = source ∨ Fetched disk interpreter source file := by
  obtain ⟨ended, hended, -, rfl⟩ := h
  rw [sources_finish hended.standing.draft hdoc]
  exact hended.sources

end Requests

end Scan

/-! ### What is reported on the way -/

namespace Traced

variable {ε α β : Type} {P : Event → Prop}

/-- The property holds of all that is reported. -/
def Reports (work : Traced ε α) (P : Event → Prop) : Prop := ∀ event ∈ work.events, P event

theorem Reports.bind {first : Traced ε α} {next : α → Traced ε β} (h : first.Reports P)
    (hnext : ∀ a, first.result = .ok a → (next a).Reports P) : (first >>= next).Reports P := by
  obtain ⟨events, cause | a⟩ := first
  · exact h
  · intro event hevent
    rcases List.mem_append.1 hevent with hevent | hevent
    · exact h event hevent
    · exact hnext a rfl event hevent

theorem reports_ofExcept (result : Except ε α) : (ofExcept result).Reports P :=
  fun _ hevent => absurd hevent List.not_mem_nil

theorem reports_pure (a : α) : (pure a : Traced ε α).Reports P := reports_ofExcept (.ok a)

theorem reports_report {event : Event} (h : P event) :
    (report event : Traced ε Unit).Reports P := by
  intro found hfound
  rw [List.mem_singleton.1 hfound]
  exact h

end Traced

namespace Scan

open Traced

variable {disk : Disk} {interpreter : Interpreter} {source : Source} {follow : Follow}
  {P : Event → Prop} {scan : Scan}

/-- What following the include blocks of a scan reports. -/
def Follow.Reports (follow : Follow) (disk : Disk) (interpreter : Interpreter) (source : Source)
    (P : Event → Prop) : Prop :=
  ∀ scan id type count settings, Reached disk interpreter source (.closing id type count) scan →
    type.inclusion? = some settings → (follow scan.doc id settings).Reports P

theorem reports_lift {α : Type} (result : Except Fault α) : (lift result).Reports P :=
  reports_ofExcept _

theorem followNode_reports (h : follow.Reports disk interpreter source P) (scan : Scan)
    {reached : Scan} {id count : Nat} {type : BlockType}
    (hreached : Reached disk interpreter source (.closing id type count) reached)
    (hdoc : scan.doc = reached.doc) : (scan.followNode follow id type).Reports P := by
  unfold followNode
  rcases hinc : type.inclusion? with _ | settings
  · exact reports_pure scan
  · rw [hdoc]
    exact (h reached id type count settings hreached hinc).bind fun _ _ => reports_pure _

theorem step_reports (h : follow.Reports disk interpreter source P)
    (hscan : Reached disk interpreter source .scanning scan) (hrest : scan.rest ≠ []) :
    (scan.step interpreter follow).Reports P := by
  unfold step
  rcases hopening : scan.opening? interpreter with _ | type
  · rcases hclosing : scan.closing? with _ | ⟨id, type⟩
    · exact reports_pure _
    · unfold closeBlock
      refine (reports_lift _).bind fun flushed hflush => ?_
      have hreached := hscan.closing hrest hopening hclosing (lift_result_eq_ok_iff.1 hflush)
      refine (followNode_reports h flushed hreached rfl).bind fun followed _ => ?_
      exact (reports_lift _).bind fun _ _ => reports_pure _
  · unfold openBlock
    refine (reports_lift _).bind fun flushed hflush => ?_
    rw [lift_result_eq_ok_iff] at hflush
    split
    · next himm =>
      have hreached := hscan.opened hrest hopening hflush
      rw [Phase.afterOpen, if_pos himm] at hreached
      have hpos : flushed.pos = scan.pos := by
        obtain ⟨doc, rfl, -⟩ := flush_eq_ok hflush
        rfl
      refine (followNode_reports h _ hreached (by rw [← hpos]; rfl)).bind fun followed _ => ?_
      exact (reports_lift _).bind fun _ _ => reports_pure _
    · exact reports_pure _

/-- A scan reports what following reports. -/
theorem loop_reports (h : follow.Reports disk interpreter source P)
    (hsound : follow.Sound disk interpreter source)
    (hscan : Reached disk interpreter source .scanning scan) (limit : Nat) :
    (loop interpreter follow limit scan).Reports P := by
  induction limit generalizing scan with
  | zero => exact reports_ofExcept _
  | succ limit ih =>
    rw [loop_succ]
    split
    · exact reports_pure scan
    · next hempty =>
      have hrest : scan.rest ≠ [] := mt List.isEmpty_iff.2 hempty
      exact (step_reports h hscan hrest).bind fun after hafter =>
        ih (step_reached hsound hscan hrest hafter)

/-- At the end it reports at most a block that is open. -/
theorem finish_reports (hopen : ∀ label, P (.openAtEnd label))
    (hpartial : ∀ doc, P (.partialDocument doc)) (scan : Scan) : scan.finish.Reports P := by
  unfold finish
  refine (reports_lift _).bind fun flushed _ => (reports_lift _).bind ?_
  rintro ⟨closed, blocked⟩ -
  cases blocked with
  | none => exact reports_pure closed
  | some id =>
    refine (reports_report (hopen _)).bind fun _ _ => ?_
    exact (reports_report (hpartial _)).bind fun _ _ => reports_ofExcept _

/-- If the event is that of a file to be included, the file was requested; the event shows
    the trimmed reference. -/
def Announces (disk : Disk) (interpreter : Interpreter) (source : Source) (event : Event) : Prop :=
  ∀ path shown, event = .including path shown → ∃ request,
    Requested disk interpreter source request ∧ request.path = path ∧
      Text.TrimsTo request.reference shown

theorem Announces.outer {inner : Interpreter} {content : Source} {event : Event}
    (hleads : Leads disk interpreter source inner content) (h : Announces disk inner content event) :
    Announces disk interpreter source event := by
  intro path shown hevent
  obtain ⟨request, hrequested, hrest⟩ := h path shown hevent
  exact ⟨request, hrequested.outer hleads, hrest⟩

end Scan

/-! ### Whole interpretations -/

namespace Interpreter

open Scan Traced

/-- All that is looked for while the source is interpreted was requested: what is reported
    as included, the sources of the document, if only of a partial one, and the file that
    interpretation fails with. -/
structure LooksUp (disk : Disk) (interpreter : Interpreter) (source : Source)
    (work : Traced Failure Document) : Prop where
  reported : work.Reports (Announces disk interpreter source)
  read : ∀ doc, Holds work.result doc →
    ∀ file ∈ doc.sources, file = source ∨ Fetched disk interpreter source file
  missed : ∀ path cause, work.result = .error (.unresolvedInclude path cause) →
    ∃ request, Requested disk interpreter source request ∧
      request.Fails disk (.unresolvedInclude path cause)
  refused : ∀ key, work.result = .error (.cyclicInclude key) →
    ∃ request, Requested disk interpreter source request ∧ request.Fails disk (.cyclicInclude key)

section

variable {guard : Guard} {disk : Disk} {depth : Nat} {interpreter : Interpreter}
  {chain : List Path} {source : Source}

theorem interpretSource_reports :
    (interpretSource guard disk depth interpreter chain source).Reports
      (Announces disk interpreter source) := by
  induction depth generalizing interpreter chain source with
  | zero => exact reports_ofExcept _
  | succ depth ih =>
    rw [interpretSource_succ]
    have hfollow : (followInclude guard disk depth interpreter chain).Reports disk interpreter
        source (Announces disk interpreter source) := by
      intro scan id type count settings hscan hinc
      unfold followInclude
      refine (reports_lift _).bind fun reference href => ?_
      rw [lift_result_eq_ok_iff] at href
      refine (reports_report ?_).bind fun _ _ => (reports_ofExcept _).bind fun longer _ => ?_
      · rintro path shown ⟨⟩
        exact ⟨_, hscan.requested hinc href, rfl, Text.trimsTo_iff.2 rfl⟩
      · split
        · exact reports_ofExcept _
        · next text hread =>
          refine Reports.bind ?_ fun _ _ => reports_ofExcept _
          intro event hevent
          exact (ih event hevent).outer (Leads.refl.step hscan hinc href hread)
    have hsound := followInclude_sound guard disk depth interpreter chain source
    unfold run
    refine (loop_reports hfollow hsound (.start interpreter source) _).bind fun ended _ => ?_
    exact finish_reports (fun _ _ _ h => nomatch h) (fun _ _ _ h => nomatch h) ended

theorem interpretSource_reads {doc : Document}
    (h : Holds (interpretSource guard disk depth interpreter chain source).result doc) :
    ∀ file ∈ doc.sources, file = source ∨ Fetched disk interpreter source file := by
  obtain ⟨hok, hpartial⟩ := interpretSource_endsIn guard disk depth interpreter chain source
  rcases h with h | ⟨label, h⟩
  · exact (hok doc h).sources (Or.inl rfl)
  · obtain ⟨inner, content, hleads, hended⟩ := hpartial label doc h
    intro file hfile
    rcases hended.sources (Or.inr ⟨label, rfl⟩) file hfile with rfl | hfetched
    · exact hleads.fetched
    · exact Or.inr (hfetched.outer hleads)

/-- A file that is missed or refused was requested. -/
theorem exists_request_of_error {cause : Failure} (hfault : ∀ fault, cause ≠ .fault fault)
    (hopen : ∀ label doc, cause ≠ .unterminated label doc) (hdeep : cause ≠ .tooDeep)
    (hstalled : cause ≠ .stalled)
    (h : (interpretSource guard disk depth interpreter chain source).result = .error cause) :
    ∃ request, Requested disk interpreter source request ∧ request.Fails disk cause := by
  induction depth generalizing interpreter chain source with
  | zero =>
    cases h
    exact absurd rfl hdeep
  | succ depth ih =>
    rw [interpretSource_succ] at h
    have hsound := followInclude_sound guard disk depth interpreter chain source
    rcases (run_meets_ended hsound).of_error h hfault hstalled with hended | hbreaks
    · obtain ⟨ended, -, -, hfinish⟩ := hended
      rcases finish_eq_error hfinish with ⟨fault, rfl⟩ | ⟨label, doc, rfl⟩
      · exact absurd rfl (hfault fault)
      · exact absurd rfl (hopen label doc)
    · obtain ⟨scan, id, type, count, settings, hscan, hinc, hfollow⟩ := hbreaks
      rw [followInclude_result] at hfollow
      rcases bind_eq_error_iff.1 hfollow with hlift | ⟨reference, href, hrest⟩
      · obtain ⟨fault, -, rfl⟩ := lift_result_eq_error_iff.1 hlift
        exact absurd rfl (hfault fault)
      rw [lift_result_eq_ok_iff] at href
      rcases bind_eq_error_iff.1 hrest with hfetch | ⟨sub, -, hsplice⟩
      · have hrequested := hscan.requested hinc href
        rcases bind_eq_error_iff.1 hfetch with henter | ⟨longer, -, hfile⟩
        · obtain rfl := Guard.enter_eq_error henter
          exact ⟨_, hrequested, rfl⟩
        · rcases hread : (settings.override.getD interpreter).reader.read disk
              (settings.resolve reference) with why | text
          · simp only [hread] at hfile
            cases hfile
            exact ⟨_, hrequested, rfl, hread⟩
          · simp only [hread] at hfile
            obtain ⟨request, hinner, hfails⟩ := ih hfile
            exact ⟨request, hinner.outer (Leads.refl.step hscan hinc href hread), hfails⟩
      · obtain ⟨fault, -, rfl⟩ := lift_result_eq_error_iff.1 hsplice
        exact absurd rfl (hfault fault)

/-- **All that an interpretation looks for was requested** by its include blocks. -/
theorem interpretSource_looksUp :
    interpreter.LooksUp disk source (interpretSource guard disk depth interpreter chain source) :=
  ⟨interpretSource_reports, fun _ hdoc => interpretSource_reads hdoc,
    fun _ _ h => exists_request_of_error (by simp) (by simp) (by simp) (by simp) h,
    fun _ h => exists_request_of_error (by simp) (by simp) (by simp) (by simp) h⟩

end

end Interpreter

end Blockwise
