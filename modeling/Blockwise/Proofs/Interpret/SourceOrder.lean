/-
  Blockwise/Proofs/Interpret/SourceOrder.lean
  ===========================================
  **Documents are walked in the order of their sources.**  While a document is being built,
  no source is brought in twice: blocks are opened below nodes that are not spliced, and
  the sources of a file that is spliced in come behind all that are there
  (`Reached.apart`).  So in what an interpretation answers with, the blocks of every source
  come in its order, however many includes there are and however they nest
  (`interpretation_in_source_order`).
-/
import Blockwise.Proofs.Document.SourceOrder
import Blockwise.Proofs.Interpret.IncludeGuard
import Blockwise.Proofs.Interpret.Tiling

namespace Blockwise

theorem Family.Growing.spliced_eq {family : Family} {text : Text} {run : Nat}
    (h : family.Growing text run) : family.spliced = false := by
  cases h with
  | top => rfl
  | body => rfl

namespace Scan

open Document

variable {disk : Disk} {interpreter : Interpreter} {source : Source} {phase : Phase}
  {scan : Scan} {file : Inclusion → Source → Prop}

theorem flush_apart {flushed : Scan} (hscan : scan.Standing interpreter source phase)
    (htiled : scan.doc.Families (Family.Tiled scan.doc.sources file)
      (Family.Growing source.text scan.runStart))
    (h : scan.doc.Apart) (hflush : scan.flush = .ok flushed) : flushed.doc.Apart := by
  obtain ⟨doc, rfl, ⟨-, hclose⟩ | ⟨-, rfl⟩⟩ := flush_eq_ok hflush
  · obtain ⟨-, -, hclosed, -⟩ := closeInnermost_eq_ok (openBlocks_push ..) hclose
    exact (h.push hscan.draft.building htiled.2.spliced_eq _).closedAlong hclosed
  · exact h

theorem finish_apart {doc : Document} (hscan : scan.Standing interpreter source phase)
    (htiled : scan.doc.Families (Family.Tiled scan.doc.sources file)
      (Family.Growing source.text scan.runStart))
    (h : scan.doc.Apart) (hfinish : scan.finish.result = .ok doc) : doc.Apart := by
  obtain ⟨flushed, closed, left, hflush, -, -, -, halong, -⟩ :=
    finish_holds (Or.inl hfinish) hscan.draft
  exact (flush_apart hscan htiled h hflush).closedAlong halong

/-- **No scan brings a source in twice.** -/
theorem Reached.apart (h : Reached disk interpreter source phase scan)
    (hreg : interpreter.Registered) : scan.doc.Apart := by
  induction h with
  | start interpreter source => exact apart_ofSource source
  | read _ _ _ _ ih => exact ih hreg
  | opened hscan _ _ hflush ih =>
    have hstanding := hscan.standing
    have htiling := hscan.tiling hreg
    have hflushed := flush_apart hstanding htiling (ih hreg) hflush
    obtain ⟨-, hdraft, -⟩ := flush_draft hstanding.draft hflush
    exact hflushed.push hdraft.building (flush_tiled hstanding htiling hflush).2.spliced_eq _
  | closing hscan _ _ _ hflush ih =>
    have hflushed := flush_apart hscan.standing (hscan.tiling hreg) (ih hreg) hflush
    exact hflushed
  | passed _ _ ih => exact ih hreg
  | included hscan hinc _ _ hended hend hfinish hsplice ih ihsub =>
    have hstanding := hscan.standing
    obtain ⟨rfl, htype⟩ := hstanding.innermost_eq hstanding.pending
    have hinner := hreg.inner htype hinc
    have htiling := hended.tiling hinner
    obtain ⟨harena, -, hall⟩ := finish_tiled hended.standing hend htiling (Or.inl hfinish)
    have hgraft := hstanding.draft.building.grafted harena hsplice
    have hsub := finish_apart hended.standing htiling (ihsub hinner) hfinish
    exact (ih hreg).graft hsub hstanding.draft.building.arena harena hgraft
      (hscan.tiling hreg).1 hall
  | closed hscan hclose ih =>
    obtain ⟨-, outer, block, hopen, -⟩ := hscan.standing.pending
    obtain ⟨doc, hdoc, rfl⟩ := changeDoc_eq_ok_iff.1 hclose
    obtain ⟨-, -, hclosed, -⟩ := closeInnermost_eq_ok hopen hdoc
    exact (ih hreg).closedAlong hclosed

theorem Ended.inSourceOrder {doc : Document} (h : Ended disk interpreter source (.ok doc))
    (hreg : interpreter.Registered) : ∃ parents children, doc.InSourceOrder parents children := by
  obtain ⟨hbuilding, -, hclosed, hall⟩ := h.finished hreg
  obtain ⟨ended, hended, -, hfinish⟩ := h
  have hapart := finish_apart hended.standing (hended.tiling hreg) (hended.apart hreg) hfinish
  exact hbuilding.arena.inSourceOrder hapart hall hclosed

end Scan

namespace Interpreter

open Scan

theorem sampleGraph_registered : sampleGraph.Registered := by
  refine @Registered.intro _ _ rfl ?_
  intro type htype settings inner hinc hover
  simp only [sampleGraph, sample, List.mem_cons, List.not_mem_nil, or_false] at htype
  rcases htype with rfl | rfl | rfl <;> cases hinc
  cases hover

/-- **Iteration is in source order.**  In the document of a text or a file, the walk that
    visits parents first meets the blocks of each source with growing beginnings, and the
    walk that visits children first meets them with ends that do not fall.  Looking for a
    name keeps that order. -/
theorem interpretation_in_source_order (disk : Disk) (interpreter : Interpreter)
    (hreg : interpreter.Registered) :
    (∀ text doc, (interpreter.interpret disk text).result = .ok doc →
        ∃ parents children, doc.InSourceOrder parents children) ∧
      ∀ path doc, (interpreter.interpretFile disk path).result = .ok doc →
        ∃ parents children, doc.InSourceOrder parents children := by
  constructor
  · intro text doc hdoc
    exact ((interpretSource_endsIn _ _ _ _ _ _).1 doc hdoc).inSourceOrder hreg
  · intro path doc hdoc
    rcases interpretFile_cases disk interpreter path with ⟨cause, -, hfail⟩ | ⟨text, -, heq⟩
    · rw [hfail] at hdoc
      cases hdoc
    · rw [heq] at hdoc
      exact ((interpretSource_endsIn _ _ _ _ _ _).1 doc hdoc).inSourceOrder hreg

/-- A text that includes one file along two branches, and twice in a row. -/
theorem sampleDiamond_in_source_order :
    sampleGraph.Registered ∧ ∃ doc parents children,
      (sampleGraph.interpret ⟨[], []⟩ sampleDiamond).result = .ok doc ∧
        doc.InSourceOrder parents children := by
  obtain ⟨doc, hdoc⟩ := exists_eq_ok
    (show (sampleGraph.interpret ⟨[], []⟩ sampleDiamond).result.isOk = true by decide +kernel)
  obtain ⟨parents, children, horder⟩ :=
    (interpretation_in_source_order ⟨[], []⟩ sampleGraph sampleGraph_registered).1 _ doc hdoc
  exact ⟨sampleGraph_registered, doc, parents, children, hdoc, horder⟩

end Interpreter

end Blockwise
