/-
  Blockwise/Proofs/Document/Runs.lean
  ===================================
  **Following a walk to its end.**  `Runs` says that a walk makes certain visits, one
  step for each, and that nothing is left of it then.  The number of steps is not bounded
  beforehand, so a walk that runs does end.

  A walk can be stopped on the way and taken up again.  What is collected of it
  (`Runs.collected`), also after some visits have been skipped (`Runs.skipped`), is what
  was still to come.  Both hold of any kind of walk; the two kinds there are differ in
  their step only.
-/
import Blockwise.Document.Walk

namespace Blockwise

/-- One step after the other, from a walk to where nothing is left of it, makes these
    visits. -/
inductive Runs {Walk : Type} (next : Walk → Except Fault (Option (Visit × Walk)))
    (finished : Walk → Prop) : Walk → List Visit → Prop
  | done {walk} : finished walk → Runs next finished walk []
  | step {walk after visit out} : next walk = .ok (some (visit, after)) →
      Runs next finished after out → Runs next finished walk (visit :: out)

namespace Runs

variable {Walk : Type} {next : Walk → Except Fault (Option (Visit × Walk))} {finished : Walk → Prop}
  {walk : Walk} {out : List Visit}

/-- Collecting is taking steps.  A bound that allows for all visits cuts none off. -/
theorem collected {collect : Walk → Nat → Except Fault (List Visit)}
    (hfinished : ∀ walk limit, finished walk → collect walk limit = .ok [])
    (hnext : ∀ walk after visit limit, next walk = .ok (some (visit, after)) →
      collect walk (limit + 1) = (collect after limit).map (visit :: ·))
    (h : Runs next finished walk out) {limit : Nat} (hlimit : out.length ≤ limit) :
    collect walk limit = .ok out := by
  induction h generalizing limit with
  | @done walk hdone => exact hfinished walk limit hdone
  | @step walk after visit out hstep _ ih =>
    cases limit with
    | zero => cases hlimit
    | succ limit =>
      rw [hnext walk after visit limit hstep, ih (Nat.le_of_succ_le_succ hlimit)]
      rfl

/-- Skipping is taking steps too, and leaves the visits that follow. -/
theorem skipped {skip : Walk → Nat → Except Fault Walk} (hzero : ∀ walk, skip walk 0 = .ok walk)
    (hfinished : ∀ walk count, finished walk → skip walk count = .ok walk)
    (hnext : ∀ walk after visit count, next walk = .ok (some (visit, after)) →
      skip walk (count + 1) = skip after count)
    (h : Runs next finished walk out) (count : Nat) :
    ∃ after, skip walk count = .ok after ∧ Runs next finished after (out.drop count) := by
  induction h generalizing count with
  | @done walk hdone =>
    refine ⟨walk, hfinished walk count hdone, ?_⟩
    rw [List.drop_nil]
    exact .done hdone
  | @step walk after visit out hstep hrest ih =>
    cases count with
    | zero => exact ⟨walk, hzero walk, .step hstep hrest⟩
    | succ count =>
      obtain ⟨later, hskip, hruns⟩ := ih count
      exact ⟨later, (hnext walk after visit count hstep).trans hskip, hruns⟩

end Runs

namespace Preorder

variable {doc : Document} {walk : Preorder} {out : List Visit}

/-- The walk makes these visits, and nothing is pending then. -/
abbrev Runs (doc : Document) : Preorder → List Visit → Prop :=
  Blockwise.Runs (next? doc) fun walk => walk.pending = []

theorem next?_of_finished (hfinished : walk.pending = []) : walk.next? doc = .ok none := by
  simp only [next?, hfinished]

theorem Runs.visitsWithin (h : Runs doc walk out) {limit : Nat} (hlimit : out.length ≤ limit) :
    walk.visitsWithin doc limit = .ok out := by
  refine h.collected ?_ ?_ hlimit
  · intro walk limit hfinished
    cases limit with
    | zero => rfl
    | succ limit =>
      simp only [Preorder.visitsWithin, next?_of_finished hfinished]
      rfl
  · intro walk after visit limit hnext
    simp only [Preorder.visitsWithin, hnext]
    rfl

theorem Runs.skip (h : Runs doc walk out) (count : Nat) :
    ∃ after, walk.skip doc count = .ok after ∧ Runs doc after (out.drop count) := by
  refine h.skipped (fun _ => rfl) ?_ ?_ count
  · intro walk count hfinished
    cases count with
    | zero => rfl
    | succ count =>
      simp only [Preorder.skip, next?_of_finished hfinished]
      rfl
  · intro walk after visit count hnext
    simp only [Preorder.skip, hnext]
    rfl

end Preorder

namespace Postorder

variable {doc : Document} {walk : Postorder} {out : List Visit}

/-- The walk makes these visits, and nothing is pending then. -/
abbrev Runs (doc : Document) : Postorder → List Visit → Prop :=
  Blockwise.Runs (next? doc) fun walk => walk.pending = []

theorem next?_of_finished (hfinished : walk.pending = []) : walk.next? doc = .ok none := by
  simp only [next?, stepLimit, nextWithin, hfinished]

theorem Runs.visitsWithin (h : Runs doc walk out) {limit : Nat} (hlimit : out.length ≤ limit) :
    walk.visitsWithin doc limit = .ok out := by
  refine h.collected ?_ ?_ hlimit
  · intro walk limit hfinished
    cases limit with
    | zero => rfl
    | succ limit =>
      simp only [Postorder.visitsWithin, next?_of_finished hfinished]
      rfl
  · intro walk after visit limit hnext
    simp only [Postorder.visitsWithin, hnext]
    rfl

theorem Runs.skip (h : Runs doc walk out) (count : Nat) :
    ∃ after, walk.skip doc count = .ok after ∧ Runs doc after (out.drop count) := by
  refine h.skipped (fun _ => rfl) ?_ ?_ count
  · intro walk count hfinished
    cases count with
    | zero => rfl
    | succ count =>
      simp only [Postorder.skip, next?_of_finished hfinished]
      rfl
  · intro walk after visit count hnext
    simp only [Postorder.skip, hnext]
    rfl

end Postorder

end Blockwise
