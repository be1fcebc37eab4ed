/-
  Blockwise/Proofs/Interpret/Simulation.lean
  ==========================================
  **Interpreters that come to the same.**  `Simulates left disk nested counterpart` lists
  what it takes for the second of two interpreters to do what the first does: it opens
  blocks of types that are alike in every file, knows files by the same paths, reads the
  same texts, and hands included files on to interpreters that are counterparts again.
  A file that only the second can read makes a difference, so the comparison ends where
  the first fails to read a file, if `left` says so.

  Then whatever the first interpretation comes to, the second does, too
  (`Simulates.interpret`, `Simulates.interpretFile`): the same failure, or the same
  document up to the nested interpreters of its block types.
-/
import Blockwise.Proofs.Interpret.Nesting

namespace Blockwise

namespace Interpreter

open Scan

/-! ### The same outcome -/

/-- The outcomes are the same, up to the nested interpreters in their documents. -/
inductive SameOutcome (nested : Interpreter → Interpreter → Prop) :
    Except Failure Document → Except Failure Document → Prop
  | ok {doc doc'} : doc.Alike Eq nested doc' → SameOutcome nested (.ok doc) (.ok doc')
  | unterminated {label doc doc'} : doc.Alike Eq nested doc' →
      SameOutcome nested (.error (.unterminated label doc)) (.error (.unterminated label doc'))
  | failed (cause : Failure) : SameOutcome nested (.error cause) (.error cause)

theorem SameOutcome.eq {first second : Except Failure Document}
    (h : SameOutcome Eq first second) : second = first := by
  cases h with
  | ok hdoc => rw [hdoc.eq]
  | unterminated hdoc => rw [hdoc.eq]
  | failed cause => rfl

/-- Whatever the first run comes to, the second does, too, unless `left` names it. -/
def alike (left : Failure → Prop) (nested : Interpreter → Interpreter → Prop) : Comparison where
  left := left
  right := fun _ => False
  same := fun cause cause' => SameOutcome nested (.error cause) (.error cause')

section

variable {left : Failure → Prop} {nested : Interpreter → Interpreter → Prop}

theorem neutral_alike : Neutral (alike left nested) Eq nested := by
  constructor
  · intro cause
    exact .failed _
  · exact .failed _
  · intro label doc doc' hdoc
    exact .unterminated hdoc

theorem SameOutcome.of_related {first second : Except Failure Document}
    (h : Related (alike left nested) (Document.Alike Eq nested) first second)
    (hfirst : ∀ cause, left cause → first ≠ .error cause) : SameOutcome nested first second := by
  cases h with
  | left hcause => exact absurd rfl (hfirst _ hcause)
  | right hcause => exact hcause.elim
  | error hsame => exact hsame
  | ok hdoc => exact .ok hdoc

end

/-! ### Opening blocks of types that are alike -/

theorem find?_opens_alike {nested : Interpreter → Interpreter → Prop}
    {types types' : List BlockType} (h : List.Forall₂ (BlockType.Alike nested) types types')
    (text : Text) (pos : Nat) :
    Option.Rel (BlockType.Alike nested) (types.find? fun type => type.opens text pos)
      (types'.find? fun type => type.opens text pos) := by
  induction h with
  | nil => exact .none
  | @cons type type' types types' htype _ ih =>
    rw [List.find?_cons, List.find?_cons, htype.opens]
    cases type.opens text pos with
    | true => exact .some htype
    | false => exact ih

/-! ### Counterparts -/

/-- Counterparts do the same, as far as `left` does not excuse the first from reading a
    file that it does not have. -/
structure Simulates (left : Failure → Prop) (disk : Disk)
    (nested counterpart : Interpreter → Interpreter → Prop) : Prop where
  selfCloseSkip : ∀ {first second}, counterpart first second →
    second.selfCloseSkip = first.selfCloseSkip
  inner : ∀ {first second type settings settings'}, counterpart first second →
    type ∈ first.types → type.inclusion? = some settings → settings.Alike nested settings' →
    counterpart (settings.override.getD first) (settings'.override.getD second)
  identity : ∀ {first second}, counterpart first second →
    second.reader.identity disk = first.reader.identity disk
  unread : ∀ {first second path cause}, counterpart first second →
    first.reader.read disk path = .error cause →
    second.reader.read disk path = .error cause ∨
      left (.unresolvedInclude path cause) ∧ left (.unreadableSource path cause)
  read : ∀ {first second path text}, counterpart first second →
    first.reader.read disk path = .ok text →
    second.reader.read disk path = .ok text ∧ first.OpensAlike nested second text

namespace Simulates

variable {left : Failure → Prop} {disk : Disk}
  {nested counterpart : Interpreter → Interpreter → Prop} {first second : Interpreter}

/-- **Counterparts come to the same,** file by file. -/
theorem interpretSource (h : Simulates left disk nested counterpart) (depth : Nat)
    (hcounter : counterpart first second) (chain : List Path) {source : Source}
    (hopens : first.OpensAlike nested second source.text) :
    Related (alike left nested) (Document.Alike Eq nested)
      (Interpreter.interpretSource .checked disk depth first chain source).result
      (Interpreter.interpretSource .checked disk depth second chain source).result := by
  induction depth generalizing first second chain source with
  | zero => exact .error (.failed _)
  | succ depth ih =>
    apply interpretSource_related_of_opens neutral_alike sameTexts_eq rfl
      (h.selfCloseSkip hcounter) hopens
    intro type htype settings settings' hinc hsettings path
    have hinner := h.inner hcounter htype hinc hsettings
    generalize settings.override.getD first = inner, settings'.override.getD second = inner'
      at hinner
    unfold fetch
    rw [h.identity hinner]
    -- both refuse the same files
    rcases Guard.checked.enter chain (inner.reader.identity disk path) with cause | longer
    · exact .error (.failed _)
    · rcases hread : inner.reader.read disk path with cause | text
      · rcases h.unread hinner hread with hread' | ⟨hleft, -⟩
        · rw [hread']
          exact .error (.failed _)
        · exact .left hleft
      · obtain ⟨hread', hopens'⟩ := h.read hinner hread
        rw [hread']
        exact ih hinner longer hopens'

/-- The bounds on the depth may differ, but neither is exceeded. -/
theorem sameOutcome (h : Simulates left disk nested counterpart)
    (hcounter : counterpart first second) {chain : List Path} {source : Source}
    (hopens : first.OpensAlike nested second source.text) (hchain : first.Chained disk chain)
    (hchain' : second.Chained disk chain)
    (hleft : ∀ cause, left cause → (Interpreter.interpretSource .checked disk
      (first.depthLimit disk) first chain source).result ≠ .error cause) :
    SameOutcome nested
      (Interpreter.interpretSource .checked disk (first.depthLimit disk) first chain source).result
      (Interpreter.interpretSource .checked disk (second.depthLimit disk) second chain
        source).result := by
  have henough := Nat.lt_of_succ_lt (fileCount_lt_depthLimit disk first)
  have henough' := Nat.lt_of_succ_lt (fileCount_lt_depthLimit disk second)
  apply SameOutcome.of_related _ hleft
  rw [← interpretSource_deeper hchain henough (Nat.le_max_left _ (second.depthLimit disk)),
    ← interpretSource_deeper hchain' henough' (Nat.le_max_right (first.depthLimit disk) _)]
  exact h.interpretSource _ hcounter chain hopens

theorem interpret (h : Simulates left disk nested counterpart)
    (hcounter : counterpart first second) {text : Text}
    (hopens : first.OpensAlike nested second text)
    (hleft : ∀ cause, left cause → (first.interpret disk text).result ≠ .error cause) :
    SameOutcome nested (first.interpret disk text).result (second.interpret disk text).result :=
  h.sameOutcome hcounter hopens (chained_nil disk first) (chained_nil disk second) hleft

theorem interpretFile (h : Simulates left disk nested counterpart)
    (hcounter : counterpart first second) (path : Path)
    (hleft : ∀ cause, left cause → (first.interpretFile disk path).result ≠ .error cause) :
    SameOutcome nested (first.interpretFile disk path).result
      (second.interpretFile disk path).result := by
  rcases interpretFile_cases disk first path with ⟨cause, hread, hfile⟩ | ⟨text, hread, hfile⟩
  · rw [hfile] at hleft ⊢
    rcases h.unread hcounter hread with hread' | ⟨-, hunread⟩
    · rcases interpretFile_cases disk second path with ⟨cause', hcause', hfile'⟩ | ⟨_, htext', _⟩
      · rw [hread'] at hcause'
        cases hcause'
        rw [hfile']
        exact .failed _
      · rw [hread'] at htext'
        cases htext'
    · exact absurd rfl (hleft _ hunread)
  · obtain ⟨hread', hopens⟩ := h.read hcounter hread
    rcases interpretFile_cases disk second path with ⟨_, hcause', _⟩ | ⟨text', htext', hfile'⟩
    · rw [hread'] at hcause'
      cases hcause'
    · rw [hread'] at htext'
      cases htext'
      rw [hfile] at hleft ⊢
      rw [hfile', h.identity hcounter]
      have hchain := (chained_nil disk first).enter .refl rfl hread
      have hchain' := (chained_nil disk second).enter .refl rfl hread'
      rw [h.identity hcounter] at hchain'
      exact h.sameOutcome hcounter hopens hchain hchain' hleft

end Simulates

end Interpreter

end Blockwise
