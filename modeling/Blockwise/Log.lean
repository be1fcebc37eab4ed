/-
  Blockwise/Log.lean
  ==================
  **What is reported on the way.**  Work that follows includes or loads nested
  configurations reports events besides its result.  `Traced` is that pair, with
  the events of two steps in order; the result of a sequence of steps does not
  depend on what was reported (`Traced.result_bind`).
-/
import Blockwise.Document.Structure
import Blockwise.Text.Classes

namespace Blockwise

/-! ### Events -/

/-- Something worth reporting. -/
inductive Event where
  /-- A file is about to be included. -/
  | including (path : Path) (reference : Text)
  /-- The input ended inside a block that it may not close. -/
  | openAtEnd (label : Text)
  /-- What had been built by then. -/
  | partialDocument (doc : Document)
  /-- The configuration of a nested interpreter is about to be loaded. -/
  | loadingConfig (path : Path)
  /-- A configured field has no meaning for the block's kind. -/
  | ignoredField (field block : Text)
  /-- An include type's own interpreter cannot be written down. -/
  | overrideNotSaved (block : Text)

/-- How much an event matters. -/
inductive Severity where
  | debug
  | warn
  | error
deriving DecidableEq, Repr

namespace Event

/-- How much the event matters. -/
def severity : Event → Severity
  | .including .. | .loadingConfig _ => .debug
  | .ignoredField .. | .overrideNotSaved _ => .warn
  | .openAtEnd _ | .partialDocument _ => .error

/-- The wording of the event. -/
def message : Event → Text
  | .including path reference =>
    "including ".toList ++ path.spelling ++ " (reference ".toList ++ Text.quoted reference ++ [')']
  | .openAtEnd label => label ++ " is open at end of input; tree so far:".toList
  | .partialDocument doc =>
    match doc.drawing with
    | .ok drawing => drawing
    | .error _ => []
  | .loadingConfig path => "loading sub-interpreter config ".toList ++ path.spelling
  | .ignoredField field block =>
    "ignoring '".toList ++ field ++ "' on non-include block '".toList ++ block ++ "'".toList
  | .overrideNotSaved block =>
    "block '".toList ++ block ++ "' has a sub-interpreter override that cannot be saved".toList

end Event

/-! ### Results with their events -/

/-- A result, or the reason why there is none, and what was reported on the way. -/
structure Traced (ε α : Type) where
  events : List Event
  result : Except ε α

namespace Traced

variable {ε α β : Type}

/-- A result without events. -/
def ofExcept (result : Except ε α) : Traced ε α := ⟨[], result⟩

/-- A failure without events. -/
def fail (cause : ε) : Traced ε α := ⟨[], .error cause⟩

/-- An event. -/
def report (event : Event) : Traced ε Unit := ⟨[event], .ok ()⟩

/-- One step after another; a failure ends the sequence. -/
def bind (first : Traced ε α) (next : α → Traced ε β) : Traced ε β :=
  match first with
  | ⟨events, .ok a⟩ =>
    let second := next a
    ⟨events ++ second.events, second.result⟩
  | ⟨events, .error cause⟩ => ⟨events, .error cause⟩

instance : Monad (Traced ε) where
  pure a := ⟨[], .ok a⟩
  bind := Traced.bind

/-- The same with other causes of failure. -/
def mapError {ε' : Type} (f : ε → ε') (work : Traced ε α) : Traced ε' α :=
  ⟨work.events, work.result.mapError f⟩

@[simp]
theorem result_pure (a : α) : (pure a : Traced ε α).result = .ok a := rfl

@[simp]
theorem result_fail (cause : ε) : (fail cause : Traced ε α).result = .error cause := rfl

@[simp]
theorem result_ofExcept (result : Except ε α) : (ofExcept result).result = result := rfl

@[simp]
theorem result_report (event : Event) : (report event : Traced ε Unit).result = .ok () := rfl

/-- The result of a sequence is that of its results. -/
@[simp]
theorem result_bind (first : Traced ε α) (next : α → Traced ε β) :
    (first >>= next).result = first.result >>= fun a => (next a).result := by
  obtain ⟨events, result⟩ := first
  cases result <;> rfl

instance : LawfulMonad (Traced ε) :=
  LawfulMonad.mk' (Traced ε)
    (fun work => by
      obtain ⟨events, result⟩ := work
      cases result <;> simp [Functor.map, Traced.bind])
    (fun _ _ => by simp [Bind.bind, Pure.pure, Traced.bind])
    (fun first next _ => by
      obtain ⟨events, result⟩ := first
      cases result with
      | error cause => rfl
      | ok a =>
        simp only [Bind.bind, Traced.bind]
        obtain ⟨later, result⟩ := next a
        cases result <;> simp)

end Traced

end Blockwise
