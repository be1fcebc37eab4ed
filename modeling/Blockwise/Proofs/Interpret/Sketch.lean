/-
  Blockwise/Proofs/Interpret/Sketch.lean
  ======================================
  **A scan without its offsets.**  How a scan goes on depends on the open blocks and the
  text around its position, and what it renders as in the end on the texts that are
  finished.  A `Sketch` keeps these and nothing else: no positions, and no nodes.  Its step
  is a function, so a sketch has one future (`Sketch.Steps.unique`), whatever text was read
  on the way to it.

  Nothing closes immediately here.
-/
import Blockwise.Interpret.Scan
import Blockwise.Proofs.Document.Frames

namespace Blockwise

/-! ### Sketches -/

/-- The open blocks of a scan, innermost first, with the texts that are finished, the text
    that is waiting to become a leaf, and how many sources there are. -/
structure Sketch where
  frames : List Frame
  inner : Text
  run : Text
  sources : Nat
  previous : Option Char
  rest : Text

namespace Sketch

/-- The rendered file that a reference names, and the number of sources it brings in, which
    may be too many behind those that are there. -/
abbrev Fetch := (count : Nat) → Inclusion → (reference : Text) → Except Failure (Text × Nat)

/-- The sketch before its first step. -/
def start (text : Text) : Sketch := ⟨[], [], [], 1, none, text⟩

/-- The sketch behind `count` more characters. -/
def advance (s : Sketch) (count : Nat) : Sketch :=
  { s with
    previous := (s.rest.take count).getLast?.or s.previous
    rest := s.rest.drop count }

/-- A character waits to become part of a leaf. -/
def read (s : Sketch) : Sketch := { s.advance 1 with run := s.run ++ s.rest.take 1 }

/-- The waiting text becomes a leaf. -/
def flush (s : Sketch) : Sketch := { s with inner := s.inner ++ s.run, run := [] }

/-- A block opens with its tag. -/
def enter (s : Sketch) (type : BlockType) : Sketch :=
  { s.advance type.openTag.length with
    frames := ⟨type, s.inner⟩ :: s.frames
    inner := [] }

/-- An include holds the file that it names. -/
def follow (fetch : Fetch) (s : Sketch) (type : BlockType) : Except Failure Sketch :=
  match type.inclusion? with
  | none => .ok s
  | some settings => do
    let (inner, count) ← fetch s.sources settings s.inner
    return { s with inner, sources := s.sources + count }

/-- The innermost block closes with its tag. -/
def leave (s : Sketch) (type : BlockType) : Sketch :=
  { s.advance type.closeTag.length with
    frames := s.frames.tail
    inner := (s.frames.head?.map Frame.before).getD [] ++ type.enclose s.inner }

/-- The type of the block that opens here. -/
def opening? (interpreter : Interpreter) (s : Sketch) : Option BlockType :=
  if s.frames.head?.any fun frame => frame.type.flags.forbidNewOpenings then none
  else interpreter.types.find? fun type => type.opensBetween s.previous s.rest

/-- The type of the innermost block, if it closes here. -/
def closing? (s : Sketch) : Option BlockType :=
  (s.frames.head?.map Frame.type).filter fun type => type.closesBetween s.previous s.rest

/-- One step, as the scan loop takes it. -/
def next (interpreter : Interpreter) (fetch : Fetch) (s : Sketch) : Except Failure Sketch :=
  match s.opening? interpreter with
  | some type => .ok (s.flush.enter type)
  | none =>
    match s.closing? with
    | some type => (s.flush.follow fetch type).map (·.leave type)
    | none => .ok s.read

/-- The text that is rendered at the end of input, where comments alone may be open. -/
def text (s : Sketch) : Text :=
  match s.frames.getLast? with
  | none => s.inner ++ s.run
  | some frame => frame.before

/-- The innermost block closes here, and none opens. -/
structure Closes (interpreter : Interpreter) (s : Sketch) (type : BlockType) : Prop where
  rest : s.rest ≠ []
  opening : s.opening? interpreter = none
  closing : s.closing? = some type

/-- The types that have been opened can be opened. -/
def Known (interpreter : Interpreter) (s : Sketch) : Prop :=
  ∀ frame ∈ s.frames, frame.type ∈ interpreter.types

section

variable {interpreter : Interpreter} {fetch : Fetch}

/-- One step before the end of input. -/
def Step (interpreter : Interpreter) (fetch : Fetch) (s s' : Sketch) : Prop :=
  s.rest ≠ [] ∧ s.next interpreter fetch = .ok s'

/-- Any number of steps. -/
def Steps (interpreter : Interpreter) (fetch : Fetch) : Sketch → Sketch → Prop :=
  Relation.ReflTransGen (Step interpreter fetch)

theorem step_unique : Relator.RightUnique (Step interpreter fetch) := by
  rintro s s' s'' ⟨-, h⟩ ⟨-, h'⟩
  exact Except.ok.inj (h.symm.trans h')

theorem follow_eq_ok {s s' : Sketch} {type : BlockType} (h : s.follow fetch type = .ok s') :
    ∃ inner sources, s' = { s with inner, sources } := by
  unfold follow at h
  split at h
  · cases h
    exact ⟨s.inner, s.sources, rfl⟩
  · obtain ⟨⟨inner, count⟩, -, hret⟩ := bind_eq_ok_iff.1 h
    cases hret
    exact ⟨inner, s.sources + count, rfl⟩

section Types

variable {s s' : Sketch}

theorem opening?_eq_some {type : BlockType} (h : s.opening? interpreter = some type) :
    interpreter.types.find? (fun type => type.opensBetween s.previous s.rest) = some type ∧
      ∀ frame ∈ s.frames.head?, frame.type.flags.forbidNewOpenings = false := by
  unfold opening? at h
  split at h
  · cases h
  · next hallowed =>
    refine ⟨h, fun frame hframe => ?_⟩
    rw [Option.mem_def] at hframe
    simpa [hframe] using hallowed

theorem opening?_mem {type : BlockType} (h : s.opening? interpreter = some type) :
    type ∈ interpreter.types ∧ type.opensBetween s.previous s.rest = true := by
  have hfind := (opening?_eq_some h).1
  have hopens := List.find?_some hfind
  exact ⟨List.mem_of_find?_eq_some hfind, hopens⟩

theorem opening?_eq_none (h : s.opening? interpreter = none) :
    (∃ frame ∈ s.frames.head?, frame.type.flags.forbidNewOpenings = true) ∨
      ∀ type ∈ interpreter.types, type.opensBetween s.previous s.rest = false := by
  unfold opening? at h
  split at h
  · next hforbidden => exact Or.inl ((Option.any_eq_true _ _).1 hforbidden)
  · exact Or.inr (by simpa using h)

theorem closing?_eq_some {type : BlockType} (h : s.closing? = some type) :
    ∃ frame outer, s.frames = frame :: outer ∧ frame.type = type ∧
      type.closesBetween s.previous s.rest = true := by
  obtain ⟨hhead, hcloses⟩ := Option.filter_eq_some_iff.1 h
  obtain ⟨frame, hframe, rfl⟩ := Option.map_eq_some_iff.1 hhead
  obtain ⟨outer, houter⟩ := List.head?_eq_some_iff.1 hframe
  exact ⟨frame, outer, houter, rfl, hcloses⟩

theorem closing?_eq_none (h : s.closing? = none) :
    ∀ frame ∈ s.frames.head?, frame.type.closesBetween s.previous s.rest = false := by
  intro frame hframe
  rw [Option.mem_def] at hframe
  unfold closing? at h
  simpa [hframe] using h

/-- The step, by what it does: a block opens, one closes, or a character is read. -/
theorem Step.cases (h : Step interpreter fetch s s') :
    (∃ type, s.opening? interpreter = some type ∧ s' = s.flush.enter type) ∨
    (∃ type followed, s.opening? interpreter = none ∧ s.closing? = some type ∧
      s.flush.follow fetch type = .ok followed ∧ s' = followed.leave type) ∨
    s.opening? interpreter = none ∧ s.closing? = none ∧ s' = s.read := by
  obtain ⟨-, h⟩ := h
  unfold next at h
  cases hopening : s.opening? interpreter with
  | some type =>
    simp only [hopening, Except.ok.injEq] at h
    exact Or.inl ⟨type, rfl, h.symm⟩
  | none =>
    cases hclosing : s.closing? with
    | some type =>
      simp only [hopening, hclosing] at h
      cases hfollow : s.flush.follow fetch type with
      | error cause =>
        rw [hfollow] at h
        cases h
      | ok followed =>
        rw [hfollow] at h
        cases h
        exact Or.inr (Or.inl ⟨type, followed, rfl, rfl, hfollow, rfl⟩)
    | none =>
      simp only [hopening, hclosing, Except.ok.injEq] at h
      exact Or.inr (Or.inr ⟨rfl, rfl, h.symm⟩)

theorem known_start (text : Text) : (start text).Known interpreter :=
  fun _ hframe => absurd hframe List.not_mem_nil

theorem Step.known (h : Step interpreter fetch s s') (hknown : s.Known interpreter) :
    s'.Known interpreter := by
  rcases h.cases with ⟨type, hopening, rfl⟩ | ⟨type, followed, -, -, hfollow, rfl⟩ | ⟨-, -, rfl⟩
  · exact List.forall_mem_cons.2 ⟨(opening?_mem hopening).1, hknown⟩
  · obtain ⟨inner, sources, rfl⟩ := follow_eq_ok hfollow
    exact fun frame hframe => hknown frame (List.mem_of_mem_tail hframe)
  · exact hknown

theorem Steps.known (h : Steps interpreter fetch s s') (hknown : s.Known interpreter) :
    s'.Known interpreter := by
  induction h with
  | refl => exact hknown
  | tail _ hstep ih => exact hstep.known ih

end Types

/-- Of two sketches that steps come to, one is on the way to the other. -/
theorem Steps.total {s s' s'' : Sketch} (h : Steps interpreter fetch s s')
    (h' : Steps interpreter fetch s s'') :
    Steps interpreter fetch s' s'' ∨ Steps interpreter fetch s'' s' :=
  Relation.ReflTransGen.total_of_right_unique step_unique h h'

/-- No step is taken at the end of input, nor where one fails. -/
def Stuck (interpreter : Interpreter) (fetch : Fetch) (s : Sketch) : Prop :=
  ∀ s', ¬ Step interpreter fetch s s'

theorem Stuck.eq {s s' : Sketch} (h : s.Stuck interpreter fetch)
    (hsteps : Steps interpreter fetch s s') : s' = s := by
  rcases Relation.ReflTransGen.cases_head hsteps with rfl | ⟨_, hstep, -⟩
  · rfl
  · exact absurd hstep (h _)

/-- What steps come to is on the way to their end. -/
theorem Stuck.steps {s s' s'' : Sketch} (h : s'.Stuck interpreter fetch)
    (hsteps : Steps interpreter fetch s s') (hsteps' : Steps interpreter fetch s s'') :
    Steps interpreter fetch s'' s' := by
  rcases hsteps'.total hsteps with hon | hback
  · exact hon
  · rw [h.eq hback]
    exact .refl

/-- **Steps come to one end.** -/
theorem Steps.unique {s s' s'' : Sketch} (h : Steps interpreter fetch s s')
    (h' : Steps interpreter fetch s s'') (hstuck : s'.Stuck interpreter fetch)
    (hstuck' : s''.Stuck interpreter fetch) : s' = s'' := by
  exact (hstuck.eq (hstuck'.steps h' h)).symm

/-- What rendering comes to where the steps end. -/
inductive Ends (interpreter : Interpreter) (fetch : Fetch) (s : Sketch) :
    Except Failure Text → Prop
  | failed {cause} : s.rest ≠ [] → s.next interpreter fetch = .error cause →
      Ends interpreter fetch s (.error cause)
  | accepted : s.rest = [] → (∀ frame ∈ s.frames, frame.type.flags.closeableByEof = true) →
      Ends interpreter fetch s (.ok s.text)
  | unterminated {label doc} : s.rest = [] →
      (¬ ∀ frame ∈ s.frames, frame.type.flags.closeableByEof = true) →
      Ends interpreter fetch s (.error (.unterminated label doc))

theorem Ends.stuck {s : Sketch} {outcome : Except Failure Text}
    (h : s.Ends interpreter fetch outcome) : s.Stuck interpreter fetch := by
  rintro s' ⟨hrest, hnext⟩
  cases h with
  | failed _ hcause => cases hcause.symm.trans hnext
  | accepted hnil => exact hrest hnil
  | unterminated hnil => exact hrest hnil

end

end Sketch

end Blockwise
