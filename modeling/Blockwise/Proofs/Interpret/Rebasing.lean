/-
  Blockwise/Proofs/Interpret/Rebasing.lean
  ========================================
  **Moving the base directory.**  An interpreter that is moved to a directory has that
  directory in all its include types, and so has every interpreter that is nested in it;
  nothing else is different (`Interpreter.Rebased`), so only the last move counts.

  The interpreters that scan a source and the files below it are nested in the one that
  starts.  So all requests of a moved interpreter are made by include types that have the
  directory, and their paths are below it, or begin at the root (`Request.IsBelow`).
-/
import Blockwise.Proofs.Interpret.Lookups

namespace Blockwise

/-! ### What is moved -/

theorem rebaseTypes_eq_map (dir : Path) (types : List BlockType) :
    rebaseTypes dir types = types.map (BlockType.rebase dir) := by
  induction types with
  | nil => rfl
  | cons type types ih => rw [rebaseTypes, ih, List.map_cons]

theorem Interpreter.types_withBaseDir (dir : Path) (interpreter : Interpreter) :
    (interpreter.withBaseDir dir).types = interpreter.types.map (BlockType.rebase dir) := by
  obtain ⟨types, selfCloseSkip, reader⟩ := interpreter
  exact rebaseTypes_eq_map dir types

theorem BlockType.inclusion?_rebase (dir : Path) (type : BlockType) :
    (type.rebase dir).inclusion? = type.inclusion?.map (Inclusion.rebase dir) := by
  obtain ⟨name, kind, flags, escape⟩ := type
  cases kind <;> rfl

theorem Inclusion.rebase_eq (dir : Path) (settings : Inclusion) :
    settings.rebase dir =
      ⟨settings.delimiters, some dir, settings.extension,
        settings.override.map (Interpreter.withBaseDir dir)⟩ := by
  obtain ⟨delimiters, baseDir, extension, override⟩ := settings
  cases override <;> rfl

theorem inclusion?_rebase_eq_some {dir : Path} {type : BlockType} {moved : Inclusion}
    (h : (type.rebase dir).inclusion? = some moved) :
    ∃ settings, type.inclusion? = some settings ∧ moved.baseDir = some dir ∧
      moved.override = settings.override.map (Interpreter.withBaseDir dir) := by
  rw [BlockType.inclusion?_rebase, Option.map_eq_some_iff] at h
  obtain ⟨settings, hsettings, rfl⟩ := h
  rw [Inclusion.rebase_eq]
  exact ⟨settings, hsettings, rfl, rfl⟩

/-- The interpreters within a moved one are those within it, moved. -/
theorem Interpreter.Within.of_withBaseDir {dir : Path} {interpreter moved : Interpreter}
    (h : (interpreter.withBaseDir dir).Within moved) :
    ∃ inner, interpreter.Within inner ∧ inner.withBaseDir dir = moved := by
  induction h with
  | refl => exact ⟨interpreter, .refl, rfl⟩
  | step _ htype hsettings ih =>
    obtain ⟨inner, hwithin, rfl⟩ := ih
    rw [types_withBaseDir, List.mem_map] at htype
    obtain ⟨type, htype, rfl⟩ := htype
    obtain ⟨settings, hown, -, hoverride⟩ := inclusion?_rebase_eq_some hsettings
    refine ⟨settings.override.getD inner, hwithin.step htype hown, ?_⟩
    rw [hoverride]
    cases settings.override <;> rfl

/-! ### Nested interpreters -/

/-- What a type has apart from a base directory and an interpreter of its own. -/
def BlockType.bare (type : BlockType) : BlockType :=
  { type with
    kind := match type.kind with
      | .inclusion settings => .inclusion { settings with baseDir := none, override := none }
      | kind => kind }

namespace Interpreter

/-- The interpreter that is come to by going, again and again, into that of the include type
    at a place. -/
def level? (interpreter : Interpreter) : (places : List Nat) → Option Interpreter
  | [] => some interpreter
  | place :: places => do
    let type ← interpreter.types[place]?
    let settings ← type.inclusion?
    let inner ← settings.override
    inner.level? places

/-- The second interpreter is the first one, moved to a directory. -/
structure Rebased (dir : Path) (before after : Interpreter) : Prop where
  /-- All include types have the directory. -/
  baseDir : ∀ type ∈ after.types, ∀ settings, type.inclusion? = some settings →
    settings.baseDir = some dir
  /-- Nothing else of the types is different, and neither is their order. -/
  types : after.types.map BlockType.bare = before.types.map BlockType.bare
  selfCloseSkip : after.selfCloseSkip = before.selfCloseSkip
  reader : after.reader = before.reader

variable {interpreter inner : Interpreter}

theorem level?_append (interpreter : Interpreter) (places more : List Nat) :
    interpreter.level? (places ++ more) = interpreter.level? places >>= (·.level? more) := by
  induction places generalizing interpreter with
  | nil => rfl
  | cons place places ih => simp only [List.cons_append, level?, ih, bind_assoc]

theorem Within.exists_level (h : interpreter.Within inner) :
    ∃ places, interpreter.level? places = some inner := by
  induction h with
  | refl => exact ⟨[], rfl⟩
  | @step middle type settings _ htype hinc ih =>
    obtain ⟨places, hplaces⟩ := ih
    obtain ⟨place, hplace⟩ := List.getElem?_of_mem htype
    cases hover : settings.override with
    | none => exact ⟨places, hplaces⟩
    | some inner =>
      refine ⟨places ++ [place], ?_⟩
      rw [level?_append, hplaces]
      simp [level?, hplace, hinc, hover]

theorem level?_withBaseDir (dir : Path) (interpreter : Interpreter) (places : List Nat) :
    (interpreter.withBaseDir dir).level? places =
      (interpreter.level? places).map (withBaseDir dir) := by
  induction places generalizing interpreter with
  | nil => rfl
  | cons place places ih =>
    rw [level?, level?, types_withBaseDir, List.getElem?_map]
    cases interpreter.types[place]? with
    | none => rfl
    | some type =>
      simp only [Option.map_some, Option.bind_eq_bind, Option.bind_some,
        BlockType.inclusion?_rebase]
      cases type.inclusion? with
      | none => rfl
      | some settings =>
        simp only [Option.map_some, Option.bind_some, Inclusion.rebase_eq]
        cases settings.override with
        | none => rfl
        | some inner => exact ih inner

end Interpreter

theorem BlockType.bare_rebase (dir : Path) (type : BlockType) :
    (type.rebase dir).bare = type.bare := by
  obtain ⟨name, kind, flags, escape⟩ := type
  cases kind with
  | inclusion settings => rw [rebase, Kind.rebase, bare, bare, Inclusion.rebase_eq]
  | plain => rfl
  | delimited tags => rfl
  | comment tags => rfl

theorem Interpreter.rebased_withBaseDir (dir : Path) (interpreter : Interpreter) :
    interpreter.Rebased dir (interpreter.withBaseDir dir) := by
  have htypes := interpreter.types_withBaseDir dir
  obtain ⟨types, selfCloseSkip, reader⟩ := interpreter
  refine ⟨?_, ?_, rfl, rfl⟩
  · intro moved hmoved settings hinc
    rw [htypes, List.mem_map] at hmoved
    obtain ⟨type, -, rfl⟩ := hmoved
    obtain ⟨-, -, hdir, -⟩ := inclusion?_rebase_eq_some hinc
    exact hdir
  · rw [htypes, List.map_map]
    exact List.map_congr_left fun type _ => type.bare_rebase dir

mutual

theorem Interpreter.withBaseDir_withBaseDir (first second : Path) (interpreter : Interpreter) :
    (interpreter.withBaseDir first).withBaseDir second = interpreter.withBaseDir second := by
  obtain ⟨types, selfCloseSkip, reader⟩ := interpreter
  simp only [Interpreter.withBaseDir, rebaseTypes_rebaseTypes first second types]

theorem rebaseTypes_rebaseTypes (first second : Path) (types : List BlockType) :
    rebaseTypes second (rebaseTypes first types) = rebaseTypes second types := by
  cases types with
  | nil => rfl
  | cons type types =>
    simp only [rebaseTypes, BlockType.rebase_rebase first second type,
      rebaseTypes_rebaseTypes first second types]

theorem BlockType.rebase_rebase (first second : Path) (type : BlockType) :
    (type.rebase first).rebase second = type.rebase second := by
  obtain ⟨name, kind, flags, escape⟩ := type
  simp only [BlockType.rebase, Kind.rebase_rebase first second kind]

theorem Kind.rebase_rebase (first second : Path) (kind : Kind) :
    (kind.rebase first).rebase second = kind.rebase second := by
  cases kind with
  | plain => rfl
  | delimited tags => rfl
  | comment tags => rfl
  | inclusion settings =>
    simp only [Kind.rebase, Inclusion.rebase_rebase first second settings]

theorem Inclusion.rebase_rebase (first second : Path) (settings : Inclusion) :
    (settings.rebase first).rebase second = settings.rebase second := by
  obtain ⟨delimiters, baseDir, extension, override⟩ := settings
  simp only [Inclusion.rebase, rebaseOverride_rebaseOverride first second override]

theorem rebaseOverride_rebaseOverride (first second : Path) (override : Option Interpreter) :
    rebaseOverride second (rebaseOverride first override) = rebaseOverride second override := by
  cases override with
  | none => rfl
  | some interpreter =>
    simp only [rebaseOverride, Interpreter.withBaseDir_withBaseDir first second interpreter]

end

/-! ### What is looked for -/

namespace Request

/-- An include type of an interpreter that is nested in the moved one, at whatever level,
    asks for the file.  The path is the trimmed and extended reference, or is made of the
    directory and the parts of the trimmed and extended reference. -/
structure IsBelow (moved : Interpreter) (dir : Path) (request : Request) : Prop where
  level : ∃ places, moved.level? places = some request.looker
  type : ∃ type ∈ request.looker.types, type.inclusion? = some request.settings
  path : Path.NamedBelow dir request.settings.extension request.reference request.path

end Request

namespace Interpreter

open Scan

/-- While the source is interpreted, files are looked for below the directory, or from the
    root, and nowhere else. -/
structure LooksBelow (disk : Disk) (moved : Interpreter) (dir : Path) (source : Source)
    (work : Traced Failure Document) : Prop where
  lookups : moved.LooksUp disk source work
  below : ∀ request, Requested disk moved source request → request.IsBelow moved dir

theorem isBelow_of_requested {disk : Disk} {interpreter : Interpreter} {dir : Path}
    {source : Source} {request : Request}
    (h : Requested disk (interpreter.withBaseDir dir) source request) :
    request.IsBelow (interpreter.withBaseDir dir) dir := by
  obtain ⟨hwithin, type, htype, hinc⟩ := h.within
  refine ⟨hwithin.exists_level, ⟨type, htype, hinc⟩, ?_⟩
  obtain ⟨own, -, howner⟩ := hwithin.of_withBaseDir
  have hdir : request.settings.baseDir = some dir := by
    rw [← howner] at htype
    exact (own.rebased_withBaseDir dir).baseDir type htype _ hinc
  rw [Path.namedBelow_iff, Request.path, Inclusion.resolve, hdir]

theorem interpretSource_looksBelow {guard : Guard} {disk : Disk} {depth : Nat}
    {interpreter : Interpreter} {dir : Path} {chain : List Path} {source : Source} :
    (interpreter.withBaseDir dir).LooksBelow disk dir source
      (interpretSource guard disk depth (interpreter.withBaseDir dir) chain source) :=
  ⟨interpretSource_looksUp, fun _ h => isBelow_of_requested h⟩

/-- **Moving the base directory reaches every include and nothing else.**  It does so at
    every level of nested interpreters, and the last move counts.  What a moved interpreter
    looks for while it interprets a text or a file, at any depth of includes, is below the
    directory, or begins at the root. -/
theorem withBaseDir_reaches_includes (interpreter : Interpreter) (dir : Path) :
    (∀ places, Option.Rel (Rebased dir) (interpreter.level? places)
      ((interpreter.withBaseDir dir).level? places)) ∧
    (∀ first, (interpreter.withBaseDir first).withBaseDir dir = interpreter.withBaseDir dir) ∧
    (∀ disk text, (interpreter.withBaseDir dir).LooksBelow disk dir ⟨none, text⟩
      ((interpreter.withBaseDir dir).interpret disk text)) ∧
    ∀ disk path, (∃ cause, (interpreter.withBaseDir dir).reader.read disk path = .error cause ∧
        (interpreter.withBaseDir dir).interpretFile disk path =
          .fail (.unreadableSource path cause)) ∨
      ∃ text, (interpreter.withBaseDir dir).reader.read disk path = .ok text ∧
        (interpreter.withBaseDir dir).LooksBelow disk dir ⟨some path, text⟩
          ((interpreter.withBaseDir dir).interpretFile disk path) := by
  refine ⟨?_, fun first => interpreter.withBaseDir_withBaseDir first dir, ?_, ?_⟩
  · intro places
    rw [level?_withBaseDir]
    cases interpreter.level? places with
    | none => exact .none
    | some inner => exact .some (inner.rebased_withBaseDir dir)
  · intro disk text
    exact interpretSource_looksBelow
  · intro disk path
    rcases interpretFile_cases disk (interpreter.withBaseDir dir) path with
      ⟨cause, hread, hfail⟩ | ⟨text, hread, heq⟩
    · exact Or.inl ⟨cause, hread, hfail⟩
    · refine Or.inr ⟨text, hread, ?_⟩
      rw [heq]
      exact interpretSource_looksBelow

/-- An include type with an extension, and one with an interpreter that has files and an
    include type of its own. -/
def sampleLevels : Interpreter :=
  ⟨[.inclusion ['i'] { Inclusion.ofTags ['<'] ['>'] with extension := some ['.', 't'] },
    .inclusion ['j'] { Inclusion.ofTags ['('] [')'] with
      override := some ⟨[.inclusion ['k'] (.ofTags ['<'] ['>'])], 1,
        .memory ⟨[(⟨"b/x/y".toList⟩, "</r>".toList), (⟨"/r".toList⟩, "c".toList)]⟩⟩ }], 1,
    .memory ⟨[(⟨"b/a.t".toList⟩, "(x//y)".toList)]⟩⟩

/-- Three files below one another: the reference to the first is trimmed and extended, that
    to the second has an empty part, and that to the third, which the nested interpreter
    looks for, begins at the root. -/
theorem sampleLevels_reaches_includes :
    ∃ doc, ((sampleLevels.withBaseDir ⟨['b']⟩).interpret ⟨[], []⟩ "<\n a >".toList).result =
        .ok doc ∧
      doc.sources.toList.map Source.path =
        [none, some ⟨"b/a.t".toList⟩, some ⟨"b/x/y".toList⟩, some ⟨"/r".toList⟩] ∧
      ∀ file ∈ doc.sources, file = ⟨none, "<\n a >".toList⟩ ∨ ∃ request : Request,
        request.IsBelow (sampleLevels.withBaseDir ⟨['b']⟩) ⟨['b']⟩ ∧
          request.Brings ⟨[], []⟩ file := by
  obtain ⟨doc, hdoc⟩ := exists_eq_ok (show ((sampleLevels.withBaseDir ⟨['b']⟩).interpret ⟨[], []⟩
    "<\n a >".toList).result.isOk = true by decide +kernel)
  have hpaths : ((sampleLevels.withBaseDir ⟨['b']⟩).interpret ⟨[], []⟩
      "<\n a >".toList).result.toOption.map (fun doc => doc.sources.toList.map Source.path) =
        some [none, some ⟨"b/a.t".toList⟩, some ⟨"b/x/y".toList⟩, some ⟨"/r".toList⟩] := by
    decide +kernel
  rw [hdoc] at hpaths
  refine ⟨doc, hdoc, Option.some.inj hpaths, ?_⟩
  obtain ⟨-, -, htext, -⟩ := withBaseDir_reaches_includes sampleLevels ⟨['b']⟩
  obtain ⟨hlookups, hbelow⟩ := htext ⟨[], []⟩ "<\n a >".toList
  intro file hfile
  refine (hlookups.read doc (Or.inl hdoc) file hfile).imp_right ?_
  rintro ⟨request, hrequested, hbrings⟩
  exact ⟨request, hbelow request hrequested, hbrings⟩

end Interpreter

end Blockwise
