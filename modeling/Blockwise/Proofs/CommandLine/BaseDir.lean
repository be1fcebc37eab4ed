/-
  Blockwise/Proofs/CommandLine/BaseDir.lean
  =========================================
  **Where the command resolves includes.**  Each interpreter that a run can come to was
  built from a configuration: the one that was loaded, or one that an entry of such a
  configuration names (`Traces`).  Without a base directory among the options, an include
  type has the one configured for it as soon as the loaded configuration sets any base
  directory, and the directory of the file otherwise (`prepare_baseDir`).

  The choice is made once, from the loaded configuration alone.  So a type for which no
  base directory is configured has none if another entry sets one, and a nested
  configuration loses its own if the loaded one has none (`prepare_breaks_rule`).
-/
import Blockwise.CommandLine.Run
import Blockwise.Proofs.Config.Building
import Blockwise.Proofs.Interpret.Rebasing

namespace Blockwise

/-! ### Interpreters and the configurations they come from -/

namespace Config

/-- An interpreter within one that was built from a configuration, and the configuration
    that it was built from itself. -/
inductive Traces (env : Environment) (disk : Disk) (config : Config) (interpreter : Interpreter) :
    Config → Interpreter → Prop
  | refl : Traces env disk config interpreter config interpreter
  | step {owner sub : Config} {middle inner : Interpreter} {entry : BlockEntry}
      {type : BlockType} {settings : Inclusion} {named : Path} :
      Traces env disk config interpreter owner middle →
      (entry, type) ∈ owner.entries.zip middle.types →
      type.inclusion? = some settings → settings.override = some inner →
      entry.subinterpreter = some named →
      load env disk (owner.subPath named) = .ok (some sub) →
      Traces env disk config interpreter sub inner

variable {guard : Guard} {env : Environment} {disk : Disk} {depth : Nat} {chain : List Path}
  {config owner : Config} {interpreter inner : Interpreter}

/-- Each type of an interpreter comes from the entry at its place. -/
theorem blockType_of_mem_zip
    (h : (buildWithin guard env disk depth chain config).result = .ok interpreter) :
    config.entries.length = interpreter.types.length ∧
      ∃ below, ∀ {entry type}, (entry, type) ∈ config.entries.zip interpreter.types →
        (config.blockType (nestedWithin guard env disk below chain config) entry).result =
          .ok type := by
  cases depth with
  | zero => cases h
  | succ depth =>
    obtain ⟨hlength, hpairs⟩ := List.forall₂_iff_zip.1 (buildWith_eq_ok h)
    exact ⟨hlength, depth, hpairs⟩

/-- What an interpreter is traced to is what it was built from. -/
theorem Traces.built (htraces : config.Traces env disk interpreter owner inner)
    (h : (buildWithin guard env disk depth chain config).result = .ok interpreter) :
    ∃ depth chain, (buildWithin guard env disk depth chain owner).result = .ok inner := by
  induction htraces with
  | refl => exact ⟨depth, chain, h⟩
  | step _ hpair hsettings hinner hnamed hload ih =>
    obtain ⟨depth, chain, hbuilt⟩ := ih
    obtain ⟨-, below, hpairs⟩ := blockType_of_mem_zip hbuilt
    obtain ⟨-, hoverride⟩ := blockType_inclusion (hpairs hpair) hsettings
    obtain ⟨named, hnamed', hnested⟩ := hoverride _ hinner
    cases hnamed.symm.trans hnamed'
    obtain ⟨sub, hload', hsub⟩ := nestedWithin_eq_ok hnested
    cases hload.symm.trans hload'
    exact ⟨below, _, hsub⟩

/-- An include type has the base directory of its entry, or else of its configuration. -/
theorem Traces.baseDir (htraces : config.Traces env disk interpreter owner inner)
    (h : (buildWithin guard env disk depth chain config).result = .ok interpreter) :
    owner.entries.length = inner.types.length ∧
      ∀ entry type settings, (entry, type) ∈ owner.entries.zip inner.types →
        type.inclusion? = some settings → settings.baseDir = entry.baseDir.or owner.baseDir := by
  obtain ⟨depth, chain, hbuilt⟩ := htraces.built h
  obtain ⟨hlength, below, hpairs⟩ := blockType_of_mem_zip hbuilt
  refine ⟨hlength, ?_⟩
  intro entry type settings hpair hsettings
  exact (blockType_inclusion (hpairs hpair) hsettings).1

/-- Every interpreter within one that was built is traced to some configuration. -/
theorem exists_traces (hwithin : interpreter.Within inner)
    (h : (buildWithin guard env disk depth chain config).result = .ok interpreter) :
    ∃ owner, config.Traces env disk interpreter owner inner := by
  induction hwithin with
  | refl => exact ⟨config, .refl⟩
  | @step middle type settings _ htype hsettings ih =>
    obtain ⟨owner, htraces⟩ := ih
    cases hinner : settings.override with
    | none => exact ⟨owner, htraces⟩
    | some inner =>
      obtain ⟨depth, chain, hbuilt⟩ := htraces.built h
      obtain ⟨hlength, below, hpairs⟩ := blockType_of_mem_zip hbuilt
      rw [← List.map_snd_zip (Nat.le_of_eq hlength.symm)] at htype
      obtain ⟨⟨entry, type⟩, hpair, rfl⟩ := List.mem_map.1 htype
      obtain ⟨-, hoverride⟩ := blockType_inclusion (hpairs hpair) hsettings
      obtain ⟨named, hnamed, hnested⟩ := hoverride _ hinner
      obtain ⟨sub, hload, -⟩ := nestedWithin_eq_ok hnested
      exact ⟨sub, htraces.step hpair hsettings hinner hnamed hload⟩

end Config

/-! ### Moving the base directory -/

theorem mem_zip_withBaseDir {dir : Path} {entries : List BlockEntry} {interpreter : Interpreter}
    {entry : BlockEntry} {moved : BlockType} :
    (entry, moved) ∈ entries.zip (interpreter.withBaseDir dir).types ↔
      ∃ type, (entry, type) ∈ entries.zip interpreter.types ∧ type.rebase dir = moved := by
  rw [Interpreter.types_withBaseDir, List.zip_map_right, List.mem_map]
  constructor
  · rintro ⟨⟨entry, type⟩, hpair, hmoved⟩
    cases hmoved
    exact ⟨type, hpair, rfl⟩
  · rintro ⟨type, hpair, rfl⟩
    exact ⟨(entry, type), hpair, rfl⟩

namespace Config

variable {env : Environment} {disk : Disk} {config owner : Config} {interpreter : Interpreter}

theorem Traces.of_withBaseDir {dir : Path} {moved : Interpreter}
    (h : config.Traces env disk (interpreter.withBaseDir dir) owner moved) :
    ∃ inner, config.Traces env disk interpreter owner inner ∧ inner.withBaseDir dir = moved := by
  induction h with
  | refl => exact ⟨interpreter, .refl, rfl⟩
  | step _ hmoved hsettings hinner hnamed hload ih =>
    obtain ⟨middle, htraces, rfl⟩ := ih
    obtain ⟨type, hpair, rfl⟩ := mem_zip_withBaseDir.1 hmoved
    obtain ⟨settings, hown, -, hoverride⟩ := inclusion?_rebase_eq_some hsettings
    rw [hoverride, Option.map_eq_some_iff] at hinner
    obtain ⟨inner, hinner, rfl⟩ := hinner
    exact ⟨inner, htraces.step hpair hown hinner hnamed hload, rfl⟩

theorem Traces.withBaseDir (dir : Path) {inner : Interpreter}
    (h : config.Traces env disk interpreter owner inner) :
    config.Traces env disk (interpreter.withBaseDir dir) owner (inner.withBaseDir dir) := by
  induction h with
  | refl => exact .refl
  | @step _ _ _ _ _ type settings _ _ hpair hsettings hinner hnamed hload ih =>
    have hmoved : (type.rebase dir).inclusion? = some (settings.rebase dir) := by
      rw [BlockType.inclusion?_rebase, hsettings, Option.map_some]
    refine ih.step (mem_zip_withBaseDir.2 ⟨type, hpair, rfl⟩) hmoved ?_ hnamed hload
    rw [Inclusion.rebase_eq, hinner, Option.map_some]

end Config

/-! ### The interpreter of a run -/

namespace CommandLine

/-- The directory of a file, from the root. -/
def directoryOf (disk : Disk) (file : Path) : Path :=
  Path.absoluteFrom (Disk.pathOf disk.workingDir)
    (match file.parent? with
      | some parent => if parent.spelling = [] then ⟨['.']⟩ else parent
      | none => ⟨['.']⟩)

theorem prepare_eq_ok {env : Environment} {disk : Disk} {options : Options} {file : Path}
    {interpreter : Interpreter} (hoption : options.baseDir = none)
    (h : prepare env disk options file = .ok interpreter) :
    ∃ config built, loadConfig env disk options.config = .ok config ∧
      (config.interpreter env disk).result = .ok built ∧
      interpreter =
        if config.hasBaseDir then built else built.withBaseDir (directoryOf disk file) := by
  obtain ⟨config, hconfig, h⟩ := bind_eq_ok_iff.1 h
  obtain ⟨built, hbuilt, hret⟩ := bind_eq_ok_iff.1 h
  cases hret
  refine ⟨config, built, hconfig, ?_, ?_⟩
  · cases hresult : (config.interpreter env disk).result with
    | error cause =>
      rw [hresult] at hbuilt
      cases hbuilt
    | ok result =>
      rw [hresult] at hbuilt
      cases hbuilt
      rfl
  · rw [rebase, hoption]
    rfl

/-- Without a base directory among the options, an include type has the one that its entry
    or its configuration sets if the loaded configuration sets any, and the directory of
    the file if it does not.  It has the one that is configured for it, or else the
    directory of the file, in just those cases where the two agree. -/
theorem prepare_baseDir {env : Environment} {disk : Disk} {options : Options} {file : Path}
    {interpreter : Interpreter} (hoption : options.baseDir = none)
    (h : prepare env disk options file = .ok interpreter) :
    ∃ config, loadConfig env disk options.config = .ok config ∧
      (∀ inner, interpreter.Within inner →
        ∃ owner, config.Traces env disk interpreter owner inner) ∧
      ∀ owner inner, config.Traces env disk interpreter owner inner →
        owner.entries.length = inner.types.length ∧
        ∀ entry type settings, (entry, type) ∈ owner.entries.zip inner.types →
          type.inclusion? = some settings →
          settings.baseDir = (if config.hasBaseDir then entry.baseDir.or owner.baseDir
            else some (directoryOf disk file)) ∧
          (settings.baseDir = (entry.baseDir.or owner.baseDir).or (directoryOf disk file) ↔
            if config.hasBaseDir then (entry.baseDir.or owner.baseDir).isSome
            else ∀ dir ∈ entry.baseDir.or owner.baseDir, dir = directoryOf disk file) := by
  obtain ⟨config, built, hconfig, hbuilt, rfl⟩ := prepare_eq_ok hoption h
  refine ⟨config, hconfig, ?_⟩
  by_cases hbase : config.hasBaseDir = true
  · simp only [hbase, if_true]
    refine ⟨fun inner hwithin => Config.exists_traces hwithin hbuilt, ?_⟩
    intro owner inner htraces
    obtain ⟨hlength, hdirs⟩ := htraces.baseDir hbuilt
    refine ⟨hlength, fun entry type settings hpair hsettings => ?_⟩
    have hdir := hdirs entry type settings hpair hsettings
    refine ⟨hdir, ?_⟩
    rw [hdir]
    cases entry.baseDir.or owner.baseDir <;> simp
  · simp only [hbase, Bool.false_eq_true, if_false]
    constructor
    · intro moved hmoved
      obtain ⟨inner, hwithin, rfl⟩ := hmoved.of_withBaseDir
      obtain ⟨owner, htraces⟩ := Config.exists_traces hwithin hbuilt
      exact ⟨owner, htraces.withBaseDir _⟩
    · intro owner moved hmoved
      obtain ⟨inner, htraces, rfl⟩ := hmoved.of_withBaseDir
      obtain ⟨hlength, -⟩ := htraces.baseDir hbuilt
      refine ⟨by rw [hlength, Interpreter.types_withBaseDir, List.length_map], ?_⟩
      intro entry type settings hpair hsettings
      obtain ⟨own, -, rfl⟩ := mem_zip_withBaseDir.1 hpair
      obtain ⟨-, -, hdir, -⟩ := inclusion?_rebase_eq_some hsettings
      refine ⟨hdir, ?_⟩
      rw [hdir]
      cases entry.baseDir.or owner.baseDir <;> simp [eq_comm]

/-- A disk with a configuration, and another one beside it. -/
def sampleDisk (config sub : List BlockEntry) : Disk where
  workingDir := ["w".toList]
  entries := [
    (["w".toList], .directory),
    (["w".toList, "c.toml".toList], .file (.text (Config.write { blocks := config }))),
    (["w".toList, "s.toml".toList], .file (.text (Config.write { blocks := sub })))]

def sampleInclude (baseDir subinterpreter : Option Path) : BlockEntry :=
  { name := "i".toList, kind := .inclusion, openTag := "<".toList, closeTag := some ">".toList,
    baseDir, subinterpreter }

def sampleRemark (baseDir : Option Path) : BlockEntry :=
  { name := "c".toList, kind := .comment, openTag := "%".toList, baseDir }

/-- The interpreter of a run on a file in another directory. -/
def samplePrepared (config sub : List BlockEntry) : Except RunError Interpreter :=
  prepare ⟨[], none⟩ (sampleDisk config sub) { config := some ⟨"c.toml".toList⟩ }
    ⟨"docs/main.txt".toList⟩

/-- The base directories of the include types of an interpreter, followed by those of the
    interpreters that they carry. -/
def baseDirs (interpreter : Interpreter) : List (Option Path) :=
  let settings := interpreter.types.filterMap BlockType.inclusion?
  settings.map Inclusion.baseDir ++
    settings.flatMap fun own => match own.override with
      | some inner => (inner.types.filterMap BlockType.inclusion?).map Inclusion.baseDir
      | none => []

theorem samplePrepared_baseDir :
    ∃ interpreter config,
      samplePrepared [sampleInclude none (some ⟨"s.toml".toList⟩)] [sampleRemark none] =
        .ok interpreter ∧
      loadConfig ⟨[], none⟩
          (sampleDisk [sampleInclude none (some ⟨"s.toml".toList⟩)] [sampleRemark none])
          (some ⟨"c.toml".toList⟩) = .ok config ∧
      ∀ inner, interpreter.Within inner → ∃ owner, config.Traces ⟨[], none⟩
        (sampleDisk [sampleInclude none (some ⟨"s.toml".toList⟩)] [sampleRemark none])
        interpreter owner inner := by
  have hprepared : (samplePrepared [sampleInclude none (some ⟨"s.toml".toList⟩)]
      [sampleRemark none]).toBool = true := by decide +kernel
  cases hresult : samplePrepared [sampleInclude none (some ⟨"s.toml".toList⟩)]
    [sampleRemark none] with
  | error cause =>
    rw [hresult] at hprepared
    cases hprepared
  | ok interpreter =>
    obtain ⟨config, hconfig, hwithin, -⟩ := prepare_baseDir rfl hresult
    exact ⟨interpreter, config, rfl, hconfig, hwithin⟩

/-- The rule fails in three ways: an include without a base directory has none because
    another one has, or because a comment has one, and a nested configuration loses its own. -/
theorem prepare_breaks_rule :
    (samplePrepared [sampleInclude (some ⟨"x".toList⟩) none, sampleInclude none none]
        []).toOption.map baseDirs = some [some ⟨"x".toList⟩, none] ∧
      (samplePrepared [sampleRemark (some ⟨"x".toList⟩), sampleInclude none none]
        []).toOption.map baseDirs = some [none] ∧
      (samplePrepared [sampleInclude none (some ⟨"s.toml".toList⟩)]
          [sampleInclude (some ⟨"y".toList⟩) none]).toOption.map baseDirs =
        some [some ⟨"/w/docs".toList⟩, some ⟨"/w/docs".toList⟩] := by
  decide +kernel

end CommandLine

end Blockwise
