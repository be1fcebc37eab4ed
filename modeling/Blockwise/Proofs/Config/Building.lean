/-
  Blockwise/Proofs/Config/Building.lean
  =====================================
  **How a configuration becomes an interpreter.**  Building goes through the entries in
  order and asks for the interpreter of a nested configuration where an entry names one
  (`buildWithin_succ`).  What is built has one type for each entry (`buildWith_eq_ok`), and
  an include type takes its settings from its entry or else from the configuration
  (`blockType_inclusion`).
-/
import Blockwise.Config.Load
import Blockwise.Proofs.Interpret.Draft

namespace Blockwise.Config

/-! ### One level -/

/-- The entries that a configuration is built from. -/
def entries (config : Config) : List BlockEntry :=
  if config.blocks.isEmpty then latexEntries else config.blocks

/-- Builds the interpreter of a configuration from those that its entries name. -/
def buildWith (config : Config) (nested : Path → Traced ConfigError Interpreter) :
    Traced ConfigError Interpreter := do
  let types ← config.entries.mapM (config.blockType nested)
  let interpreter ← .ofExcept ((Interpreter.ofTypes types .disk).mapError .invalidBlock)
  return { interpreter with
    selfCloseSkip := config.selfCloseSkip.getD interpreter.selfCloseSkip }

/-- Builds the interpreter of the configuration that an entry names. -/
def nestedWithin (guard : Guard) (env : Environment) (disk : Disk) (depth : Nat)
    (chain : List Path) (config : Config) (named : Path) : Traced ConfigError Interpreter := do
  let path := config.subPath named
  let key := identity disk path
  if guard = .checked ∧ chain.any (·.same key) then .fail (.cyclicSubinterpreter path)
  else do
    .report (.loadingConfig path)
    match ← .ofExcept (load env disk path) with
    | none => .fail (.missingSubinterpreter path)
    | some sub => buildWithin guard env disk depth (key :: chain) sub

theorem buildWithin_succ (guard : Guard) (env : Environment) (disk : Disk) (depth : Nat)
    (chain : List Path) (config : Config) :
    buildWithin guard env disk (depth + 1) chain config =
      config.buildWith (nestedWithin guard env disk depth chain config) := rfl

theorem result_nestedWithin (guard : Guard) (env : Environment) (disk : Disk) (depth : Nat)
    (chain : List Path) (config : Config) (named : Path) :
    (nestedWithin guard env disk depth chain config named).result =
      if guard = .checked ∧ chain.any (·.same (identity disk (config.subPath named))) then
        .error (.cyclicSubinterpreter (config.subPath named))
      else
        match load env disk (config.subPath named) with
        | .error cause => .error cause
        | .ok none => .error (.missingSubinterpreter (config.subPath named))
        | .ok (some sub) =>
          (buildWithin guard env disk depth (identity disk (config.subPath named) :: chain)
            sub).result := by
  unfold nestedWithin
  dsimp only
  split
  · rfl
  · simp only [Traced.result_bind, Traced.result_report, Traced.result_ofExcept]
    rcases load env disk (config.subPath named) with cause | _ | sub <;> rfl

theorem result_nestedWithin_unchecked (env : Environment) (disk : Disk) (depth : Nat)
    (chain : List Path) (config : Config) (named : Path) :
    (nestedWithin .unchecked env disk depth chain config named).result =
      match load env disk (config.subPath named) with
      | .error cause => .error cause
      | .ok none => .error (.missingSubinterpreter (config.subPath named))
      | .ok (some sub) =>
        (buildWithin .unchecked env disk depth (identity disk (config.subPath named) :: chain)
          sub).result := by
  rw [result_nestedWithin, if_neg (by simp)]

/-- The interpreter that an entry asks for is built from the configuration that is loaded. -/
theorem nestedWithin_eq_ok {guard : Guard} {env : Environment} {disk : Disk} {depth : Nat}
    {chain : List Path} {config : Config} {named : Path} {inner : Interpreter}
    (h : (nestedWithin guard env disk depth chain config named).result = .ok inner) :
    ∃ sub, load env disk (config.subPath named) = .ok (some sub) ∧
      (buildWithin guard env disk depth (identity disk (config.subPath named) :: chain)
        sub).result = .ok inner := by
  rw [result_nestedWithin] at h
  split at h
  · cases h
  · rcases hload : load env disk (config.subPath named) with cause | _ | sub
    · rw [hload] at h
      cases h
    · rw [hload] at h
      cases h
    · rw [hload] at h
      exact ⟨sub, rfl, h⟩

variable {config : Config} {nested : Path → Traced ConfigError Interpreter}

theorem mapM_forall₂ {ε α β : Type} {f : α → Traced ε β} {xs : List α} {ys : List β}
    (h : (xs.mapM f).result = .ok ys) : List.Forall₂ (fun x y => (f x).result = .ok y) xs ys := by
  induction xs generalizing ys with
  | nil =>
    cases h
    exact .nil
  | cons x xs ih =>
    rw [List.mapM_cons, Traced.result_bind, bind_eq_ok_iff] at h
    obtain ⟨y, hy, h⟩ := h
    rw [Traced.result_bind, bind_eq_ok_iff] at h
    obtain ⟨ys, hys, hret⟩ := h
    cases hret
    exact .cons hy (ih hys)

/-- What is built has the types of the entries, in order. -/
theorem buildWith_eq_ok {interpreter : Interpreter}
    (h : (config.buildWith nested).result = .ok interpreter) :
    List.Forall₂ (fun entry type => (config.blockType nested entry).result = .ok type)
      config.entries interpreter.types := by
  rw [buildWith, Traced.result_bind, bind_eq_ok_iff] at h
  obtain ⟨types, htypes, h⟩ := h
  rw [Traced.result_bind, Traced.result_ofExcept, bind_eq_ok_iff] at h
  obtain ⟨base, hbase, hret⟩ := h
  cases hret
  cases haccepted : Interpreter.ofTypes types .disk with
  | error refusal =>
    rw [haccepted] at hbase
    cases hbase
  | ok accepted =>
    rw [haccepted] at hbase
    cases hbase
    obtain ⟨rfl, -⟩ := Interpreter.isValid_of_ofTypes haccepted
    exact mapM_forall₂ htypes

/-! ### One entry -/

/-- The interpreter for included files that an entry asks for. -/
def overrideOf (nested : Path → Traced ConfigError Interpreter) (entry : BlockEntry) :
    Traced ConfigError (Option Interpreter) :=
  match entry.subinterpreter with
  | some named => some <$> nested named
  | none => pure none

/-- The type of an entry before the settings that all kinds share. -/
def baseType (config : Config) (nested : Path → Traced ConfigError Interpreter)
    (entry : BlockEntry) : Traced ConfigError BlockType :=
  match entry.kind with
  | .delimited => do
    let closeTag ← closeTagOf entry
    return BlockType.delimited entry.name entry.openTag closeTag
  | .comment =>
    let line := BlockType.comment entry.name entry.openTag
    pure ((entry.closeTag.map line.withCloseTag).getD line)
  | .inclusion => do
    let closeTag ← closeTagOf entry
    let override ← overrideOf nested entry
    return BlockType.inclusion entry.name
      ⟨{ openTag := entry.openTag, closeTag }, entry.baseDir.or config.baseDir,
        entry.extension.or config.extension, override⟩

theorem blockType_eq (config : Config) (nested : Path → Traced ConfigError Interpreter)
    (entry : BlockEntry) :
    config.blockType nested entry = (do
      reportIgnored entry
      let type ← config.baseType nested entry
      return applySettings entry type) := by
  unfold blockType baseType overrideOf
  cases entry.kind with
  | delimited => simp
  | comment => cases entry.closeTag <;> rfl
  | inclusion => cases entry.subinterpreter <;> simp

theorem setFlag_mk (value : Option Bool) (set : Bool → Flags → Flags) (name : Text) (kind : Kind)
    (flags : Flags) (escape : Option Char) :
    setFlag value set ⟨name, kind, flags, escape⟩ =
      ⟨name, kind, (value.map fun v => set v flags).getD flags, escape⟩ := by
  cases value <;> rfl

/-- The flags of an entry, with others for those that are not set. -/
def flagsOver (entry : BlockEntry) (flags : Flags) : Flags where
  closeImmediately := entry.closeImmediately.getD flags.closeImmediately
  closeableByEof := entry.closeableByEof.getD flags.closeableByEof
  forbidNewOpenings := entry.forbidNewOpenings.getD flags.forbidNewOpenings

/-- An entry replaces what it sets, and leaves the rest of a type as it is. -/
theorem applySettings_mk (entry : BlockEntry) (name : Text) (kind : Kind) (flags : Flags)
    (escape : Option Char) :
    applySettings entry ⟨name, kind, flags, escape⟩ =
      ⟨name,
        if entry.caseSensitive = some true then
          (BlockType.caseSensitive ⟨name, kind, flags, escape⟩).kind else kind,
        flagsOver entry flags, entry.escape.or escape⟩ := by
  have hflags : ∀ cased : Kind, ∀ escape : Option Char,
      setFlag entry.closeImmediately (fun value flags => { flags with closeImmediately := value })
        (setFlag entry.forbidNewOpenings
          (fun value flags => { flags with forbidNewOpenings := value })
          (setFlag entry.closeableByEof (fun value flags => { flags with closeableByEof := value })
            ⟨name, cased, flags, escape⟩)) =
      ⟨name, cased, flagsOver entry flags, escape⟩ := by
    intro cased escape
    rw [setFlag_mk, setFlag_mk, setFlag_mk, flagsOver]
    cases entry.closeImmediately <;> cases entry.forbidNewOpenings <;>
      cases entry.closeableByEof <;> rfl
  unfold applySettings
  by_cases hcase : entry.caseSensitive = some true
  · cases entry.escape <;> simp [hcase, ← hflags, BlockType.caseSensitive,
      BlockType.mapDelimiters, BlockType.withEscape]
  · cases entry.escape <;> simp [hcase, ← hflags, BlockType.withEscape]

theorem inclusion?_applySettings {entry : BlockEntry} {type : BlockType} {settings : Inclusion}
    (h : (applySettings entry type).inclusion? = some settings) :
    ∃ base, type.inclusion? = some base ∧ settings.baseDir = base.baseDir ∧
      settings.override = base.override := by
  obtain ⟨name, kind, flags, escape⟩ := type
  rw [applySettings_mk] at h
  cases kind with
  | plain | delimited _ | comment _ => split at h <;> cases h
  | inclusion base =>
    refine ⟨base, rfl, ?_⟩
    split at h <;> cases h <;> exact ⟨rfl, rfl⟩

theorem overrideOf_eq_ok {entry : BlockEntry} {inner : Interpreter}
    (h : (overrideOf nested entry).result = .ok (some inner)) :
    ∃ named, entry.subinterpreter = some named ∧ (nested named).result = .ok inner := by
  unfold overrideOf at h
  cases hsub : entry.subinterpreter with
  | none =>
    rw [hsub] at h
    cases h
  | some named =>
    rw [hsub] at h
    simp only [map_eq_pure_bind, Traced.result_bind, bind_eq_ok_iff] at h
    obtain ⟨built, hbuilt, hret⟩ := h
    cases hret
    exact ⟨named, rfl, hbuilt⟩

theorem baseType_inclusion {entry : BlockEntry} {type : BlockType} {settings : Inclusion}
    (h : (config.baseType nested entry).result = .ok type)
    (hsettings : type.inclusion? = some settings) :
    settings.baseDir = entry.baseDir.or config.baseDir ∧
      (overrideOf nested entry).result = .ok settings.override := by
  unfold baseType at h
  split at h
  · simp only [Traced.result_bind, bind_eq_ok_iff] at h
    obtain ⟨closeTag, -, hret⟩ := h
    cases hret
    cases hsettings
  · cases h
    cases hclose : entry.closeTag <;> rw [hclose] at hsettings <;> cases hsettings
  · simp only [Traced.result_bind, bind_eq_ok_iff] at h
    obtain ⟨closeTag, -, override, hoverride, hret⟩ := h
    cases hret
    cases hsettings
    exact ⟨rfl, hoverride⟩

/-- The settings of an include type come from its entry or else from the configuration,
    and its interpreter is the one of the configuration that the entry names. -/
theorem blockType_inclusion {entry : BlockEntry} {type : BlockType} {settings : Inclusion}
    (h : (config.blockType nested entry).result = .ok type)
    (hsettings : type.inclusion? = some settings) :
    settings.baseDir = entry.baseDir.or config.baseDir ∧
      ∀ inner, settings.override = some inner →
        ∃ named, entry.subinterpreter = some named ∧ (nested named).result = .ok inner := by
  rw [blockType_eq, Traced.result_bind, bind_eq_ok_iff] at h
  obtain ⟨⟨⟩, -, h⟩ := h
  rw [Traced.result_bind, bind_eq_ok_iff] at h
  obtain ⟨base, hbase, hret⟩ := h
  cases hret
  obtain ⟨own, hown, hdir, hoverride⟩ := inclusion?_applySettings hsettings
  obtain ⟨hbaseDir, hnested⟩ := baseType_inclusion hbase hown
  refine ⟨hdir.trans hbaseDir, ?_⟩
  intro inner hinner
  rw [← hoverride, hinner] at hnested
  exact overrideOf_eq_ok hnested

end Blockwise.Config
