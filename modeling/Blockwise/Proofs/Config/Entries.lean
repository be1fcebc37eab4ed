/-
  Blockwise/Proofs/Config/Entries.lean
  ====================================
  **Types written down as entries are built back.**  An entry leaves out what its kind
  starts with, and building fills in just that: each type comes back from its entry as it
  was, whatever its tags and flags (`blockType_of_type`).  A list of types comes back
  without those of plain text (`interpreter_of_types`).
-/
import Blockwise.Proofs.Config.Building
import Blockwise.Proofs.Document.Tiling

namespace Blockwise.Config

/-! ### One type -/

theorem getD_changed (value default : Bool) :
    (BlockEntry.changed value default).getD default = value := by
  cases value <;> cases default <;> rfl

theorem flagsOver_describe (type : BlockType) (kind : EntryKind) (tags : Delimiters) :
    flagsOver (BlockEntry.describe type kind tags) kind.defaultFlags = type.flags := by
  simp [flagsOver, BlockEntry.describe, getD_changed]

/-- The settings of an entry turn what its kind starts with into the type. -/
theorem applySettings_describe (type : BlockType) (kind : EntryKind) (tags : Delimiters)
    (base : Kind) :
    applySettings (BlockEntry.describe type kind tags) ⟨type.name, base, kind.defaultFlags, none⟩ =
      ⟨type.name,
        if tags.mode = .sensitive then
          (BlockType.caseSensitive ⟨type.name, base, kind.defaultFlags, none⟩).kind else base,
        type.flags, type.escape⟩ := by
  have hcase : (BlockEntry.describe type kind tags).caseSensitive = some true ↔
      tags.mode = .sensitive := by simp [BlockEntry.describe]
  have hescape : (BlockEntry.describe type kind tags).escape.or none = type.escape := by
    simp [BlockEntry.describe]
  simp only [applySettings_mk, flagsOver_describe, hcase, hescape]

/-- Nothing that an entry of a type sets is ignored. -/
theorem reportIgnored_of_type {type : BlockType} {entry : BlockEntry}
    (h : BlockEntry.ofType? type = some entry) : reportIgnored entry = pure () := by
  obtain ⟨name, kind, flags, escape⟩ := type
  cases kind <;> cases h <;> rfl

/-- What an entry of a type is built to before its settings are applied: the type with
    the flags of its kind, tags in any case, and no escape character. -/
theorem baseType_of_type {config : Config} (hbase : config.baseDir = none)
    (hextension : config.extension = none) (nested : Path → Traced ConfigError Interpreter)
    {type : BlockType} {entry : BlockEntry} (hentry : BlockEntry.ofType? type = some entry)
    (hnested : ∀ settings ∈ type.inclusion?, settings.override = none) :
    config.baseType nested entry = pure
      ⟨type.name, (type.mapDelimiters fun tags => { tags with mode := .insensitive }).kind,
        entry.kind.defaultFlags, none⟩ := by
  obtain ⟨name, kind, flags, escape⟩ := type
  cases kind with
  | plain => cases hentry
  | delimited tags =>
    cases hentry
    rfl
  | comment tags =>
    cases hentry
    by_cases hline : tags.closeTag = BlockType.lineEnd
    · simp [baseType, BlockEntry.describe, BlockType.mapDelimiters, BlockType.comment, hline,
        EntryKind.defaultFlags]
    · simp [baseType, BlockEntry.describe, BlockType.mapDelimiters, BlockType.comment, hline,
        EntryKind.defaultFlags, BlockType.withCloseTag]
  | inclusion settings =>
    cases hentry
    obtain ⟨tags, baseDir, extension, override⟩ := settings
    obtain rfl : override = none := hnested _ rfl
    simp [baseType, BlockEntry.describe, BlockType.mapDelimiters, BlockType.inclusion,
      BlockType.inclusion?, EntryKind.defaultFlags, closeTagOf, overrideOf, hbase, hextension]

theorem ofType?_eq_some {type : BlockType} {entry : BlockEntry}
    (h : BlockEntry.ofType? type = some entry) :
    ∃ kind tags, type.delimiters? = some tags ∧ entry = BlockEntry.describe type kind tags := by
  obtain ⟨name, kind, flags, escape⟩ := type
  cases kind with
  | plain => cases h
  | delimited tags | comment tags =>
    cases h
    exact ⟨_, tags, rfl, rfl⟩
  | inclusion settings =>
    cases h
    exact ⟨_, settings.delimiters, rfl, rfl⟩

theorem kind_of_mode {type : BlockType} {tags : Delimiters} (h : type.delimiters? = some tags)
    (name : Text) (flags : Flags) (escape : Option Char) :
    (if tags.mode = .sensitive then
        (BlockType.caseSensitive ⟨name,
          (type.mapDelimiters fun tags => { tags with mode := .insensitive }).kind, flags,
          escape⟩).kind
      else (type.mapDelimiters fun tags => { tags with mode := .insensitive }).kind) =
      type.kind := by
  obtain ⟨typeName, kind, typeFlags, typeEscape⟩ := type
  obtain ⟨openTag, closeTag, mode⟩ := tags
  cases kind with
  | plain => cases h
  | delimited | comment =>
    cases h
    cases mode <;> rfl
  | inclusion settings =>
    obtain ⟨delimiters, baseDir, extension, override⟩ := settings
    cases h
    cases mode <;> rfl

/-- A configuration that gives includes nothing builds each type from its entry. -/
theorem blockType_of_type {config : Config} (hbase : config.baseDir = none)
    (hextension : config.extension = none) (nested : Path → Traced ConfigError Interpreter)
    {type : BlockType} {entry : BlockEntry} (hentry : BlockEntry.ofType? type = some entry)
    (hnested : ∀ settings ∈ type.inclusion?, settings.override = none) :
    config.blockType nested entry = pure type := by
  rw [blockType_eq, reportIgnored_of_type hentry,
    baseType_of_type hbase hextension nested hentry hnested, pure_bind, pure_bind]
  obtain ⟨kind, tags, htags, rfl⟩ := ofType?_eq_some hentry
  have hkind : (BlockEntry.describe type kind tags).kind = kind := rfl
  rw [hkind, applySettings_describe, kind_of_mode htags]
  cases type
  rfl

/-! ### A list of types -/

theorem isPlain_of_ofType? {type : BlockType} (h : BlockEntry.ofType? type = none) :
    type.isPlain = true := by
  obtain ⟨name, kind, flags, escape⟩ := type
  cases kind with
  | plain => rfl
  | delimited | comment | inclusion => cases h

/-- The types of a list come back in order, without those of plain text. -/
theorem mapM_blockType {config : Config} (hbase : config.baseDir = none)
    (hextension : config.extension = none) (nested : Path → Traced ConfigError Interpreter)
    {types : List BlockType}
    (hnested : ∀ type ∈ types, ∀ settings ∈ type.inclusion?, settings.override = none) :
    (types.filterMap BlockEntry.ofType?).mapM (config.blockType nested) =
      pure (types.filter fun type => !type.isPlain) := by
  induction types with
  | nil => rfl
  | cons type types ih =>
    have hrest := ih fun other hother => hnested other (List.mem_cons_of_mem _ hother)
    cases hentry : BlockEntry.ofType? type with
    | none =>
      rw [List.filterMap_cons_none hentry, hrest]
      simp [isPlain_of_ofType? hentry]
    | some entry =>
      obtain ⟨kind, tags, htags, -⟩ := ofType?_eq_some hentry
      rw [List.filterMap_cons_some hentry, List.mapM_cons, hrest,
        blockType_of_type hbase hextension nested hentry (hnested type (List.mem_cons_self ..)),
        pure_bind, pure_bind]
      simp [BlockType.isPlain_eq, htags]

/-- Types that can be registered, one of them not plain text and none with an interpreter of
    its own, come back from the configuration of their entries: all but those of plain text,
    in order, and without a report. -/
theorem interpreter_of_types (env : Environment) (disk : Disk) {types : List BlockType}
    (hopen : ∀ type ∈ types, type.hasEmptyOpenTag = false)
    (hsome : ∃ type ∈ types, type.isPlain = false)
    (hnested : ∀ type ∈ types, ∀ settings ∈ type.inclusion?, settings.override = none) :
    ({ blocks := types.filterMap BlockEntry.ofType? } : Config).interpreter env disk =
      ⟨[], .ok ⟨types.filter fun type => !type.isPlain, Interpreter.defaultSelfCloseSkip,
        .disk⟩⟩ := by
  have hblocks : types.filterMap BlockEntry.ofType? ≠ [] := by
    obtain ⟨type, htype, hplain⟩ := hsome
    intro hnil
    have hnone := List.filterMap_eq_nil_iff.1 hnil type htype
    rw [isPlain_of_ofType? hnone] at hplain
    cases hplain
  have hvalid : (types.filter fun type => !type.isPlain).forM BlockType.validate = .ok () := by
    rw [forM_validate_eq_ok_iff, List.all_eq_true]
    intro type htype
    rw [hopen type (List.mem_filter.1 htype).1]
    rfl
  have hentries : ({ blocks := types.filterMap BlockEntry.ofType? } : Config).entries =
      types.filterMap BlockEntry.ofType? := by
    simp only [entries, List.isEmpty_iff, if_neg hblocks]
  rw [interpreter, depthLimit, buildWithin_succ, buildWith, hentries,
    mapM_blockType rfl rfl _ hnested, pure_bind, Interpreter.ofTypes, hvalid]
  rfl

/-- Types of every kind with flags, tags and settings unlike those that their kind starts with. -/
def sampleTypes : List BlockType :=
  [{ BlockType.plain with name := "text".toList },
    (BlockType.comment "remark".toList "#".toList).withCloseTag BlockType.lineEnd |>.mapFlags
      fun flags => { flags with closeableByEof := false, closeImmediately := true },
    ((BlockType.comment "note".toList "/*".toList).withCloseTag "*/".toList).caseSensitive,
    (BlockType.delimited "math".toList "$".toList "$".toList).withEscape '\\' |>.mapFlags
      fun flags => { flags with forbidNewOpenings := true },
    BlockType.inclusion "input".toList
      { Inclusion.ofTags "<".toList [] with
        baseDir := some ⟨"parts".toList⟩, extension := some ".tex".toList }]

theorem interpreter_of_sampleTypes :
    ({ blocks := sampleTypes.filterMap BlockEntry.ofType? } : Config).interpreter ⟨[], none⟩
        (Disk.empty []) =
      ⟨[], .ok ⟨sampleTypes.tail, Interpreter.defaultSelfCloseSkip, .disk⟩⟩ := by
  have hnested : ∀ type ∈ sampleTypes, ∀ settings ∈ type.inclusion?, settings.override = none := by
    simp only [sampleTypes, List.forall_mem_cons]
    refine ⟨?_, ?_, ?_, ?_, ?_, by simp⟩ <;> rintro settings ⟨⟩
    rfl
  exact interpreter_of_types _ _ (by decide)
    ⟨_, List.mem_of_mem_tail (List.mem_cons_self ..), rfl⟩ hnested

end Blockwise.Config
