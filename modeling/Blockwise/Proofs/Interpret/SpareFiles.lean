/-
  Blockwise/Proofs/Interpret/SpareFiles.lean
  ==========================================
  **Files that are not needed do not matter.**  Files in memory are known by the
  components of their paths, on the chain of files as in memory.  So texts under paths
  that no file has yet replace nothing (`MemoryFiles.read_insertAll`), and they make a
  difference only where a file was looked for and not found.

  An interpretation that never misses a file comes to the same with spare files in the
  memory of its interpreter and of all that are nested in it
  (`interpretation_with_spare_files`).
-/
import Blockwise.Proofs.Interpret.IncludeGuard
import Blockwise.Proofs.Interpret.Simulation

namespace Blockwise

/-! ### Spare files -/

namespace MemoryFiles

def insertAll (files : MemoryFiles) (more : List (Path × Text)) : MemoryFiles :=
  more.foldl (fun files entry => files.insert entry.1 entry.2) files

/-- The paths of `more` are different from those of all files that there are. -/
def Spare (files : MemoryFiles) (more : List (Path × Text)) : Prop :=
  ∀ entry ∈ more, ∀ known ∈ files.entries, known.1.components ≠ entry.1.components

theorem find?_insertAll {files : MemoryFiles} {more : List (Path × Text)}
    (hspare : files.Spare more) {path : Path} {text : Text} (h : files.find? path = some text) :
    (files.insertAll more).find? path = some text := by
  -- the files that were there stay there, whatever has been added before
  have hkept : ∀ held : MemoryFiles, held.find? path = some text →
      (held.insertAll more).find? path = some text := by
    induction more with
    | nil => exact fun _ hheld => hheld
    | cons entry more ih =>
      intro held hheld
      apply ih fun other hother => hspare other (List.mem_cons_of_mem _ hother)
      obtain ⟨known, hknown, hsame⟩ := List.mem_map.1 (mem_components_of_find? h)
      have hnew := hspare entry List.mem_cons_self known hknown
      rw [find?_insert, if_neg fun hclash => hnew (hsame.trans hclash.symm)]
      exact hheld
  exact hkept files h

theorem read_insertAll {files : MemoryFiles} {more : List (Path × Text)}
    (hspare : files.Spare more) {path : Path} {text : Text} (h : files.read path = .ok text) :
    (files.insertAll more).read path = .ok text :=
  read_eq_ok_iff.2 (find?_insertAll hspare (read_eq_ok_iff.1 h))

end MemoryFiles

/-! ### Another reader everywhere -/

mutual

/-- Gives the interpreter another reader, and all that are nested in it, too. -/
def Interpreter.withReader (reader : Reader) : Interpreter → Interpreter
  | ⟨types, selfCloseSkip, _⟩ => ⟨rereadTypes reader types, selfCloseSkip, reader⟩

def rereadTypes (reader : Reader) : List BlockType → List BlockType
  | [] => []
  | type :: types => type.reread reader :: rereadTypes reader types

def BlockType.reread (reader : Reader) : BlockType → BlockType
  | ⟨name, kind, flags, escape⟩ => ⟨name, kind.reread reader, flags, escape⟩

def Kind.reread (reader : Reader) : Kind → Kind
  | .plain => .plain
  | .delimited tags => .delimited tags
  | .comment tags => .comment tags
  | .inclusion settings => .inclusion (settings.reread reader)

def Inclusion.reread (reader : Reader) : Inclusion → Inclusion
  | ⟨delimiters, baseDir, extension, override⟩ =>
    ⟨delimiters, baseDir, extension, rereadOverride reader override⟩

def rereadOverride (reader : Reader) : Option Interpreter → Option Interpreter
  | none => none
  | some interpreter => some (interpreter.withReader reader)

end

namespace Interpreter

/-- The second interpreter is the first one with another reader everywhere. -/
def Rereads (reader : Reader) (interpreter interpreter' : Interpreter) : Prop :=
  interpreter' = interpreter.withReader reader

theorem reader_withReader (reader : Reader) (interpreter : Interpreter) :
    (interpreter.withReader reader).reader = reader := by
  cases interpreter
  rfl

theorem selfCloseSkip_withReader (reader : Reader) (interpreter : Interpreter) :
    (interpreter.withReader reader).selfCloseSkip = interpreter.selfCloseSkip := by
  cases interpreter
  rfl

theorem alike_reread (reader : Reader) (type : BlockType) :
    type.Alike (Rereads reader) (type.reread reader) := by
  obtain ⟨name, kind, flags, escape⟩ := type
  apply BlockType.Alike.mk
  cases kind with
  | plain => exact .plain
  | delimited tags => exact .delimited tags
  | comment tags => exact .comment tags
  | inclusion settings =>
    obtain ⟨delimiters, baseDir, extension, override⟩ := settings
    apply Kind.Alike.inclusion
    apply Inclusion.Alike.mk
    cases override with
    | none => exact .none
    | some inner => exact .some rfl

theorem types_withReader (reader : Reader) (interpreter : Interpreter) :
    List.Forall₂ (BlockType.Alike (Rereads reader)) interpreter.types
      (interpreter.withReader reader).types := by
  obtain ⟨types, selfCloseSkip, _⟩ := interpreter
  show List.Forall₂ _ types (rereadTypes reader types)
  induction types with
  | nil => exact .nil
  | cons type types ih => exact .cons (alike_reread reader type) ih

/-- Without nested interpreters the very same types are registered. -/
theorem types_withReader_eq {interpreter : Interpreter} (reader : Reader)
    (hnone : ∀ type ∈ interpreter.types, ∀ settings, type.inclusion? = some settings →
      settings.override = none) :
    List.Forall₂ (BlockType.Alike Eq) interpreter.types (interpreter.withReader reader).types := by
  have hboth := (List.forall₂_and_left _ _).2 ⟨hnone, types_withReader reader interpreter⟩
  apply hboth.imp
  rintro type type' ⟨hnone, halike⟩
  exact BlockType.alike_eq_iff.2 (halike.eq_of_override_eq_none hnone).symm

/-! ### Reading the same and more -/

/-- A file was looked for and not found. -/
inductive Unread : Failure → Prop
  | inclusion (path : Path) (cause : FileError) : Unread (.unresolvedInclude path cause)
  | source (path : Path) (cause : FileError) : Unread (.unreadableSource path cause)

/-- The outcome is not due to a file that was not found. -/
def MissesNone (outcome : Except Failure Document) : Prop :=
  ∀ cause, Unread cause → outcome ≠ .error cause

section

variable {nested counterpart : Interpreter → Interpreter → Prop}
  {interpreter interpreter' : Interpreter} {files : MemoryFiles} {more : List (Path × Text)}

theorem simulates_spare {disk : Disk} (hspare : files.Spare more)
    (hreaders : ∀ {first second}, counterpart first second →
      first.reader = .memory files ∧ second.reader = .memory (files.insertAll more))
    (hskip : ∀ {first second}, counterpart first second →
      second.selfCloseSkip = first.selfCloseSkip)
    (htypes : ∀ {first second}, counterpart first second →
      List.Forall₂ (BlockType.Alike nested) first.types second.types)
    (hinner : ∀ {first second type settings settings'}, counterpart first second →
      type ∈ first.types → type.inclusion? = some settings → settings.Alike nested settings' →
      counterpart (settings.override.getD first) (settings'.override.getD second)) :
    Simulates Unread disk nested counterpart := by
  refine ⟨hskip, hinner, ?_, ?_, ?_⟩
  · intro first second hcounter
    obtain ⟨hfirst, hsecond⟩ := hreaders hcounter
    rw [hfirst, hsecond]
    rfl
  · intro first second path cause _ _
    exact Or.inr ⟨.inclusion path cause, .source path cause⟩
  · intro first second path text hcounter hread
    obtain ⟨hfirst, hsecond⟩ := hreaders hcounter
    rw [hfirst] at hread
    rw [hsecond]
    refine ⟨MemoryFiles.read_insertAll hspare hread, ?_⟩
    exact find?_opens_alike (htypes hcounter) text

theorem simulates_rereads (disk : Disk) (hspare : files.Spare more)
    (hreader : ∀ inner, interpreter.Within inner → inner.reader = .memory files) :
    Simulates Unread disk (Rereads (.memory (files.insertAll more))) fun first second =>
      interpreter.Within first ∧ Rereads (.memory (files.insertAll more)) first second := by
  apply simulates_spare hspare
  · rintro first second ⟨hwithin, rfl⟩
    exact ⟨hreader first hwithin, reader_withReader _ first⟩
  · rintro first second ⟨-, rfl⟩
    exact selfCloseSkip_withReader _ first
  · rintro first second ⟨-, rfl⟩
    exact types_withReader _ first
  · rintro first second type settings settings' ⟨hwithin, hreads⟩ htype hinc hsettings
    exact ⟨hwithin.step htype hinc, hsettings.getD_override (fun _ _ hinner => hinner) hreads⟩

theorem simulates_self (disk : Disk) (hspare : files.Spare more)
    (hreader : interpreter.reader = .memory files)
    (hreads : Rereads (.memory (files.insertAll more)) interpreter interpreter')
    (hnone : ∀ type ∈ interpreter.types, ∀ settings, type.inclusion? = some settings →
      settings.override = none) :
    Simulates Unread disk Eq fun first second => first = interpreter ∧ second = interpreter' := by
  obtain rfl := hreads
  apply simulates_spare hspare
  · rintro first second ⟨rfl, rfl⟩
    exact ⟨hreader, reader_withReader _ first⟩
  · rintro first second ⟨rfl, rfl⟩
    exact selfCloseSkip_withReader _ first
  · rintro first second ⟨rfl, rfl⟩
    exact types_withReader_eq _ hnone
  · rintro first second type settings settings' ⟨rfl, rfl⟩ htype hinc hsettings
    obtain rfl := Inclusion.alike_eq_iff.1 hsettings
    rw [hnone type htype settings hinc]
    exact ⟨rfl, rfl⟩

end

/-- **Files that are not needed do not matter.**  Let an interpreter and all that are
    nested in it read one memory, and add files to it under paths that no file has.  Then
    every interpretation that misses no file comes to the same: the same failure, or the
    same document up to the readers of nested interpreters.  Without nested interpreters
    the outcomes are equal. -/
theorem interpretation_with_spare_files (disk : Disk) {interpreter interpreter' : Interpreter}
    {files : MemoryFiles} {more : List (Path × Text)}
    (hreader : ∀ inner, interpreter.Within inner → inner.reader = .memory files)
    (hspare : files.Spare more)
    (hreads : Rereads (.memory (files.insertAll more)) interpreter interpreter') :
    (∀ text, MissesNone (interpreter.interpret disk text).result →
        SameOutcome (Rereads (.memory (files.insertAll more)))
          (interpreter.interpret disk text).result (interpreter'.interpret disk text).result) ∧
      (∀ path, MissesNone (interpreter.interpretFile disk path).result →
        SameOutcome (Rereads (.memory (files.insertAll more)))
          (interpreter.interpretFile disk path).result
          (interpreter'.interpretFile disk path).result) ∧
      ((∀ type ∈ interpreter.types, ∀ settings, type.inclusion? = some settings →
          settings.override = none) →
        (∀ text, MissesNone (interpreter.interpret disk text).result →
          (interpreter'.interpret disk text).result = (interpreter.interpret disk text).result) ∧
        ∀ path, MissesNone (interpreter.interpretFile disk path).result →
          (interpreter'.interpretFile disk path).result =
            (interpreter.interpretFile disk path).result) := by
  have hrereads := simulates_rereads disk hspare hreader
  refine ⟨?_, ?_, ?_⟩
  · intro text hfound
    apply hrereads.interpret ⟨.refl, hreads⟩ _ hfound
    rw [hreads]
    exact find?_opens_alike (types_withReader _ interpreter) text
  · intro path hfound
    exact hrereads.interpretFile ⟨.refl, hreads⟩ path hfound
  · intro hnone
    have hself := simulates_self disk hspare (hreader _ .refl) hreads hnone
    constructor
    · intro text hfound
      apply (hself.interpret ⟨rfl, rfl⟩ _ hfound).eq
      rw [hreads]
      exact find?_opens_alike (types_withReader_eq _ hnone) text
    · intro path hfound
      exact (hself.interpretFile ⟨rfl, rfl⟩ path hfound).eq

/-- A file that includes another one, and one that includes itself. -/
def sampleShared : MemoryFiles :=
  ⟨[(⟨['f']⟩, ['<', 'g', '>']), (⟨['g']⟩, ['y']), (⟨['c']⟩, ['<', 'c', '>'])]⟩

/-- Two spellings of one path that no file has. -/
def sampleSpare : List (Path × Text) :=
  [(⟨['x', '/', 'g']⟩, ['z']), (⟨['x', '/', '.', '/', 'g']⟩, ['<', 'f', '>'])]

def sampleReader (override : Option Interpreter) : Interpreter :=
  ⟨[(BlockType.inclusion ['i'] { Inclusion.ofTags ['<'] ['>'] with override }).caseSensitive], 1,
    .memory sampleShared⟩

def sampleReading : Interpreter := sampleReader (some (sampleReader none))

def sampleStocked : Interpreter :=
  sampleReading.withReader (.memory (sampleShared.insertAll sampleSpare))

theorem sampleReading_within {inner : Interpreter} (h : sampleReading.Within inner) :
    inner.reader = .memory sampleShared := by
  have hcases : inner = sampleReading ∨ inner = sampleReader none := by
    induction h with
    | refl => exact Or.inl rfl
    | step _ htype hinc ih =>
      right
      rcases ih with rfl | rfl
      · obtain rfl := List.mem_singleton.1 htype
        cases hinc
        rfl
      · obtain rfl := List.mem_singleton.1 htype
        cases hinc
        rfl
  rcases hcases with rfl | rfl
  · rfl
  · rfl

/-- With the spare files a text still comes to a document, and the file that includes
    itself to a cycle. -/
theorem sampleReading_with_spare_files :
    sampleShared.Spare sampleSpare ∧
      (∃ doc doc', (sampleReading.interpret ⟨[], []⟩ ['<', 'f', '>']).result = .ok doc ∧
        (sampleStocked.interpret ⟨[], []⟩ ['<', 'f', '>']).result = .ok doc' ∧
        doc.Alike Eq (Rereads (.memory (sampleShared.insertAll sampleSpare))) doc') ∧
      ∃ path, (sampleReading.interpretFile ⟨[], []⟩ ⟨['c']⟩).result =
          .error (.cyclicInclude path) ∧
        (sampleStocked.interpretFile ⟨[], []⟩ ⟨['c']⟩).result = .error (.cyclicInclude path) := by
  have hspare : sampleShared.Spare sampleSpare := by
    unfold MemoryFiles.Spare
    decide +kernel
  have hreads : Rereads (.memory (sampleShared.insertAll sampleSpare)) sampleReading
      sampleStocked := rfl
  obtain ⟨htexts, hpaths, -⟩ := interpretation_with_spare_files ⟨[], []⟩
    (fun _ => sampleReading_within) hspare hreads
  refine ⟨hspare, ?_, ?_⟩
  · obtain ⟨doc, hdoc⟩ := exists_eq_ok (show (sampleReading.interpret ⟨[], []⟩
      ['<', 'f', '>']).result.isOk = true by decide +kernel)
    have hsame := htexts ['<', 'f', '>']
    rw [hdoc] at hsame
    generalize (sampleStocked.interpret ⟨[], []⟩ ['<', 'f', '>']).result = outcome at hsame
    cases hsame fun _ _ => nofun with
    | @ok _ doc' halike => exact ⟨doc, doc', hdoc, rfl, halike⟩
  · obtain ⟨path, hpath⟩ := exists_of_isCycle (show isCycle
      (sampleReading.interpretFile ⟨[], []⟩ ⟨['c']⟩).result = true by decide +kernel)
    have hsame := hpaths ⟨['c']⟩
    rw [hpath] at hsame
    generalize (sampleStocked.interpretFile ⟨[], []⟩ ⟨['c']⟩).result = outcome at hsame
    have hfound : MissesNone (.error (.cyclicInclude path)) := by
      intro cause hunread hcause
      cases hcause
      cases hunread
    cases hsame hfound with
    | failed _ => exact ⟨path, hpath, rfl⟩

end Interpreter

end Blockwise
