/-
  Blockwise/Proofs/Interpret/Nesting.lean
  =======================================
  **Interpretation ends, however its files include one another.**  A file is entered
  only if it is not on the chain, and interpreted only if it can be read.  So the files
  of a chain are different ones, and all of them are among those that the interpreter
  and the ones nested in it can read (`Nested.chained`): the chain is never longer than
  the number of these files.

  If the bound on the depth were exceeded, there would be a chain as long as the bound
  (`exists_nested_of_tooDeep`).  With the progress of every single scan this gives
  `interpretation_terminates`.
-/
import Blockwise.Proofs.Interpret.Fetching
import Blockwise.Proofs.Interpret.Progress
import Blockwise.Proofs.Interpret.Tiling
import Mathlib.Data.List.Dedup

namespace Blockwise

/-! ### Files that can be read -/

namespace Reader

/-- The files that can be read, by the components of their identity. -/
def keys (disk : Disk) : Reader → List (List Path.Component)
  | .memory files => files.entries.map fun entry => entry.1.components
  | .disk => disk.entries.map fun entry => (Disk.pathOf entry.1).components
  | .caller files => files.names.map Path.components

theorem length_keys (disk : Disk) (reader : Reader) :
    (reader.keys disk).length = reader.size disk := by
  cases reader <;> simp [keys, size, Disk.size]

theorem identity_mem_keys {disk : Disk} {reader : Reader} {path : Path} {text : Text}
    (h : reader.read disk path = .ok text) :
    (reader.identity disk path).components ∈ reader.keys disk := by
  cases reader with
  | memory files => exact MemoryFiles.mem_components_of_find? (MemoryFiles.read_eq_ok_iff.1 h)
  | disk =>
    obtain ⟨place, hlocate, hentry⟩ := bind_eq_ok_iff.1 h
    obtain ⟨-, -, hscreened⟩ := bind_eq_ok_iff.1 hlocate
    obtain ⟨-, -, hfollow⟩ := bind_eq_ok_iff.1 hscreened
    have hidentity : identity disk .disk path = Disk.pathOf place := by
      simp only [identity, canonical, Disk.canonical, hfollow]
      rfl
    -- the root is a directory, so the file has an entry of its own
    rcases hplace : disk.entry? place with _ | entry
    · rw [hplace] at hentry
      cases hentry
    rw [hplace] at hentry
    unfold Disk.entry? at hplace
    split at hplace
    · cases hplace
      cases hentry
    · obtain ⟨item, hitem, -⟩ := Option.map_eq_some_iff.1 hplace
      have hsame : item.1 = place := by simpa using List.find?_some hitem
      rw [hidentity, ← hsame]
      exact List.mem_map.2 ⟨item, List.mem_of_find?_eq_some hitem, rfl⟩
  | caller files => exact files.named path text h

end Reader

mutual

/-- The files that an interpreter and those nested in it can read. -/
def Interpreter.known (disk : Disk) : Interpreter → List (List Path.Component)
  | ⟨types, _, reader⟩ => reader.keys disk ++ knownTypes disk types

def knownTypes (disk : Disk) : List BlockType → List (List Path.Component)
  | [] => []
  | type :: types => type.known disk ++ knownTypes disk types

def BlockType.known (disk : Disk) : BlockType → List (List Path.Component)
  | ⟨_, kind, _, _⟩ => kind.known disk

def Kind.known (disk : Disk) : Kind → List (List Path.Component)
  | .inclusion settings => settings.known disk
  | _ => []

def Inclusion.known (disk : Disk) : Inclusion → List (List Path.Component)
  | ⟨_, _, _, override⟩ => knownOverride disk override

def knownOverride (disk : Disk) : Option Interpreter → List (List Path.Component)
  | none => []
  | some interpreter => interpreter.known disk

end

mutual

theorem Interpreter.length_known (disk : Disk) :
    (interpreter : Interpreter) → (interpreter.known disk).length = interpreter.reach disk
  | ⟨types, _, reader⟩ => by
    rw [Interpreter.known, Interpreter.reach, List.length_append, reader.length_keys,
      length_knownTypes]

theorem length_knownTypes (disk : Disk) :
    (types : List BlockType) → (knownTypes disk types).length = reachTypes disk types
  | [] => rfl
  | type :: types => by
    rw [knownTypes, reachTypes, List.length_append, type.length_known, length_knownTypes disk types]

theorem BlockType.length_known (disk : Disk) :
    (type : BlockType) → (type.known disk).length = type.reach disk
  | ⟨_, kind, _, _⟩ => kind.length_known disk

theorem Kind.length_known (disk : Disk) :
    (kind : Kind) → (kind.known disk).length = kind.reach disk
  | .plain => rfl
  | .delimited _ => rfl
  | .comment _ => rfl
  | .inclusion settings => settings.length_known disk

theorem Inclusion.length_known (disk : Disk) :
    (settings : Inclusion) → (settings.known disk).length = settings.reach disk
  | ⟨_, _, _, override⟩ => length_knownOverride disk override

theorem length_knownOverride (disk : Disk) :
    (override : Option Interpreter) →
      (knownOverride disk override).length = reachOverride disk override
  | none => rfl
  | some interpreter => interpreter.length_known disk

end

namespace Interpreter

variable {disk : Disk} {interpreter inner : Interpreter}

theorem keys_subset_known (disk : Disk) (interpreter : Interpreter) :
    interpreter.reader.keys disk ⊆ interpreter.known disk := by
  obtain ⟨types, selfCloseSkip, reader⟩ := interpreter
  rw [known]
  exact List.subset_append_left _ _

theorem known_subset_of_override {type : BlockType} {settings : Inclusion}
    (htype : type ∈ interpreter.types) (hinc : type.inclusion? = some settings)
    (hover : settings.override = some inner) : inner.known disk ⊆ interpreter.known disk := by
  obtain ⟨types, selfCloseSkip, reader⟩ := interpreter
  have hknown : type.known disk = inner.known disk := by
    obtain ⟨name, kind, flags, escape⟩ := type
    obtain ⟨delimiters, baseDir, extension, override⟩ := settings
    cases kind <;> cases hinc
    cases hover
    rw [BlockType.known, Kind.known, Inclusion.known, knownOverride]
  have htypes : ∀ types : List BlockType, type ∈ types →
      inner.known disk ⊆ knownTypes disk types := by
    intro types hmem
    induction types with
    | nil => cases hmem
    | cons first types ih =>
      rw [knownTypes]
      rcases List.mem_cons.1 hmem with rfl | hmem
      · rw [hknown]
        exact List.subset_append_left _ _
      · exact List.subset_append_of_subset_right _ (ih hmem)
  rw [known]
  exact List.subset_append_of_subset_right _ (htypes types htype)

theorem Within.known_subset (h : interpreter.Within inner) :
    inner.known disk ⊆ interpreter.known disk := by
  induction h with
  | refl => exact List.Subset.refl _
  | @step middle type settings _ htype hinc ih =>
    rcases hover : settings.override with _ | nested
    · exact ih
    · exact List.Subset.trans (known_subset_of_override htype hinc hover) ih

/-- The number of files that can be read, each counted once. -/
def fileCount (disk : Disk) (interpreter : Interpreter) : Nat :=
  (interpreter.known disk).dedup.length

theorem fileCount_lt_depthLimit (disk : Disk) (interpreter : Interpreter) :
    interpreter.fileCount disk + 1 < interpreter.depthLimit disk := by
  have hle := (List.dedup_sublist (interpreter.known disk)).length_le
  rw [length_known] at hle
  unfold fileCount depthLimit
  omega

/-! ### Chains of files -/

/-- The files of the chain can be read, and differ in their components. -/
structure Chained (disk : Disk) (interpreter : Interpreter) (chain : List Path) : Prop where
  apart : (chain.map Path.components).Nodup
  known : ∀ path ∈ chain, path.components ∈ interpreter.known disk

theorem chained_nil (disk : Disk) (interpreter : Interpreter) : interpreter.Chained disk [] :=
  ⟨List.nodup_nil, fun _ hpath => absurd hpath List.not_mem_nil⟩

theorem Chained.length_le {chain : List Path} (h : interpreter.Chained disk chain) :
    chain.length ≤ interpreter.fileCount disk := by
  have hsubset : chain.map Path.components ⊆ (interpreter.known disk).dedup := by
    intro components hmem
    obtain ⟨path, hpath, rfl⟩ := List.mem_map.1 hmem
    exact List.mem_dedup.2 (h.known path hpath)
  have hlength := (h.apart.subperm hsubset).length_le
  rwa [List.length_map] at hlength

theorem Chained.enter {chain longer : List Path} {path : Path} {text : Text}
    (h : interpreter.Chained disk chain) (hinner : interpreter.Within inner)
    (henter : Guard.checked.enter chain (inner.reader.identity disk path) = .ok longer)
    (hread : inner.reader.read disk path = .ok text) :
    interpreter.Chained disk longer := by
  obtain ⟨hnew, rfl⟩ := enter_checked_eq_ok henter
  refine ⟨?_, ?_⟩
  · rw [List.map_cons, List.nodup_cons]
    refine ⟨?_, h.apart⟩
    intro hmem
    obtain ⟨q, hq, hsame⟩ := List.mem_map.1 hmem
    exact hnew q hq hsame
  · intro q hq
    rcases List.mem_cons.1 hq with rfl | hq
    · exact hinner.known_subset (inner.keys_subset_known disk (Reader.identity_mem_keys hread))
    · exact h.known q hq

/-! ### Interpretations inside an interpretation -/

open Scan

/-- With the files of the chain underway, interpreting one source comes to interpret
    another one: itself, or a file that an include on the way brings in. -/
inductive Nested (disk : Disk) (interpreter : Interpreter) (chain : List Path) (source : Source) :
    Interpreter → List Path → Source → Prop
  | refl : Nested disk interpreter chain source interpreter chain source
  | step {middle longer deeper mid scan id type count settings reference text} :
      Nested disk interpreter chain source middle longer mid →
      Reached disk middle mid (.closing id type count) scan →
      type.inclusion? = some settings → scan.doc.innerText id = .ok reference →
      Guard.checked.enter longer ((settings.override.getD middle).reader.identity disk
        (settings.resolve reference)) = .ok deeper →
      (settings.override.getD middle).reader.read disk (settings.resolve reference) = .ok text →
      Nested disk interpreter chain source (settings.override.getD middle) deeper
        ⟨some (settings.resolve reference), text⟩

variable {chain : List Path} {source : Source}

theorem Nested.trans {first second third : Interpreter} {one two three : List Path}
    {outer mid file : Source} (h : Nested disk first one outer second two mid)
    (h' : Nested disk second two mid third three file) :
    Nested disk first one outer third three file := by
  induction h' with
  | refl => exact h
  | step _ hscan hinc href henter hread ih => exact ih.step hscan hinc href henter hread

/-- **The files of every chain are different ones that can be read.** -/
theorem Nested.chained {longer : List Path} {file : Source}
    (h : Nested disk interpreter chain source inner longer file)
    (hchain : interpreter.Chained disk chain) :
    interpreter.Within inner ∧ interpreter.Chained disk longer := by
  induction h with
  | refl => exact ⟨.refl, hchain⟩
  | step _ hscan hinc href henter hread ih =>
    obtain ⟨hwithin, hchained⟩ := ih
    have hstanding := hscan.standing
    have htype := (hstanding.innermost_eq hstanding.pending).2
    have hinner := hwithin.step htype hinc
    exact ⟨hinner, hchained.enter hinner henter hread⟩

/-- A chain grows by one file with every level. -/
theorem exists_nested_of_tooDeep {depth : Nat}
    (h : (interpretSource .checked disk depth interpreter chain source).result =
      .error .tooDeep) :
    ∃ inner longer file, Nested disk interpreter chain source inner longer file ∧
      longer.length = chain.length + depth := by
  induction depth generalizing interpreter chain source with
  | zero => exact ⟨interpreter, chain, source, .refl, rfl⟩
  | succ depth ih =>
    rw [interpretSource_succ] at h
    have hsound := followInclude_sound .checked disk depth interpreter chain source
    rcases (run_meets_ended hsound).of_error h (by simp) (by simp) with hended | hbreaks
    · -- the end of a scan never exceeds the bound
      obtain ⟨ended, -, -, hfinish⟩ := hended
      rcases finish_eq_error hfinish with ⟨fault, ⟨⟩⟩ | ⟨label, doc, ⟨⟩⟩
    · obtain ⟨scan, id, type, count, settings, hscan, hinc, hfollow⟩ := hbreaks
      obtain ⟨reference, deeper, text, href, henter, hread, hsub⟩ :=
        followInclude_eq_error (by simp) (by simp) (by simp) hfollow
      obtain ⟨inner, longer, file, hnested, hlength⟩ := ih hsub
      have hfirst := Nested.refl.step hscan hinc href henter hread
      refine ⟨inner, longer, file, hfirst.trans hnested, ?_⟩
      rw [(enter_checked_eq_ok henter).2, List.length_cons] at hlength
      omega

theorem interpretSource_ne_tooDeep {depth : Nat} (hchain : interpreter.Chained disk chain)
    (hdepth : interpreter.fileCount disk < chain.length + depth) :
    (interpretSource .checked disk depth interpreter chain source).result ≠ .error .tooDeep := by
  intro h
  obtain ⟨inner, longer, file, hnested, hlength⟩ := exists_nested_of_tooDeep h
  have hle := (hnested.chained hchain).2.length_le
  omega

/-- A bound that allows for a level for each file makes no difference. -/
theorem interpretSource_deeper {depth more : Nat} (hchain : interpreter.Chained disk chain)
    (hdepth : interpreter.fileCount disk < depth) (hle : depth ≤ more) :
    (interpretSource .checked disk more interpreter chain source).result =
      (interpretSource .checked disk depth interpreter chain source).result := by
  have hrelated : Related (exactly (Failure.tooDeep = ·)) Eq
      (interpretSource .checked disk depth interpreter chain source).result
      (interpretSource .checked disk more interpreter chain source).result :=
    interpretSource_exactly disk (Or.inr ⟨hle, rfl⟩) interpreter (Or.inl rfl) source
  refine eq_of_exactly hrelated ?_
  rintro cause rfl
  exact interpretSource_ne_tooDeep hchain (Nat.lt_add_left _ hdepth)

/-! ### Scans inside an interpretation -/

theorem followInclude_keepsOpen (guard : Guard) (disk : Disk) (depth : Nat)
    (interpreter : Interpreter) (chain : List Path) :
    (followInclude guard disk depth interpreter chain).KeepsOpen := by
  intro doc id settings doc' h
  obtain ⟨-, -, -, sub, -, -, -, -, hsplice⟩ := followInclude_eq_ok h
  exact (Document.frame_splice hsplice).2

theorem interpretSource_ne_stalled (hreg : interpreter.Registered) {guard : Guard} {depth : Nat} :
    (interpretSource guard disk depth interpreter chain source).result ≠ .error .stalled := by
  induction depth generalizing interpreter chain source with
  | zero =>
    intro h
    cases h
  | succ depth ih =>
    rw [interpretSource_succ]
    refine run_ne_stalled hreg (followInclude_keepsOpen guard disk depth interpreter chain)
      (followInclude_sound guard disk depth interpreter chain source) ?_
    rintro ⟨scan, id, type, count, settings, hscan, hinc, hfollow⟩
    obtain ⟨reference, longer, text, -, -, -, hsub⟩ :=
      followInclude_eq_error (by simp) (by simp) (by simp) hfollow
    have hstanding := hscan.standing
    have htype := (hstanding.innermost_eq hstanding.pending).2
    exact ih (hreg.inner htype hinc) hsub

/-! ### The end of every interpretation -/

/-- Interpreting the source with the files of the chain underway ends in `outcome`. -/
structure Ends (disk : Disk) (interpreter : Interpreter) (chain : List Path) (source : Source)
    (outcome : Except Failure Document) : Prop where
  /-- It is no bound that ends it. -/
  unbounded : outcome ≠ .error .tooDeep ∧ outcome ≠ .error .stalled
  /-- A level for each file and one for the source are enough, and no more change it. -/
  stable : ∀ depth, interpreter.fileCount disk < depth →
    (interpretSource .checked disk depth interpreter chain source).result = outcome
  /-- The files of a chain are not more than there are, and one more may be tried. -/
  nesting : ∀ inner longer file, Nested disk interpreter chain source inner longer file →
    longer.length ≤ interpreter.fileCount disk ∧
      ∀ key deeper, Guard.checked.enter longer key = .ok deeper →
        deeper.length ≤ interpreter.fileCount disk + 1
  /-- Every iteration of a scan decreases what remains, wherever the scan stands. -/
  decreases : ∀ inner longer file, Nested disk interpreter chain source inner longer file →
    ∀ (depth : Nat) (scan after : Scan), scan.rest ≠ [] →
      (scan.step inner (followInclude .checked disk depth inner longer)).result = .ok after →
      Prod.Lex (· < ·) (· < ·) after.remaining scan.remaining
  /-- No scan needs more iterations than it may take. -/
  iterations : ∀ inner longer file, Nested disk interpreter chain source inner longer file →
    ∀ depth limit, stepLimit file.text ≤ limit →
      loop inner (followInclude .checked disk depth inner longer) limit (.start file) =
        loop inner (followInclude .checked disk depth inner longer) (stepLimit file.text)
          (.start file)

theorem interpretSource_ends (hreg : interpreter.Registered)
    (hchain : interpreter.Chained disk chain) {enough : Nat}
    (henough : interpreter.fileCount disk < enough) :
    Ends disk interpreter chain source
      (interpretSource .checked disk enough interpreter chain source).result := by
  have hdeep : (interpretSource .checked disk enough interpreter chain source).result ≠
      .error .tooDeep := interpretSource_ne_tooDeep hchain (Nat.lt_add_left _ henough)
  refine ⟨⟨hdeep, interpretSource_ne_stalled hreg⟩, ?_, ?_, ?_, ?_⟩
  · intro depth hdepth
    rcases Nat.le_total depth enough with hle | hle
    · exact (interpretSource_deeper hchain hdepth hle).symm
    · exact interpretSource_deeper hchain henough hle
  · intro inner longer file hnested
    have hle := (hnested.chained hchain).2.length_le
    refine ⟨hle, ?_⟩
    intro key deeper henter
    rw [(enter_checked_eq_ok henter).2]
    exact Nat.succ_le_succ hle
  · intro inner longer file hnested depth scan after hrest hstep
    have hinner := (hnested.chained hchain).1.registered hreg
    exact step_decreases hinner (followInclude_keepsOpen _ _ _ _ _) hrest hstep
  · intro inner longer file hnested depth limit hlimit
    have hinner := (hnested.chained hchain).1.registered hreg
    have hstart := weight_start file
    exact loop_stable hinner (followInclude_keepsOpen _ _ _ _ _)
      (Nat.lt_of_lt_of_le hstart hlimit) hstart

/-- **Interpretation always ends,** for all registered types, all texts and all files. -/
theorem interpretation_terminates (disk : Disk) (interpreter : Interpreter)
    (hreg : interpreter.Registered) :
    (∀ text, Ends disk interpreter [] ⟨none, text⟩ (interpreter.interpret disk text).result) ∧
      ∀ path, (∃ cause, interpreter.reader.read disk path = .error cause ∧
          (interpreter.interpretFile disk path).result = .error (.unreadableSource path cause)) ∨
        ∃ text, interpreter.reader.read disk path = .ok text ∧
          Ends disk interpreter [interpreter.reader.identity disk path] ⟨some path, text⟩
            (interpreter.interpretFile disk path).result := by
  have henough : interpreter.fileCount disk < interpreter.depthLimit disk :=
    Nat.lt_of_succ_lt (fileCount_lt_depthLimit disk interpreter)
  refine ⟨fun text => interpretSource_ends hreg (chained_nil disk interpreter) henough, ?_⟩
  intro path
  rcases interpretFile_cases disk interpreter path with ⟨cause, hread, hfile⟩ | ⟨text, hread, hfile⟩
  · exact Or.inl ⟨cause, hread, by rw [hfile]; rfl⟩
  · refine Or.inr ⟨text, hread, ?_⟩
    rw [hfile]
    have hchain := (chained_nil disk interpreter).enter .refl rfl hread
    exact interpretSource_ends hreg hchain henough

/-- Two readers, with files that include one another across them and a close tag that is
    empty. -/
def sampleNested : Interpreter :=
  ⟨[(BlockType.delimited ['b'] ['['] []).caseSensitive,
    (BlockType.inclusion ['i'] { Inclusion.ofTags ['<'] ['>'] with
      override := some ⟨[(BlockType.inclusion ['j'] (.ofTags ['<'] ['>'])).caseSensitive], 1,
        .memory ⟨[(⟨['g']⟩, ['<', 'h', '>']), (⟨['h']⟩, ['<', 'g', '>'])]⟩⟩ }).caseSensitive],
    1, .memory ⟨[(⟨['f']⟩, ['[', '<', 'h', '>'])]⟩⟩

theorem sampleNested_registered : sampleNested.Registered := by
  refine @Registered.intro _ _ rfl ?_
  intro type htype settings inner hinc hover
  simp only [sampleNested, List.mem_cons, List.not_mem_nil, or_false] at htype
  rcases htype with rfl | rfl <;> cases hinc
  cases hover
  refine @Registered.intro _ _ rfl ?_
  intro type htype settings inner hinc hover
  simp only [List.mem_cons, List.not_mem_nil, or_false] at htype
  rcases htype with rfl
  cases hinc
  cases hover

theorem sampleNested_terminates :
    sampleNested.fileCount ⟨[], []⟩ = 3 ∧
      Ends ⟨[], []⟩ sampleNested [] ⟨none, ['[', 'a', '<', 'g', '>']⟩
        (sampleNested.interpret ⟨[], []⟩ ['[', 'a', '<', 'g', '>']).result := by
  refine ⟨by decide +kernel, ?_⟩
  exact (interpretation_terminates ⟨[], []⟩ sampleNested sampleNested_registered).1 _

end Interpreter

end Blockwise
