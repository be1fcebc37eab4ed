/-
  Blockwise/Proofs/Interpret/IncludeGuard.lean
  ============================================
  **The guard against include cycles is exact.**  Take an interpreter of files in
  memory without nested interpreters, and compare what it answers with what it would
  answer without the guard, with a bound on the depth of includes instead:

    * an answer other than a cycle is the answer without the guard for every bound that
      is large enough, and the depth that the guarded run is given is never used up
      (`checked_ne_tooDeep`);
    * if the answer is a cycle, every bound is exceeded without the guard.

  For the second point, let the guard refuse a file that is being interpreted already.
  Without the guard it is entered again, with a smaller bound.  Whether a bound is
  exceeded depends on the text only (`tooDeep_iff`), so the file exceeds a bound as soon
  as it exceeds all smaller ones (`deep_of_chain`, `deep_of_entered`).
-/
import Blockwise.Proofs.Interpret.Fetching

namespace Blockwise

namespace Interpreter

open Scan

/-- The interpreter reads files in memory, and reads included files itself. -/
structure SelfContained (interpreter : Interpreter) (files : MemoryFiles) : Prop where
  reader : interpreter.reader = .memory files
  override : ∀ type ∈ interpreter.types, ∀ settings, type.inclusion? = some settings →
    settings.override = none

section

variable {interpreter : Interpreter} {files : MemoryFiles} {disk : Disk}

theorem interpretSource_related (h : interpreter.SelfContained files) {o : Comparison}
    {allowed : Array Source → Array Source → Prop} (ho : Neutral o allowed Eq)
    (hallowed : SameTexts allowed) {guard guard' : Guard} {depth depth' : Nat}
    {chain chain' : List Path} {source source' : Source}
    (hsource : allowed #[source] #[source'])
    (hfetch : ∀ path, Related o Eq (fetch guard disk depth interpreter chain path)
      (fetch guard' disk depth' interpreter chain' path)) :
    Related o (Document.Alike allowed Eq)
      (interpretSource guard disk (depth + 1) interpreter chain source).result
      (interpretSource guard' disk (depth' + 1) interpreter chain' source').result := by
  refine interpretSource_related_of_fetch ho hallowed hsource ?_
  intro type htype settings hinc path
  rw [h.override type htype settings hinc]
  exact hfetch path

/-! ### Entering files in memory -/

theorem fetch_eq (h : interpreter.SelfContained files) (guard : Guard) (depth : Nat)
    (chain : List Path) (path : Path) :
    fetch guard disk depth interpreter chain path = guard.enter chain path >>= fun longer =>
      match files.read path with
      | .error cause => .error (.unresolvedInclude path cause)
      | .ok text =>
        (interpretSource guard disk depth interpreter longer ⟨some path, text⟩).result := by
  unfold fetch
  rw [h.reader]
  rfl

/-! ### Equal outcomes -/

/-- The failure is not due to a bound or a guard. -/
def Stands (cause : Failure) : Prop := cause ≠ .tooDeep ∧ ∀ path, cause ≠ .cyclicInclude path

/-- Both runs fail for the same cause, which stands. -/
def equally (left right : Failure → Prop) : Comparison :=
  ⟨left, right, fun cause cause' => cause = cause' ∧ Stands cause⟩

theorem neutral_equally (left right : Failure → Prop) : Neutral (equally left right) Eq Eq := by
  refine ⟨?_, ?_, ?_⟩
  · intro cause
    exact ⟨rfl, by simp, by simp⟩
  · exact ⟨rfl, by simp, by simp⟩
  · intro label doc doc' halike
    exact ⟨by rw [halike.eq], by simp, by simp⟩

theorem equally_cases {left right : Failure → Prop} {α : Type} {first second : Except Failure α}
    (h : Related (equally left right) Eq first second) :
    (∃ cause, left cause ∧ first = .error cause) ∨ (∃ cause, right cause ∧ second = .error cause) ∨
      (second = first ∧ ∀ cause, first = .error cause → Stands cause) := by
  cases h with
  | left hcause => exact Or.inl ⟨_, hcause, rfl⟩
  | right hcause => exact Or.inr (Or.inl ⟨_, hcause, rfl⟩)
  | error hsame =>
    obtain ⟨rfl, hstands⟩ := hsame
    refine Or.inr (Or.inr ⟨rfl, ?_⟩)
    rintro _ ⟨⟩
    exact hstands
  | ok hdoc =>
    refine Or.inr (Or.inr ⟨congrArg Except.ok hdoc.symm, ?_⟩)
    rintro _ ⟨⟩

theorem equally_refl {left right : Failure → Prop} {α : Type} {outcome : Except Failure α}
    (h : ∀ cause, outcome = .error cause → Stands cause) :
    Related (equally left right) Eq outcome outcome := by
  rcases outcome with cause | a
  · exact .error ⟨rfl, h cause rfl⟩
  · exact .ok rfl

theorem interpretSource_equally (h : interpreter.SelfContained files) {left right : Failure → Prop}
    {guard guard' : Guard} {depth depth' : Nat} {chain chain' : List Path} (source : Source)
    (hfetch : ∀ path, Related (equally left right) Eq
      (fetch guard disk depth interpreter chain path)
      (fetch guard' disk depth' interpreter chain' path)) :
    Related (equally left right) Eq
      (interpretSource guard disk (depth + 1) interpreter chain source).result
      (interpretSource guard' disk (depth' + 1) interpreter chain' source).result := by
  have hrelated := interpretSource_related h (neutral_equally left right) sameTexts_eq
    (rfl : #[source] = #[source]) hfetch
  exact hrelated.mono fun _ _ halike => halike.eq.symm

/-- Once both have entered a file, fetching it compares as interpreting it does. -/
theorem fetch_equally (h : interpreter.SelfContained files) {left right : Failure → Prop}
    {guard guard' : Guard} {depth depth' : Nat} {chain chain' longer longer' : List Path}
    {path : Path} (henter : guard.enter chain path = .ok longer)
    (henter' : guard'.enter chain' path = .ok longer')
    (hsub : ∀ text, files.read path = .ok text → Related (equally left right) Eq
      (interpretSource guard disk depth interpreter longer ⟨some path, text⟩).result
      (interpretSource guard' disk depth' interpreter longer' ⟨some path, text⟩).result) :
    Related (equally left right) Eq (fetch guard disk depth interpreter chain path)
      (fetch guard' disk depth' interpreter chain' path) := by
  rw [fetch_eq h, fetch_eq h, henter, henter']
  rcases hread : files.read path with cause | text
  · exact .error ⟨rfl, by simp, by simp⟩
  · exact hsub text hread

/-! ### Runs with and without the guard -/

/-- The failures of a guarded or bounded run that say nothing about another one. -/
def Interrupts (guard : Guard) (cause : Failure) : Prop :=
  cause = .tooDeep ∨ (guard = .checked ∧ ∃ path, cause = .cyclicInclude path)

theorem unchecked_above (disk : Disk) (h : interpreter.SelfContained files) (guard : Guard)
    {depth fuel : Nat} (hle : depth ≤ fuel) (chain chain' : List Path) (source : Source) :
    Related (equally (Interrupts guard) fun _ => False) Eq
      (interpretSource guard disk depth interpreter chain source).result
      (interpretSource .unchecked disk fuel interpreter chain' source).result := by
  induction depth generalizing fuel chain chain' source with
  | zero => exact .left (Or.inl rfl)
  | succ depth ih =>
    cases fuel with
    | zero => omega
    | succ fuel =>
      refine interpretSource_equally h source ?_
      intro path
      cases guard with
      | unchecked => exact fetch_equally h rfl rfl fun text _ => ih (by omega) _ _ _
      | checked =>
        rcases enter_checked_cases chain path with ⟨-, hrefused⟩ | ⟨-, hentered⟩
        · rw [fetch_eq h, hrefused]
          exact .left (Or.inr ⟨rfl, path, rfl⟩)
        · exact fetch_equally h hentered rfl fun text _ => ih (by omega) _ _ _

/-- A run that its bound or its guard does not interrupt is that of every larger bound
    without the guard. -/
theorem unchecked_eq (h : interpreter.SelfContained files) {guard : Guard} {depth fuel : Nat}
    (hle : depth ≤ fuel) {chain : List Path} (chain' : List Path) {source : Source}
    (hruns : ∀ cause, Interrupts guard cause →
      (interpretSource guard disk depth interpreter chain source).result ≠ .error cause) :
    (interpretSource .unchecked disk fuel interpreter chain' source).result =
      (interpretSource guard disk depth interpreter chain source).result := by
  rcases equally_cases (unchecked_above disk h guard hle chain chain' source) with
    ⟨cause, hcause, hfirst⟩ | ⟨_, hfalse, -⟩ | ⟨hsame, -⟩
  · exact absurd hfirst (hruns cause hcause)
  · exact hfalse.elim
  · exact hsame

theorem unchecked_stable (h : interpreter.SelfContained files) {fuel fuel' : Nat}
    (hle : fuel ≤ fuel') {chain : List Path} (chain' : List Path) {source : Source}
    (hwithin : (interpretSource .unchecked disk fuel interpreter chain source).result ≠
      .error .tooDeep) :
    (interpretSource .unchecked disk fuel' interpreter chain' source).result =
      (interpretSource .unchecked disk fuel interpreter chain source).result := by
  refine unchecked_eq h hle chain' ?_
  rintro cause (rfl | ⟨hguard, -⟩)
  · exact hwithin
  · cases hguard

theorem unchecked_of_checked (h : interpreter.SelfContained files) {depth fuel : Nat}
    (hle : depth ≤ fuel) {chain : List Path} (chain' : List Path) {source : Source}
    (hwithin : (interpretSource .checked disk depth interpreter chain source).result ≠
      .error .tooDeep)
    (hacyclic : ∀ path, (interpretSource .checked disk depth interpreter chain source).result ≠
      .error (.cyclicInclude path)) :
    (interpretSource .unchecked disk fuel interpreter chain' source).result =
      (interpretSource .checked disk depth interpreter chain source).result := by
  refine unchecked_eq h hle chain' ?_
  rintro cause (rfl | ⟨-, path, rfl⟩)
  · exact hwithin
  · exact hacyclic path

theorem unchecked_chain (h : interpreter.SelfContained files) (fuel : Nat)
    (chain chain' : List Path) (source : Source) :
    (interpretSource .unchecked disk fuel interpreter chain source).result =
      (interpretSource .unchecked disk fuel interpreter chain' source).result := by
  by_cases hwithin : (interpretSource .unchecked disk fuel interpreter chain source).result =
      .error .tooDeep
  · by_cases hwithin' : (interpretSource .unchecked disk fuel interpreter chain' source).result =
        .error .tooDeep
    · rw [hwithin, hwithin']
    · exact unchecked_stable h (Nat.le_refl fuel) chain hwithin'
  · exact (unchecked_stable h (Nat.le_refl fuel) chain' hwithin).symm

/-! ### Exceeding a bound depends on the text only -/

/-- Without the guard, the includes of the text are nested deeper than the bound. -/
def Deep (disk : Disk) (interpreter : Interpreter) (fuel : Nat) (text : Text) : Prop :=
  (interpretSource .unchecked disk fuel interpreter [] ⟨none, text⟩).result = .error .tooDeep

def inDepth : Comparison :=
  ⟨fun _ => False, fun _ => False, fun cause cause' => cause = .tooDeep ↔ cause' = .tooDeep⟩

theorem tooDeep_iff_of_related {α β : Type} {R : α → β → Prop} {first : Except Failure α}
    {second : Except Failure β} (h : Related inDepth R first second) :
    first = .error .tooDeep ↔ second = .error .tooDeep := by
  cases h with
  | left hcause => exact hcause.elim
  | right hcause => exact hcause.elim
  | error hsame => simpa [inDepth] using hsame
  | ok _ => simp

theorem tooDeep_iff (h : interpreter.SelfContained files) (fuel : Nat) (chain : List Path)
    (source : Source) :
    (interpretSource .unchecked disk fuel interpreter chain source).result = .error .tooDeep ↔
      interpreter.Deep disk fuel source.text := by
  cases fuel with
  | zero => exact ⟨fun _ => rfl, fun _ => rfl⟩
  | succ fuel =>
    refine tooDeep_iff_of_related (interpretSource_related h ⟨?_, ?_, ?_⟩ sameTexts_map ?_ ?_)
    · intro cause
      simp [inDepth]
    · simp [inDepth]
    · intro label doc doc' _
      simp [inDepth]
    · simp
    · -- the same files are fetched with the same outcomes
      intro path
      have hfetch : fetch .unchecked disk fuel interpreter chain path =
          fetch .unchecked disk fuel interpreter [] path := by
        rw [fetch_eq h, fetch_eq h]
        rcases files.read path with cause | text
        · rfl
        · exact unchecked_chain h fuel _ _ _
      rw [hfetch]
      rcases fetch .unchecked disk fuel interpreter [] path with cause | doc
      · exact .error Iff.rfl
      · exact .ok rfl

/-! ### The guarded run stays within its bound -/

/-- The files of the chain can be read, and differ in their components. -/
structure Underway (files : MemoryFiles) (chain : List Path) : Prop where
  readable : ∀ path ∈ chain, ∃ text, files.read path = .ok text
  apart : (chain.map Path.components).Nodup

theorem underway_nil (files : MemoryFiles) : Underway files [] :=
  ⟨fun _ hpath => absurd hpath List.not_mem_nil, List.nodup_nil⟩

theorem Underway.cons {chain : List Path} {path : Path} {text : Text}
    (hchain : Underway files chain) (hnew : ∀ q ∈ chain, q.components ≠ path.components)
    (hread : files.read path = .ok text) : Underway files (path :: chain) := by
  refine ⟨?_, ?_⟩
  · intro q hq
    rcases List.mem_cons.1 hq with rfl | hq
    · exact ⟨text, hread⟩
    · exact hchain.readable q hq
  · rw [List.map_cons, List.nodup_cons]
    refine ⟨?_, hchain.apart⟩
    intro hmem
    obtain ⟨q, hq, hsame⟩ := List.mem_map.1 hmem
    exact hnew q hq hsame

/-- With the guard, the files that are not on the chain yet bound the depth. -/
theorem checked_ne_tooDeep (h : interpreter.SelfContained files) {depth : Nat} {chain : List Path}
    (hchain : Underway files chain) (hdepth : files.entries.length < depth + chain.length)
    (source : Source) :
    (interpretSource .checked disk depth interpreter chain source).result ≠ .error .tooDeep := by
  -- compared with itself, the run fails by a cycle or for a cause that stands
  suffices hself : Related
      (equally (fun cause => ∃ path, cause = .cyclicInclude path) fun _ => False) Eq
      (interpretSource .checked disk depth interpreter chain source).result
      (interpretSource .checked disk depth interpreter chain source).result by
    intro hdeep
    rcases equally_cases hself with ⟨_, ⟨path, rfl⟩, hcycle⟩ | ⟨_, hfalse, -⟩ | ⟨-, hstands⟩
    · cases hdeep.symm.trans hcycle
    · exact hfalse
    · exact (hstands _ hdeep).1 rfl
  induction depth generalizing chain source with
  | zero =>
    have hle := MemoryFiles.length_le_of_readable hchain.apart hchain.readable
    omega
  | succ depth ih =>
    refine interpretSource_equally h source ?_
    intro path
    rcases enter_checked_cases chain path with ⟨-, hrefused⟩ | ⟨hnew, hentered⟩
    · rw [fetch_eq h, hrefused]
      exact .left ⟨path, rfl⟩
    · refine fetch_equally h hentered hentered ?_
      intro text hread
      refine ih (hchain.cons hnew hread) ?_ _
      rw [List.length_cons]
      omega

/-! ### Without the guard, a cycle exceeds every bound -/

/-- The files of the chain exceed all bounds below this one. -/
def DeepBelow (files : MemoryFiles) (disk : Disk) (interpreter : Interpreter) (fuel : Nat)
    (chain : List Path) : Prop :=
  ∀ q ∈ chain, ∀ text, files.read q = .ok text → ∀ less < fuel, interpreter.Deep disk less text

/-- A file that has just been entered exceeds a bound if it does so as soon as it
    exceeds all smaller ones. -/
theorem deep_of_entered {chain : List Path} {path : Path} {text : Text} {fuel : Nat}
    (hread : files.read path = .ok text) (hchain : DeepBelow files disk interpreter fuel chain)
    (hstep : ∀ bound, DeepBelow files disk interpreter bound (path :: chain) →
      interpreter.Deep disk bound text) :
    interpreter.Deep disk fuel text := by
  suffices hall : ∀ bound ≤ fuel, interpreter.Deep disk bound text from hall fuel (Nat.le_refl fuel)
  intro bound
  induction bound using Nat.strongRecOn with
  | ind bound ih =>
    intro hbound
    refine hstep bound ?_
    intro q hq other hother less hless
    rcases List.mem_cons.1 hq with rfl | hq
    · cases hread.symm.trans hother
      exact ih less hless (by omega)
    · exact hchain q hq other hother less (by omega)

/-- If the guard refuses nothing, the run without it exceeds its bound or has the same
    outcome. -/
theorem unchecked_beside_checked (h : interpreter.SelfContained files) {depth : Nat} (fuel : Nat)
    {chain : List Path} (chain' : List Path) {source : Source}
    (hacyclic : ∀ path, (interpretSource .checked disk depth interpreter chain source).result ≠
      .error (.cyclicInclude path)) :
    Related (equally (fun cause => cause = .tooDeep) fun cause => cause = .tooDeep) Eq
      (interpretSource .checked disk depth interpreter chain source).result
      (interpretSource .unchecked disk fuel interpreter chain' source).result := by
  by_cases hdepth : (interpretSource .checked disk depth interpreter chain source).result =
      .error .tooDeep
  · rw [hdepth]
    exact .left rfl
  by_cases hfuel : (interpretSource .unchecked disk fuel interpreter chain' source).result =
      .error .tooDeep
  · rw [hfuel]
    exact .right rfl
  have hsame : (interpretSource .unchecked disk fuel interpreter chain' source).result =
      (interpretSource .checked disk depth interpreter chain source).result :=
    (unchecked_stable h (Nat.le_max_right depth fuel) [] hfuel).symm.trans
      (unchecked_of_checked h (Nat.le_max_left depth fuel) [] hdepth hacyclic)
  rw [hsame]
  refine equally_refl fun cause hcause => ⟨?_, ?_⟩
  · rintro rfl
    exact hdepth hcause
  · rintro path rfl
    exact hacyclic path hcause

/-- If the guard refuses a file below this text, the text exceeds a bound as soon as the
    files of the chain exceed all smaller ones. -/
theorem deep_of_chain (h : interpreter.SelfContained files) {depth : Nat} {chain : List Path}
    {source : Source} {key : Path}
    (hcyclic : (interpretSource .checked disk depth interpreter chain source).result =
      .error (.cyclicInclude key))
    (hchain : Underway files chain) {fuel : Nat}
    (hdeep : DeepBelow files disk interpreter fuel chain) :
    interpreter.Deep disk fuel source.text := by
  induction depth generalizing chain source key fuel with
  | zero => cases hcyclic
  | succ depth ih =>
    cases fuel with
    | zero => rfl
    | succ fuel =>
      rw [← tooDeep_iff h _ []]
      -- where the guard refuses a file, the run without it exceeds its bound
      suffices hrelated : Related
          (equally (fun cause => cause = .tooDeep) fun cause => cause = .tooDeep) Eq
          (interpretSource .checked disk (depth + 1) interpreter chain source).result
          (interpretSource .unchecked disk (fuel + 1) interpreter [] source).result by
        rcases equally_cases hrelated with ⟨_, rfl, hdepth⟩ | ⟨_, rfl, hfuel⟩ | ⟨-, hstands⟩
        · cases hcyclic.symm.trans hdepth
        · exact hfuel
        · exact absurd rfl ((hstands _ hcyclic).2 key)
      refine interpretSource_equally h source ?_
      intro path
      rcases enter_checked_cases chain path with ⟨⟨q, hq, hsame⟩, -⟩ | ⟨hnew, hentered⟩
      · obtain ⟨text, htext⟩ := hchain.readable q hq
        have hout : fetch .unchecked disk fuel interpreter [] path = .error .tooDeep := by
          rw [fetch_eq h, MemoryFiles.read_congr hsame htext]
          exact (tooDeep_iff h fuel _ _).2 (hdeep q hq text htext fuel (Nat.lt_succ_self fuel))
        rw [hout]
        exact .right rfl
      · refine fetch_equally h hentered rfl ?_
        intro text hread
        by_cases hfound : ∃ key, (interpretSource .checked disk depth interpreter (path :: chain)
            ⟨some path, text⟩).result = .error (.cyclicInclude key)
        · obtain ⟨key, hkey⟩ := hfound
          have hless : DeepBelow files disk interpreter fuel chain := fun q hq other hother less
            hless => hdeep q hq other hother less (Nat.lt_succ_of_lt hless)
          have htext : interpreter.Deep disk fuel text :=
            deep_of_entered hread hless fun bound => ih hkey (hchain.cons hnew hread)
          rw [(tooDeep_iff h fuel [path] ⟨some path, text⟩).2 htext]
          exact .right rfl
        · exact unchecked_beside_checked h fuel [path] (not_exists.1 hfound)

/-! ### The guard is exact -/

/-- The outcome with the guard is what the outcomes without it come to: it is that of
    every bound that is large enough, or a cycle, and then every bound is exceeded.  So
    an outcome within some bound is never taken for a cycle (`agrees`). -/
structure Exact (guarded : Except Failure Document) (unguarded : Nat → Except Failure Document) :
    Prop where
  bounded : guarded ≠ .error .tooDeep
  settles : (∀ path, guarded ≠ .error (.cyclicInclude path)) →
    ∃ enough, ∀ fuel ≥ enough, unguarded fuel = guarded
  exceeds : ∀ path, guarded = .error (.cyclicInclude path) →
    ∀ fuel, unguarded fuel = .error .tooDeep
  agrees : ∀ fuel, unguarded fuel ≠ .error .tooDeep → guarded = unguarded fuel

theorem interpretSource_exact (h : interpreter.SelfContained files) {depth : Nat}
    {chain : List Path} {source : Source} (hchain : Underway files chain)
    (hdepth : files.entries.length < depth + chain.length)
    (hdeep : ∀ key, (interpretSource .checked disk depth interpreter chain source).result =
      .error (.cyclicInclude key) → ∀ fuel, interpreter.Deep disk fuel source.text) :
    Exact (interpretSource .checked disk depth interpreter chain source).result
      fun fuel => (interpretSource .unchecked disk fuel interpreter chain source).result := by
  have hbounded : (interpretSource .checked disk depth interpreter chain source).result ≠
      .error .tooDeep := checked_ne_tooDeep h hchain hdepth source
  have hexceeds : ∀ key, (interpretSource .checked disk depth interpreter chain source).result =
      .error (.cyclicInclude key) →
      ∀ fuel, (interpretSource .unchecked disk fuel interpreter chain source).result =
        .error .tooDeep :=
    fun key hkey fuel => (tooDeep_iff h fuel chain source).2 (hdeep key hkey fuel)
  refine ⟨hbounded, ?_, hexceeds, ?_⟩
  · intro hacyclic
    exact ⟨depth, fun fuel hle => unchecked_of_checked h hle chain hbounded hacyclic⟩
  · intro fuel hwithin
    have hacyclic : ∀ path, (interpretSource .checked disk depth interpreter chain source).result ≠
        .error (.cyclicInclude path) :=
      fun path hpath => hwithin (hexceeds path hpath fuel)
    -- both are the outcome for a bound that is large enough for the two
    exact (unchecked_of_checked h (Nat.le_max_left depth fuel) chain hbounded hacyclic).symm.trans
      (unchecked_stable h (Nat.le_max_right depth fuel) chain hwithin)

theorem length_lt_depthLimit (h : interpreter.SelfContained files) :
    files.entries.length < interpreter.depthLimit disk := by
  obtain ⟨types, selfCloseSkip, reader⟩ := interpreter
  obtain rfl : reader = .memory files := h.reader
  simp only [depthLimit, reach, Reader.size]
  omega

theorem interpretFileWithin_eq (h : interpreter.SelfContained files) (guard : Guard) (depth : Nat)
    (path : Path) :
    (interpretFileWithin guard disk depth interpreter path).result =
      match files.read path with
      | .error cause => .error (.unreadableSource path cause)
      | .ok text =>
        (interpretSource guard disk depth interpreter [path] ⟨some path, text⟩).result := by
  unfold interpretFileWithin
  rw [h.reader, Reader.read]
  rcases files.read path with cause | text
  · rfl
  · cases guard <;> rfl

theorem interpretFile_exact (h : interpreter.SelfContained files) (path : Path) :
    Exact (interpreter.interpretFile disk path).result fun fuel =>
      (interpretFileWithin .unchecked disk fuel interpreter path).result := by
  unfold interpretFile
  simp only [interpretFileWithin_eq h]
  rcases hread : files.read path with cause | text
  · exact ⟨by simp, fun _ => ⟨0, fun _ _ => rfl⟩, by simp, fun _ _ => rfl⟩
  · have hchain : Underway files [path] := (underway_nil files).cons (by simp) hread
    refine interpretSource_exact h hchain (Nat.lt_add_right _ (length_lt_depthLimit h)) ?_
    intro key hkey fuel
    exact deep_of_entered hread (fun _ hq => absurd hq List.not_mem_nil) fun bound =>
      deep_of_chain h hkey hchain

theorem interpret_exact (h : interpreter.SelfContained files) (text : Text) :
    Exact (interpreter.interpret disk text).result fun fuel =>
      (interpretSource .unchecked disk fuel interpreter [] ⟨none, text⟩).result := by
  refine interpretSource_exact h (underway_nil files) (length_lt_depthLimit h) ?_
  intro key hkey fuel
  exact deep_of_chain h hkey (underway_nil files) fun _ hq => absurd hq List.not_mem_nil

end

/-- **The guard against include cycles is exact,** for texts and for files, and files are
    told apart by the components of their paths, on the chain as in memory. -/
theorem includeGuard_exact (disk : Disk) {interpreter : Interpreter} {files : MemoryFiles}
    (h : interpreter.SelfContained files) :
    (∀ text, Exact (interpreter.interpret disk text).result fun fuel =>
        (interpretSource .unchecked disk fuel interpreter [] ⟨none, text⟩).result) ∧
      (∀ path, Exact (interpreter.interpretFile disk path).result fun fuel =>
        (interpretFileWithin .unchecked disk fuel interpreter path).result) ∧
      (∀ chain path,
        (∃ key, Guard.checked.enter chain (interpreter.reader.identity disk path) =
          .error (.cyclicInclude key)) ↔ ∃ q ∈ chain, q.components = path.components) ∧
      (∀ p q text, p.components = q.components →
        interpreter.reader.read disk p = .ok text → interpreter.reader.read disk q = .ok text) ∧
      ∀ p q text, (files.insert p text).find? q =
        if p.components = q.components then some text else files.find? q := by
  refine ⟨interpret_exact h, interpretFile_exact h, ?_, ?_, files.find?_insert⟩
  · intro chain path
    rw [h.reader]
    show (∃ key, Guard.checked.enter chain path = .error (.cyclicInclude key)) ↔ _
    rcases enter_checked_cases chain path with ⟨hsame, hrefused⟩ | ⟨hnew, hentered⟩
    · exact ⟨fun _ => hsame, fun _ => ⟨path, hrefused⟩⟩
    · rw [hentered]
      simpa using hnew
  · intro p q text hsame hread
    rw [h.reader] at hread ⊢
    exact MemoryFiles.read_congr hsame hread

/-- Files that include one another: `a` and `b` include `c`, and `x/d` includes itself
    under another spelling. -/
def sampleFiles : MemoryFiles :=
  ⟨[(⟨['a']⟩, ['<', 'c', '>']), (⟨['b']⟩, ['<', 'c', '>']), (⟨['c']⟩, ['y']),
    (⟨['x', '/', 'd']⟩, ['<', 'x', '/', '.', '/', 'd', '>'])]⟩

/-- A text that includes `c` along two branches, and twice in a row. -/
def sampleDiamond : Text := ['<', 'a', '>', '<', 'b', '>', '<', 'c', '>', '<', 'c', '>']

def sampleGraph : Interpreter := { sample with reader := .memory sampleFiles }

theorem sampleGraph_selfContained : sampleGraph.SelfContained sampleFiles := by
  refine ⟨rfl, ?_⟩
  intro type htype settings hinc
  simp only [sampleGraph, sample, List.mem_cons, List.not_mem_nil, or_false] at htype
  rcases htype with rfl | rfl | rfl <;> cases hinc
  rfl

def isCycle : Except Failure Document → Bool
  | .error (.cyclicInclude _) => true
  | _ => false

theorem exists_of_isCycle {outcome : Except Failure Document} (h : isCycle outcome = true) :
    ∃ path, outcome = .error (.cyclicInclude path) := by
  unfold isCycle at h
  split at h
  · exact ⟨_, rfl⟩
  · cases h

/-- The diamond is no cycle, and the file that includes itself is one. -/
theorem sampleGraph_exact :
    (∃ doc, (sampleGraph.interpret ⟨[], []⟩ sampleDiamond).result = .ok doc ∧
      ∃ enough, ∀ fuel ≥ enough, (interpretSource .unchecked ⟨[], []⟩ fuel sampleGraph []
        ⟨none, sampleDiamond⟩).result = .ok doc) ∧
    (∃ path, (sampleGraph.interpretFile ⟨[], []⟩ ⟨['x', '/', 'd']⟩).result =
        .error (.cyclicInclude path)) ∧
      ∀ fuel, (interpretFileWithin .unchecked ⟨[], []⟩ fuel sampleGraph
        ⟨['x', '/', 'd']⟩).result = .error .tooDeep := by
  obtain ⟨htexts, hpaths, -⟩ := includeGuard_exact ⟨[], []⟩ sampleGraph_selfContained
  refine ⟨?_, ?_⟩
  · obtain ⟨doc, hdoc⟩ := exists_eq_ok
      (show (sampleGraph.interpret ⟨[], []⟩ sampleDiamond).result.isOk = true by decide +kernel)
    obtain ⟨enough, henough⟩ := (htexts sampleDiamond).settles (by simp [hdoc])
    exact ⟨doc, hdoc, enough, fun fuel hle => (henough fuel hle).trans hdoc⟩
  · obtain ⟨path, hpath⟩ := exists_of_isCycle (show isCycle (sampleGraph.interpretFile ⟨[], []⟩
      ⟨['x', '/', 'd']⟩).result = true by decide +kernel)
    exact ⟨⟨path, hpath⟩, (hpaths _).exceeds path hpath⟩

end Interpreter

end Blockwise
