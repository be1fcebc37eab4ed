/-
  Blockwise/Proofs/Config/Depth.lean
  ==================================
  **Nested configurations end.**  A nested configuration is built only if it can be loaded
  and is not being built already.  So those on the chain are different files of the disk,
  and the bound on their depth is never used up (`checked_ne_tooDeep`).

  Builds with other bounds, and without the check, are compared failure by failure: if the
  interpreters that the entries name compare as some `Terms` say, so do the outcomes of the
  whole (`buildWith_beside`).  Without the check, and with a larger bound, the outcome is
  the same unless the bound was used up or a file that is there was refused
  (`unchecked_beside`).
-/
import Blockwise.Proofs.Config.Building
import Blockwise.Proofs.Interpret.Nesting

namespace Blockwise.Config

/-! ### Outcomes side by side -/

/-- Which failures of two builds go together. -/
structure Terms where
  /-- If the first build fails like this, the second may do anything. -/
  lost : ConfigError → Prop
  /-- If the second build fails like this, the first may have done anything. -/
  quits : ConfigError → Prop
  meets : ConfigError → ConfigError → Prop

inductive Beside (terms : Terms) {α : Type} : Except ConfigError α → Except ConfigError α → Prop
  | lost {cause second} : terms.lost cause → Beside terms (.error cause) second
  | quits {first cause} : terms.quits cause → Beside terms first (.error cause)
  | meets {cause cause'} : terms.meets cause cause' → Beside terms (.error cause) (.error cause')
  | ok (a : α) : Beside terms (.ok a) (.ok a)

/-- What is wrong with an entry by itself is wrong in both builds. -/
structure Terms.Fair (terms : Terms) : Prop where
  closeTag : ∀ name, terms.lost (.missingCloseTag name) ∨
    terms.meets (.missingCloseTag name) (.missingCloseTag name)
  block : ∀ refusal, terms.lost (.invalidBlock refusal) ∨
    terms.meets (.invalidBlock refusal) (.invalidBlock refusal)

variable {terms : Terms} {α β : Type}

theorem Beside.refl_error {cause : ConfigError} (h : terms.lost cause ∨ terms.meets cause cause) :
    Beside terms (.error cause : Except ConfigError α) (.error cause) :=
  h.elim .lost .meets

theorem Beside.bind {first second : Except ConfigError α} {next next' : α → Except ConfigError β}
    (h : Beside terms first second) (hnext : ∀ a, Beside terms (next a) (next' a)) :
    Beside terms (first >>= next) (second >>= next') := by
  cases h with
  | lost hcause => exact .lost hcause
  | quits hcause => exact .quits hcause
  | meets hcauses => exact .meets hcauses
  | ok a => exact hnext a

theorem Beside.mapM {f g : α → Traced ConfigError β} (xs : List α)
    (h : ∀ x, Beside terms (f x).result (g x).result) :
    Beside terms (xs.mapM f).result (xs.mapM g).result := by
  induction xs with
  | nil => exact .ok []
  | cons x xs ih =>
    rw [List.mapM_cons, List.mapM_cons, Traced.result_bind, Traced.result_bind]
    refine (h x).bind fun y => ?_
    rw [Traced.result_bind, Traced.result_bind]
    exact ih.bind fun ys => .ok (y :: ys)

/-! ### One level of two builds -/

variable {config : Config} {nested nested' : Path → Traced ConfigError Interpreter}

theorem closeTagOf_beside (hfair : terms.Fair) (entry : BlockEntry) :
    Beside terms (closeTagOf entry).result (closeTagOf entry).result := by
  unfold closeTagOf
  cases entry.closeTag with
  | none => exact .refl_error (hfair.closeTag entry.name)
  | some tag => exact .ok tag

theorem overrideOf_beside (h : ∀ named, Beside terms (nested named).result (nested' named).result)
    (entry : BlockEntry) :
    Beside terms (overrideOf nested entry).result (overrideOf nested' entry).result := by
  unfold overrideOf
  cases entry.subinterpreter with
  | none => exact .ok none
  | some named =>
    simp only [map_eq_pure_bind, Traced.result_bind]
    exact (h named).bind fun inner => .ok (some inner)

theorem baseType_beside (hfair : terms.Fair)
    (h : ∀ named, Beside terms (nested named).result (nested' named).result) (entry : BlockEntry) :
    Beside terms (config.baseType nested entry).result (config.baseType nested' entry).result := by
  unfold baseType
  cases entry.kind with
  | delimited =>
    simp only [Traced.result_bind]
    exact (closeTagOf_beside hfair entry).bind fun _ => .ok _
  | comment => exact .ok _
  | inclusion =>
    simp only [Traced.result_bind]
    refine (closeTagOf_beside hfair entry).bind fun closeTag => ?_
    exact (overrideOf_beside h entry).bind fun _ => .ok _

theorem blockType_beside (hfair : terms.Fair)
    (h : ∀ named, Beside terms (nested named).result (nested' named).result) (entry : BlockEntry) :
    Beside terms (config.blockType nested entry).result
      (config.blockType nested' entry).result := by
  rw [blockType_eq, blockType_eq]
  simp only [Traced.result_bind]
  exact (baseType_beside hfair h entry).bind fun _ => .ok _

/-- Two builds compare as the builds of the interpreters do that their entries name. -/
theorem buildWith_beside (hfair : terms.Fair)
    (h : ∀ named, Beside terms (nested named).result (nested' named).result) :
    Beside terms (config.buildWith nested).result (config.buildWith nested').result := by
  unfold buildWith
  simp only [Traced.result_bind]
  refine (Beside.mapM config.entries (blockType_beside hfair h)).bind fun types => ?_
  cases Interpreter.ofTypes types .disk with
  | error refusal => exact .refl_error (hfair.block refusal)
  | ok interpreter => exact .ok _

/-! ### Loading -/

variable {env : Environment} {disk : Disk}

theorem load_eq_error {path : Path} {cause : ConfigError} (h : load env disk path = .error cause) :
    (∃ file, cause = .unreadable path file) ∨ cause = .malformed path := by
  unfold load at h
  split at h
  · split at h
    · next file _ =>
      cases h
      exact Or.inl ⟨file, rfl⟩
    · split at h
      · cases h
        exact Or.inr rfl
      · cases h
  · cases h

theorem load_eq_some {path : Path} {config : Config}
    (h : load env disk path = .ok (some config)) :
    ∃ text base, disk.pathExists path = true ∧ disk.read path = .ok text ∧
      ofText? text = some base ∧
      config = { base.expandPaths env with sourcePath := some path } := by
  unfold load at h
  split at h
  · next hexists =>
    split at h
    · cases h
    · next text hread =>
      split at h
      · cases h
      · next base hbase =>
        cases h
        exact ⟨text, base, hexists, hread, hbase, rfl⟩
  · cases h

theorem load_eq_none {path : Path} (h : disk.pathExists path = false) :
    load env disk path = .ok none :=
  if_neg (by simp [h])

/-! ### Larger bounds -/

/-- A build whose bound is used up says nothing about larger bounds. -/
def bounded : Terms where
  lost cause := cause = .tooDeep
  quits _ := False
  meets cause cause' := cause' = cause

theorem fair_bounded : bounded.Fair :=
  ⟨fun _ => Or.inr rfl, fun _ => Or.inr rfl⟩

theorem deeper_beside (guard : Guard) (env : Environment) (disk : Disk) {depth more : Nat}
    (hle : depth ≤ more) (chain : List Path) (config : Config) :
    Beside bounded (buildWithin guard env disk depth chain config).result
      (buildWithin guard env disk more chain config).result := by
  induction depth generalizing more chain config with
  | zero => exact .lost rfl
  | succ depth ih =>
    cases more with
    | zero => omega
    | succ more =>
      rw [buildWithin_succ, buildWithin_succ]
      refine buildWith_beside fair_bounded fun named => ?_
      rw [result_nestedWithin, result_nestedWithin]
      split
      · exact .meets rfl
      · rcases load env disk (config.subPath named) with cause | _ | sub
        · exact .meets rfl
        · exact .meets rfl
        · exact ih (by omega) _ sub

/-- A build whose bound is not used up is that of every larger bound. -/
theorem deeper_eq {guard : Guard} {depth more : Nat} (hle : depth ≤ more) {chain : List Path}
    {config : Config}
    (h : (buildWithin guard env disk depth chain config).result ≠ .error .tooDeep) :
    (buildWithin guard env disk more chain config).result =
      (buildWithin guard env disk depth chain config).result := by
  generalize hfirst : (buildWithin guard env disk depth chain config).result = first at h
  generalize hsecond : (buildWithin guard env disk more chain config).result = second
  have hbeside := deeper_beside guard env disk hle chain config
  rw [hfirst, hsecond] at hbeside
  cases hbeside with
  | lost hcause => exact absurd (congrArg Except.error hcause) h
  | quits hcause => exact hcause.elim
  | meets hcauses => rw [hcauses]
  | ok interpreter => rfl

/-! ### The check keeps within the bound -/

/-- A build that does not use up its bound, whatever else comes of it. -/
def shallow : Terms := ⟨fun cause => cause ≠ .tooDeep, fun _ => False, fun _ _ => False⟩

theorem fair_shallow : shallow.Fair :=
  ⟨fun _ => Or.inl (by simp [shallow]), fun _ => Or.inl (by simp [shallow])⟩

/-- The paths are those of different files of the disk. -/
structure Underway (disk : Disk) (chain : List Path) : Prop where
  apart : (chain.map Path.components).Nodup
  known : ∀ path ∈ chain, path.components ∈ Reader.disk.keys disk

theorem Underway.length_le {chain : List Path} (h : Underway disk chain) :
    chain.length ≤ disk.size := by
  have hsubset : chain.map Path.components ⊆ Reader.disk.keys disk := by
    intro components hmem
    obtain ⟨path, hpath, rfl⟩ := List.mem_map.1 hmem
    exact h.known path hpath
  have hlength := (h.apart.subperm hsubset).length_le
  rwa [List.length_map, Reader.length_keys] at hlength

theorem Underway.cons {chain : List Path} {path : Path} {text : Text} (h : Underway disk chain)
    (hnew : ∀ key ∈ chain, key.same (identity disk path) = false)
    (hread : disk.read path = .ok text) : Underway disk (identity disk path :: chain) := by
  constructor
  · rw [List.map_cons, List.nodup_cons]
    refine ⟨?_, h.apart⟩
    intro hmem
    obtain ⟨key, hkey, hsame⟩ := List.mem_map.1 hmem
    have hother := hnew key hkey
    simp [Path.same, hsame] at hother
  · intro key hkey
    rcases List.mem_cons.1 hkey with rfl | hkey
    · exact @Reader.identity_mem_keys disk .disk path text hread
    · exact h.known key hkey

/-- The files that are not being built yet bound the depth. -/
theorem checked_shallow (env : Environment) {depth : Nat} {newer : List Path} (start : List Path)
    (h : Underway disk newer) (hdepth : disk.size < depth + newer.length) (config : Config) :
    Beside shallow (buildWithin .checked env disk depth (newer ++ start) config).result
      (buildWithin .checked env disk depth (newer ++ start) config).result := by
  induction depth generalizing newer config with
  | zero =>
    have := h.length_le
    omega
  | succ depth ih =>
    rw [buildWithin_succ]
    refine buildWith_beside fair_shallow fun named => ?_
    rw [result_nestedWithin]
    split
    · exact .lost (by simp [shallow])
    · next hnew =>
      rcases hload : load env disk (config.subPath named) with cause | _ | sub
      · refine .lost ?_
        rcases load_eq_error hload with ⟨file, rfl⟩ | rfl <;> simp [shallow]
      · exact .lost (by simp [shallow])
      · obtain ⟨text, -, -, hread, -⟩ := load_eq_some hload
        have hapart : ∀ key ∈ newer, key.same (identity disk (config.subPath named)) = false := by
          intro key hkey
          simp only [true_and, List.any_append, List.any_eq_true, Bool.or_eq_true] at hnew
          simpa using fun hsame => hnew (Or.inl ⟨key, hkey, hsame⟩)
        refine ih (h.cons hapart hread) ?_ sub
        rw [List.length_cons]
        omega

/-- The bound on the depth of nested configurations is never used up. -/
theorem checked_ne_tooDeep (env : Environment) (disk : Disk) (config : Config) :
    (config.interpreter env disk).result ≠ .error .tooDeep := by
  have hnone : Underway disk [] :=
    ⟨List.nodup_nil, fun _ hpath => absurd hpath List.not_mem_nil⟩
  have hself := checked_shallow env (config.startChain disk) hnone
    (show disk.size < depthLimit disk + 0 by unfold depthLimit; omega) config
  rw [List.nil_append] at hself
  intro hdeep
  rw [interpreter] at hdeep
  rw [hdeep] at hself
  cases hself with
  | lost hcause => exact hcause rfl
  | quits hcause => exact hcause
  | meets hcauses => exact hcauses

/-! ### Without the check -/

/-- What becomes of a failure when nothing is refused: a file that is not there is missing. -/
def unrefused : ConfigError → ConfigError
  | .cyclicSubinterpreter path => .missingSubinterpreter path
  | cause => cause

/-- A build whose bound is used up, or that refuses a file that is there, says nothing about
    builds without the check. -/
def unguarded (disk : Disk) : Terms where
  lost cause := cause = .tooDeep ∨
    ∃ path, cause = .cyclicSubinterpreter path ∧ disk.pathExists path = true
  quits _ := False
  meets cause cause' := cause' = unrefused cause

theorem fair_unguarded (disk : Disk) : (unguarded disk).Fair :=
  ⟨fun _ => Or.inr rfl, fun _ => Or.inr rfl⟩

theorem unchecked_beside (guard : Guard) (env : Environment) (disk : Disk) {depth fuel : Nat}
    (hle : depth ≤ fuel) (chain chain' : List Path) (config : Config) :
    Beside (unguarded disk) (buildWithin guard env disk depth chain config).result
      (buildWithin .unchecked env disk fuel chain' config).result := by
  induction depth generalizing fuel chain chain' config with
  | zero => exact .lost (Or.inl rfl)
  | succ depth ih =>
    cases fuel with
    | zero => omega
    | succ fuel =>
      rw [buildWithin_succ, buildWithin_succ]
      refine buildWith_beside (fair_unguarded disk) fun named => ?_
      rw [result_nestedWithin, result_nestedWithin_unchecked]
      split
      · by_cases hexists : disk.pathExists (config.subPath named) = true
        · exact .lost (Or.inr ⟨_, rfl, hexists⟩)
        · rw [load_eq_none (by simpa using hexists)]
          exact .meets rfl
      · rcases hload : load env disk (config.subPath named) with cause | _ | sub
        · refine .meets ?_
          rcases load_eq_error hload with ⟨file, rfl⟩ | rfl <;> rfl
        · exact .meets rfl
        · exact ih (by omega) _ _ sub

end Blockwise.Config
