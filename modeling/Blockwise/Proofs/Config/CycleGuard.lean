/-
  Blockwise/Proofs/Config/CycleGuard.lean
  =======================================
  **What the check for cyclic configurations refuses.**  Compare the interpreter of a
  configuration with what would be built without the check, with a bound on the depth of
  nested configurations instead:

    * an outcome other than a cycle is the outcome without the check for every bound that is
      large enough;
    * if the path that is refused leads to a file, no bound is large enough to build an
      interpreter: either the bound is used up, or the path of a nested configuration has
      grown longer than a path can be;
    * a path that is refused may also lead nowhere, by being written like that of a file
      that is being built; without the check, that file is missing.

  For the second point, let a file be refused.  Without the check it is loaded again, by a
  path that may be spelled differently, and with a smaller bound.  Its entries name the same
  files, from the same directory (`twin_of_load`), so it uses up a bound as soon as it uses
  up all smaller ones (`endless_of_entered`, `twin_beside`).
-/
import Blockwise.Proofs.Config.Depth
import Blockwise.Proofs.Files.Disk

namespace Blockwise.Config

variable {env : Environment} {disk : Disk}

/-! ### Files by their places -/

/-- The configuration that the file at a place describes. -/
def described (env : Environment) (disk : Disk) (place : Location) : Option Config :=
  match disk.entry? place with
  | some (.file (.text body)) => (ofText? body).map (expandPaths env)
  | _ => none

theorem described_eq_some {place : Location} {base : Config} :
    described env disk place = some base ↔
      ∃ body config, disk.entry? place = some (.file (.text body)) ∧
        ofText? body = some config ∧ base = config.expandPaths env := by
  unfold described
  split
  · next body hentry =>
    rw [Option.map_eq_some_iff]
    constructor
    · rintro ⟨config, hconfig, rfl⟩
      exact ⟨body, config, hentry, hconfig, rfl⟩
    · rintro ⟨other, config, hother, hconfig, rfl⟩
      cases hentry.symm.trans hother
      exact ⟨config, hconfig, rfl⟩
  · next hother =>
    constructor
    · rintro ⟨⟩
    · rintro ⟨body, -, hentry, -⟩
      exact absurd hentry (hother body)

theorem load_eq_some_iff {path : Path} {config : Config} :
    load env disk path = .ok (some config) ↔
      ∃ place base, disk.locate path = .ok place ∧ described env disk place = some base ∧
        config = { base with sourcePath := some path } := by
  constructor
  · intro h
    obtain ⟨text, base, hexists, hread, hbase, rfl⟩ := load_eq_some h
    obtain ⟨place, hplace⟩ := Disk.pathExists_iff.1 hexists
    have hentry : disk.entry? place = some (.file (.text text)) := by
      rw [Disk.read, hplace] at hread
      dsimp only [bind, Except.bind] at hread
      split at hread <;> cases hread
      assumption
    exact ⟨place, _, hplace, described_eq_some.2 ⟨text, base, hentry, hbase, rfl⟩, rfl⟩
  · rintro ⟨place, base, hplace, hbase, rfl⟩
    obtain ⟨body, config, hentry, hconfig, rfl⟩ := described_eq_some.1 hbase
    have hread : disk.read path = .ok body := by
      rw [Disk.read, hplace]
      simp [bind, Except.bind, hentry]
    simp [load, Disk.pathExists_iff.2 ⟨place, hplace⟩, hread, hconfig]

theorem identity_of_follow {path : Path} {place : Location} (h : disk.follow path = .ok place) :
    identity disk path = Disk.pathOf place := by
  simp only [identity, Reader.identity, Reader.canonical, Disk.canonical, h]
  rfl

/-- Paths with one identity lead to one place. -/
theorem place_eq_of_same (hdisk : disk.Standing disk.workingDir) {path path' : Path}
    {place place' : Location} (h : disk.follow path = .ok place)
    (h' : disk.follow path' = .ok place')
    (hsame : (identity disk path).same (identity disk path') = true) : place = place' := by
  rw [identity_of_follow h, identity_of_follow h'] at hsame
  exact Disk.pathOf_injective (Disk.follow_standing hdisk h).names
    (Disk.follow_standing hdisk h').names hsame

/-! ### One file by two paths -/

/-- The configurations say the same, and their entries name the same files. -/
structure Twin (disk : Disk) (config config' : Config) : Prop where
  settings : config' = { config with sourcePath := config'.sourcePath }
  files : ∀ named place content, disk.follow (config.subPath named) = .ok place →
    disk.entry? place = some (.file content) → disk.follow (config'.subPath named) = .ok place

theorem twin_refl (disk : Disk) (config : Config) : Twin disk config config :=
  ⟨rfl, fun _ _ _ h _ => h⟩

theorem Twin.buildWith {config config' : Config} (h : Twin disk config config')
    (nested : Path → Traced ConfigError Interpreter) :
    config'.buildWith nested = config.buildWith nested := by
  rw [h.settings]
  rfl

theorem twin_of_place (hdisk : disk.Standing disk.workingDir) {path path' : Path}
    {place : Location} {content : Content} (h : disk.follow path = .ok place)
    (h' : disk.follow path' = .ok place) (hfile : disk.entry? place = some (.file content))
    (base : Config) :
    Twin disk { base with sourcePath := some path } { base with sourcePath := some path' } := by
  refine ⟨rfl, ?_⟩
  intro named reached content hnamed hreached
  obtain ⟨dir, above, name, hparent, rfl, hdir, hjoin⟩ := Disk.exists_follow_join hdisk h hfile
  obtain ⟨dir', above', name', hparent', hplace', -, hjoin'⟩ :=
    Disk.exists_follow_join hdisk h' hfile
  obtain ⟨rfl, -⟩ := List.append_inj' hplace' rfl
  by_cases habs : named.isAbsolute = true
  · simpa [subPath, hparent, hparent', habs] using hnamed
  · simp only [subPath, Option.bind_some, hparent, hparent', habs] at hnamed ⊢
    have hrelative : named.isAbsolute = false := by simpa using habs
    obtain ⟨⟨hzeroless, -⟩, hwalk⟩ := (hjoin named hrelative reached).1 hnamed
    refine (hjoin' named hrelative reached).2 ⟨⟨hzeroless, Path.join_ne_nil ?_⟩, hwalk⟩
    -- the empty path leads to the directory itself
    intro hempty
    rw [hempty] at hwalk
    rw [Disk.walk_insignificant (by decide) hwalk, hdir] at hreached
    cases hreached

/-- A file that is loaded by two paths is the same configuration twice. -/
theorem twin_of_load (hdisk : disk.Standing disk.workingDir) {path path' : Path}
    {config config' : Config} (h : load env disk path = .ok (some config))
    (h' : load env disk path' = .ok (some config'))
    (hsame : (identity disk path).same (identity disk path') = true) :
    Twin disk config config' := by
  obtain ⟨place, base, hplace, hbase, rfl⟩ := load_eq_some_iff.1 h
  obtain ⟨place', base', hplace', hbase', rfl⟩ := load_eq_some_iff.1 h'
  obtain ⟨-, hfollow⟩ := Disk.locate_eq_ok.1 hplace
  obtain ⟨-, hfollow'⟩ := Disk.locate_eq_ok.1 hplace'
  obtain rfl := place_eq_of_same hdisk hfollow hfollow' hsame
  cases hbase.symm.trans hbase'
  obtain ⟨body, -, hentry, -⟩ := described_eq_some.1 hbase
  exact twin_of_place hdisk hfollow hfollow' hentry base

/-- A file that an entry of one configuration names is loaded for its twin, too, unless
    the path is too long. -/
theorem Twin.load {config config' : Config} (htwin : Twin disk config config') {named : Path}
    {place : Location} {base : Config} (hplace : disk.follow (config.subPath named) = .ok place)
    (hbase : described env disk place = some base) :
    (Disk.maxPathBytes < (config'.subPath named).spelling.byteLen ∧
        load env disk (config'.subPath named) = .ok none) ∨
      (load env disk (config'.subPath named) =
          .ok (some { base with sourcePath := some (config'.subPath named) }) ∧
        identity disk (config'.subPath named) = identity disk (config.subPath named)) := by
  obtain ⟨body, -, hentry, -⟩ := described_eq_some.1 hbase
  have hplace' := htwin.files named place _ hplace hentry
  rcases Nat.lt_or_ge Disk.maxPathBytes (config'.subPath named).spelling.byteLen with hlong | hshort
  · refine Or.inl ⟨hlong, load_eq_none ?_⟩
    rw [Bool.eq_false_iff, Ne, Disk.pathExists_iff]
    rintro ⟨other, hother⟩
    exact absurd (Disk.locate_eq_ok.1 hother).1 (Nat.not_le.2 hlong)
  · refine Or.inr ⟨load_eq_some_iff.2 ⟨place, base, ?_, hbase, rfl⟩, ?_⟩
    · exact Disk.locate_eq_ok.2 ⟨hshort, hplace'⟩
    · rw [identity_of_follow hplace, identity_of_follow hplace']

/-! ### Builds that come to no end -/

/-- The bound is used up, or a path has grown too long. -/
def Exceeds (cause : ConfigError) : Prop :=
  cause = .tooDeep ∨
    ∃ path, cause = .missingSubinterpreter path ∧ Disk.maxPathBytes < path.spelling.byteLen

/-- The build fails for lack of depth or for the length of a path. -/
def Endless (outcome : Except ConfigError Interpreter) : Prop :=
  ∃ cause, Exceeds cause ∧ outcome = .error cause

/-- Whatever is built with the check is built without it for a twin, or the twin comes to no
    end; it surely does not where a file that is there is refused, if that is heeded. -/
def endless (disk : Disk) (heeded : Prop) : Terms where
  lost cause := heeded → ∀ path, cause = .cyclicSubinterpreter path → disk.pathExists path = false
  quits := Exceeds
  meets _ _ := False

theorem fair_endless (disk : Disk) (heeded : Prop) : (endless disk heeded).Fair :=
  ⟨fun _ => Or.inl (by simp [endless]), fun _ => Or.inl (by simp [endless])⟩

/-- The file with this identity comes to no end with any smaller bound. -/
def EndlessBelow (env : Environment) (disk : Disk) (fuel : Nat) (key : Path) : Prop :=
  ∀ less < fuel, ∀ path sub chain, load env disk path = .ok (some sub) →
    key.same (identity disk path) = true →
    Endless (buildWithin .unchecked env disk less chain sub).result

/-- The paths are identities of files that were loaded. -/
def Loaded (env : Environment) (disk : Disk) (chain : List Path) : Prop :=
  ∀ key ∈ chain, ∃ path sub, load env disk path = .ok (some sub) ∧ key = identity disk path

theorem Loaded.cons {chain : List Path} (hchain : Loaded env disk chain) {path : Path}
    {sub : Config} (hload : load env disk path = .ok (some sub)) :
    Loaded env disk (identity disk path :: chain) := by
  intro key hkey
  rcases List.mem_cons.1 hkey with rfl | hkey
  · exact ⟨path, sub, hload, rfl⟩
  · exact hchain key hkey

/-- A path that is there and has the identity of such a file leads to that file. -/
theorem Loaded.described {chain : List Path} (hchain : Loaded env disk chain)
    (hdisk : disk.Standing disk.workingDir) {key path : Path} (hkey : key ∈ chain)
    (hsame : key.same (identity disk path) = true) (hexists : disk.pathExists path = true) :
    ∃ place base, disk.follow path = .ok place ∧ described env disk place = some base := by
  obtain ⟨loaded, sub, hload, rfl⟩ := hchain key hkey
  obtain ⟨place, base, hplace, hbase, -⟩ := load_eq_some_iff.1 hload
  obtain ⟨-, hfollow⟩ := Disk.locate_eq_ok.1 hplace
  obtain ⟨place', hplace'⟩ := Disk.pathExists_iff.1 hexists
  obtain ⟨-, hfollow'⟩ := Disk.locate_eq_ok.1 hplace'
  obtain rfl := place_eq_of_same hdisk hfollow hfollow' hsame
  exact ⟨place, base, hfollow', hbase⟩

/-- A file that has just been loaded comes to no end if it does so as soon as it does with
    all smaller bounds. -/
theorem endless_of_entered (hdisk : disk.Standing disk.workingDir) {chain : List Path}
    {path : Path} {sub : Config} (hload : load env disk path = .ok (some sub)) {fuel : Nat}
    (hchain : ∀ key ∈ chain, EndlessBelow env disk fuel key)
    (hstep : ∀ bound twin chain', Twin disk sub twin →
      (∀ key ∈ identity disk path :: chain, EndlessBelow env disk bound key) →
      Endless (buildWithin .unchecked env disk bound chain' twin).result) :
    EndlessBelow env disk (fuel + 1) (identity disk path) := by
  intro bound
  induction bound using Nat.strongRecOn with
  | ind bound ih =>
    intro hbound path' twin chain' hload' hsame
    refine hstep bound twin chain' (twin_of_load hdisk hload hload' hsame) ?_
    intro key hkey
    rcases List.mem_cons.1 hkey with rfl | hkey
    · exact fun less hless => ih less hless (by omega)
    · exact fun less hless => hchain key hkey less (by omega)

theorem Beside.endless_of_refused {heeded : Prop} (hheeded : heeded) {path : Path}
    (hexists : disk.pathExists path = true) {outcome : Except ConfigError Interpreter}
    (h : Beside (endless disk heeded) (.error (.cyclicSubinterpreter path)) outcome) :
    Endless outcome := by
  cases h with
  | lost hlost => rw [hlost hheeded path rfl] at hexists; cases hexists
  | quits hcause => exact ⟨_, hcause, rfl⟩
  | meets hcauses => exact hcauses.elim

theorem Endless.beside {heeded : Prop} {first outcome : Except ConfigError Interpreter}
    (h : Endless outcome) : Beside (endless disk heeded) first outcome := by
  obtain ⟨cause, hcause, rfl⟩ := h
  exact .quits hcause

theorem Beside.of_ok {heeded : Prop} {interpreter : Interpreter}
    {outcome : Except ConfigError Interpreter}
    (h : Beside (endless disk False) (.ok interpreter) outcome) :
    Beside (endless disk heeded) (.ok interpreter) outcome := by
  cases h with
  | quits hcause => exact .quits hcause
  | ok => exact .ok interpreter

theorem same_refl (path : Path) : path.same path = true := by simp [Path.same]

/-- A file that has just been loaded compares with its twins, if it does so as soon as it
    comes to no end with any smaller bound. -/
theorem entered_beside (hdisk : disk.Standing disk.workingDir) {heeded : Prop} {chain : List Path}
    {path path' : Path} {sub sub' : Config} (hload : load env disk path = .ok (some sub))
    (hload' : load env disk path' = .ok (some sub'))
    (hsame : (identity disk path).same (identity disk path') = true) {fuel : Nat}
    (hdeep : heeded → ∀ key ∈ chain, EndlessBelow env disk (fuel + 1) key)
    {outcome : Except ConfigError Interpreter}
    (hstep : ∀ (heeded' : Prop) bound twin chain', Twin disk sub twin →
      (heeded' → ∀ key ∈ identity disk path :: chain, EndlessBelow env disk bound key) →
      Beside (endless disk heeded') outcome
        (buildWithin .unchecked env disk bound chain' twin).result) (chain' : List Path) :
    Beside (endless disk heeded) outcome
      (buildWithin .unchecked env disk fuel chain' sub').result := by
  rcases outcome with cause | interpreter
  · by_cases hrefused : heeded ∧ ∃ refused, cause = .cyclicSubinterpreter refused ∧
        disk.pathExists refused = true
    · obtain ⟨hheeded, refused, rfl, hexists⟩ := hrefused
      have hbelow : EndlessBelow env disk (fuel + 1) (identity disk path) := by
        refine endless_of_entered hdisk hload
          (fun key hkey less hless => hdeep hheeded key hkey less (by omega)) ?_
        intro bound twin chain' htwin hbelow
        exact (hstep heeded bound twin chain' htwin fun _ => hbelow).endless_of_refused hheeded
          hexists
      exact (hbelow fuel (Nat.lt_succ_self fuel) path' sub' chain' hload' hsame).beside
    · refine .lost ?_
      rintro hheeded refused rfl
      simpa using fun hexists => hrefused ⟨hheeded, refused, rfl, hexists⟩
  · have htwin := twin_of_load hdisk hload hload' hsame
    exact (hstep False fuel sub' chain' htwin fun h => h.elim).of_ok

/-- A build with the check, and one of a twin without it. -/
theorem twin_beside (hdisk : disk.Standing disk.workingDir) {heeded : Prop} {depth : Nat}
    {chain : List Path} (hchain : Loaded env disk chain) {config config' : Config}
    (htwin : Twin disk config config') {fuel : Nat} (chain' : List Path)
    (hdeep : heeded → ∀ key ∈ chain, EndlessBelow env disk fuel key) :
    Beside (endless disk heeded) (buildWithin .checked env disk depth chain config).result
      (buildWithin .unchecked env disk fuel chain' config').result := by
  induction depth generalizing heeded chain config config' fuel chain' with
  | zero => exact .lost (by simp [endless])
  | succ depth ih =>
    cases fuel with
    | zero => exact .quits (Or.inl rfl)
    | succ fuel =>
      rw [buildWithin_succ, buildWithin_succ, htwin.buildWith]
      refine buildWith_beside (fair_endless disk heeded) fun named => ?_
      rw [result_nestedWithin, result_nestedWithin_unchecked]
      split
      · next hrefused =>
        by_cases hexists : heeded ∧ disk.pathExists (config.subPath named) = true
        · -- the file that is refused is one of the chain, and its twin is loaded once more
          obtain ⟨hheeded, hexists⟩ := hexists
          obtain ⟨key, hkey, hsame⟩ := List.any_eq_true.1 hrefused.2
          obtain ⟨place, base, hfollow, hbase⟩ := hchain.described hdisk hkey hsame hexists
          rcases htwin.load hfollow hbase with ⟨hlong, hnone⟩ | ⟨hsome, hidentity⟩
          · rw [hnone]
            exact .quits (Or.inr ⟨_, rfl, hlong⟩)
          · rw [hsome]
            exact (hdeep hheeded key hkey fuel (Nat.lt_succ_self fuel) _ _ _ hsome
              (by rwa [hidentity])).beside
        · refine .lost ?_
          rintro hheeded path ⟨⟩
          simpa using fun h => hexists ⟨hheeded, h⟩
      · rcases hload : load env disk (config.subPath named) with cause | _ | sub
        · refine .lost ?_
          rcases load_eq_error hload with ⟨file, rfl⟩ | rfl <;> simp [endless]
        · exact .lost (by simp [endless])
        · obtain ⟨place, base, hplace, hbase, -⟩ := load_eq_some_iff.1 hload
          rcases htwin.load (Disk.locate_eq_ok.1 hplace).2 hbase with
            ⟨hlong, hnone⟩ | ⟨hsome, hidentity⟩
          · rw [hnone]
            exact .quits (Or.inr ⟨_, rfl, hlong⟩)
          · rw [hsome]
            refine entered_beside hdisk hload hsome (by rw [hidentity, same_refl]) hdeep ?_ _
            intro heeded' bound twin chain' htwin hbelow
            exact ih (hchain.cons hload) htwin chain' hbelow

/-! ### The check is exact -/

/-- An outcome with the check that refuses no file is what the outcomes without it come to. -/
structure Settled (disk : Disk) (guarded : Except ConfigError Interpreter)
    (unguarded : Nat → Except ConfigError Interpreter) : Prop where
  bounded : guarded ≠ .error .tooDeep
  settles : (∀ path, guarded ≠ .error (.cyclicSubinterpreter path)) →
    ∃ enough, ∀ fuel ≥ enough, unguarded fuel = guarded
  absent : ∀ path, guarded = .error (.cyclicSubinterpreter path) →
    disk.pathExists path = false →
    ∃ enough, ∀ fuel ≥ enough, unguarded fuel = .error (.missingSubinterpreter path)

/-- Without the check, a refused file comes to no end, so that no interpreter is lost by it. -/
structure Exact (disk : Disk) (guarded : Except ConfigError Interpreter)
    (unguarded : Nat → Except ConfigError Interpreter) : Prop extends
    Settled disk guarded unguarded where
  exceeds : ∀ path, guarded = .error (.cyclicSubinterpreter path) →
    disk.pathExists path = true → ∀ fuel, Endless (unguarded fuel)
  agrees : ∀ fuel interpreter, unguarded fuel = .ok interpreter → guarded = .ok interpreter

theorem Beside.eq_mapError {first second : Except ConfigError Interpreter}
    (h : Beside (unguarded disk) first second)
    (hruns : ∀ cause, first = .error cause → ¬ (unguarded disk).lost cause) :
    second = first.mapError unrefused := by
  cases h with
  | lost hcause => exact absurd hcause (hruns _ rfl)
  | quits hcause => exact hcause.elim
  | meets hcauses => rw [hcauses]; rfl
  | ok interpreter => rfl

theorem mapError_unrefused {outcome : Except ConfigError Interpreter}
    (h : ∀ path, outcome ≠ .error (.cyclicSubinterpreter path)) :
    outcome.mapError unrefused = outcome := by
  rcases outcome with cause | interpreter
  · cases cause with
    | cyclicSubinterpreter path => exact absurd rfl (h path)
    | _ => rfl
  · rfl

theorem endless_of_chain (hdisk : disk.Standing disk.workingDir) {depth : Nat} {chain : List Path}
    (hchain : Loaded env disk chain) {config twin : Config} (htwin : Twin disk config twin)
    {refused : Path} (h : (buildWithin .checked env disk depth chain config).result =
      .error (.cyclicSubinterpreter refused)) (hexists : disk.pathExists refused = true)
    {fuel : Nat} (hdeep : ∀ key ∈ chain, EndlessBelow env disk fuel key) (chain' : List Path) :
    Endless (buildWithin .unchecked env disk fuel chain' twin).result := by
  have hbeside : Beside (endless disk True)
      (buildWithin .checked env disk depth chain config).result
      (buildWithin .unchecked env disk fuel chain' twin).result :=
    twin_beside hdisk hchain htwin chain' fun _ => hdeep
  rw [h] at hbeside
  exact hbeside.endless_of_refused trivial hexists

/-- Where a file that is there is refused, a configuration comes to no end without the check. -/
theorem endless_of_cyclic (hdisk : disk.Standing disk.workingDir) {config : Config}
    (hconfig : config.sourcePath = none ∨ ∃ path, load env disk path = .ok (some config))
    {refused : Path}
    (h : (config.interpreter env disk).result = .error (.cyclicSubinterpreter refused))
    (hexists : disk.pathExists refused = true) (fuel : Nat) (chain : List Path) :
    Endless (buildWithin .unchecked env disk fuel chain config).result := by
  have hnone : Loaded env disk [] := fun _ hkey => absurd hkey List.not_mem_nil
  have hbelow : ∀ bound, ∀ key ∈ [], EndlessBelow env disk bound key :=
    fun _ _ hkey => absurd hkey List.not_mem_nil
  rw [interpreter, startChain] at h
  rcases hconfig with hsource | ⟨path, hload⟩
  · rw [hsource] at h
    exact endless_of_chain hdisk hnone (twin_refl disk config) h hexists (hbelow fuel) chain
  · obtain ⟨-, base, -, -, hsource⟩ := load_eq_some_iff.1 hload
    have hpath : config.sourcePath = some path := by rw [hsource]
    rw [hpath] at h
    have hentered : EndlessBelow env disk (fuel + 1) (identity disk path) := by
      refine endless_of_entered hdisk hload (hbelow fuel) ?_
      intro bound twin chain' htwin hdeep
      exact endless_of_chain hdisk (hnone.cons hload) htwin h hexists hdeep chain'
    exact hentered fuel (Nat.lt_succ_self fuel) path config chain hload (same_refl _)

theorem unchecked_of_checked {config : Config} {fuel : Nat} (hle : depthLimit disk ≤ fuel)
    (hpaths : ∀ path, (config.interpreter env disk).result = .error (.cyclicSubinterpreter path) →
      disk.pathExists path = false) :
    (buildWithin .unchecked env disk fuel (config.startChain disk) config).result =
      (config.interpreter env disk).result.mapError unrefused := by
  refine (unchecked_beside .checked env disk hle _ _ config).eq_mapError ?_
  rintro cause hcause (rfl | ⟨path, rfl, hexists⟩)
  · exact checked_ne_tooDeep env disk config hcause
  · rw [hpaths path hcause] at hexists
    cases hexists

theorem unchecked_settles {config : Config} {fuel : Nat} (hle : depthLimit disk ≤ fuel)
    (hacyclic : ∀ path, (config.interpreter env disk).result ≠
      .error (.cyclicSubinterpreter path)) :
    (buildWithin .unchecked env disk fuel (config.startChain disk) config).result =
      (config.interpreter env disk).result := by
  rw [unchecked_of_checked hle fun path hpath => absurd hpath (hacyclic path),
    mapError_unrefused hacyclic]

theorem unchecked_absent {config : Config} {fuel : Nat} (hle : depthLimit disk ≤ fuel) {path : Path}
    (hpath : (config.interpreter env disk).result = .error (.cyclicSubinterpreter path))
    (hexists : disk.pathExists path = false) :
    (buildWithin .unchecked env disk fuel (config.startChain disk) config).result =
      .error (.missingSubinterpreter path) := by
  rw [unchecked_of_checked hle, hpath]
  · rfl
  · intro other hother
    cases hpath.symm.trans hother
    exact hexists

theorem interpreter_settled (env : Environment) (disk : Disk) (config : Config) :
    Settled disk (config.interpreter env disk).result fun fuel =>
      (buildWithin .unchecked env disk fuel (config.startChain disk) config).result where
  bounded := checked_ne_tooDeep env disk config
  settles hacyclic := ⟨depthLimit disk, fun _ hle => unchecked_settles hle hacyclic⟩
  absent _ hpath hexists :=
    ⟨depthLimit disk, fun _ hle => unchecked_absent hle hpath hexists⟩

theorem interpreter_exact (hdisk : disk.Standing disk.workingDir) {config : Config}
    (hconfig : config.sourcePath = none ∨ ∃ path, load env disk path = .ok (some config)) :
    Exact disk (config.interpreter env disk).result fun fuel =>
      (buildWithin .unchecked env disk fuel (config.startChain disk) config).result := by
  have hsettled := interpreter_settled env disk config
  have hexceeds : ∀ path, (config.interpreter env disk).result =
        .error (.cyclicSubinterpreter path) → disk.pathExists path = true → ∀ fuel,
      Endless (buildWithin .unchecked env disk fuel (config.startChain disk) config).result :=
    fun path hpath hexists fuel => endless_of_cyclic hdisk hconfig hpath hexists fuel _
  refine ⟨hsettled, hexceeds, ?_⟩
  intro fuel interpreter hbuilt
  -- a larger bound builds the same, and is large enough to tell
  have hlarge : ∀ more ≥ fuel, (buildWithin .unchecked env disk more
      (config.startChain disk) config).result = .ok interpreter := by
    intro more hle
    rw [deeper_eq hle (by rw [hbuilt]; simp), hbuilt]
  by_cases hcyclic : ∃ path, (config.interpreter env disk).result =
      .error (.cyclicSubinterpreter path)
  · obtain ⟨path, hpath⟩ := hcyclic
    cases hexists : disk.pathExists path with
    | true =>
      obtain ⟨cause, -, hcause⟩ := hexceeds path hpath hexists fuel
      cases hbuilt.symm.trans hcause
    | false =>
      obtain ⟨enough, hmissing⟩ := hsettled.absent path hpath hexists
      cases (hlarge _ (Nat.le_max_left fuel enough)).symm.trans
        (hmissing _ (Nat.le_max_right fuel enough))
  · obtain ⟨enough, hsame⟩ := hsettled.settles (not_exists.1 hcyclic)
    rw [← hsame _ (Nat.le_max_right fuel enough), hlarge _ (Nat.le_max_left fuel enough)]

/-- **Nested configurations end, and only cycles are refused.**  The bound on the depth is
    never used up, and larger ones change nothing; an outcome that refuses no file is that
    without the check.  For a configuration that was loaded, or that does not come from a
    file, the check is exact. -/
theorem subinterpreterGuard_exact (env : Environment) {disk : Disk}
    (hdisk : disk.Standing disk.workingDir) (config : Config) :
    (∀ depth ≥ depthLimit disk,
        (buildWithin .checked env disk depth (config.startChain disk) config).result =
          (config.interpreter env disk).result) ∧
      Settled disk (config.interpreter env disk).result (fun fuel =>
        (buildWithin .unchecked env disk fuel (config.startChain disk) config).result) ∧
      ((config.sourcePath = none ∨ ∃ path, load env disk path = .ok (some config)) →
        Exact disk (config.interpreter env disk).result fun fuel =>
          (buildWithin .unchecked env disk fuel (config.startChain disk) config).result) := by
  refine ⟨?_, interpreter_settled env disk config, interpreter_exact hdisk⟩
  intro depth hle
  exact deeper_eq hle (checked_ne_tooDeep env disk config)

/-- A configuration with an include for each path. -/
def sampleNaming (paths : List Path) : Config where
  blocks := paths.map fun path =>
    { name := "i".toList, kind := .inclusion, openTag := "<".toList, closeTag := some ">".toList,
      subinterpreter := some path }

/-- The name of a directory that takes many bytes. -/
def sampleName : Text := List.replicate 60 '𝄞'

/-- A path that goes into that directory and out of it, many times. -/
def sampleDetour (times : Nat) : Text :=
  (List.replicate times (sampleName ++ "/../".toList)).flatten

/-- Configurations in a directory: `a` names `s` twice, `c` names itself by another path, `t`
    names itself as if it were a directory, and `l` names itself by a long way round. -/
def sampleFolder : Disk where
  workingDir := ["w".toList]
  entries := [
    (["w".toList], .directory),
    (["w".toList, sampleName], .directory),
    (["w".toList, "a".toList],
      .file (.text (write (sampleNaming [⟨"s".toList⟩, ⟨"./s".toList⟩])))),
    (["w".toList, "s".toList], .file (.text [])),
    (["w".toList, "c".toList], .file (.text (write (sampleNaming [⟨"../w/c".toList⟩])))),
    (["w".toList, "t".toList], .file (.text (write (sampleNaming [⟨"t/".toList⟩])))),
    (["w".toList, "l".toList],
      .file (.text (write (sampleNaming [⟨sampleDetour 9 ++ "l".toList⟩]))))]

/-- Why there is no interpreter. -/
def cause? : Except ConfigError Interpreter → Option ConfigError
  | .error cause => some cause
  | .ok _ => none

theorem cause?_eq_some {outcome : Except ConfigError Interpreter} {cause : ConfigError} :
    cause? outcome = some cause ↔ outcome = .error cause := by
  cases outcome <;> simp [cause?]

def sampleLoaded (paths : List Path) (path : Path) : Config :=
  { sampleNaming paths with sourcePath := some path }

def sampleGuarded (config : Config) : Except ConfigError Interpreter :=
  (config.interpreter ⟨[], none⟩ sampleFolder).result

def sampleUnguarded (config : Config) (fuel : Nat) : Except ConfigError Interpreter :=
  (buildWithin .unchecked ⟨[], none⟩ sampleFolder fuel (config.startChain sampleFolder)
    config).result

/-- Naming a file twice is no cycle, and a file that names itself comes to no end. -/
theorem sampleFolder_exact :
    (∃ interpreter, sampleGuarded (sampleLoaded [⟨"s".toList⟩, ⟨"./s".toList⟩] ⟨"a".toList⟩) =
        .ok interpreter ∧
      ∃ enough, ∀ fuel ≥ enough,
        sampleUnguarded (sampleLoaded [⟨"s".toList⟩, ⟨"./s".toList⟩] ⟨"a".toList⟩) fuel =
          .ok interpreter) ∧
      ∀ fuel, Endless (sampleUnguarded (sampleLoaded [⟨"../w/c".toList⟩] ⟨"c".toList⟩) fuel) := by
  have hdisk : sampleFolder.Standing sampleFolder.workingDir := ⟨by decide, by decide⟩
  constructor
  · obtain ⟨interpreter, hbuilt⟩ := exists_eq_ok (show (sampleGuarded
      (sampleLoaded [⟨"s".toList⟩, ⟨"./s".toList⟩] ⟨"a".toList⟩)).isOk = true by decide +kernel)
    have hacyclic : ∀ path, sampleGuarded (sampleLoaded [⟨"s".toList⟩, ⟨"./s".toList⟩]
        ⟨"a".toList⟩) ≠ .error (.cyclicSubinterpreter path) := by
      intro path hpath
      cases hbuilt.symm.trans hpath
    obtain ⟨-, hsettled, -⟩ := subinterpreterGuard_exact ⟨[], none⟩ hdisk
      (sampleLoaded [⟨"s".toList⟩, ⟨"./s".toList⟩] ⟨"a".toList⟩)
    obtain ⟨enough, henough⟩ := hsettled.settles hacyclic
    exact ⟨interpreter, hbuilt, enough, fun fuel hle => (henough fuel hle).trans hbuilt⟩
  · have hloaded : load ⟨[], none⟩ sampleFolder ⟨"c".toList⟩ =
        .ok (some (sampleLoaded [⟨"../w/c".toList⟩] ⟨"c".toList⟩)) := by decide +kernel
    have hrefused : cause? (sampleGuarded (sampleLoaded [⟨"../w/c".toList⟩] ⟨"c".toList⟩)) =
        some (.cyclicSubinterpreter ⟨"../w/c".toList⟩) := by decide +kernel
    obtain ⟨-, -, hexact⟩ := subinterpreterGuard_exact ⟨[], none⟩ hdisk
      (sampleLoaded [⟨"../w/c".toList⟩] ⟨"c".toList⟩)
    exact (hexact (Or.inr ⟨_, hloaded⟩)).exceeds _ (cause?_eq_some.1 hrefused)
      (by decide +kernel)

/-- A cycle may be reported where none is: for a path that leads nowhere, and for one that
    grows too long to lead anywhere. -/
theorem sampleFolder_refuses :
    (load ⟨[], none⟩ sampleFolder ⟨"/w/t".toList⟩ =
        .ok (some (sampleLoaded [⟨"t/".toList⟩] ⟨"/w/t".toList⟩)) ∧
      sampleGuarded (sampleLoaded [⟨"t/".toList⟩] ⟨"/w/t".toList⟩) =
        .error (.cyclicSubinterpreter ⟨"/w/t/".toList⟩) ∧
      sampleUnguarded (sampleLoaded [⟨"t/".toList⟩] ⟨"/w/t".toList⟩) 2 =
        .error (.missingSubinterpreter ⟨"/w/t/".toList⟩)) ∧
    (load ⟨[], none⟩ sampleFolder ⟨"/w/l".toList⟩ =
        .ok (some (sampleLoaded [⟨sampleDetour 9 ++ "l".toList⟩] ⟨"/w/l".toList⟩)) ∧
      sampleGuarded (sampleLoaded [⟨sampleDetour 9 ++ "l".toList⟩] ⟨"/w/l".toList⟩) =
        .error (.cyclicSubinterpreter ⟨"/w/".toList ++ sampleDetour 9 ++ "l".toList⟩) ∧
      sampleUnguarded (sampleLoaded [⟨sampleDetour 9 ++ "l".toList⟩] ⟨"/w/l".toList⟩) 2 =
        .error (.missingSubinterpreter ⟨"/w/".toList ++ sampleDetour 18 ++ "l".toList⟩)) := by
  simp only [← cause?_eq_some]
  decide +kernel

end Blockwise.Config
