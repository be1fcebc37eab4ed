/-
  Blockwise/Proofs/Interpret/Fetching.lean
  ========================================
  **What the chain of files and the bound on the depth do to an outcome.**  Both are
  looked at when an include fetches its file, so interpretations that fetch files alike
  end alike, if they open blocks alike, too (`interpretSource_related_of_opens`), as one
  interpreter always does (`interpretSource_related_of_fetch`).

  A shorter chain refuses fewer files.  An outcome other than a cycle stays what it is
  if files are taken off the chain, and if the bound on the depth, unless it was
  exceeded, is raised (`interpretSource_exactly`).
-/
import Blockwise.Proofs.Files.Memory
import Blockwise.Proofs.Interpret.Comparison

namespace Blockwise

namespace Interpreter

open Scan

/-! ### Fetching a file -/

/-- The outcome for the file that an include block names. -/
def fetch (guard : Guard) (disk : Disk) (depth : Nat) (interpreter : Interpreter)
    (chain : List Path) (path : Path) : Except Failure Document := do
  let longer ← guard.enter chain (interpreter.reader.identity disk path)
  match interpreter.reader.read disk path with
  | .error cause => .error (.unresolvedInclude path cause)
  | .ok text => (interpretSource guard disk depth interpreter longer ⟨some path, text⟩).result

theorem followInclude_result (guard : Guard) (disk : Disk) (depth : Nat)
    (interpreter : Interpreter) (chain : List Path) (doc : Document) (id : Nat)
    (settings : Inclusion) :
    (followInclude guard disk depth interpreter chain doc id settings).result =
      (lift (doc.innerText id)).result >>= fun reference =>
        fetch guard disk depth (settings.override.getD interpreter) chain
          (settings.resolve reference) >>= fun sub => (lift (doc.splice id sub)).result := by
  unfold followInclude
  rw [Traced.result_bind]
  refine congrArg _ (funext fun reference => ?_)
  simp only [Traced.result_bind, Traced.result_ofExcept, Traced.result_report, fetch]
  rcases guard.enter chain ((settings.override.getD interpreter).reader.identity disk
    (settings.resolve reference)) with cause | longer
  · rfl
  · rcases (settings.override.getD interpreter).reader.read disk (settings.resolve reference) with
      cause | text
    · rfl
    · exact Traced.result_bind _ _

/-- A file is refused exactly if one with the same components is being interpreted. -/
theorem enter_checked_cases (chain : List Path) (path : Path) :
    ((∃ q ∈ chain, q.components = path.components) ∧
        Guard.checked.enter chain path = .error (.cyclicInclude path)) ∨
      ((∀ q ∈ chain, q.components ≠ path.components) ∧
        Guard.checked.enter chain path = .ok (path :: chain)) := by
  have hany : (chain.any (·.same path)) = true ↔ ∃ q ∈ chain, q.components = path.components := by
    simp only [List.any_eq_true, Path.same_iff]
  by_cases hrefused : (chain.any (·.same path)) = true
  · exact Or.inl ⟨hany.1 hrefused, if_pos hrefused⟩
  · refine Or.inr ⟨?_, if_neg hrefused⟩
    intro q hq hsame
    exact hrefused (hany.2 ⟨q, hq, hsame⟩)

theorem enter_checked_eq_ok {chain longer : List Path} {path : Path}
    (h : Guard.checked.enter chain path = .ok longer) :
    (∀ q ∈ chain, q.components ≠ path.components) ∧ longer = path :: chain := by
  rcases enter_checked_cases chain path with ⟨-, hrefused⟩ | ⟨hnew, hentered⟩
  · cases hrefused.symm.trans h
  · cases hentered.symm.trans h
    exact ⟨hnew, rfl⟩

/-- **Interpretations that open blocks alike and fetch files alike end alike.** -/
theorem interpretSource_related_of_opens {o : Comparison}
    {allowed : Array Source → Array Source → Prop} {nested : Interpreter → Interpreter → Prop}
    (ho : Neutral o allowed nested) (hallowed : SameTexts allowed) {guard guard' : Guard}
    {disk : Disk} {depth depth' : Nat} {interpreter interpreter' : Interpreter}
    {chain chain' : List Path} {source source' : Source}
    (hsource : allowed #[source] #[source'])
    (hskip : interpreter'.selfCloseSkip = interpreter.selfCloseSkip)
    (hopens : interpreter.OpensAlike nested interpreter' source.text)
    (hfetch : ∀ type ∈ interpreter.types, ∀ settings settings',
      type.inclusion? = some settings → settings.Alike nested settings' →
      ∀ path, Related o (Document.Alike Eq nested)
        (fetch guard disk depth (settings.override.getD interpreter) chain path)
        (fetch guard' disk depth' (settings'.override.getD interpreter') chain' path)) :
    Related o (Document.Alike allowed nested)
      (interpretSource guard disk (depth + 1) interpreter chain source).result
      (interpretSource guard' disk (depth' + 1) interpreter' chain' source').result := by
  rw [interpretSource_succ, interpretSource_succ]
  refine run_related ho hallowed
    (followInclude_sound guard disk depth interpreter chain source) ⟨hskip, hopens, ?_⟩ hsource
  intro scan id type count settings doc' settings' hscan hinc hsettings halike
  have hstanding := hscan.standing
  have htype := (hstanding.innermost_eq hstanding.pending).2
  rw [followInclude_result, followInclude_result, halike.innerText hallowed, hsettings.resolve]
  refine (lift_related ho (parallel_refl _)).bind ?_
  rintro reference _ - rfl
  refine (hfetch type htype settings settings' hinc hsettings (settings.resolve reference)).bind ?_
  intro sub sub' _ hsub
  exact lift_related ho (halike.splice hallowed id hsub)

theorem interpretSource_related_of_fetch {o : Comparison}
    {allowed : Array Source → Array Source → Prop} (ho : Neutral o allowed Eq)
    (hallowed : SameTexts allowed) {guard guard' : Guard} {disk : Disk} {depth depth' : Nat}
    {interpreter : Interpreter} {chain chain' : List Path} {source source' : Source}
    (hsource : allowed #[source] #[source'])
    (hfetch : ∀ type ∈ interpreter.types, ∀ settings, type.inclusion? = some settings →
      ∀ path, Related o Eq (fetch guard disk depth (settings.override.getD interpreter) chain path)
        (fetch guard' disk depth' (settings.override.getD interpreter) chain' path)) :
    Related o (Document.Alike allowed Eq)
      (interpretSource guard disk (depth + 1) interpreter chain source).result
      (interpretSource guard' disk (depth' + 1) interpreter chain' source').result := by
  apply interpretSource_related_of_opens ho hallowed hsource rfl (interpreter.opensAlike_refl _)
  intro type htype settings settings' hinc hsettings path
  obtain rfl := Inclusion.alike_eq_iff.1 hsettings
  apply (hfetch type htype settings hinc path).mono
  rintro doc _ rfl
  exact doc.alike_refl

/-! ### Shorter chains and larger bounds -/

/-- Whatever the first run comes to, the second does, too, unless `left` names it. -/
def exactly (left : Failure → Prop) : Comparison := ⟨left, fun _ => False, Eq⟩

section

variable {left : Failure → Prop}

theorem neutral_exactly : Neutral (exactly left) Eq Eq := by
  refine ⟨fun _ => rfl, rfl, ?_⟩
  intro label doc doc' halike
  show Failure.unterminated label doc = .unterminated label doc'
  rw [halike.eq]

theorem eq_of_exactly {α : Type} {first second : Except Failure α}
    (h : Related (exactly left) Eq first second)
    (hfirst : ∀ cause, left cause → first ≠ .error cause) : second = first := by
  cases h with
  | left hcause => exact absurd rfl (hfirst _ hcause)
  | right hcause => exact hcause.elim
  | error hsame => exact congrArg Except.error (Eq.symm hsame)
  | ok hdoc => exact congrArg Except.ok hdoc.symm

/-- **Taking files off the chain and raising the bound change nothing,** unless the
    outcome is a cycle or the bound was exceeded. -/
theorem interpretSource_exactly (disk : Disk) {depth depth' : Nat}
    (hdepth : depth' = depth ∨ depth ≤ depth' ∧ left .tooDeep) (interpreter : Interpreter)
    {chain chain' : List Path}
    (hchain : chain' = chain ∨ chain' ⊆ chain ∧ ∀ path, left (.cyclicInclude path))
    (source : Source) :
    Related (exactly left) Eq
      (interpretSource .checked disk depth interpreter chain source).result
      (interpretSource .checked disk depth' interpreter chain' source).result := by
  induction depth generalizing depth' interpreter chain chain' source with
  | zero =>
    rcases hdepth with rfl | ⟨-, hdeep⟩
    · exact .error rfl
    · exact .left hdeep
  | succ depth ih =>
    obtain ⟨less, rfl⟩ : ∃ less, depth' = less + 1 := ⟨depth' - 1, by omega⟩
    have hless : less = depth ∨ depth ≤ less ∧ left .tooDeep :=
      hdepth.imp (fun heq => by omega) fun hle => ⟨by omega, hle.2⟩
    have hlonger : ∀ key, key :: chain' = key :: chain ∨
        key :: chain' ⊆ key :: chain ∧ ∀ path, left (.cyclicInclude path) := by
      intro key
      exact hchain.imp (fun heq => by rw [heq])
        fun hsub => ⟨List.cons_subset_cons key hsub.1, hsub.2⟩
    refine (interpretSource_related_of_fetch neutral_exactly sameTexts_eq rfl ?_).mono
      fun _ _ halike => halike.eq.symm
    intro type _ settings _ path
    unfold fetch
    generalize settings.override.getD interpreter = inner
    rcases enter_checked_cases chain (inner.reader.identity disk path) with
      ⟨hsame, hrefused⟩ | ⟨hnew, hentered⟩
    · rcases hchain with rfl | ⟨-, hcyclic⟩
      · rw [hrefused]
        exact .error rfl
      · rw [hrefused]
        exact .left (hcyclic _)
    · -- a file that is not on the chain is not on the shorter one
      have hsub : chain' ⊆ chain := by
        rcases hchain with rfl | ⟨hsub, -⟩
        · exact List.Subset.refl _
        · exact hsub
      rcases enter_checked_cases chain' (inner.reader.identity disk path) with
        ⟨⟨q, hq, hsame⟩, -⟩ | ⟨-, hentered'⟩
      · exact absurd hsame (hnew q (hsub hq))
      rw [hentered, hentered']
      rcases inner.reader.read disk path with cause | text
      · exact .error rfl
      · exact ih hless inner (hlonger _) _

end

section

variable {disk : Disk} {depth depth' : Nat} {interpreter : Interpreter} {chain chain' : List Path}
  {source : Source}

/-- With fewer files underway an interpretation comes to the same, unless it comes to a cycle. -/
theorem interpretSource_shorter (hchain : chain' ⊆ chain)
    (h : ∀ key, (interpretSource .checked disk depth interpreter chain source).result ≠
      .error (.cyclicInclude key)) :
    (interpretSource .checked disk depth interpreter chain' source).result =
      (interpretSource .checked disk depth interpreter chain source).result := by
  have hrelated : Related (exactly fun cause => ∃ key, cause = .cyclicInclude key) Eq
      (interpretSource .checked disk depth interpreter chain source).result
      (interpretSource .checked disk depth interpreter chain' source).result :=
    interpretSource_exactly disk (Or.inl rfl) interpreter
      (Or.inr ⟨hchain, fun key => ⟨key, rfl⟩⟩) source
  refine eq_of_exactly hrelated ?_
  rintro cause ⟨key, rfl⟩
  exact h key

theorem interpretSource_eq_ok {doc : Document} (hdepth : depth ≤ depth') (hchain : chain' ⊆ chain)
    (h : (interpretSource .checked disk depth interpreter chain source).result = .ok doc) :
    (interpretSource .checked disk depth' interpreter chain' source).result = .ok doc := by
  have hrelated : Related (exactly fun _ => True) Eq
      (interpretSource .checked disk depth interpreter chain source).result
      (interpretSource .checked disk depth' interpreter chain' source).result :=
    interpretSource_exactly disk (Or.inr ⟨hdepth, trivial⟩) interpreter
      (Or.inr ⟨hchain, fun _ => trivial⟩) source
  rw [h] at hrelated
  exact eq_of_exactly hrelated fun _ _ => nofun

end

end Interpreter

end Blockwise
