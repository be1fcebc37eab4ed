/-
  Blockwise/Proofs/Path/Resolution.lean
  =====================================
  **What a file reference resolves to.**  White space around a reference makes no
  difference (`trim_append`), and the base directory is continued by the non-empty parts
  of the reference, each behind a slash (`foldl_descend`).  `NamedBelow` spells out the
  path that a reference names, without the functions that find it (`namedBelow_iff`).

  An extension holds no slash and has no white space at its ends, so it stays at the end
  of the last part (`segments_append_of_not_mem`).  A path from the root that ends with
  it is what it resolves to itself, whatever the base directory
  (`resolve_eq_self`); below an absolute base directory every reference resolves to such
  a path, so resolving it once more changes nothing (`resolution_idempotent`).
-/
import Blockwise.BlockType
import Blockwise.Proofs.Path.Segments

namespace Blockwise

/-! ### White space at the ends -/

namespace Text

/-- The text neither begins nor ends with white space. -/
structure Trimmed (text : Text) : Prop where
  first : ∀ c ∈ text.head?, isBlank c = false
  last : ∀ c ∈ text.getLast?, isBlank c = false

/-- The text is white space. -/
def AllBlank (text : Text) : Prop := ∀ c ∈ text, isBlank c = true

instance (text : Text) : Decidable (AllBlank text) :=
  List.decidableBAll _ text

theorem trimRight_eq (text : Text) : trimRight text = text.rdropWhile isBlank := rfl

theorem trimRight_append {right : Text} (h : AllBlank right) (text : Text) :
    trimRight (text ++ right) = trimRight text := by
  have hreverse : ∀ c ∈ right.reverse, isBlank c = true := fun c hc => h c (List.mem_reverse.1 hc)
  simp only [trimRight, List.reverse_append, List.dropWhile_append_of_pos hreverse]

theorem trim_append {left right : Text} (hleft : AllBlank left) (hright : AllBlank right)
    (text : Text) : trim (left ++ text ++ right) = trim text := by
  unfold trim trimLeft
  rw [List.append_assoc, List.dropWhile_append_of_pos hleft, List.dropWhile_append]
  split
  · next hempty =>
    -- a text of white space only leaves nothing, and neither does what follows it
    have hnone : right.dropWhile isBlank = [] := List.dropWhile_eq_nil_iff.2 hright
    rw [hnone, List.isEmpty_iff.1 hempty]
  · exact trimRight_append hright _

theorem Trimmed.trim_eq {text : Text} (h : Trimmed text) : trim text = text := by
  have hleft : trimLeft text = text := by
    unfold trimLeft
    cases text with
    | nil => rfl
    | cons c text => exact List.dropWhile_cons_of_neg (by simp [h.first c rfl])
  rw [trim, hleft, trimRight_eq, List.rdropWhile_eq_self_iff]
  intro hne
  have hlast := h.last _ (List.getLast?_eq_some_getLast hne)
  simp [hlast]

theorem trimmed_trim (text : Text) : Trimmed (trim text) := by
  constructor
  · intro c hc
    -- what is dropped at the end leaves the first character where it is
    obtain ⟨dropped, hprefix⟩ : trim text <+: trimLeft text := List.rdropWhile_prefix isBlank _
    have hfirst : (trimLeft text).head? = some c := by
      obtain ⟨rest, hrest⟩ := List.head?_eq_some_iff.1 hc
      rw [← hprefix, hrest]
      rfl
    have hkept := List.head?_dropWhile_not isBlank text
    rw [show text.dropWhile isBlank = trimLeft text from rfl, hfirst] at hkept
    exact hkept
  · intro c hc
    have hne : trim text ≠ [] := by
      rintro hnil
      rw [hnil] at hc
      cases hc
    have hkept : ¬ isBlank ((trim text).getLast hne) = true :=
      List.rdropWhile_last_not isBlank (trimLeft text) hne
    rw [Option.mem_def, List.getLast?_eq_some_getLast hne, Option.some.injEq] at hc
    rw [← hc]
    simpa using hkept

theorem endsWith_iff {text suffix : Text} : endsWith text suffix = true ↔ suffix <:+ text :=
  List.isSuffixOf_iff_suffix

/-- The second text is the first without the white space at its ends. -/
structure TrimsTo (text stub : Text) : Prop where
  trimmed : Trimmed stub
  split : ∃ left right, AllBlank left ∧ AllBlank right ∧ text = left ++ stub ++ right

theorem trimsTo_iff {text stub : Text} : TrimsTo text stub ↔ stub = trim text := by
  constructor
  · rintro ⟨htrimmed, left, right, hleft, hright, rfl⟩
    rw [trim_append hleft hright, htrimmed.trim_eq]
  · rintro rfl
    refine ⟨trimmed_trim text, text.takeWhile isBlank, (trimLeft text).rtakeWhile isBlank,
      fun _ => List.mem_takeWhile_imp, fun _ => List.mem_rtakeWhile_imp, ?_⟩
    rw [List.append_assoc, trim, trimRight_eq, List.rdropWhile_append_rtakeWhile, trimLeft,
      List.takeWhile_append_dropWhile]

/-- The second text is the first with the extension at its end. -/
inductive ExtendsTo : Option Text → Text → Text → Prop
  | none {stub} : ExtendsTo none stub stub
  | written {ext stub} : ext <:+ stub → ExtendsTo (some ext) stub stub
  | missing {ext stub} : ¬ ext <:+ stub → ExtendsTo (some ext) stub (stub ++ ext)

end Text

namespace Path

/-! ### Extensions -/

/-- The text can be told from the rest of a file name: it is not empty, holds no slash,
    and is not cut by trimming. -/
structure IsExtension (ext : Text) : Prop where
  nonempty : ext ≠ []
  slash : '/' ∉ ext
  trimmed : Text.Trimmed ext

/-- What is appended without a slash becomes the end of the last part. -/
theorem segments_append_of_not_mem (front : Text) {ext : Text} (h : '/' ∉ ext) :
    ∃ parts part, segments front = parts ++ [part] ∧
      segments (front ++ ext) = parts ++ [part ++ ext] := by
  induction front with
  | nil => exact ⟨[], [], rfl, by simpa using segments_of_not_mem h⟩
  | cons c front ih =>
    obtain ⟨parts, part, hfront, hwhole⟩ := ih
    by_cases hc : c = '/'
    · subst hc
      exact ⟨[] :: parts, part, by simp [segments, hfront], by simp [segments, hwhole]⟩
    · obtain ⟨first, others, hsplit, hcons⟩ := segments_cons hc front
      obtain ⟨first', others', hsplit', hcons'⟩ := segments_cons hc (front ++ ext)
      rw [hfront] at hsplit
      rw [hwhole] at hsplit'
      rw [List.cons_append, hcons, hcons']
      cases parts with
      | nil =>
        cases hsplit
        cases hsplit'
        exact ⟨[], c :: part, rfl, rfl⟩
      | cons next parts =>
        cases hsplit
        cases hsplit'
        exact ⟨(c :: first) :: parts, part, rfl, rfl⟩

theorem extend_some (ext reference : Text) :
    extend (some ext) reference =
      if Text.endsWith (Text.trim reference) ext then Text.trim reference
      else Text.trim reference ++ ext := rfl

/-- An extended reference ends with the extension. -/
theorem exists_extend (ext reference : Text) :
    ∃ front, extend (some ext) reference = front ++ ext := by
  rw [extend_some]
  split
  · next hends =>
    obtain ⟨front, hfront⟩ := Text.endsWith_iff.1 hends
    exact ⟨front, hfront.symm⟩
  · exact ⟨_, rfl⟩

/-- A trimmed reference that ends with the extension is extended already. -/
theorem extend_eq_self {ext reference : Text} (h : Text.Trimmed reference)
    (hends : Text.endsWith reference ext = true) : extend (some ext) reference = reference := by
  rw [extend_some, h.trim_eq, if_pos hends]

theorem extend_append {left right : Text} (hleft : Text.AllBlank left)
    (hright : Text.AllBlank right) (extension : Option Text) (reference : Text) :
    extend extension (left ++ reference ++ right) = extend extension reference := by
  simp only [extend, Text.trim_append hleft hright]

/-- What ends with an extension does not end with white space. -/
theorem IsExtension.trimmed_append {ext front : Text} (h : IsExtension ext)
    (hfront : ∀ c ∈ front.head?, Text.isBlank c = false) : Text.Trimmed (front ++ ext) := by
  constructor
  · intro c hc
    cases front with
    | nil => exact h.trimmed.first c hc
    | cons first front => exact hfront c hc
  · intro c hc
    rw [List.getLast?_append_of_ne_nil _ h.nonempty] at hc
    exact h.trimmed.last c hc

/-! ### Below the base directory -/

/-- A directory continued by parts has each of them behind a slash. -/
theorem foldl_descend {directory : Text} (h : directory ≠ []) (parts : List Text) :
    parts.foldl descend directory = directory ++ parts.flatMap ('/' :: ·) := by
  induction parts generalizing directory with
  | nil => simp
  | cons part parts ih =>
    have hnext : descend directory part = directory ++ '/' :: part := by
      rw [descend, if_neg h]
    rw [List.foldl_cons, hnext, ih (by simp), List.flatMap_cons, List.append_assoc]

/-- Slashes between some parts stand behind the first of them, one before each other part. -/
theorem intercalate_slash_cons (first : Text) (parts : List Text) :
    ['/'].intercalate (first :: parts) = first ++ parts.flatMap ('/' :: ·) := by
  induction parts generalizing first with
  | nil => simp
  | cons part parts ih =>
    rw [List.intercalate_cons_cons, ih, List.flatMap_cons, List.append_assoc]
    rfl

/-- The directory and the parts, as far as they are not empty, have slashes between them. -/
theorem foldl_descend_eq_intercalate (directory : Text) {parts : List Text}
    (h : ∀ part ∈ parts, part ≠ []) :
    parts.foldl descend directory =
      ['/'].intercalate ((directory :: parts).filter (· != [])) := by
  have hkept : parts.filter (· != []) = parts := by simpa using h
  by_cases hdirectory : directory = []
  · subst hdirectory
    rw [List.filter_cons_of_neg (by simp), hkept]
    cases parts with
    | nil => rfl
    | cons part parts =>
      rw [intercalate_slash_cons, List.foldl_cons, ← foldl_descend (h part (List.mem_cons_self ..))]
      rfl
  · rw [List.filter_cons_of_pos (by simpa using hdirectory), hkept, intercalate_slash_cons,
      foldl_descend hdirectory]

/-! ### Names of files, spelled out -/

theorem extendsTo_iff {extension : Option Text} {reference full : Text} :
    Text.ExtendsTo extension (Text.trim reference) full ↔ full = extend extension reference := by
  cases extension with
  | none =>
    constructor
    · rintro ⟨⟩
      rfl
    · rintro rfl
      exact .none
  | some ext =>
    rw [extend_some]
    by_cases hends : ext <:+ Text.trim reference
    · rw [if_pos (Text.endsWith_iff.2 hends)]
      constructor
      · rintro (_ | _ | hmissing)
        · rfl
        · exact absurd hends hmissing
      · rintro rfl
        exact .written hends
    · rw [if_neg (mt Text.endsWith_iff.1 hends)]
      constructor
      · rintro (_ | hwritten | _)
        · exact absurd hwritten hends
        · rfl
      · rintro rfl
        exact .missing hends

/-- The path that a reference names below a directory.  The reference, trimmed and with the
    extension, is the path if it begins with a slash; otherwise the path is the directory and
    the parts of the reference, with slashes between those that are not empty. -/
def NamedBelow (directory : Path) (extension : Option Text) (reference : Text) (path : Path) :
    Prop :=
  ∃ stub full, Text.TrimsTo reference stub ∧ Text.ExtendsTo extension stub full ∧
    path.spelling = if full.head? = some '/' then full
      else ['/'].intercalate ((directory.spelling :: full.splitOn '/').filter (· != []))

theorem namedBelow_iff {directory path : Path} {extension : Option Text} {reference : Text} :
    NamedBelow directory extension reference path ↔
      path = resolve (some directory) extension reference := by
  have hspelling : (resolve (some directory) extension reference).spelling =
      if (extend extension reference).head? = some '/' then extend extension reference
      else ['/'].intercalate
        ((directory.spelling :: (extend extension reference).splitOn '/').filter (· != [])) := by
    by_cases hroot : (extend extension reference).head? = some '/'
    · simp only [resolve, if_pos hroot]
    · simp only [resolve, if_neg hroot, ← segments_eq_splitOn]
      rw [foldl_descend_eq_intercalate _ (by simp)]
      simp [List.filter_cons, List.filter_filter]
  constructor
  · rintro ⟨stub, full, hstub, hfull, hpath⟩
    rw [Text.trimsTo_iff.1 hstub, extendsTo_iff] at hfull
    rw [hfull, ← hspelling] at hpath
    exact congrArg Path.mk hpath
  · rintro rfl
    exact ⟨_, _, Text.trimsTo_iff.2 rfl, extendsTo_iff.2 rfl, hspelling⟩

/-! ### Resolving what is resolved -/

/-- A path from the root that ends with the extension is resolved. -/
theorem resolve_eq_self {base : Option Path} {ext rest : Text} (hext : IsExtension ext)
    (hends : Text.endsWith ('/' :: rest) ext = true) :
    resolve base (some ext) ('/' :: rest) = ⟨'/' :: rest⟩ := by
  have htrimmed : Text.Trimmed ('/' :: rest) := by
    obtain ⟨front, hfront⟩ := Text.endsWith_iff.1 hends
    rw [← hfront]
    apply hext.trimmed_append
    intro c hc
    cases front with
    | nil => cases hc
    | cons first front =>
      cases hfront
      cases hc
      decide
  unfold resolve
  rw [extend_eq_self htrimmed hends]
  rfl

/-- Below an absolute directory, or from the root, a reference resolves to a path from the
    root that ends with the extension. -/
theorem exists_resolve {base : Path} {ext : Text} (hbase : base.isAbsolute = true)
    (hext : IsExtension ext) (reference : Text) :
    ∃ rest, resolve (some base) (some ext) reference = ⟨'/' :: rest⟩ ∧
      Text.endsWith ('/' :: rest) ext = true := by
  obtain ⟨top, htop⟩ := isAbsolute_iff.1 hbase
  obtain ⟨front, hstub⟩ := exists_extend ext reference
  unfold resolve
  simp only [hstub]
  split
  · next hroot =>
    obtain ⟨rest, hrest⟩ := List.head?_eq_some_iff.1 hroot
    refine ⟨rest, by rw [hrest], ?_⟩
    rw [← hrest, Text.endsWith_iff]
    exact List.suffix_append ..
  · -- the last part is not empty, so it is the end of the path, and the extension its end
    obtain ⟨parts, part, -, hsegments⟩ := segments_append_of_not_mem front hext.slash
    have hkept : ([part ++ ext].filter (· != [])) = [part ++ ext] := by
      simp [hext.nonempty]
    have hne : base.spelling ≠ [] := by
      rw [htop]
      exact List.cons_ne_nil _ _
    rw [hsegments, List.filter_append, hkept, foldl_descend hne, List.flatMap_append, htop]
    refine ⟨_, rfl, ?_⟩
    rw [Text.endsWith_iff]
    refine ⟨'/' :: (top ++ (parts.filter (· != [])).flatMap ('/' :: ·)) ++ '/' :: part, ?_⟩
    simp

end Path

namespace Inclusion

/-- **Resolving a reference is idempotent.**  The base directory is absolute and the
    extension can be told from the rest of a name; then what a reference resolves to is
    absolute, ends with the extension, and resolves to itself.  White space around the
    reference makes no difference, and neither does writing the extension. -/
theorem resolution_idempotent {settings : Inclusion} {base : Path} {ext : Text}
    (hbase : settings.baseDir = some base) (habsolute : base.isAbsolute = true)
    (hext : settings.extension = some ext) (hextension : Path.IsExtension ext)
    (reference : Text) :
    (settings.resolve reference).isAbsolute = true ∧
      Text.endsWith (settings.resolve reference).spelling ext = true ∧
      settings.resolve (settings.resolve reference).spelling = settings.resolve reference ∧
      (∀ left right, Text.AllBlank left → Text.AllBlank right →
        settings.resolve (left ++ reference ++ right) = settings.resolve reference) ∧
      (Text.endsWith (Text.trim reference) ext = false →
        settings.resolve (Text.trim reference ++ ext) = settings.resolve reference) := by
  unfold resolve
  rw [hbase, hext]
  obtain ⟨rest, hresolve, hends⟩ := Path.exists_resolve habsolute hextension reference
  refine ⟨?_, ?_, ?_, ?_, ?_⟩
  · rw [hresolve, Path.isAbsolute_iff]
    exact ⟨rest, rfl⟩
  · rw [hresolve]
    exact hends
  · rw [hresolve]
    exact Path.resolve_eq_self hextension hends
  · intro left right hleft hright
    simp only [Path.resolve, Path.extend_append hleft hright]
  · intro hmissing
    have htrimmed : Text.Trimmed (Text.trim reference ++ ext) :=
      hextension.trimmed_append (Text.trimmed_trim reference).first
    have hstub : Path.extend (some ext) (Text.trim reference ++ ext) =
        Path.extend (some ext) reference := by
      rw [Path.extend_eq_self htrimmed (Text.endsWith_iff.2 (List.suffix_append ..)),
        Path.extend_some, if_neg (by simp [hmissing])]
    simp only [Path.resolve, hstub]

/-- An include below a directory, with an extension. -/
def sampleExtending : Inclusion :=
  { ofTags ['<'] ['>'] with baseDir := some ⟨['/', 'b']⟩, extension := some ['.', 't'] }

/-- The slash at the end of the reference leaves a last part that is the extension alone,
    behind one that ends with white space. -/
theorem sampleExtending_idempotent :
    Path.IsExtension ['.', 't'] ∧ Text.AllBlank ['\n'] ∧ Text.AllBlank ['\u00a0', ' '] ∧
      sampleExtending.resolve "x /".toList = ⟨"/b/x /.t".toList⟩ ∧
      sampleExtending.resolve (sampleExtending.resolve "x /".toList).spelling =
        sampleExtending.resolve "x /".toList ∧
      sampleExtending.resolve (['\n'] ++ "x /".toList ++ ['\u00a0', ' ']) =
        sampleExtending.resolve "x /".toList ∧
      sampleExtending.resolve (Text.trim "x /".toList ++ ['.', 't']) =
        sampleExtending.resolve "x /".toList := by
  have htrimmed : Text.Trimmed ['.', 't'] := by
    constructor <;> rintro c ⟨⟩ <;> decide
  have hextension : Path.IsExtension ['.', 't'] := ⟨by decide, by decide, htrimmed⟩
  have hleft : Text.AllBlank ['\n'] := by decide
  have hright : Text.AllBlank ['\u00a0', ' '] := by decide
  have hmissing : Text.endsWith (Text.trim "x /".toList) ['.', 't'] = false := by decide
  obtain ⟨-, -, hagain, hblank, hwritten⟩ :=
    @resolution_idempotent sampleExtending _ _ rfl rfl rfl hextension "x /".toList
  exact ⟨hextension, hleft, hright, by decide, hagain, hblank _ _ hleft hright,
    hwritten hmissing⟩

end Inclusion

end Blockwise
