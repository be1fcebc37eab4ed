/-
  Blockwise/Proofs/Path/Segments.lean
  ===================================
  **Paths and their parts.**  Parts with a slash between any two of them are what the text
  is taken apart into (`segments_unsegment`), and the parts of one path after another are
  the parts of both (`segments_append_slash`).

  The parent of a path is the path without its last part, and without the parts before
  that one which say nothing; the parts of a path that is joined to the parent come in
  their place (`LiesIn`, `exists_liesIn`).
-/
import Blockwise.Path.Basic
import Mathlib.Data.List.DropRight

namespace Blockwise.Path

/-! ### Taking apart and putting together -/

theorem segments_ne_nil (text : Text) : segments text ≠ [] := by
  cases text with
  | nil => simp [segments]
  | cons c text =>
    unfold segments
    split
    · simp
    · split <;> simp

theorem segments_cons {c : Char} (hc : c ≠ '/') (text : Text) :
    ∃ part parts, segments text = part :: parts ∧ segments (c :: text) = (c :: part) :: parts := by
  rcases hparts : segments text with _ | ⟨part, parts⟩
  · exact absurd hparts (segments_ne_nil text)
  · exact ⟨part, parts, rfl, by simp [segments, hc, hparts]⟩

/-- What is taken apart at the slashes is what the library takes apart there. -/
theorem segments_eq_splitOn (text : Text) : segments text = text.splitOn '/' := by
  unfold List.splitOn
  induction text with
  | nil => rfl
  | cons c text ih =>
    rw [List.splitOnP_cons_eq_if_modifyHead, ← ih]
    by_cases hc : c = '/'
    · simp [segments, hc]
    · obtain ⟨part, parts, htext, hwhole⟩ := segments_cons hc text
      rw [hwhole, htext]
      simp [hc]

theorem slash_not_mem_of_mem_segments {text part : Text} (h : part ∈ segments text) :
    '/' ∉ part := by
  induction text generalizing part with
  | nil =>
    obtain rfl : part = [] := by simpa [segments] using h
    exact List.not_mem_nil
  | cons c text ih =>
    by_cases hc : c = '/'
    · subst hc
      have hcases : part = [] ∨ part ∈ segments text := by simpa [segments] using h
      rcases hcases with rfl | hmem
      · exact List.not_mem_nil
      · exact ih hmem
    · obtain ⟨first, parts, htext, hwhole⟩ := segments_cons hc text
      rw [hwhole, List.mem_cons] at h
      rcases h with rfl | hmem
      · intro hslash
        rcases List.mem_cons.1 hslash with hsame | hslash
        · exact hc hsame.symm
        · exact ih (by simp [htext]) hslash
      · exact ih (by simp [htext, hmem])

theorem segments_append_slash (text more : Text) :
    segments (text ++ '/' :: more) = segments text ++ segments more := by
  induction text with
  | nil => simp [segments]
  | cons c text ih =>
    by_cases hc : c = '/'
    · subst hc
      simp [segments, ih]
    · obtain ⟨part, parts, htext, hwhole⟩ := segments_cons hc text
      rw [hwhole, List.cons_append, segments, if_neg hc, ih, htext]
      rfl

theorem segments_of_not_mem {part : Text} (h : '/' ∉ part) : segments part = [part] := by
  induction part with
  | nil => rfl
  | cons c part ih =>
    have hc : c ≠ '/' := fun hslash => h (hslash ▸ List.mem_cons_self ..)
    rw [segments, if_neg hc, ih fun hslash => h (List.mem_cons_of_mem _ hslash)]

theorem segments_unsegment {parts : List Text} (hne : parts ≠ [])
    (h : ∀ part ∈ parts, '/' ∉ part) : segments (unsegment parts) = parts := by
  induction parts with
  | nil => exact absurd rfl hne
  | cons part parts ih =>
    have hpart := segments_of_not_mem (h part (List.mem_cons_self ..))
    cases parts with
    | nil => exact hpart
    | cons next parts =>
      rw [unsegment, segments_append_slash, hpart,
        ih (by simp) fun other hother => h other (List.mem_cons_of_mem _ hother)]
      rfl

theorem mem_iff_mem_segments {c : Char} (hc : c ≠ '/') (text : Text) :
    c ∈ text ↔ ∃ part ∈ segments text, c ∈ part := by
  induction text with
  | nil => simp [segments]
  | cons d text ih =>
    by_cases hd : d = '/'
    · subst hd
      simp [segments, hc, ih]
    · obtain ⟨part, parts, htext, hwhole⟩ := segments_cons hd text
      rw [htext] at ih
      simp [hwhole, ih, or_assoc]

theorem isAbsolute_iff {path : Path} :
    path.isAbsolute = true ↔ ∃ rest, path.spelling = '/' :: rest := by
  unfold isAbsolute
  rcases path.spelling with _ | ⟨c, rest⟩
  · simp
  · simp

/-- An absolute path has an empty part before its first slash. -/
theorem isAbsolute_iff_segments {path : Path} :
    path.isAbsolute = true ↔ ∃ parts, parts ≠ [] ∧ segments path.spelling = [] :: parts := by
  rw [isAbsolute_iff]
  constructor
  · rintro ⟨rest, hrest⟩
    exact ⟨segments rest, segments_ne_nil rest, by simp [hrest, segments]⟩
  · rintro ⟨parts, hne, hparts⟩
    rcases hspelling : path.spelling with _ | ⟨c, rest⟩
    · rw [hspelling] at hparts
      exact absurd (by simpa [segments] using hparts) hne.symm
    · by_cases hc : c = '/'
      · exact ⟨rest, by rw [hc]⟩
      · obtain ⟨part, others, -, hwhole⟩ := segments_cons hc rest
        rw [hspelling, hwhole] at hparts
        simp at hparts

/-! ### The directory that a path lies in -/

theorem dropLastPart_append {parts : List Text} {name : Text} (hname : significant name = true) :
    dropLastPart (parts ++ [name]) = some (parts.rdropWhile (!significant ·)) := by
  simp [dropLastPart, hname, List.rdropWhile]

/-- The parts of a relative path come after those of the directory that it is joined to,
    and in place of the empty part after a slash at the end. -/
theorem segments_join {dir path : Path} (hpath : path.isAbsolute = false) :
    segments (dir.join path).spelling =
      (if dir.spelling = [] then []
        else if dir.spelling.getLast? = some '/' then (segments dir.spelling).dropLast
        else segments dir.spelling) ++ segments path.spelling := by
  unfold join
  by_cases hempty : dir.spelling = []
  · simp [hpath, hempty]
  · by_cases hslash : dir.spelling.getLast? = some '/'
    · obtain ⟨front, hfront⟩ := List.getLast?_eq_some_iff.1 hslash
      have hdir : segments dir.spelling = segments front ++ [[]] := by
        rw [hfront, segments_append_slash]
        rfl
      have hjoin : dir.spelling ++ path.spelling = front ++ '/' :: path.spelling := by
        rw [hfront, List.append_assoc]
        rfl
      simp [hpath, hempty, hslash, hdir, hjoin, segments_append_slash]
    · simp [hpath, hempty, hslash, segments_append_slash]

theorem join_ne_nil {dir path : Path} (h : path.spelling ≠ []) : (dir.join path).spelling ≠ [] := by
  unfold join
  split
  · exact h
  · split <;> simp [h]

/-- A text whose last part is not empty does not end with a slash. -/
theorem getLast?_ne_slash {text : Text} (h : (segments text).getLast? ≠ some []) :
    text.getLast? ≠ some '/' := by
  intro hslash
  obtain ⟨front, rfl⟩ := List.getLast?_eq_some_iff.1 hslash
  rw [segments_append_slash] at h
  exact h (by simp [segments])

theorem segments_join_unsegment {parts : List Text} {path : Path} (hpath : path.isAbsolute = false)
    (hparts : ∀ part ∈ parts, '/' ∉ part) (hlast : parts.getLast? ≠ some []) :
    segments (Path.join ⟨unsegment parts⟩ path).spelling = parts ++ segments path.spelling := by
  rw [segments_join hpath]
  cases parts with
  | nil => simp [unsegment]
  | cons part parts =>
    have hsegments : segments (unsegment (part :: parts)) = part :: parts :=
      segments_unsegment (by simp) hparts
    have hend : (unsegment (part :: parts)).getLast? ≠ some '/' :=
      getLast?_ne_slash (by rw [hsegments]; exact hlast)
    have hne : unsegment (part :: parts) ≠ [] := by
      intro hnil
      rw [hnil] at hsegments
      obtain ⟨rfl, rfl⟩ : part = [] ∧ parts = [] := by simpa [segments, eq_comm] using hsegments
      exact hlast rfl
    simp [hend, hne, hsegments]

theorem getLast?_rdropWhile_ne (parts : List Text) :
    (parts.rdropWhile (!significant ·)).getLast? ≠ some [] := by
  intro hlast
  have hne : parts.rdropWhile (!significant ·) ≠ [] := by
    rintro hnil
    simp [hnil] at hlast
  have hkept := List.rdropWhile_last_not (!significant ·) parts hne
  rw [List.getLast?_eq_some_getLast hne, Option.some.injEq] at hlast
  rw [hlast] at hkept
  exact hkept (by decide)

/-- The path lies in the directory: some parts lead to the directory, and others that say
    nothing may follow before the last part.  What is joined to the directory comes after
    the parts that lead to it. -/
structure LiesIn (path dir : Path) (lead dropped : List Text) (name : Text) : Prop where
  parent : path.parent? = some dir
  segments : segments path.spelling = lead ++ dropped ++ [name]
  nothing : ∀ part ∈ dropped, significant part = false
  join : ∀ other : Path, other.isAbsolute = false →
    Path.segments (dir.join other).spelling = lead ++ Path.segments other.spelling
  rooted : lead = [] → path.isAbsolute = false

theorem LiesIn.isAbsolute_join {path dir other : Path} {lead dropped : List Text} {name : Text}
    (h : path.LiesIn dir lead dropped name) (hother : other.isAbsolute = false) :
    (dir.join other).isAbsolute = path.isAbsolute := by
  have hjoin := h.join other hother
  have hpath := h.segments
  cases lead with
  | nil =>
    rw [h.rooted rfl, ← hother, Bool.eq_iff_iff, isAbsolute_iff_segments, isAbsolute_iff_segments,
      hjoin, List.nil_append]
  | cons first lead =>
    rw [Bool.eq_iff_iff, isAbsolute_iff_segments, isAbsolute_iff_segments, hjoin, hpath]
    simp [segments_ne_nil]

theorem exists_lead (parts : List Text) :
    ∃ lead dropped, parts.rdropWhile (!significant ·) = lead ∧ parts = lead ++ dropped ∧
      lead.getLast? ≠ some [] ∧ ∀ part ∈ dropped, significant part = false := by
  refine ⟨_, parts.rtakeWhile (!significant ·), rfl, List.rdropWhile_append_rtakeWhile.symm,
    getLast?_rdropWhile_ne parts, ?_⟩
  intro part hpart
  simpa using List.mem_rtakeWhile_imp hpart

theorem getLast?_cons_ne {first : Text} {lead : List Text} (hfirst : first ≠ [])
    (hlast : lead.getLast? ≠ some []) : (first :: lead).getLast? ≠ some [] := by
  cases lead with
  | nil => simpa using hfirst
  | cons next lead => rwa [List.getLast?_cons_cons]

theorem segments_join_root {lead : List Text} {other : Path} (hother : other.isAbsolute = false)
    (hlead : ∀ part ∈ lead, '/' ∉ part) (hlast : lead.getLast? ≠ some []) :
    segments (Path.join ⟨'/' :: unsegment lead⟩ other).spelling =
      [] :: lead ++ segments other.spelling := by
  cases lead with
  | nil => simp [segments_join hother, unsegment, segments]
  | cons part lead =>
    have hparts : ∀ other ∈ [] :: part :: lead, '/' ∉ other := by
      simpa using hlead
    exact @segments_join_unsegment ([] :: part :: lead) other hother hparts
      (by rwa [List.getLast?_cons_cons])

/-- A path whose last part says something lies in a directory. -/
theorem exists_liesIn {path : Path} {parts : List Text} {name : Text}
    (hpath : segments path.spelling = parts ++ [name]) (hname : significant name = true) :
    ∃ dir lead dropped, path.LiesIn dir lead dropped name ∧ parts = lead ++ dropped := by
  have hne : name ≠ [] ∧ name ≠ ['.'] := by simpa [significant] using hname
  have hclean : ∀ part ∈ parts, '/' ∉ part := fun part hpart =>
    @slash_not_mem_of_mem_segments path.spelling _ (by simp [hpath, hpart])
  by_cases habs : path.isAbsolute = true
  · obtain ⟨rest, -, hrest⟩ := isAbsolute_iff_segments.1 habs
    rcases parts with _ | ⟨first, parts⟩
    · rw [hpath] at hrest
      exact absurd (List.cons.inj hrest).1 hne.1
    obtain ⟨rfl, -⟩ : first = [] ∧ parts ++ [name] = rest := by simpa [hpath] using hrest
    obtain ⟨lead, dropped, hlead, hparts, hlast, hnothing⟩ := exists_lead parts
    have hslash : ∀ part ∈ lead, '/' ∉ part := fun part hpart =>
      hclean part (by simp [hparts, hpart])
    refine ⟨⟨'/' :: unsegment lead⟩, [] :: lead, dropped, ⟨?_, ?_, hnothing, ?_, by simp⟩,
      by rw [hparts, List.cons_append]⟩
    · simp [parent?, habs, hpath, dropLastPart_append hname, hlead]
    · rw [hpath, hparts]
      rfl
    · exact fun other hother => segments_join_root hother hslash hlast
  by_cases hhere : path.startsHere = true
  · have hfirst : (parts ++ [name]).head? = some ['.'] := by
      simpa [startsHere, hpath] using hhere
    rcases parts with _ | ⟨first, parts⟩
    · exact absurd (Option.some.inj hfirst) hne.2
    obtain rfl : first = ['.'] := by simpa using hfirst
    obtain ⟨lead, dropped, hlead, hparts, hlast, hnothing⟩ := exists_lead parts
    have hslash : ∀ part ∈ ['.'] :: lead, '/' ∉ part := fun part hpart =>
      hclean part (by rw [hparts, ← List.cons_append]; exact List.mem_append_left _ hpart)
    refine ⟨⟨unsegment (['.'] :: lead)⟩, ['.'] :: lead, dropped, ⟨?_, ?_, hnothing, ?_, by simp⟩,
      by rw [hparts, List.cons_append]⟩
    · simp [parent?, habs, hhere, hpath, dropLastPart_append hname, hlead]
    · rw [hpath, hparts]
      rfl
    · exact fun other hother => segments_join_unsegment hother hslash
        (getLast?_cons_ne (by simp) hlast)
  · obtain ⟨lead, dropped, hlead, hparts, hlast, hnothing⟩ := exists_lead parts
    have hslash : ∀ part ∈ lead, '/' ∉ part := fun part hpart =>
      hclean part (by simp [hparts, hpart])
    refine ⟨⟨unsegment lead⟩, lead, dropped, ⟨?_, ?_, hnothing, ?_, fun _ => by simpa using habs⟩,
      hparts⟩
    · simp [parent?, habs, hhere, hpath, dropLastPart_append hname, hlead]
    · rw [hpath, hparts]
    · exact fun other hother => segments_join_unsegment hother hslash hlast

end Blockwise.Path
