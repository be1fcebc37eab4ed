/-
  Blockwise/Proofs/Files/Memory.lean
  ==================================
  **Files in memory are a map on paths taken by their components.**  Two spellings of
  a path with the same components are one key: the same text is found under both
  (`find?_congr`), and putting a text under one replaces what is found under the other
  (`find?_insert`).

  A finite map has finitely many keys, so paths that differ in their components and can
  all be read are at most as many as the entries (`length_le_of_readable`).
-/
import Blockwise.Files.Reader
import Mathlib.Data.List.Perm.Subperm

namespace Blockwise

theorem Path.same_iff {p q : Path} : p.same q = true ↔ p.components = q.components := by
  rw [Path.same, beq_iff_eq]

namespace MemoryFiles

/-! ### Keys -/

theorem find?_congr (files : MemoryFiles) {p q : Path} (h : p.components = q.components) :
    files.find? p = files.find? q := by
  simp only [find?, Path.same, h]

theorem read_eq_ok_iff {files : MemoryFiles} {path : Path} {text : Text} :
    files.read path = .ok text ↔ files.find? path = some text := by
  unfold read
  rcases files.find? path with _ | found
  · simp
  · simp

/-- What is read under one spelling is read under every other. -/
theorem read_congr {files : MemoryFiles} {p q : Path} {text : Text}
    (h : p.components = q.components) (hread : files.read p = .ok text) :
    files.read q = .ok text := by
  rw [read_eq_ok_iff] at hread ⊢
  rw [← files.find?_congr h]
  exact hread

theorem mem_components_of_find? {files : MemoryFiles} {path : Path} {text : Text}
    (h : files.find? path = some text) :
    path.components ∈ files.entries.map fun entry => entry.1.components := by
  obtain ⟨entry, hentry, -⟩ := Option.map_eq_some_iff.1 h
  have hsame : entry.1.same path = true := by simpa using List.find?_some hentry
  exact List.mem_map.2 ⟨entry, List.mem_of_find?_eq_some hentry, Path.same_iff.1 hsame⟩

/-! ### Putting a text at a path -/

private theorem find?_replace (entries : List (Path × Text)) (path other : Path) (text : Text) :
    find? ⟨entries.map fun entry => if entry.1.same path then (entry.1, text) else entry⟩ other =
      if path.components = other.components then (find? ⟨entries⟩ other).map fun _ => text
      else find? ⟨entries⟩ other := by
  simp only [find?, List.find?_map, Option.map_map]
  have hkey : ((fun entry : Path × Text => entry.1.same other) ∘
      fun entry : Path × Text => if entry.1.same path then (entry.1, text) else entry) =
      fun entry => entry.1.same other := by
    funext entry
    simp only [Function.comp_apply]
    split <;> rfl
  rw [hkey]
  rcases hfound : entries.find? fun entry => entry.1.same other with _ | entry
  · simp [hfound]
  · have hsame : entry.1.components = other.components :=
      Path.same_iff.1 (by simpa using List.find?_some hfound)
    have hreplaced : entry.1.same path = true ↔ path.components = other.components := by
      rw [Path.same_iff, hsame, eq_comm]
    by_cases hpath : path.components = other.components
    · simp [hfound, hreplaced.2 hpath, hpath]
    · have hkept : ¬ entry.1.same path = true := fun h => hpath (hreplaced.1 h)
      simp [hfound, hkept, hpath]

/-- Putting a text at a path changes what is found under its spellings, and nothing else. -/
theorem find?_insert (files : MemoryFiles) (path other : Path) (text : Text) :
    (files.insert path text).find? other =
      if path.components = other.components then some text else files.find? other := by
  unfold insert
  by_cases hthere : (files.find? path).isSome = true
  · rw [if_pos hthere, find?_replace]
    by_cases hpath : path.components = other.components
    · obtain ⟨old, hold⟩ := Option.isSome_iff_exists.1 hthere
      rw [files.find?_congr hpath] at hold
      rw [if_pos hpath, if_pos hpath, hold]
      rfl
    · rw [if_neg hpath, if_neg hpath]
  · have hnone : files.find? path = none := by simpa using hthere
    rw [if_neg hthere]
    by_cases hpath : path.components = other.components
    · rw [if_pos hpath]
      rw [files.find?_congr hpath, find?, Option.map_eq_none_iff] at hnone
      simp [find?, hnone, Path.same_iff.2 hpath]
    · have hother : path.same other = false := by
        rw [← Bool.not_eq_true, Path.same_iff]
        exact hpath
      rw [if_neg hpath]
      simp [find?, hother]

/-! ### Finitely many keys -/

/-- Different paths that can be read are no more than the files that there are. -/
theorem length_le_of_readable {files : MemoryFiles} {paths : List Path}
    (hapart : (paths.map Path.components).Nodup)
    (hread : ∀ path ∈ paths, ∃ text, files.read path = .ok text) :
    paths.length ≤ files.entries.length := by
  have hsubset : paths.map Path.components ⊆
      files.entries.map fun entry => entry.1.components := by
    intro components hmem
    obtain ⟨path, hpath, rfl⟩ := List.mem_map.1 hmem
    obtain ⟨text, htext⟩ := hread path hpath
    exact mem_components_of_find? (read_eq_ok_iff.1 htext)
  have hlength := (hapart.subperm hsubset).length_le
  rwa [List.length_map, List.length_map] at hlength

end MemoryFiles

end Blockwise
