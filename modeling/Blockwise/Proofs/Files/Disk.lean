/-
  Blockwise/Proofs/Files/Disk.lean
  ================================
  **Following paths on a disk.**  A walk along two lists of parts is a walk along the
  first and then one along the second (`walk_append`), and putting something where no
  directory was disturbs no walk (`walk_put`).  So what is written to a path is what is
  read from it afterwards (`read_of_write`).
-/
import Blockwise.Files.Disk
import Blockwise.Proofs.Document.Nodes
import Blockwise.Proofs.Path.Segments

namespace Blockwise

namespace Disk

variable {disk : Disk} {place : Location}

/-! ### Entries -/

theorem lookup_put (disk : Disk) {spot : Location} (hspot : spot ≠ []) (entry : Entry)
    (place : Location) :
    Disk.entry? (disk.put spot entry) place =
      if place = spot then some entry else disk.entry? place := by
  unfold entry? put
  by_cases hroot : place = []
  · subst hroot
    simp [hspot.symm]
  · rw [if_neg hroot, if_neg hroot, List.find?_cons, List.find?_filter]
    by_cases hsame : place = spot
    · simp [hsame]
    · have hother : (spot == place) = false := by simpa using fun h => hsame h.symm
      simp only [hother, if_neg hsame]
      congr 2
      funext item
      by_cases hitem : item.1 = place
      · simp [hitem, hsame]
      · simp [hitem]

/-! ### Walks -/

theorem walk_cons_ok {part : Text} {parts : List Text} {reached : Location}
    (h : disk.walk place (part :: parts) = .ok reached) :
    disk.entry? place = some .directory ∧
      ((part = [] ∨ part = ['.']) ∧ disk.walk place parts = .ok reached ∨
        part = ['.', '.'] ∧ disk.walk place.dropLast parts = .ok reached ∨
        (part ≠ [] ∧ part ≠ ['.'] ∧ part ≠ ['.', '.'] ∧ Text.byteLen part ≤ maxNameBytes) ∧
          (disk.entry? (place ++ [part])).isSome = true ∧
          disk.walk (place ++ [part]) parts = .ok reached) := by
  rw [walk] at h
  split at h
  · cases h
  · cases h
  · next hdir =>
    refine ⟨hdir, ?_⟩
    split at h
    · next hhere => exact Or.inl ⟨by simpa using hhere, h⟩
    split at h
    · next hup => exact Or.inr (Or.inl ⟨hup, h⟩)
    split at h
    · cases h
    split at h
    · next hhere hup hlong hthere =>
      refine Or.inr (Or.inr ⟨⟨?_, ?_, hup, by omega⟩, hthere, h⟩)
      · rintro rfl
        simp at hhere
      · rintro rfl
        simp at hhere
    · cases h

theorem walk_append (disk : Disk) (place : Location) (parts more : List Text) :
    disk.walk place (parts ++ more) =
      disk.walk place parts >>= fun reached => disk.walk reached more := by
  induction parts generalizing place with
  | nil => rfl
  | cons part parts ih =>
    simp only [List.cons_append, walk]
    split
    · rfl
    · rfl
    · split
      · exact ih place
      split
      · exact ih place.dropLast
      split
      · rfl
      split
      · exact ih (place ++ [part])
      · rfl

theorem walk_append_ok {parts more : List Text} {reached : Location} :
    disk.walk place (parts ++ more) = .ok reached ↔
      ∃ middle, disk.walk place parts = .ok middle ∧ disk.walk middle more = .ok reached := by
  rw [walk_append, bind_eq_ok_iff]

/-- Putting something where there is no directory leaves all walks as they are. -/
theorem walk_put {spot : Location} {entry : Entry} (hspot : spot ≠ [])
    (hfree : disk.entry? spot ≠ some .directory) {parts : List Text} {reached : Location}
    (h : disk.walk place parts = .ok reached) :
    (disk.put spot entry).walk place parts = .ok reached := by
  induction parts generalizing place with
  | nil => exact h
  | cons part parts ih =>
    obtain ⟨hdir, hstep⟩ := walk_cons_ok h
    have hother : place ≠ spot := by
      rintro rfl
      exact hfree hdir
    have hdir' : Disk.entry? (disk.put spot entry) place = some .directory := by
      rw [lookup_put disk hspot, if_neg hother, hdir]
    rw [walk, hdir']
    rcases hstep with ⟨rfl | rfl, hrest⟩ | ⟨rfl, hrest⟩ | ⟨⟨hne, hhere, hup, hlen⟩, hthere, hrest⟩
    · simpa using ih hrest
    · simpa using ih hrest
    · simpa using ih hrest
    · have hthere' : ( Disk.entry? (disk.put spot entry) (place ++ [part])).isSome = true := by
        rw [lookup_put disk hspot]
        split
        · rfl
        · exact hthere
      simpa [hne, hhere, hup, Nat.not_lt.2 hlen, hthere'] using ih hrest

/-! ### Places -/

/-- The text can stand for a file or directory in another one. -/
def IsName (name : Text) : Prop :=
  name ≠ [] ∧ name ≠ ['.'] ∧ name ≠ ['.', '.'] ∧ '/' ∉ name

instance (name : Text) : Decidable (IsName name) := inferInstanceAs (Decidable (_ ∧ _))

/-- The place has proper names, and lies in directories only. -/
structure Standing (disk : Disk) (place : Location) : Prop where
  names : ∀ name ∈ place, IsName name
  above : ∀ n < place.length, disk.entry? (place.take n) = some .directory

theorem standing_root (disk : Disk) : disk.Standing [] :=
  ⟨fun _ hname => absurd hname List.not_mem_nil, fun _ hn => absurd hn (Nat.not_lt_zero _)⟩

theorem Standing.dropLast (h : disk.Standing place) : disk.Standing place.dropLast := by
  refine ⟨fun name hname => h.names name (List.dropLast_subset _ hname), ?_⟩
  intro n hn
  rw [List.length_dropLast] at hn
  rw [List.dropLast_eq_take, List.take_take, Nat.min_eq_left (by omega)]
  exact h.above n (by omega)

theorem Standing.child (h : disk.Standing place) (hdir : disk.entry? place = some .directory)
    {name : Text} (hname : IsName name) : disk.Standing (place ++ [name]) := by
  constructor
  · intro other hother
    rcases List.mem_append.1 hother with hother | hother
    · exact h.names other hother
    · rwa [List.mem_singleton.1 hother]
  · intro n hn
    rw [List.length_append, List.length_singleton] at hn
    rw [List.take_append_of_le_length (by omega)]
    rcases Nat.lt_or_eq_of_le (Nat.le_of_lt_succ hn) with hless | rfl
    · exact h.above n hless
    · rwa [List.take_length]

theorem walk_standing {parts : List Text} {reached : Location}
    (hparts : ∀ part ∈ parts, '/' ∉ part) (hplace : disk.Standing place)
    (h : disk.walk place parts = .ok reached) : disk.Standing reached := by
  induction parts generalizing place with
  | nil =>
    cases h
    exact hplace
  | cons part parts ih =>
    have hrest : ∀ other ∈ parts, '/' ∉ other := fun other hother =>
      hparts other (List.mem_cons_of_mem _ hother)
    have hslash := hparts part (List.mem_cons_self ..)
    obtain ⟨hdir, hstep⟩ := walk_cons_ok h
    rcases hstep with ⟨-, hwalk⟩ | ⟨-, hwalk⟩ | ⟨⟨hne, hhere, hup, -⟩, -, hwalk⟩
    · exact ih hrest hplace hwalk
    · exact ih hrest hplace.dropLast hwalk
    · exact ih hrest (hplace.child hdir ⟨hne, hhere, hup, hslash⟩) hwalk

/-- A walk that ends at a file ends with its name. -/
theorem walk_file {parts : List Text} {reached : Location} {content : Content}
    (hparts : ∀ part ∈ parts, '/' ∉ part) (hplace : disk.Standing place) (hne : parts ≠ [])
    (h : disk.walk place parts = .ok reached)
    (hfile : disk.entry? reached = some (.file content)) :
    ∃ front name dir, parts = front ++ [name] ∧ IsName name ∧
      disk.walk place front = .ok dir ∧ disk.entry? dir = some .directory ∧
      reached = dir ++ [name] := by
  obtain ⟨front, name, rfl⟩ := (List.eq_nil_or_concat' parts).resolve_left hne
  obtain ⟨dir, hfront, hlast⟩ := walk_append_ok.1 h
  obtain ⟨hdir, hstep⟩ := walk_cons_ok hlast
  have hstanding := walk_standing (fun part hpart => hparts part (by simp [hpart])) hplace hfront
  rcases hstep with ⟨-, hwalk⟩ | ⟨-, hwalk⟩ | ⟨⟨hne, hhere, hup, -⟩, -, hwalk⟩
  · cases hwalk
    cases hdir.symm.trans hfile
  · -- what a place lies in is no file
    cases hwalk
    rcases dir.eq_nil_or_concat' with rfl | ⟨above, last, rfl⟩
    · cases hfile
    · have habove := hstanding.above above.length (by simp)
      rw [List.take_left] at habove
      rw [List.dropLast_concat] at hfile
      cases habove.symm.trans hfile
  · cases hwalk
    exact ⟨front, name, dir, rfl, ⟨hne, hhere, hup, hparts name (by simp)⟩, hfront, hdir, rfl⟩

theorem components_pathOf (h : ∀ name ∈ place, IsName name) :
    (pathOf place).components = .root :: place.map .name := by
  have hsegments : (Path.segments (pathOf place).spelling).filter Path.significant = place := by
    have hroot : Path.segments (pathOf place).spelling =
        [] :: Path.segments (Path.unsegment place) := rfl
    rw [hroot, List.filter_cons_of_neg (by decide)]
    cases place with
    | nil => rfl
    | cons name place =>
      rw [Path.segments_unsegment (by simp) fun other hother => (h other hother).2.2.2,
        List.filter_eq_self]
      intro other hother
      obtain ⟨hne, hhere, -⟩ := h other hother
      simp [Path.significant, hne, hhere]
  have hparts : place.map Path.Component.ofPart = place.map .name := by
    refine List.map_congr_left fun name hname => ?_
    exact if_neg (h name hname).2.2.1
  simp only [Path.components, hsegments, hparts]
  rfl

/-- Places are told apart by the components of their paths. -/
theorem pathOf_injective {other : Location} (h : ∀ name ∈ place, IsName name)
    (hother : ∀ name ∈ other, IsName name) (hsame : (pathOf place).same (pathOf other) = true) :
    place = other := by
  rw [Path.same, beq_iff_eq, components_pathOf h, components_pathOf hother,
    List.cons.injEq] at hsame
  exact List.map_injective_iff.2 (fun _ _ => by simp) hsame.2

/-! ### Paths from the directory of a file -/

/-- No character of the path has code point zero. -/
def Zeroless (path : Path) : Prop := ∀ c ∈ path.spelling, c.toNat ≠ 0

theorem screen_eq_ok {path : Path} : screen path = .ok () ↔ Zeroless path ∧ path.spelling ≠ [] := by
  have hany : path.spelling.any (·.toNat == 0) = true ↔ ¬ Zeroless path := by
    simp [Zeroless]
  unfold screen
  by_cases hzero : Zeroless path
  · rw [if_neg (by rw [hany]; exact fun h => h hzero)]
    by_cases hempty : path.spelling = []
    · simp [hempty]
    · simp [hempty, hzero]
  · rw [if_pos (hany.2 hzero)]
    simp [hzero]

theorem follow_eq_ok {path : Path} : disk.follow path = .ok place ↔
    (Zeroless path ∧ path.spelling ≠ []) ∧
      disk.walk (disk.start path) (Path.segments path.spelling) = .ok place := by
  rw [follow, bind_eq_ok_iff, ← screen_eq_ok]
  constructor
  · rintro ⟨⟨⟩, hscreen, hwalk⟩
    exact ⟨hscreen, hwalk⟩
  · rintro ⟨hscreen, hwalk⟩
    exact ⟨(), hscreen, hwalk⟩

theorem locate_eq_ok {path : Path} : disk.locate path = .ok place ↔
    path.spelling.byteLen ≤ maxPathBytes ∧ disk.follow path = .ok place := by
  unfold locate screenLength
  constructor
  · intro h
    obtain ⟨⟨⟩, -, h⟩ := bind_eq_ok_iff.1 h
    obtain ⟨⟨⟩, hlength, h⟩ := bind_eq_ok_iff.1 h
    split at hlength
    · cases hlength
    · next hshort => exact ⟨Nat.not_lt.1 hshort, h⟩
  · rintro ⟨hshort, h⟩
    rw [screen_eq_ok.2 (follow_eq_ok.1 h).1, if_neg (Nat.not_lt.2 hshort)]
    exact h

theorem pathExists_iff {path : Path} :
    disk.pathExists path = true ↔ ∃ place, disk.locate path = .ok place := by
  unfold pathExists
  cases disk.locate path <;> simp

theorem start_standing (hdisk : disk.Standing disk.workingDir) (path : Path) :
    disk.Standing (disk.start path) := by
  unfold start
  split
  · exact standing_root disk
  · exact hdisk

theorem follow_standing (hdisk : disk.Standing disk.workingDir) {path : Path}
    (h : disk.follow path = .ok place) : disk.Standing place :=
  walk_standing (fun _ => Path.slash_not_mem_of_mem_segments) (start_standing hdisk path)
    (follow_eq_ok.1 h).2

theorem zeroless_iff {path : Path} :
    Zeroless path ↔ ∀ part ∈ Path.segments path.spelling, ∀ c ∈ part, c.toNat ≠ 0 := by
  constructor
  · intro h part hpart c hc hzero
    have hslash : c ≠ '/' := by
      rintro rfl
      cases hzero
    exact h c ((Path.mem_iff_mem_segments hslash _).2 ⟨part, hpart, hc⟩) hzero
  · intro h c hc hzero
    have hslash : c ≠ '/' := by
      rintro rfl
      cases hzero
    obtain ⟨part, hpart, hmem⟩ := (Path.mem_iff_mem_segments hslash _).1 hc
    exact h part hpart c hmem hzero

/-- Parts that say nothing lead nowhere else. -/
theorem walk_insignificant {parts : List Text} {reached : Location}
    (hparts : ∀ part ∈ parts, Path.significant part = false)
    (h : disk.walk place parts = .ok reached) : reached = place := by
  induction parts generalizing place with
  | nil =>
    cases h
    rfl
  | cons part parts ih =>
    have hpart := hparts part (List.mem_cons_self ..)
    have hrest := fun other hother => hparts other (List.mem_cons_of_mem _ hother)
    obtain ⟨-, hstep⟩ := walk_cons_ok h
    rcases hstep with ⟨-, hwalk⟩ | ⟨rfl, -⟩ | ⟨⟨hne, hhere, -⟩, -⟩
    · exact ih hrest hwalk
    · cases hpart
    · simp [Path.significant, hne, hhere] at hpart

/-- Paths that are taken from the directory of a file are followed from the place that the
    file lies in, however the path of the file is spelled. -/
theorem exists_follow_join (hdisk : disk.Standing disk.workingDir) {path : Path}
    {content : Content} (h : disk.follow path = .ok place)
    (hfile : disk.entry? place = some (.file content)) :
    ∃ dir base name, path.parent? = some dir ∧ place = base ++ [name] ∧
      disk.entry? base = some .directory ∧
      ∀ named : Path, named.isAbsolute = false → ∀ reached,
        disk.follow (dir.join named) = .ok reached ↔
          (Zeroless named ∧ (dir.join named).spelling ≠ []) ∧
            disk.walk base (Path.segments named.spelling) = .ok reached := by
  obtain ⟨⟨hzeroless, -⟩, hwalk⟩ := follow_eq_ok.1 h
  obtain ⟨front, name, base, hfront, hname, hbase, hdir, rfl⟩ := walk_file
    (fun _ => Path.slash_not_mem_of_mem_segments) (start_standing hdisk path)
    (Path.segments_ne_nil _) hwalk hfile
  have hsignificant : Path.significant name = true := by
    obtain ⟨hne, hhere, -⟩ := hname
    simp [Path.significant, hne, hhere]
  obtain ⟨dir, lead, dropped, hlies, rfl⟩ := Path.exists_liesIn hfront hsignificant
  refine ⟨dir, base, name, hlies.parent, rfl, hdir, ?_⟩
  intro named hnamed reached
  have hstart : disk.start (dir.join named) = disk.start path := by
    rw [start, start, hlies.isAbsolute_join hnamed]
  have hlead : disk.walk (disk.start path) lead = .ok base := by
    obtain ⟨middle, hmiddle, hrest⟩ := walk_append_ok.1 hbase
    rwa [walk_insignificant hlies.nothing hrest]
  have hzero : Zeroless (dir.join named) ↔ Zeroless named := by
    have hclean : ∀ part ∈ lead, ∀ c ∈ part, c.toNat ≠ 0 := fun part hpart =>
      zeroless_iff.1 hzeroless part (by simp [hlies.segments, hpart])
    rw [zeroless_iff, zeroless_iff, hlies.join named hnamed]
    simp only [List.mem_append, or_imp, forall_and]
    exact and_iff_right hclean
  rw [follow_eq_ok, hzero, hstart, hlies.join named hnamed, walk_append, hlead]
  rfl

/-! ### Writing and reading -/

/-- A file is written below the directory that the path leads to without its last part. -/
structure Writes (disk : Disk) (path : Path) (parts : List Text) (name : Text) (place : Location) :
    Prop where
  screened : screen path = .ok ()
  short : screenLength path = .ok ()
  segments : Path.segments path.spelling = parts ++ [name]
  walk : disk.walk (disk.start path) parts = .ok place
  directory : disk.entry? place = some .directory
  proper : name ≠ [] ∧ name ≠ ['.'] ∧ name ≠ ['.', '.'] ∧ Text.byteLen name ≤ maxNameBytes
  free : disk.entry? (place ++ [name]) ≠ some .directory

/-- Where nothing follows the last part, it is what comes after the last slash. -/
theorem locateLast_eq_ok {path : Path} {place : Location} {name : Text}
    (h : disk.locateLast path = .ok (place, some name, false)) :
    ∃ parts, screen path = .ok () ∧ screenLength path = .ok () ∧
      Path.segments path.spelling = parts ++ [name] ∧
      disk.walk (disk.start path) parts = .ok place ∧
      disk.entry? place = some .directory ∧ name ≠ [] ∧ name ≠ ['.'] ∧ name ≠ ['.', '.'] := by
  unfold locateLast at h
  obtain ⟨⟨⟩, hscreen, h⟩ := bind_eq_ok_iff.1 h
  obtain ⟨⟨⟩, hshort, h⟩ := bind_eq_ok_iff.1 h
  obtain ⟨parts, last, hparts⟩ : ∃ parts last, Path.segments path.spelling = parts ++ [last] :=
    (List.eq_nil_or_concat' _).resolve_left (Path.segments_ne_nil _)
  simp only [hparts, List.getLast?_append, List.getLast?_singleton, Option.some_or] at h
  split at h
  · simp at h
  · next found hfound =>
    obtain ⟨reached, hwalk, h⟩ := bind_eq_ok_iff.1 h
    split at h
    · next hdir =>
      split at h
      · simp at h
      · next hname =>
        simp only [Except.ok.injEq, Prod.mk.injEq, Option.some.injEq] at h
        obtain ⟨rfl, rfl, hslash⟩ := h
        have hlast : last ≠ [] := by simpa using hslash
        have hcore : ((parts ++ [last]).reverse.dropWhile (· == [])).reverse = parts ++ [last] := by
          simp [hlast]
        rw [hcore] at hfound hwalk
        obtain rfl : last = found := by simpa using hfound
        rw [List.dropLast_concat] at hwalk
        obtain ⟨hhere, hup⟩ : last ≠ ['.'] ∧ last ≠ ['.', '.'] := by simpa using hname
        exact ⟨parts, hscreen, hshort, hparts, hwalk, hdir, hlast, hhere, hup⟩
    · cases h
    · cases h

theorem write_eq_ok {path : Path} {body : Text} {after : Disk}
    (h : disk.write path body = .ok after) :
    ∃ parts name place, disk.Writes path parts name place ∧
      after = disk.put (place ++ [name]) (.file (.text body)) := by
  unfold write at h
  obtain ⟨⟨place, last, slash⟩, hlast, h⟩ := bind_eq_ok_iff.1 h
  split at h
  · cases h
  · cases h
  · next place name hfound =>
    cases hfound
    obtain ⟨parts, hscreen, hshort, hparts, hwalk, hdir, hne, hhere, hup⟩ := locateLast_eq_ok hlast
    obtain ⟨child, hchild, h⟩ := bind_eq_ok_iff.1 h
    unfold child? at hchild
    split at hchild
    · cases hchild
    · next hlen =>
      cases hchild
      split at h
      · cases h
      · next hfree =>
        cases h
        exact ⟨parts, name, place, ⟨hscreen, hshort, hparts, hwalk, hdir,
          ⟨hne, hhere, hup, Nat.not_lt.1 hlen⟩, hfree⟩, rfl⟩

/-- The path of a file that was just written leads to it. -/
theorem locate_put {path : Path} {parts : List Text} {name : Text}
    (h : disk.Writes path parts name place) (entry : Entry) :
    (disk.put (place ++ [name]) entry).locate path = .ok (place ++ [name]) := by
  have hspot : place ++ [name] ≠ [] := by simp
  have hplace : place ≠ place ++ [name] := fun hsame => by simpa using congrArg List.length hsame
  have hdir : Disk.entry? (disk.put (place ++ [name]) entry) place = some .directory := by
    rw [lookup_put disk hspot, if_neg hplace, h.directory]
  have hname : (disk.put (place ++ [name]) entry).walk place [name] = .ok (place ++ [name]) := by
    obtain ⟨hne, hhere, hup, hlen⟩ := h.proper
    simp [walk, hdir, hne, hhere, hup, Nat.not_lt.2 hlen, lookup_put disk hspot]
  have hwalk := walk_append_ok.2 ⟨place, walk_put hspot h.free h.walk, hname⟩
  unfold locate follow
  rw [h.screened, h.short, h.segments]
  exact hwalk

/-- What is written to a path is what is read from it afterwards. -/
theorem read_of_write {path : Path} {body : Text} {after : Disk}
    (h : disk.write path body = .ok after) :
    after.pathExists path = true ∧ after.read path = .ok body := by
  obtain ⟨parts, name, place, hwrites, rfl⟩ := write_eq_ok h
  have hlocate := locate_put hwrites (.file (.text body))
  constructor
  · rw [pathExists, hlocate]
  · unfold read
    rw [hlocate]
    simp [bind, Except.bind, @lookup_put disk (place ++ [name]) (by simp)]

end Disk

end Blockwise
