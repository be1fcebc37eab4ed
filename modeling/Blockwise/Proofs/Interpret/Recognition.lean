/-
  Blockwise/Proofs/Interpret/Recognition.lean
  ===========================================
  **Blocks stand exactly where the rules say.**  The scanner decides at one position
  after the other, against whatever block is innermost there.  What comes out can be
  said of the finished document and its main text alone:

    * a block has the first registered type that opens at its start, and what is
      around it allows blocks to open (`Block.Fits`);
    * it ends at a place where its type closes and no other block may open, behind the
      characters that an immediately closing block takes in, or with the text
      (`Block.Ends`);
    * in plain text no block may open, and the block around it does not close
      (`Quiet`).

  The first two are promises of single families, kept by every move (`Reached.reading`).
  That the blocks around one which ends with the text do so, too, and that an
  immediately closing block has no text inside, follows from the tiling.
-/
import Blockwise.Proofs.Interpret.Tiling

namespace Blockwise

/-! ### The rules -/

/-- At this position no block may open inside a block of type `around`, and that one
    does not close. -/
def Quiet (interpreter : Interpreter) (text : Text) (around : Option BlockType) (pos : Nat) :
    Prop :=
  (∀ type, around = some type → type.closes text pos = false) ∧
    ((∃ type, around = some type ∧ type.flags.forbidNewOpenings = true) ∨
      ∀ type ∈ interpreter.types, type.opens text pos = false)

/-- A block may stand right inside one of type `around`. -/
structure Block.Fits (interpreter : Interpreter) (text : Text) (around : Option BlockType)
    (block : Block) : Prop where
  quiet : block.type.isPlain = true → block.type = .plain ∧
    ∃ stop, block.stop = some stop ∧
      ∀ pos, block.start ≤ pos → pos < stop → Quiet interpreter text around pos
  allowed : block.type.isPlain = false →
    ∀ type, around = some type → type.flags.forbidNewOpenings = false

/-- How a block comes to its end. -/
inductive Block.Ends (interpreter : Interpreter) (text : Text) (block : Block) : Prop
  /-- Not yet. -/
  | unclosed : block.stop = none → block.type.flags.closeImmediately = false →
      block.Ends interpreter text
  /-- By its close tag. -/
  | marker {pos : Nat} : block.type.flags.closeImmediately = false → pos < text.byteLen →
      block.type.closes text pos = true →
      (block.type.flags.forbidNewOpenings = true ∨
        ∀ type ∈ interpreter.types, type.opens text pos = false) →
      block.closeLen = block.type.closeLen → block.stop = some (pos + block.closeLen) →
      block.Ends interpreter text
  /-- By the characters behind its open tag. -/
  | skip {before rest : Text} : block.type.flags.closeImmediately = true →
      text.cut? block.bodyStart = some (before, rest) →
      block.closeLen = Text.byteLen (rest.take interpreter.selfCloseSkip) →
      block.stop = some (block.bodyStart + block.closeLen) → block.Ends interpreter text
  /-- By the end of the text. -/
  | eof : block.type.flags.closeImmediately = false →
      block.type.flags.closeableByEof = true → block.closeLen = 0 →
      block.stop = some text.byteLen → block.Ends interpreter text

/-- What the rules say of a block that is not plain text, whatever is around it. -/
def Block.Opens (interpreter : Interpreter) (text : Text) (block : Block) : Prop :=
  interpreter.types.find? (fun type => type.opens text block.start) = some block.type

namespace Family

def MembersFit (interpreter : Interpreter) (text : Text) (family : Family) : Prop :=
  ∀ block ∈ family.members, block.source = 0 →
    block.Fits interpreter text (family.head.map Block.type)

/-- The rules hold for what the family has of the main source. -/
structure Recognised (interpreter : Interpreter) (text : Text) (family : Family) : Prop where
  unclosed : ∀ block, family.head = some block → block.stop = none →
    block.source = 0 ∧ block.type.isPlain = false
  head : ∀ block, family.head = some block → block.source = 0 → block.type.isPlain = false →
    block.Opens interpreter text ∧ block.Ends interpreter text
  members : family.MembersFit interpreter text

/-- The rules hold for the innermost family, in which the text from `run` to `pos` is
    waiting, and the head is as `pending` says. -/
structure Reading (interpreter : Interpreter) (text : Text) (run pos : Nat)
    (pending : Block → Prop) (family : Family) : Prop where
  head : ∀ block, family.head = some block → block.stop = none ∧ block.source = 0 ∧
    block.type.isPlain = false ∧ block.Opens interpreter text ∧ pending block
  members : family.MembersFit interpreter text
  waiting : ∀ q, run ≤ q → q < pos → Quiet interpreter text (family.head.map Block.type) q

end Family

/-! ### Keeping the rules -/

theorem Block.shifted_source_ne {block : Block} {shift : Nat} (hshift : 0 < shift) :
    (block.shifted shift).source ≠ 0 := by
  show block.source + shift ≠ 0
  omega

theorem Block.Fits.atEof {interpreter : Interpreter} {text : Text} {around : Option BlockType}
    {block block' : Block} {stop : Nat} (h : block.Fits interpreter text around)
    (heof : AtEof stop block block') : block'.Fits interpreter text around := by
  cases heof with
  | same => exact h
  | eof hopen =>
    refine ⟨?_, h.allowed⟩
    intro hplain
    -- plain text is never open
    obtain ⟨-, found, hfound, -⟩ := h.quiet hplain
    rw [hopen] at hfound
    cases hfound

theorem Block.Ends.atEof {interpreter : Interpreter} {text : Text} {block block' : Block}
    (h : block.Ends interpreter text) (heof : AtEof text.byteLen block block') :
    block'.Ends interpreter text := by
  cases heof with
  | same => exact h
  | eof hopen _ hcloseable =>
    cases h with
    | unclosed _ himm => exact .eof himm hcloseable rfl rfl
    | marker _ _ _ _ _ hstop =>
      rw [hopen] at hstop
      cases hstop
    | skip _ _ _ hstop =>
      rw [hopen] at hstop
      cases hstop
    | eof _ _ _ hstop =>
      rw [hopen] at hstop
      cases hstop

theorem Block.Ends.closeImmediately_of_open {interpreter : Interpreter} {text : Text}
    {block : Block} (h : block.Ends interpreter text) (hopen : block.stop = none) :
    block.type.flags.closeImmediately = false := by
  cases h with
  | unclosed _ himm => exact himm
  | marker himm => exact himm
  | skip _ _ _ hstop =>
    rw [hopen] at hstop
    cases hstop
  | eof himm => exact himm

/-- A block that closes immediately ends behind the characters it takes in. -/
theorem Block.Ends.of_closeImmediately {interpreter : Interpreter} {text : Text} {block : Block}
    (h : block.Ends interpreter text) (himm : block.type.flags.closeImmediately = true) :
    ∃ before rest, text.cut? block.bodyStart = some (before, rest) ∧
      block.closeLen = Text.byteLen (rest.take interpreter.selfCloseSkip) ∧
      block.stop = some (block.bodyStart + block.closeLen) := by
  cases h with
  | skip _ hcut hlen hstop => exact ⟨_, _, hcut, hlen, hstop⟩
  | unclosed _ himm' => exact absurd (himm.symm.trans himm') (by decide)
  | marker himm' => exact absurd (himm.symm.trans himm') (by decide)
  | eof himm' => exact absurd (himm.symm.trans himm') (by decide)

/-- Any other block ends by its close tag, before the end of the text, or with the text. -/
theorem Block.Ends.of_closed {interpreter : Interpreter} {text : Text} {block : Block}
    (h : block.Ends interpreter text) (himm : block.type.flags.closeImmediately = false)
    (hclosed : block.stop ≠ none) :
    (∃ pos, pos < text.byteLen ∧ block.type.closes text pos = true ∧
        (block.type.flags.forbidNewOpenings = true ∨
          ∀ type ∈ interpreter.types, type.opens text pos = false) ∧
        block.closeLen = block.type.closeLen ∧ block.stop = some (pos + block.closeLen)) ∨
      (block.type.flags.closeableByEof = true ∧ block.closeLen = 0 ∧
        block.stop = some text.byteLen) := by
  cases h with
  | unclosed hopen => exact absurd hopen hclosed
  | marker _ hlt hcloses hopens hlen hstop => exact Or.inl ⟨_, hlt, hcloses, hopens, hlen, hstop⟩
  | skip himm' => exact absurd (himm.symm.trans himm') (by decide)
  | eof _ hcloseable hlen hstop => exact Or.inr ⟨hcloseable, hlen, hstop⟩

namespace Family

variable {interpreter : Interpreter} {text : Text} {family family' : Family}

theorem AtEof.head_type {stop : Nat} (h : family.AtEof stop family') :
    family'.head.map Block.type = family.head.map Block.type := by
  obtain ⟨head, spliced, members⟩ := family
  obtain ⟨head', spliced', members'⟩ := family'
  obtain ⟨hhead, -, -⟩ := h
  cases hhead with
  | none => rfl
  | some hblock => cases hblock <;> rfl

theorem MembersFit.atEof {stop : Nat} (h : family.MembersFit interpreter text)
    (heof : family.AtEof stop family') : family'.MembersFit interpreter text := by
  unfold MembersFit at h ⊢
  rw [heof.head_type]
  have hmembers := heof.members
  generalize family.members = members, family'.members = members' at h hmembers ⊢
  induction hmembers with
  | nil => exact h
  | @cons block block' _ _ hblock _ ih =>
    intro found hfound hsource
    rcases List.mem_cons.1 hfound with rfl | hfound
    · refine (h block (List.mem_cons_self ..) ?_).atEof hblock
      cases hblock <;> exact hsource
    · exact ih (fun b hb => h b (List.mem_cons_of_mem _ hb)) found hfound hsource

theorem Recognised.atEof (h : family.Recognised interpreter text)
    (heof : family.AtEof text.byteLen family') : family'.Recognised interpreter text := by
  -- every head comes from one that was there
  have hold : ∀ block', family'.head = some block' → ∃ block, family.head = some block ∧
      Block.AtEof text.byteLen block block' := by
    intro block' hblock'
    have hhead := heof.head
    rw [hblock'] at hhead
    generalize family.head = head at hhead ⊢
    cases hhead with
    | some hblock => exact ⟨_, rfl, hblock⟩
  refine ⟨?_, ?_, h.members.atEof heof⟩
  · intro block' hblock' hopen
    obtain ⟨block, hblock, hend⟩ := hold block' hblock'
    cases hend with
    | same => exact h.unclosed block' hblock hopen
    | eof => cases hopen
  · intro block' hblock' hsource hplain
    obtain ⟨block, hblock, hend⟩ := hold block' hblock'
    have hends := hend
    cases hend with
    | same => exact h.head block' hblock hsource hplain
    | eof =>
      obtain ⟨hopens, hbefore⟩ := h.head block hblock hsource hplain
      exact ⟨hopens, hbefore.atEof hends⟩

/-- Families of another source are none of the rules' business. -/
theorem recognised_shifted {shift : Nat} (hshift : 0 < shift)
    (hclosed : ∀ block, family.head = some block → block.stop ≠ none) :
    (family.shifted shift).Recognised interpreter text := by
  refine ⟨?_, ?_, ?_⟩
  · intro block hblock hopen
    obtain ⟨old, hold, rfl⟩ := Option.map_eq_some_iff.1 hblock
    exact absurd hopen (hclosed old hold)
  · intro block hblock hsource
    obtain ⟨old, -, rfl⟩ := Option.map_eq_some_iff.1 hblock
    exact absurd hsource (Block.shifted_source_ne hshift)
  · intro block hblock hsource
    obtain ⟨old, -, rfl⟩ := List.mem_map.1 hblock
    exact absurd hsource (Block.shifted_source_ne hshift)

theorem MembersFit.add {block : Block} (h : family.MembersFit interpreter text)
    (hblock : block.Fits interpreter text (family.head.map Block.type)) :
    (family.add block).MembersFit interpreter text := by
  intro found hfound hsource
  rcases List.mem_append.1 hfound with hfound | hfound
  · exact h found hfound hsource
  · rw [List.mem_singleton] at hfound
    subst hfound
    exact hblock

/-- Closing the last member does not matter to where it stands. -/
theorem MembersFit.closeLast {before : List Block} {block : Block} {pos markerLen : Nat}
    (h : family.MembersFit interpreter text) (hmembers : family.members = before ++ [block])
    (hsource : block.source = 0) (hplain : block.type.isPlain = false) :
    MembersFit interpreter text
      { family with members := before ++ [block.closedAt pos markerLen] } := by
  intro found hfound hsource'
  rcases List.mem_append.1 hfound with hfound | hfound
  · exact h found (hmembers ▸ List.mem_append_left _ hfound) hsource'
  · rw [List.mem_singleton] at hfound
    subst hfound
    have hold := h block (hmembers ▸ List.mem_append_right _ (List.mem_singleton.2 rfl)) hsource
    refine ⟨?_, hold.allowed⟩
    intro hplain'
    rw [show (block.closedAt pos markerLen).type.isPlain = false from hplain] at hplain'
    cases hplain'

end Family

/-! ### What one position decides -/

/-- No position inside a character is a cut. -/
theorem Text.cut?_inside {before rest : Text} {c : Char} {pos : Nat} (hlo : byteLen before < pos)
    (hhi : pos < byteLen before + c.utf8Size) : cut? (before ++ c :: rest) pos = none := by
  rcases hcut : cut? (before ++ c :: rest) pos with _ | ⟨a, b⟩
  · rfl
  · obtain ⟨happend, hlen⟩ := cut?_eq_some_iff.1 hcut
    rcases List.append_eq_append_iff.1 happend with ⟨more, rfl, hmore⟩ | ⟨more, rfl, -⟩
    · -- the cut would take some of `c`, but not all of it
      rw [byteLen_append] at hlen
      cases more with
      | nil =>
        rw [byteLen_nil] at hlen
        omega
      | cons d more =>
        cases hmore
        rw [byteLen_cons] at hlen
        omega
    · rw [byteLen_append] at hlo
      omega

theorem quiet_of_cut?_eq_none {interpreter : Interpreter} {text : Text}
    {around : Option BlockType} {pos : Nat} (h : text.cut? pos = none) :
    Quiet interpreter text around pos := by
  refine ⟨?_, Or.inr ?_⟩
  · intro type _
    rw [BlockType.closes, h]
  · intro type _
    rw [BlockType.opens, h]

/-- The tag at a place where the type closes is as long as the close tag. -/
theorem take_of_closes {type : BlockType} {text before rest : Text} {pos : Nat}
    (h : type.closes text pos = true) (hcut : text.cut? pos = some (before, rest)) :
    Text.byteLen (rest.take type.closeTag.length) = type.closeLen := by
  rw [BlockType.closes, hcut] at h
  obtain ⟨tags, htags, hbegins⟩ := Scan.beginsWith_of_closesBetween h
  have htag : type.closeTag = tags.closeTag := by
    rw [BlockType.closeTag, htags]
  rw [BlockType.closeLen, htag]
  exact Scan.byteLen_take_of_beginsWith hbegins

/-- The block is to be closed at `pos` with `count` characters. -/
inductive Block.Due (interpreter : Interpreter) (text : Text) (pos count : Nat) (block : Block) :
    Prop
  | marker : block.type.flags.closeImmediately = false → pos < text.byteLen →
      block.type.closes text pos = true →
      (block.type.flags.forbidNewOpenings = true ∨
        ∀ type ∈ interpreter.types, type.opens text pos = false) →
      count = block.type.closeTag.length → block.Due interpreter text pos count
  | skip : block.type.flags.closeImmediately = true → pos = block.bodyStart →
      count = interpreter.selfCloseSkip → block.Due interpreter text pos count

theorem Block.Due.ends {interpreter : Interpreter} {text before rest : Text} {pos count : Nat}
    {block : Block} (h : block.Due interpreter text pos count)
    (hcut : text.cut? pos = some (before, rest)) :
    (block.closedAt pos (Text.byteLen (rest.take count))).Ends interpreter text := by
  cases h with
  | marker himm hlt hcloses hopens hcount =>
    subst hcount
    exact .marker himm hlt hcloses hopens (take_of_closes hcloses hcut) rfl
  | skip himm hpos hcount =>
    subst hpos hcount
    exact .skip himm hcut rfl rfl

namespace Scan

theorem activeBlock?_eq {doc : Document} (h : doc.Arena) :
    doc.activeBlock? = (doc.family doc.innermost).head := by
  rw [Document.family_head]
  unfold Document.activeBlock? Document.innermost
  rcases doc.active? with _ | id
  · exact h.root_block.symm
  · rfl

theorem opening?_eq_none {scan : Scan} {interpreter : Interpreter}
    (h : scan.opening? interpreter = none) :
    (∃ block, scan.doc.activeBlock? = some block ∧
        block.type.flags.forbidNewOpenings = true) ∨
      ∀ type ∈ interpreter.types, type.opensBetween scan.previous scan.rest = false := by
  unfold opening? at h
  rcases hactive : scan.doc.activeBlock? with _ | block
  · rw [hactive] at h
    exact Or.inr (by simpa using h)
  · rw [hactive] at h
    by_cases hforbid : block.type.flags.forbidNewOpenings = true
    · exact Or.inl ⟨block, rfl, hforbid⟩
    · exact Or.inr (by simpa [hforbid] using h)

theorem closing?_eq_none {scan : Scan} (h : scan.closing? = none) {block : Block}
    (hactive : scan.doc.activeBlock? = some block) :
    block.type.closesBetween scan.previous scan.rest = false := by
  obtain ⟨id, hid, -⟩ := Option.bind_eq_some_iff.1 hactive
  unfold closing? at h
  simpa [hid, hactive] using h

/-! ### The run of a scan -/

/-- What is known of the innermost block. -/
def Phase.Awaits (interpreter : Interpreter) (text : Text) (pos : Nat) : Phase → Block → Prop
  | .scanning => fun block => block.type.flags.closeImmediately = false
  | .closing _ _ count => Block.Due interpreter text pos count
  | .followed _ _ count => Block.Due interpreter text pos count

variable {disk : Disk} {interpreter : Interpreter} {source : Source} {phase : Phase}

/-- A position at which the scan only reads on is quiet. -/
theorem quiet_of_read {scan : Scan} {text : Text} (hplace : scan.At text)
    (harena : scan.doc.Arena) (hopening : scan.opening? interpreter = none)
    (hclosing : scan.closing? = none) :
    Quiet interpreter text ((scan.doc.family scan.doc.innermost).head.map Block.type)
      scan.pos := by
  rw [← activeBlock?_eq harena]
  refine ⟨?_, ?_⟩
  · intro type htype
    obtain ⟨block, hblock, rfl⟩ := Option.map_eq_some_iff.1 htype
    rw [hplace.closes_eq]
    exact closing?_eq_none hclosing hblock
  · rcases opening?_eq_none hopening with ⟨block, hblock, hforbid⟩ | hnone
    · exact Or.inl ⟨block.type, by rw [hblock]; rfl, hforbid⟩
    · refine Or.inr ?_
      intro type htype
      rw [hplace.opens_eq]
      exact hnone type htype

/-- Making a leaf of the text that is waiting keeps the rules: it was quiet. -/
theorem flush_reading {scan flushed : Scan} {text : Text} {pending : Block → Prop}
    (hscan : scan.Standing interpreter source phase)
    (h : scan.doc.Families (Family.Recognised interpreter text)
      (Family.Reading interpreter text scan.runStart scan.pos pending))
    (hflush : scan.flush = .ok flushed) :
    flushed.doc.Families (Family.Recognised interpreter text)
      (Family.Reading interpreter text scan.pos scan.pos pending) := by
  obtain ⟨doc, rfl, ⟨-, hclose⟩ | ⟨-, rfl⟩⟩ := flush_eq_ok hflush
  · refine h.leaf hscan.draft.building rfl hclose ?_ ?_
    · refine ⟨?_, ?_, ?_⟩
      · intro block hblock hopen
        cases hblock
        cases hopen
      · intro block hblock _ hplain
        cases hblock
        cases hplain
      · intro block hblock
        cases hblock
    · intro family hfamily
      refine ⟨hfamily.head, hfamily.members.add ⟨?_, ?_⟩, ?_⟩
      · intro _
        exact ⟨rfl, scan.pos, rfl, hfamily.waiting⟩
      · intro hplain
        cases hplain
      · intro q hlo hhi
        omega
  · refine ⟨h.1, h.2.head, h.2.members, ?_⟩
    intro q hlo hhi
    omega

/-- The innermost block is not touched by the leaf before it. -/
theorem flush_head {scan flushed : Scan} (hscan : scan.Standing interpreter source phase)
    (hflush : scan.flush = .ok flushed) :
    (flushed.doc.family flushed.doc.innermost).head = scan.doc.activeBlock? := by
  obtain ⟨-, -, -, hopen, hkeep⟩ := flush_draft hscan.draft hflush
  have hin : flushed.doc.innermost = scan.doc.innermost := by
    rw [Document.innermost_eq, hopen]
    rfl
  rw [activeBlock?_eq hscan.draft.building.arena, hin, Document.family_head,
    hkeep _ hscan.draft.building.innermost_lt]
  rfl

/-- The scan has kept the rules so far. -/
def Reads (scan : Scan) (interpreter : Interpreter) (source : Source) (phase : Phase) : Prop :=
  scan.doc.Families (Family.Recognised interpreter source.text)
    (Family.Reading interpreter source.text scan.runStart scan.pos
      (phase.Awaits interpreter source.text scan.pos))

theorem reads_start (interpreter : Interpreter) (source : Source) :
    (start source).Reads interpreter source .scanning := by
  refine ⟨?_, ?_, ?_, ?_⟩
  · intro id hlt hne
    exact absurd (Nat.lt_one_iff.1 hlt) hne
  · intro block hblock
    cases hblock
  · intro block hblock
    cases hblock
  · intro q _ hhi
    exact absurd hhi (Nat.not_lt_zero q)

namespace Reads

variable {scan : Scan}

theorem read (h : scan.Reads interpreter source .scanning)
    (hscan : scan.Standing interpreter source .scanning) (hrest : scan.rest ≠ [])
    (hopening : scan.opening? interpreter = none) (hclosing : scan.closing? = none) :
    (scan.advance 1).Reads interpreter source .scanning := by
  obtain ⟨hothers, hhead, hmembers, hwaiting⟩ := h
  refine ⟨hothers, hhead, hmembers, ?_⟩
  have hquiet := quiet_of_read hscan.place hscan.draft.building.arena hopening hclosing
  intro q hlo hhi
  rcases Nat.lt_trichotomy q scan.pos with hlt | rfl | hgt
  · exact hwaiting q hlo hlt
  · exact hquiet
  · -- past the position, only the inside of one character has been read
    obtain ⟨before, htext, hlen, -⟩ := hscan.place
    obtain ⟨c, rest, hc⟩ := List.exists_cons_of_ne_nil hrest
    rw [hc] at htext
    refine quiet_of_cut?_eq_none ?_
    rw [htext]
    refine Text.cut?_inside (hlen ▸ hgt) ?_
    have hadvance : (scan.advance 1).pos = scan.pos + c.utf8Size := by
      simp [advance, hc]
    rw [hlen]
    omega

/-- The type that opens is the first one that can, and the block around it allows it. -/
theorem opened {type : BlockType} {flushed : Scan} (h : scan.Reads interpreter source .scanning)
    (hscan : scan.Standing interpreter source .scanning) (hreg : interpreter.Registered)
    (hopening : scan.opening? interpreter = some type) (hflush : scan.flush = .ok flushed) :
    (flushed.enter type).Reads interpreter source
      (.afterOpen interpreter flushed.doc.nodes.size type) := by
  have hfamilies := flush_reading hscan h hflush
  obtain ⟨hsame, hdraft, -, -, -⟩ := flush_draft hscan.draft hflush
  obtain ⟨hfind, hallowed⟩ := opening?_eq_some hopening
  obtain ⟨-, htags, -, htake⟩ := tag_of_opening hreg hopening
  have hplain : type.isPlain = false := by
    rwa [BlockType.isPlain_eq, Option.isNone_eq_false_iff, Option.isSome_iff_ne_none]
  have hpos : flushed.pos = scan.pos := by rw [hsame]
  have hinside : (flushed.enter type).pos = flushed.pos + type.openLen := by
    refine enter_runStart ?_
    rw [hsame]
    exact htake
  refine hfamilies.push hdraft.building ?_ ?_
  · intro hfamily
    refine ⟨?_, ?_, hfamily.members.add ⟨?_, ?_⟩⟩
    · intro block hblock _
      obtain ⟨-, hsource, hplain, -⟩ := hfamily.head block hblock
      exact ⟨hsource, hplain⟩
    · intro block hblock _ _
      obtain ⟨hopen, -, -, hopens, himm⟩ := hfamily.head block hblock
      exact ⟨hopens, .unclosed hopen himm⟩
    · intro hplain'
      rw [show (Block.opened type 0 flushed.pos).type.isPlain = false from hplain] at hplain'
      cases hplain'
    · intro _ around haround
      obtain ⟨block, hblock, rfl⟩ := Option.map_eq_some_iff.1 haround
      rw [flush_head hscan hflush] at hblock
      exact hallowed block hblock
  · refine ⟨?_, ?_, ?_⟩
    · intro block hblock
      cases hblock
      refine ⟨rfl, rfl, hplain, ?_, ?_⟩
      · show interpreter.types.find? (fun type => type.opens source.text flushed.pos) = some type
        rw [hpos]
        simpa only [hscan.place.opens_eq] using hfind
      · unfold Phase.afterOpen
        split
        · next himm => exact .skip himm hinside rfl
        · next himm => exact Bool.eq_false_iff.2 himm
    · intro block hblock
      cases hblock
    · intro q hlo hhi
      exact absurd hhi (Nat.not_lt.2 hlo)

/-- The innermost block closes here, and nothing opens here instead. -/
theorem closing {id : Nat} {type : BlockType} {flushed : Scan}
    (h : scan.Reads interpreter source .scanning)
    (hscan : scan.Standing interpreter source .scanning) (hrest : scan.rest ≠ [])
    (hopening : scan.opening? interpreter = none) (hclosing : scan.closing? = some (id, type))
    (hflush : scan.flush = .ok flushed) :
    flushed.startRun.Reads interpreter source (.closing id type type.closeTag.length) := by
  obtain ⟨hothers, hhead, hmembers, -⟩ := flush_reading hscan h hflush
  obtain ⟨hsame, -, -, -, -⟩ := flush_draft hscan.draft hflush
  obtain ⟨-, active, hactive, htype, hcloses⟩ := closing?_eq_some hclosing
  have hpos : flushed.pos = scan.pos := by rw [hsame]
  refine ⟨hothers, ?_, hmembers, ?_⟩
  · intro block hblock
    obtain ⟨hopen, hsource, hplain, hopens, himm⟩ := hhead block hblock
    refine ⟨hopen, hsource, hplain, hopens, ?_⟩
    cases (hactive.symm.trans (flush_head hscan hflush).symm).trans hblock
    refine .marker himm ?_ ?_ ?_ (by rw [htype])
    · show flushed.pos < source.text.byteLen
      have hsum := hscan.place.pos_add_byteLen
      have hne := mt Text.byteLen_eq_zero.1 hrest
      omega
    · show active.type.closes source.text flushed.pos = true
      rw [hpos, hscan.place.closes_eq, htype]
      exact hcloses
    · show _ ∨ ∀ type ∈ interpreter.types, type.opens source.text flushed.pos = false
      rcases opening?_eq_none hopening with ⟨found, hfound, hforbid⟩ | hnone
      · rw [hactive] at hfound
        cases hfound
        exact Or.inl hforbid
      · refine Or.inr ?_
        intro other hother
        rw [hpos, hscan.place.opens_eq]
        exact hnone other hother
  · intro q hlo hhi
    exact absurd hhi (Nat.not_lt.2 hlo)

/-- The nodes of an included file lie in other sources. -/
theorem included {id count : Nat} {type : BlockType} {sub doc : Document}
    (h : scan.Reads interpreter source (.closing id type count))
    (hscan : scan.Standing interpreter source (.closing id type count)) (harena : sub.Arena)
    (hclosed : ∀ id block, sub.blockOf? id = some block → block.stop ≠ none)
    (hsplice : scan.doc.splice id sub = .ok doc) :
    (scan.mapDoc fun _ => doc).Reads interpreter source (.followed id type count) := by
  obtain ⟨rfl, -⟩ := hscan.innermost_eq hscan.pending
  have hgraft := hscan.draft.building.grafted harena hsplice
  have hsize : 0 < scan.doc.sources.size := (Array.getElem?_eq_some_iff.1 hscan.draft.main).1
  refine Document.Families.graft h hscan.draft.building harena hgraft (fun _ => id) ?_ ?_
  · intro hfamily
    refine ⟨hfamily.head, ?_, hfamily.waiting⟩
    intro block hblock hsource
    obtain ⟨old, -, rfl⟩ := List.mem_map.1 hblock
    exact absurd hsource (Block.shifted_source_ne hsize)
  · intro i _
    exact Family.recognised_shifted hsize (hclosed (i + 1))

/-- A block that is due ends as the rules say, and the one around it is read on. -/
theorem closed {id count : Nat} {type : BlockType} {after : Scan}
    (h : scan.Reads interpreter source (.followed id type count))
    (hscan : scan.Standing interpreter source (.followed id type count))
    (hclose : scan.changeDoc (·.closeInnermost scan.pos (Text.byteLen (scan.rest.take count))) =
      .ok after) :
    (after.advance count).startRun.Reads interpreter source .scanning := by
  obtain ⟨hrun, outer, block, hopen, hblock, -⟩ := hscan.pending
  obtain ⟨before, hcut, -⟩ := hscan.place.cut?_eq
  obtain ⟨doc, hdoc, rfl⟩ := changeDoc_eq_ok_iff.1 hclose
  obtain ⟨-, hopen', hclosed, -⟩ := Document.closeInnermost_eq_ok hopen hdoc
  obtain ⟨-, hsource, hplain, -, -⟩ := h.2.head block (by
    rw [Document.family_head, Document.innermost_eq, hopen]
    exact hblock)
  refine Document.Families.close h hscan.draft.building hopen hopen' hblock hclosed ?_ ?_
  · intro family hhead hfamily
    obtain ⟨-, -, -, hopens, hdue⟩ := hfamily.head block hhead
    refine ⟨?_, ?_, ?_⟩
    · intro found hfound hnone
      cases hfound
      cases hnone
    · intro found hfound _ _
      cases hfound
      exact ⟨hopens, hdue.ends hcut⟩
    · have hmembers := hfamily.members
      unfold Family.MembersFit at hmembers
      rw [hhead] at hmembers
      exact hmembers
  · intro family earlier haround hmembers hfamily
    refine ⟨?_, ?_, ?_⟩
    · intro around hhead
      have hnone := haround around hhead
      obtain ⟨hsource, hplain⟩ := hfamily.unclosed around hhead hnone
      obtain ⟨hopens, hends⟩ := hfamily.head around hhead hsource hplain
      exact ⟨hnone, hsource, hplain, hopens, hends.closeImmediately_of_open hnone⟩
    · exact hfamily.members.closeLast hmembers hsource hplain
    · intro q hlo hhi
      exact absurd hhi (Nat.not_lt.2 hlo)

theorem closeImmediately_of_open {id : Nat} {block : Block}
    (h : scan.Reads interpreter source .scanning) (hblock : scan.doc.blockOf? id = some block)
    (hopen : block.stop = none) : block.type.flags.closeImmediately = false := by
  by_cases hin : id = scan.doc.innermost
  · subst hin
    obtain ⟨-, -, -, -, himm⟩ := h.2.head block hblock
    exact himm
  · have hrules := h.1 id (Document.lt_size_of_block hblock) hin
    obtain ⟨hsource, hplain⟩ := hrules.unclosed block hblock hopen
    exact (hrules.head block hblock hsource hplain).2.closeImmediately_of_open hopen

end Reads

/-- **Every state of a scan has kept the rules.** -/
theorem Reached.reading {scan : Scan} (h : Reached disk interpreter source phase scan)
    (hreg : interpreter.Registered) : scan.Reads interpreter source phase := by
  induction h with
  | start interpreter source => exact reads_start interpreter source
  | read hscan hrest hopening hclosing ih =>
    exact (ih hreg).read hscan.standing hrest hopening hclosing
  | opened hscan hrest hopening hflush ih =>
    exact (ih hreg).opened hscan.standing hreg hopening hflush
  | closing hscan hrest hopening hclosing hflush ih =>
    exact (ih hreg).closing hscan.standing hrest hopening hclosing hflush
  | passed hscan hinc ih => exact ih hreg
  | included hscan hinc href hread hended hend hfinish hsplice ih ihsub =>
    obtain ⟨harena, -, hclosed⟩ := closed_of_finish hended.standing.draft hfinish
    exact (ih hreg).included hscan.standing harena hclosed hsplice
  | closed hscan hclose ih => exact (ih hreg).closed hscan.standing hclose

theorem finish_recognised {scan : Scan} {doc : Document}
    (hscan : scan.Standing interpreter source phase)
    (h : scan.Reads interpreter source .scanning) (hend : Holds scan.finish.result doc) :
    ∀ id < doc.nodes.size, (doc.family id).Recognised interpreter source.text := by
  obtain ⟨flushed, closed, left, hflush, -, hsplit, -, halong, hcloseable, -, -⟩ :=
    finish_holds hend hscan.draft
  obtain ⟨-, hdraft, -, -, -⟩ := flush_draft hscan.draft hflush
  obtain ⟨hothers, hinnermost⟩ := flush_reading hscan h hflush
  intro id hid
  rw [halong.size_eq] at hid
  have hbefore : (flushed.doc.family id).Recognised interpreter source.text := by
    by_cases hin : id = flushed.doc.innermost
    · rw [hin]
      refine ⟨?_, ?_, hinnermost.members⟩
      · intro block hblock _
        obtain ⟨-, hsource, hplain, -⟩ := hinnermost.head block hblock
        exact ⟨hsource, hplain⟩
      · intro block hblock _ _
        obtain ⟨hopen, -, -, hopens, himm⟩ := hinnermost.head block hblock
        exact ⟨hopens, .unclosed hopen himm⟩
    · exact hothers id hid hin
  refine hbefore.atEof (Document.family_atEof hdraft.building hsplit halong hcloseable ?_ id)
  intro j hj block hblock
  exact (hdraft.registered j hj block hblock).2

end Scan

/-! ### Documents -/

namespace Document

/-- The rules as they apply to a node with this block in the main text. -/
structure RecognisedAt (doc : Document) (interpreter : Interpreter) (text : Text) (id : Nat)
    (block : Block) : Prop where
  /-- The first type that opens there has opened, in the root or in a block that allows it. -/
  opening : block.type.isPlain = false →
    interpreter.types.find? (fun type => type.opens text block.start) = some block.type ∧
    ∃ parent, doc.parentOf? id = some parent ∧ (parent = root ∨
      ∃ around, doc.blockOf? parent = some around ∧
        around.type.flags.forbidNewOpenings = false)
  /-- A block that did not end with the text ends where it closes and nothing opens. -/
  marker : block.type.isPlain = false → block.type.flags.closeImmediately = false →
    ∃ stop, block.stop = some stop ∧ (¬ (block.closeLen = 0 ∧ stop = text.byteLen) →
      block.type.closes text (stop - block.closeLen) = true ∧
      block.closeLen = block.type.closeLen ∧
      (block.type.flags.forbidNewOpenings = true ∨
        ∀ type ∈ interpreter.types, type.opens text (stop - block.closeLen) = false))
  /-- A block that closes immediately takes in the next characters and has no text inside. -/
  skip : block.type.flags.closeImmediately = true →
    (∃ before rest, text.cut? (block.start + block.type.openLen) = some (before, rest) ∧
      block.stop = some (block.start + block.type.openLen +
        Text.byteLen (rest.take interpreter.selfCloseSkip))) ∧
    ∀ c ∈ doc.childrenOf id, ∀ child, doc.blockOf? c = some child → child.source ≠ 0
  /-- A block that ended with the text may do so, and so may and did all blocks around it. -/
  eof : block.type.isPlain = false → block.type.flags.closeImmediately = false →
    block.closeLen = 0 → block.stop = some text.byteLen →
    block.type.flags.closeableByEof = true ∧
    ∀ ancestor around, Relation.TransGen (fun j parent => doc.parentOf? j = some parent) id
        ancestor → doc.blockOf? ancestor = some around →
      around.type.flags.closeableByEof = true ∧ around.stop = some text.byteLen ∧
      around.closeLen = 0
  /-- In plain text nothing could open or close. -/
  quiet : block.type.isPlain = true → ∃ stop parent, block.stop = some stop ∧
    doc.parentOf? id = some parent ∧ ∀ pos, block.start ≤ pos → pos < stop →
      Quiet interpreter text ((doc.blockOf? parent).map Block.type) pos

section

variable {doc : Document} {interpreter : Interpreter} {main : Source}
  {file : Inclusion → Source → Prop} {id : Nat} {block : Block}

/-- What is around a block that ends with the text ends with the text, too. -/
theorem around_ends (htiled : doc.Tiled main file) (harena : doc.Arena)
    (hrules : ∀ id < doc.nodes.size, (doc.family id).Recognised interpreter main.text)
    (hid : doc.Reachable id) (hblock : doc.blockOf? id = some block) (hsource : block.source = 0)
    (hstop : block.stop = some main.text.byteLen) {parent : Nat} {around : Block}
    (hparent : doc.parentOf? id = some parent) (haround : doc.blockOf? parent = some around)
    (hclosed : around.stop ≠ none) :
    doc.Reachable parent ∧ around.source = 0 ∧ around.type.flags.closeableByEof = true ∧
      around.stop = some main.text.byteLen ∧ around.closeLen = 0 := by
  obtain ⟨hreach, hsource', hplain, hstart, hinside⟩ :=
    htiled.around_main harena hid hblock hsource hparent haround
  obtain ⟨-, hends⟩ :=
    (hrules parent (hreach.lt_size harena)).head around haround hsource' hplain
  have hplaced := htiled.placed_main harena hid hblock hsource
  have hplaced' := htiled.placed_main harena hreach haround hsource'
  have hlt := hplaced.start_lt
  have hle := Text.le_of_isBoundary hplaced'.stop_boundary
  rw [Block.stopIn, hstop] at hlt hinside
  rw [Option.getD_some] at hlt hinside
  obtain ⟨stop, hstop'⟩ := Option.ne_none_iff_exists'.1 hclosed
  rw [Block.bodyStop, Block.stopIn, hstop', Option.getD_some] at hinside
  rw [Block.stopIn, hstop', Option.getD_some] at hle
  have hend : stop = main.text.byteLen ∧ around.closeLen = 0 := by omega
  have himm : around.type.flags.closeImmediately = false := by
    refine Bool.eq_false_iff.2 fun himm => ?_
    obtain ⟨-, -, -, -, hat⟩ := hends.of_closeImmediately himm
    rw [hstop', Option.some.injEq] at hat
    omega
  refine ⟨hreach, hsource', ?_, by rw [hstop', hend.1], hend.2⟩
  rcases hends.of_closed himm hclosed with ⟨pos, hpos, -, -, -, hat⟩ | ⟨hcloseable, -, -⟩
  · rw [hstop', Option.some.injEq] at hat
    omega
  · exact hcloseable

/-- Upwards from a block that ends with the text, every block does. -/
theorem ancestors_end (htiled : doc.Tiled main file) (harena : doc.Arena)
    (hrules : ∀ id < doc.nodes.size, (doc.family id).Recognised interpreter main.text)
    (hclosed : ∀ id block, doc.blockOf? id = some block → block.stop ≠ none)
    (hid : doc.Reachable id) (hblock : doc.blockOf? id = some block) (hsource : block.source = 0)
    (hstop : block.stop = some main.text.byteLen) {ancestor : Nat}
    (habove : Relation.TransGen (fun j parent => doc.parentOf? j = some parent) id ancestor) :
    ∀ around, doc.blockOf? ancestor = some around →
      doc.Reachable ancestor ∧ around.source = 0 ∧ around.type.flags.closeableByEof = true ∧
      around.stop = some main.text.byteLen ∧ around.closeLen = 0 := by
  induction habove with
  | single hparent =>
    intro around haround
    exact around_ends htiled harena hrules hid hblock hsource hstop hparent haround
      (hclosed _ around haround)
  | @tail middle ancestor _ hparent ih =>
    intro around haround
    -- what has a parent is not the root
    have hlt := (harena.child ancestor middle (harena.parent middle ancestor hparent))
    obtain ⟨found, hfound⟩ := harena.block middle (Nat.ne_of_gt (Nat.zero_lt_of_lt hlt.1)) hlt.2.1
    obtain ⟨hreach, hsource', -, hstop', -⟩ := ih found hfound
    exact around_ends htiled harena hrules hreach hfound hsource' hstop' hparent haround
      (hclosed _ around haround)

/-- The rules for families, applied to a node. -/
theorem recognisedAt (htiled : doc.Tiled main file) (harena : doc.Arena)
    (hrules : ∀ id < doc.nodes.size, (doc.family id).Recognised interpreter main.text)
    (hclosed : ∀ id block, doc.blockOf? id = some block → block.stop ≠ none)
    (hid : doc.Reachable id) (hblock : doc.blockOf? id = some block) (hsource : block.source = 0) :
    doc.RecognisedAt interpreter main.text id block := by
  have hhead := (hrules id (hid.lt_size harena)).head block hblock hsource
  obtain ⟨_, _, parent, _, -, -, -, hreach, hparent, hchild⟩ :=
    htiled.nodes id hid (harena.ne_root hblock)
  have hfits : block.Fits interpreter main.text ((doc.blockOf? parent).map Block.type) :=
    (hrules parent (hreach.lt_size harena)).members block
      (mem_members_iff.2 ⟨id, hchild, hblock⟩) hsource
  have hclosed' := hclosed id block hblock
  refine ⟨?_, ?_, ?_, ?_, ?_⟩
  · intro hplain
    refine ⟨(hhead hplain).1, parent, hparent, ?_⟩
    by_cases hroot : parent = root
    · exact Or.inl hroot
    · obtain ⟨around, haround⟩ := harena.block parent hroot (hreach.lt_size harena)
      rw [haround] at hfits
      exact Or.inr ⟨around, haround, hfits.allowed hplain around.type rfl⟩
  · intro hplain himm
    rcases (hhead hplain).2.of_closed himm hclosed' with
      ⟨pos, -, hcloses, hopens, hlen, hstop⟩ | ⟨-, hlen, hstop⟩
    · refine ⟨_, hstop, ?_⟩
      intro _
      rw [Nat.add_sub_cancel]
      exact ⟨hcloses, hlen, hopens⟩
    · exact ⟨_, hstop, fun hnot => absurd ⟨hlen, rfl⟩ hnot⟩
  · intro himm
    have hplain : block.type.isPlain = false := by
      refine Bool.eq_false_iff.2 fun hplain => ?_
      rw [(hfits.quiet hplain).1] at himm
      cases himm
    obtain ⟨before, rest, hcut, hlen, hstop⟩ := (hhead hplain).2.of_closeImmediately himm
    refine ⟨⟨before, rest, hcut, hlen ▸ hstop⟩, ?_⟩
    intro c hc child hfound
    rcases hspliced : doc.splicedAt id with _ | _
    · -- nothing is left between the markers
      obtain ⟨source, -, -, -, -, hempty⟩ := htiled.body id block hid hblock hplain hspliced
      have hnil : doc.childrenOf id = [] := by
        rw [hempty, Block.bodyStop, Block.stopIn, hstop, Option.getD_some, Nat.add_sub_cancel]
      rw [hnil] at hc
      cases hc
    · obtain ⟨_, _, s, _, blocks, -, -, hlater, -, -, hblocks, htiles, -⟩ :=
        htiled.spliced id hid hspliced
      obtain ⟨hs, -, -⟩ := htiles.of_mem (hblocks.mem hc hfound)
      omega
  · intro hplain himm hlen hend
    refine ⟨?_, ?_⟩
    · rcases (hhead hplain).2.of_closed himm hclosed' with
        ⟨pos, hpos, -, -, -, hstop⟩ | ⟨hcloseable, -, -⟩
      · rw [hend, Option.some.injEq] at hstop
        omega
      · exact hcloseable
    · intro ancestor around habove haround
      obtain ⟨-, -, hall⟩ := ancestors_end htiled harena hrules hclosed hid hblock hsource hend
        habove around haround
      exact hall
  · intro hplain
    obtain ⟨-, stop, hstop, hquiet⟩ := hfits.quiet hplain
    exact ⟨stop, parent, hstop, hparent, hquiet⟩

end

end Document

namespace Interpreter

/-- **The scanner recognises exactly what its rules say,** in the main text of every
    document. -/
theorem interpretation_recognises {disk : Disk} {interpreter : Interpreter} {text : Text}
    {doc : Document} (hreg : interpreter.Registered)
    (h : (interpreter.interpret disk text).result = .ok doc) :
    ∀ id block, doc.Reachable id → doc.blockOf? id = some block → block.source = 0 →
      doc.RecognisedAt interpreter text id block := by
  intro id block hid hblock hsource
  obtain ⟨ended, hended, hrest, hfinish⟩ := (interpretSource_endsIn _ _ _ _ _ _).1 doc h
  have hstanding := hended.standing
  obtain ⟨harena, hmain, htiled⟩ :=
    Scan.finish_tiled hstanding hrest (hended.tiling hreg) (Or.inl hfinish)
  obtain ⟨-, -, hclosed⟩ := Scan.closed_of_finish hstanding.draft hfinish
  have hrules := Scan.finish_recognised hstanding (hended.reading hreg) (Or.inl hfinish)
  exact Document.recognisedAt (harena.tiled hmain htiled) harena hrules hclosed hid hblock hsource

theorem sample_recognises :
    ∃ doc block, (sample.interpret ⟨[], []⟩ ['a', '[', 'b', ']', '%']).result = .ok doc ∧
      doc.Reachable 2 ∧ doc.blockOf? 2 = some block ∧ block.type.isPlain = false ∧
      doc.RecognisedAt sample ['a', '[', 'b', ']', '%'] 2 block := by
  obtain ⟨doc, hdoc⟩ := exists_eq_ok (show (sample.interpret ⟨[], []⟩
    ['a', '[', 'b', ']', '%']).result.isOk = true by decide +kernel)
  have hnode : (sample.interpret ⟨[], []⟩ ['a', '[', 'b', ']', '%']).result.toOption.any
      (fun doc => decide (2 ∈ doc.childrenOf Document.root) && (doc.blockOf? 2).any fun block =>
        block.source == 0 && !block.type.isPlain) = true := by
    decide +kernel
  rw [hdoc] at hnode
  simp only [Except.toOption, Option.any_some, Bool.and_eq_true, decide_eq_true_eq] at hnode
  obtain ⟨hchild, hsome⟩ := hnode
  rcases hblock : doc.blockOf? 2 with _ | block
  · rw [hblock] at hsome
    cases hsome
  · simp only [hblock, Option.any_some, Bool.and_eq_true, beq_iff_eq, Bool.not_eq_true'] at hsome
    have hreach : doc.Reachable 2 := .child .root hchild
    exact ⟨doc, block, hdoc, hreach, hblock, hsome.2,
      interpretation_recognises sample_registered hdoc 2 block hreach hblock hsome.1⟩

end Interpreter

end Blockwise
