/-
  Blockwise/Proofs/Interpret/Lookahead.lean
  =========================================
  **How far a scan looks ahead.**  A tag may be met only where all of it is still to be
  read.  So if no tag reaches over a character, the scan of a text up to there does not
  depend on what follows: the steps in front of the character are those of the text that
  ends there (`Sketch.Steps.append`, `Sketch.Steps.of_append`).
-/
import Blockwise.Proofs.Interpret.Sketching
import Mathlib.Data.List.Find

namespace Blockwise

/-! ### Tags in front of a character -/

namespace BlockType

/-- No tag of the type is empty, and none reaches over the character `stop`. -/
def StopsAt (type : BlockType) (stop : Char) : Prop :=
  ∃ tags, type.delimiters? = some tags ∧
    (tags.openTag ≠ [] ∧ Tag.StopsAt tags.mode stop tags.openTag) ∧
    tags.closeTag ≠ [] ∧ Tag.StopsAt tags.mode stop tags.closeTag

namespace StopsAt

variable {type : BlockType} {stop : Char} {previous : Option Char} {left : Text}

theorem opensBetween_append (h : type.StopsAt stop) (hleft : left ≠ []) (more : Text) :
    type.opensBetween previous (left ++ stop :: more) = type.opensBetween previous left := by
  obtain ⟨tags, htags, ⟨-, hopen⟩, -⟩ := h
  simp only [opensBetween, htags, hopen.beginsWith_append hleft]

theorem opensBetween_stop (h : type.StopsAt stop) (more : Text) :
    type.opensBetween previous (stop :: more) = type.opensBetween previous [stop] := by
  obtain ⟨tags, htags, ⟨hne, hopen⟩, -⟩ := h
  simp only [opensBetween, htags, hopen.beginsWith_stop hne more]

theorem closesBetween_append (h : type.StopsAt stop) (hleft : left ≠ []) (more : Text) :
    type.closesBetween previous (left ++ stop :: more) = type.closesBetween previous left := by
  obtain ⟨tags, htags, -, -, hclose⟩ := h
  simp only [closesBetween, htags, hclose.beginsWith_append hleft]

theorem openTag_pos (h : type.StopsAt stop) : 0 < type.openTag.length := by
  obtain ⟨tags, htags, ⟨hne, -⟩, -⟩ := h
  rw [openTag, htags]
  exact List.length_pos_of_ne_nil hne

theorem closeTag_pos (h : type.StopsAt stop) : 0 < type.closeTag.length := by
  obtain ⟨tags, htags, -, hne, -⟩ := h
  rw [closeTag, htags]
  exact List.length_pos_of_ne_nil hne

end StopsAt

theorem openTag_length_le {type : BlockType} {previous : Option Char} {left : Text}
    (h : type.opensBetween previous left = true) : type.openTag.length ≤ left.length := by
  obtain ⟨tags, htags, hbegins⟩ := Scan.beginsWith_of_opensBetween h
  obtain ⟨found, rest, rfl, hlen, -⟩ := Tag.beginsWith_split hbegins
  rw [openTag, htags, List.length_append, hlen]
  exact Nat.le_add_right ..

theorem closeTag_length_le {type : BlockType} {previous : Option Char} {left : Text}
    (h : type.closesBetween previous left = true) : type.closeTag.length ≤ left.length := by
  obtain ⟨tags, htags, hbegins⟩ := Scan.beginsWith_of_closesBetween h
  obtain ⟨found, rest, rfl, hlen, -⟩ := Tag.beginsWith_split hbegins
  rw [closeTag, htags, List.length_append, hlen]
  exact Nat.le_add_right ..

end BlockType

/-! ### Sketches of a longer text -/

namespace Sketch

/-- The sketch with more text to be read. -/
def append (s : Sketch) (more : Text) : Sketch := { s with rest := s.rest ++ more }

section

variable {fetch : Fetch} {s s' : Sketch}

theorem Step.suffix {interpreter : Interpreter} (h : Step interpreter fetch s s') :
    s'.rest <:+ s.rest := by
  rcases h.cases with ⟨type, -, rfl⟩ | ⟨type, followed, -, -, hfollow, rfl⟩ | ⟨-, -, rfl⟩
  · exact List.drop_suffix ..
  · obtain ⟨inner, sources, rfl⟩ := follow_eq_ok hfollow
    exact List.drop_suffix ..
  · exact List.drop_suffix ..

theorem Steps.suffix {interpreter : Interpreter} (h : Steps interpreter fetch s s') :
    s'.rest <:+ s.rest := by
  induction h with
  | refl => exact List.suffix_refl _
  | tail _ hstep ih => exact hstep.suffix.trans ih

theorem advance_append {count : Nat} (hcount : count ≤ s.rest.length) (more : Text) :
    (s.append more).advance count = (s.advance count).append more := by
  unfold advance append
  simp only [List.take_append_of_le_length hcount, List.drop_append_of_le_length hcount]

theorem read_append (hcount : 1 ≤ s.rest.length) (more : Text) :
    (s.append more).read = s.read.append more := by
  unfold read
  rw [advance_append hcount, show (s.append more).rest.take 1 = s.rest.take 1 from
    List.take_append_of_le_length hcount]
  rfl

theorem enter_append {type : BlockType} (hcount : type.openTag.length ≤ s.rest.length)
    (more : Text) : (s.append more).enter type = (s.enter type).append more := by
  unfold enter
  rw [advance_append hcount]
  rfl

theorem leave_append {type : BlockType} (hcount : type.closeTag.length ≤ s.rest.length)
    (more : Text) : (s.append more).leave type = (s.leave type).append more := by
  unfold leave
  rw [advance_append hcount]
  rfl

theorem follow_append {type : BlockType} (more : Text) :
    (s.append more).follow fetch type = (s.follow fetch type).map (·.append more) := by
  unfold follow
  cases type.inclusion? with
  | none => rfl
  | some settings =>
    show (fetch s.sources settings s.inner >>= _) =
      Except.map _ (fetch s.sources settings s.inner >>= _)
    cases fetch s.sources settings s.inner <;> rfl

section Stops

variable {interpreter : Interpreter} {stop : Char}
  (hstops : ∀ type ∈ interpreter.types, type.StopsAt stop)

include hstops

/-- Every step reads something. -/
theorem Step.shorter (h : Step interpreter fetch s s') (hknown : s.Known interpreter) :
    s'.rest.length < s.rest.length := by
  have hpos := List.length_pos_of_ne_nil h.1
  have hdrop : ∀ {count : Nat}, 0 < count → (s.rest.drop count).length < s.rest.length := by
    intro count hcount
    rw [List.length_drop]
    exact Nat.sub_lt hpos hcount
  rcases h.cases with ⟨type, hopening, rfl⟩ | ⟨type, followed, -, hclosing, hfollow, rfl⟩ |
    ⟨-, -, rfl⟩
  · exact hdrop (hstops type (opening?_mem hopening).1).openTag_pos
  · obtain ⟨inner, sources, rfl⟩ := follow_eq_ok hfollow
    obtain ⟨frame, outer, hframes, rfl, -⟩ := closing?_eq_some hclosing
    have hframe : frame ∈ s.frames := hframes ▸ List.mem_cons_self ..
    exact hdrop (hstops _ (hknown frame hframe)).closeTag_pos
  · exact hdrop Nat.one_pos

/-- What is behind `stop` does not matter for what opens there. -/
theorem opening?_stop (hrest : s.rest = []) (more more' : Text) :
    (s.append (stop :: more)).opening? interpreter =
      (s.append (stop :: more')).opening? interpreter := by
  refine if_congr Iff.rfl rfl (List.find?_congr ?_)
  intro type htype
  show type.opensBetween s.previous (s.rest ++ _) = type.opensBetween s.previous (s.rest ++ _)
  rw [hrest]
  have hstop := hstops type htype
  exact (hstop.opensBetween_stop more).trans (hstop.opensBetween_stop more').symm

theorem opening?_append (hrest : s.rest ≠ []) (more : Text) :
    (s.append (stop :: more)).opening? interpreter = s.opening? interpreter := by
  refine if_congr Iff.rfl rfl (List.find?_congr ?_)
  intro type htype
  exact (hstops type htype).opensBetween_append hrest more

theorem closing?_append (hknown : s.Known interpreter) (hrest : s.rest ≠ []) (more : Text) :
    (s.append (stop :: more)).closing? = s.closing? := by
  unfold closing?
  show (s.frames.head?.map Frame.type).filter _ = _
  cases hframe : s.frames.head? with
  | none => rfl
  | some frame =>
    have htype := hknown frame (List.mem_of_mem_head? hframe)
    have hsame : frame.type.closesBetween s.previous (s.rest ++ stop :: more) = _ :=
      (hstops _ htype).closesBetween_append hrest more
    simp only [Option.map_some, Option.filter_some]
    rw [← hsame]
    rfl

/-- **A step in front of `stop` does not depend on what is behind it.** -/
theorem next_append (hknown : s.Known interpreter) (hrest : s.rest ≠ []) (more : Text) :
    (s.append (stop :: more)).next interpreter fetch =
      (s.next interpreter fetch).map (·.append (stop :: more)) := by
  unfold next
  rw [opening?_append hstops hrest, closing?_append hstops hknown hrest]
  cases hopening : s.opening? interpreter with
  | some type =>
    have hcount := BlockType.openTag_length_le (opening?_mem hopening).2
    exact congrArg Except.ok (enter_append (s := s.flush) hcount _)
  | none =>
    cases hclosing : s.closing? with
    | some type =>
      obtain ⟨-, -, -, -, hcloses⟩ := closing?_eq_some hclosing
      have hcount := BlockType.closeTag_length_le hcloses
      have hfollow : (s.append (stop :: more)).flush.follow fetch type =
          (s.flush.follow fetch type).map (·.append (stop :: more)) :=
        @follow_append fetch s.flush type _
      simp only [hfollow]
      cases hfollowed : s.flush.follow fetch type with
      | error cause => rfl
      | ok followed =>
        obtain ⟨inner, sources, rfl⟩ := follow_eq_ok hfollowed
        exact congrArg Except.ok
          (@leave_append { s.flush with inner, sources } type hcount _)
    | none => exact congrArg Except.ok (read_append (List.length_pos_of_ne_nil hrest) _)

/-- Steps in front of `stop` are steps of the longer text. -/
theorem Steps.append (h : Steps interpreter fetch s s') (hknown : s.Known interpreter)
    (more : Text) :
    Steps interpreter fetch (s.append (stop :: more)) (s'.append (stop :: more)) := by
  induction h with
  | refl => exact .refl
  | tail hsteps hstep ih =>
    refine ih.tail ⟨?_, ?_⟩
    · exact List.append_ne_nil_of_left_ne_nil hstep.1 _
    · rw [next_append hstops (Steps.known hsteps hknown) hstep.1, hstep.2]
      rfl

/-- Steps of the longer text that end in front of `stop` are steps of the text alone. -/
theorem Steps.of_append {more : Text} (h : Steps interpreter fetch (s.append (stop :: more)) s')
    (hknown : s.Known interpreter) (hlen : (stop :: more).length ≤ s'.rest.length) :
    ∃ left, s' = left.append (stop :: more) ∧ Steps interpreter fetch s left := by
  induction h with
  | refl => exact ⟨s, rfl, .refl⟩
  | @tail middle after hsteps hstep ih =>
    have hshorter := hstep.shorter hstops (Steps.known hsteps hknown)
    obtain ⟨left, rfl, hleft⟩ := ih (Nat.le_of_lt (Nat.lt_of_le_of_lt hlen hshorter))
    have hrest : left.rest ≠ [] := by
      intro hnil
      have hlonger := Nat.lt_of_le_of_lt hlen hshorter
      simp [Sketch.append, hnil] at hlonger
    have hnext := hstep.2
    rw [next_append hstops (Steps.known hleft hknown) hrest] at hnext
    cases hstepped : left.next interpreter fetch with
    | error cause =>
      rw [hstepped] at hnext
      cases hnext
    | ok stepped =>
      rw [hstepped] at hnext
      cases hnext
      exact ⟨stepped, rfl, hleft.tail ⟨hrest, hstepped⟩⟩

end Stops

end

end Sketch

end Blockwise
