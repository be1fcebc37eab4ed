/-
  Blockwise/Text/Basic.lean
  =========================
  **Text and its byte offsets.**  A text is a list of characters; a position in
  it is the number of bytes that stand before it in UTF-8.  Only positions
  between two characters cut a text, so every operation that takes a position
  either answers with the two sides of the cut or refuses:

    * `byteLen`  — bytes of a whole text;
    * `cut?`     — the text before and after a position;
    * `skip?`, `take?` — the text after and before a position, where everything
      past the end counts as the end;
    * `charBefore?` — the last character before a position.

  The lemmas say that a cut loses nothing (`cut?_append`), that it falls where
  it was asked for (`cut?_byteLen`), and that the end of every initial part is
  a place to cut (`cut?_of_append`, `skip?_append`, `take?_append`).
-/

namespace Blockwise

/-- A text is the list of its characters. -/
abbrev Text := List Char

namespace Text

/-! ### Length in bytes -/

/-- Bytes of a text in UTF-8. -/
def byteLen : Text → Nat
  | [] => 0
  | c :: t => c.utf8Size + byteLen t

@[simp]
theorem byteLen_nil : byteLen [] = 0 := rfl

@[simp]
theorem byteLen_cons (c : Char) (t : Text) : byteLen (c :: t) = c.utf8Size + byteLen t := rfl

@[simp]
theorem byteLen_append (s t : Text) : byteLen (s ++ t) = byteLen s + byteLen t := by
  induction s with
  | nil => simp
  | cons c s ih => simp [ih, Nat.add_assoc]

theorem byteLen_eq_zero {t : Text} : byteLen t = 0 ↔ t = [] := by
  cases t with
  | nil => simp
  | cons c t =>
    have := c.utf8Size_pos
    simp only [byteLen_cons, reduceCtorEq, iff_false]
    omega

/-! ### Cutting at a position -/

/-- The text before and after byte position `pos`; `none` inside a character
    and past the end. -/
def cut? : Text → Nat → Option (Text × Text)
  | t, 0 => some ([], t)
  | [], _ + 1 => none
  | c :: t, n + 1 =>
    if c.utf8Size ≤ n + 1 then
      (cut? t (n + 1 - c.utf8Size)).map fun p => (c :: p.1, p.2)
    else none

/-- Position `pos` stands between two characters, or at one of the two ends. -/
def isBoundary (t : Text) (pos : Nat) : Bool := (cut? t pos).isSome

@[simp]
theorem cut?_zero (t : Text) : cut? t 0 = some ([], t) := by
  cases t <;> rfl

theorem cut?_append {t a b : Text} {pos : Nat} (h : cut? t pos = some (a, b)) : a ++ b = t := by
  induction t generalizing pos a with
  | nil => cases pos <;> simp_all [cut?]
  | cons c t ih =>
    cases pos with
    | zero => simp_all [cut?]
    | succ n =>
      simp only [cut?] at h
      split at h
      · obtain ⟨⟨a', b'⟩, hcut, heq⟩ := Option.map_eq_some_iff.1 h
        cases heq
        simp [ih hcut]
      · cases h

theorem cut?_byteLen {t a b : Text} {pos : Nat} (h : cut? t pos = some (a, b)) :
    byteLen a = pos := by
  induction t generalizing pos a with
  | nil => cases pos <;> simp_all [cut?]
  | cons c t ih =>
    cases pos with
    | zero => simp_all [cut?]
    | succ n =>
      simp only [cut?] at h
      split at h
      · next hle =>
        obtain ⟨⟨a', b'⟩, hcut, heq⟩ := Option.map_eq_some_iff.1 h
        cases heq
        simp only [byteLen_cons, ih hcut]
        omega
      · cases h

theorem cut?_of_append (a b : Text) : cut? (a ++ b) (byteLen a) = some (a, b) := by
  induction a with
  | nil => simp
  | cons c a ih =>
    have hpos := c.utf8Size_pos
    obtain ⟨n, hn⟩ : ∃ n, byteLen (c :: a) = n + 1 :=
      ⟨byteLen (c :: a) - 1, by simp only [byteLen_cons]; omega⟩
    have hsize : n + 1 - c.utf8Size = byteLen a := by
      rw [← hn, byteLen_cons]; omega
    have hle : c.utf8Size ≤ n + 1 := by
      rw [← hn, byteLen_cons]; omega
    simp [hn, cut?, hle, hsize, ih]

/-- Cutting at `pos` gives `(a, b)` exactly when `a` is the first `pos` bytes and `b` the rest. -/
theorem cut?_eq_some_iff {t a b : Text} {pos : Nat} :
    cut? t pos = some (a, b) ↔ t = a ++ b ∧ byteLen a = pos := by
  constructor
  · intro h
    exact ⟨(cut?_append h).symm, cut?_byteLen h⟩
  · rintro ⟨rfl, rfl⟩
    exact cut?_of_append a b

/-! ### Skipping and taking -/

/-- The text after its first `count` bytes; the empty text if it has no more than
    those, `none` if they end inside a character. -/
def skip? : Text → Nat → Option Text
  | t, 0 => some t
  | [], _ + 1 => some []
  | c :: t, n + 1 => if c.utf8Size ≤ n + 1 then skip? t (n + 1 - c.utf8Size) else none

/-- The first `count` bytes of the text; all of it if it has no more, `none` if
    they end inside a character. -/
def take? : Text → Nat → Option Text
  | _, 0 => some []
  | [], _ + 1 => some []
  | c :: t, n + 1 =>
    if c.utf8Size ≤ n + 1 then (take? t (n + 1 - c.utf8Size)).map (c :: ·) else none

theorem skip?_append (a b : Text) : skip? (a ++ b) (byteLen a) = some b := by
  induction a with
  | nil => cases b <;> rfl
  | cons c a ih =>
    have hpos := c.utf8Size_pos
    obtain ⟨n, hn⟩ : ∃ n, byteLen (c :: a) = n + 1 :=
      ⟨byteLen (c :: a) - 1, by simp only [byteLen_cons]; omega⟩
    have hsize : n + 1 - c.utf8Size = byteLen a := by
      rw [← hn, byteLen_cons]; omega
    have hle : c.utf8Size ≤ n + 1 := by
      rw [← hn, byteLen_cons]; omega
    simp [hn, skip?, hle, hsize, ih]

theorem take?_append (a b : Text) : take? (a ++ b) (byteLen a) = some a := by
  induction a with
  | nil => cases b <;> rfl
  | cons c a ih =>
    have hpos := c.utf8Size_pos
    obtain ⟨n, hn⟩ : ∃ n, byteLen (c :: a) = n + 1 :=
      ⟨byteLen (c :: a) - 1, by simp only [byteLen_cons]; omega⟩
    have hsize : n + 1 - c.utf8Size = byteLen a := by
      rw [← hn, byteLen_cons]; omega
    have hle : c.utf8Size ≤ n + 1 := by
      rw [← hn, byteLen_cons]; omega
    simp [hn, take?, hle, hsize, ih]

/-! ### Leading parts -/

/-- What comes after `lead` in a text that begins with it. -/
def after? : (lead text : Text) → Option Text
  | [], text => some text
  | _ :: _, [] => none
  | a :: lead, b :: text => if a = b then after? lead text else none

/-! ### Neighbours and numbers -/

/-- The character that ends right before `pos`; `none` at the start, inside a
    character and past the end. -/
def charBefore? (t : Text) (pos : Nat) : Option Char :=
  match cut? t pos with
  | some (before, _) => before.getLast?
  | none => none

/-- A text ends with another one. -/
def endsWith (t suffix : Text) : Bool := suffix.isSuffixOf t

/-- The decimal digits of a number. -/
def ofNat (n : Nat) : Text := Nat.toDigits 10 n

end Text

end Blockwise
