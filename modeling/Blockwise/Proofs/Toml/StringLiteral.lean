/-
  Blockwise/Proofs/Toml/StringLiteral.lean
  ========================================
  **Every text is read back from the string that was written for it,** whatever form
  the string has and whatever follows it on its line (`readString_writeString`).

  Between the writer and the reader stands a description of what may stand between the
  quotes, `Written style quotes text body`: the body says the text, in a place right
  after so many quotes that belong to the string.  The counter is there for strings on
  several lines, where three quotes in a row would end the string.  Both ways to fill a
  string follow the description (`written_escapeBody`, `written_literal`), and what
  follows it is read (`Written.readBody`).
-/
import Blockwise.Toml.StringLiteral
import Mathlib.Data.List.TakeWhile

namespace Blockwise.Toml

section

variable {p : Char → Bool} {part rest : Text}

theorem takeWhile_append_exact (hin : ∀ c ∈ part, p c = true)
    (hout : ∀ c, rest.head? = some c → p c = false) : (part ++ rest).takeWhile p = part := by
  rw [List.takeWhile_append_of_pos hin]
  cases rest with
  | nil => simp
  | cons c rest => simp [hout c rfl]

theorem dropWhile_append_exact (hin : ∀ c ∈ part, p c = true)
    (hout : ∀ c, rest.head? = some c → p c = false) : (part ++ rest).dropWhile p = rest := by
  rw [List.dropWhile_append_of_pos hin]
  cases rest with
  | nil => simp
  | cons c rest => simp [hout c rfl]

end

namespace Style

theorem fence_multi {style : Style} (h : style.multi = true) :
    style.fence = List.replicate 3 style.quote := by
  simp [fence, h]

theorem fence_single {style : Style} (h : style.multi = false) : style.fence = [style.quote] := by
  simp [fence, h]

theorem quote_ne (style : Style) :
    '\\' ≠ style.quote ∧ '\n' ≠ style.quote ∧ '\r' ≠ style.quote := by
  obtain ⟨escapes, multi⟩ := style
  cases escapes <;> simp [quote]

theorem isPrintable_quote (style : Style) : isPrintable style.quote = true := by
  obtain ⟨escapes, multi⟩ := style
  cases escapes <;> rfl

end Style

/-! ### What stands between the quotes -/

/-- The character stands for itself in a string of this style. -/
def Stands (style : Style) (c : Char) : Prop :=
  (style.escapes = true → c ≠ '\\') ∧
    (isPrintable c = true ∨ (style.multi = true ∧ c = '\n'))

/-- After a backslash, `letters` are read as one character. -/
def Escapes (style : Style) (letters : Text) (c : Char) : Prop :=
  ∀ rest, readBody style .slash (letters ++ rest) =
    (readBody style .plain rest).map fun found => (c :: found.1, found.2)

/-- `body` says `text` inside a string of this style, right after so many quotes. -/
inductive Written (style : Style) : (quotes : Nat) → (text body : Text) → Prop
  | nil {quotes} : Written style quotes [] []
  | quote {quotes text body} : style.multi = true → quotes < 2 →
      Written style (quotes + 1) text body →
      Written style quotes (style.quote :: text) (style.quote :: body)
  | char {quotes c text body} : c ≠ style.quote → Stands style c → Written style 0 text body →
      Written style quotes (c :: text) (c :: body)
  | escape {quotes c letters text body} : style.escapes = true → Escapes style letters c →
      Written style 0 text body →
      Written style quotes (c :: text) ('\\' :: (letters ++ body))

/-! ### Reading it -/

section

variable {style : Style} {rest : Text}

/-- Up to two quotes right before the end belong to the string. -/
theorem fenceEnd?_replicate {q : Char} {n : Nat} (hn : n ≤ 2) (hrest : rest.head? ≠ some q) :
    fenceEnd? q (List.replicate (n + 3) q ++ rest) = some (List.replicate n q, rest) := by
  unfold fenceEnd?
  have hstop : ∀ c, rest.head? = some c → (c == q) = false := by
    rintro c hc
    rw [beq_eq_false_iff_ne]
    rintro rfl
    exact hrest hc
  rw [takeWhile_append_exact (by simp) hstop, List.length_replicate,
    Nat.min_eq_right (show n + 3 ≤ 5 by omega)]
  simp

theorem fenceEnd?_of_few {q : Char} {text : Text}
    (h : (text.takeWhile (· == q)).length ≤ 2) : fenceEnd? q text = none := by
  unfold fenceEnd?
  rw [Nat.min_eq_right (show (text.takeWhile (· == q)).length ≤ 5 by omega)]
  simp [show ¬ 3 ≤ (text.takeWhile (· == q)).length by omega]

/-- The end of the string, after the last quotes that belong to it. -/
theorem readBody_fence {n : Nat} (hn : n ≤ 2) (hmulti : style.multi = true)
    (hrest : rest.head? ≠ some style.quote) :
    readBody style .plain (List.replicate n style.quote ++ (style.fence ++ rest)) =
      some (List.replicate n style.quote, rest) := by
  have hquotes : List.replicate n style.quote ++ (style.fence ++ rest) =
      List.replicate (n + 3) style.quote ++ rest := by
    rw [Style.fence_multi hmulti, ← List.append_assoc, List.replicate_append_replicate]
  have hfirst : List.replicate (n + 3) style.quote ++ rest =
      style.quote :: (List.replicate (n + 2) style.quote ++ rest) := rfl
  have hend := fenceEnd?_replicate hn hrest
  rw [hquotes, hfirst, readBody, readStep, plainStep]
  rw [hfirst] at hend
  simp [hmulti, hend]

theorem readBody_char {c : Char} (hquote : c ≠ style.quote) (hstands : Stands style c) :
    readBody style .plain (c :: rest) =
      (readBody style .plain rest).map fun found => (c :: found.1, found.2) := by
  have hend : fenceEnd? style.quote (c :: rest) = none := fenceEnd?_of_few (by simp [hquote])
  have hslash : (style.escapes && c == '\\') = false := by
    rcases hescapes : style.escapes with _ | _
    · rfl
    · simpa using hstands.1 hescapes
  have hstep : plainStep style c rest = .emit c .plain := by
    unfold plainStep
    rcases hstands.2 with hprint | ⟨hmulti, rfl⟩
    · simp [hend, hquote, hslash, hprint]
    · simp [hend, hmulti]
  rw [readBody, readStep, hstep]

theorem readBody_slash (hescapes : style.escapes = true) :
    readBody style .plain ('\\' :: rest) = readBody style .slash rest := by
  have hquote : '\\' ≠ style.quote := style.quote_ne.1
  have hend : fenceEnd? style.quote ('\\' :: rest) = none := fenceEnd?_of_few (by simp [hquote])
  rw [readBody, readStep, plainStep]
  simp [hend, hquote, hescapes]

/-- A quote inside a string on several lines. -/
theorem readBody_quote {body : Text} (hmulti : style.multi = true)
    (hfew : ((style.quote :: body).takeWhile (· == style.quote)).length ≤ 2) :
    readBody style .plain (style.quote :: body) =
      (readBody style .plain body).map fun found => (style.quote :: found.1, found.2) := by
  have hslash := style.quote_ne.1.symm
  have hprint := style.isPrintable_quote
  have hstep : plainStep style style.quote body = .emit style.quote .plain := by
    unfold plainStep
    simp [hmulti, fenceEnd?_of_few hfew, hslash, hprint]
  rw [readBody, readStep, hstep]

/-- The quotes at the start of a body are few, or they are all of it. -/
theorem Written.leading {quotes : Nat} {text body : Text} (h : Written style quotes text body)
    (hquotes : quotes ≤ 2) :
    (∀ tail, quotes + ((body ++ tail).takeWhile (· == style.quote)).length ≤ 2) ∨
      ∃ n, quotes + n ≤ 2 ∧ text = List.replicate n style.quote ∧
        body = List.replicate n style.quote := by
  induction h with
  | nil => exact Or.inr ⟨0, hquotes, rfl, rfl⟩
  | quote _ hfew _ ih =>
    rcases ih hfew with hlead | ⟨n, hn, rfl, rfl⟩
    · refine Or.inl fun tail => ?_
      have := hlead tail
      simp only [List.cons_append, List.takeWhile_cons, beq_self_eq_true, if_true,
        List.length_cons]
      omega
    · exact Or.inr ⟨n + 1, by omega, rfl, rfl⟩
  | char hne _ _ _ => exact Or.inl fun tail => by simpa [hne] using hquotes
  | escape _ _ _ _ =>
    have hne : '\\' ≠ style.quote := style.quote_ne.1
    exact Or.inl fun tail => by simpa [hne] using hquotes

/-- **A body is read as the text that it says.** -/
theorem Written.readBody {quotes : Nat} {text body : Text} (h : Written style quotes text body)
    (hquotes : quotes ≤ 2) (hrest : rest.head? ≠ some style.quote) :
    Toml.readBody style .plain (body ++ (style.fence ++ rest)) = some (text, rest) := by
  induction h with
  | nil =>
    rcases hmulti : style.multi with _ | _
    · rw [Style.fence_single hmulti, List.nil_append, List.singleton_append, Toml.readBody,
        readStep, plainStep]
      simp [hmulti]
    · exact readBody_fence (Nat.zero_le 2) hmulti hrest
  | @quote quotes text body hmulti hfew hwritten ih =>
    have hwhole := Written.quote hmulti hfew hwritten
    rcases hwhole.leading hquotes with hlead | ⟨n, hn, htext, hbody⟩
    · have hcount := hlead (style.fence ++ rest)
      rw [List.cons_append] at hcount ⊢
      rw [readBody_quote hmulti (by omega), ih hfew]
      rfl
    · -- the string ends after these quotes
      rw [htext, hbody]
      exact readBody_fence (by omega) hmulti hrest
  | char hne hstands _ ih =>
    rw [List.cons_append, readBody_char hne hstands, ih (Nat.zero_le 2)]
    rfl
  | escape hescapes hletters _ ih =>
    rw [List.cons_append, readBody_slash hescapes, List.append_assoc, hletters,
      ih (Nat.zero_le 2)]
    rfl

end

/-! ### Strings with escapes -/

theorem hexValue?_digit : ∀ n < 16,
    hexValue? ("0123456789ABCDEF".toList.getD n '0') = some n := by
  decide

theorem readBody_hex {style : Style} {missing value digit : Nat} {c : Char} {rest : Text}
    (hdigit : hexValue? c = some digit) (hmissing : 1 < missing) :
    readBody style (.hex missing value) (c :: rest) =
      readBody style (.hex (missing - 1) (value * 16 + digit)) rest := by
  rw [readBody, readStep]
  simp [hdigit, hmissing]

theorem readBody_lastHex {style : Style} {value digit : Nat} {c d : Char} {rest : Text}
    (hdigit : hexValue? c = some digit) (hcode : value * 16 + digit = d.toNat) :
    readBody style (.hex 1 value) (c :: rest) =
      (readBody style .plain rest).map fun found => (d :: found.1, found.2) := by
  have hvalid : charOf? d.toNat = some d := by
    have hchar : d.toNat.isValidChar := d.valid
    rw [charOf?, if_pos hchar, Char.ofNat_toNat]
  rw [readBody, readStep]
  simp [hdigit, hcode, hvalid]

/-- A code point below 256 in four hexadecimal digits. -/
theorem escapes_hexDigits4 {style : Style} {c : Char} (hc : c.toNat < 256) :
    Escapes style ('u' :: hexDigits4 c.toNat) c := by
  intro rest
  have hzero : hexValue? '0' = some 0 := by decide
  have hhigh := hexValue?_digit (c.toNat / 16) (by omega)
  have hlow := hexValue?_digit (c.toNat % 16) (by omega)
  have hslash : readBody style .slash ('u' :: (hexDigits4 c.toNat ++ rest)) =
      readBody style (.hex 4 0) (hexDigits4 c.toNat ++ rest) := by
    rw [readBody, readStep]
    rfl
  rw [List.cons_append, hslash]
  simp only [hexDigits4, List.cons_append, List.nil_append]
  rw [readBody_hex hzero (by omega), readBody_hex hzero (by omega), readBody_hex hhigh (by omega)]
  exact readBody_lastHex hlow (by omega)

theorem escapes_simple {style : Style} {letter c : Char} (h : simpleEscape? letter = some c) :
    Escapes style [letter] c := by
  intro rest
  rw [List.singleton_append, readBody, readStep]
  simp [h]

theorem isControl_lt {c : Char} (h : isControl c = true) : c.toNat < 256 := by
  simp only [isControl, Bool.or_eq_true, Bool.and_eq_true, decide_eq_true_eq, beq_iff_eq] at h
  omega

theorem escapes_of_escapeOf? {style : Style} {c : Char} {written : Text}
    (h : escapeOf? c = some written) :
    ∃ letters, written = '\\' :: letters ∧ Escapes style letters c := by
  unfold escapeOf? at h
  repeat' split at h
  · cases h; subst c; exact ⟨_, rfl, escapes_simple rfl⟩
  · cases h; subst c; exact ⟨_, rfl, escapes_simple rfl⟩
  · cases h; subst c; exact ⟨_, rfl, escapes_simple rfl⟩
  · cases h; subst c; exact ⟨_, rfl, escapes_simple rfl⟩
  · cases h; subst c; exact ⟨_, rfl, escapes_simple rfl⟩
  · next hcontrol => cases h; exact ⟨_, rfl, escapes_hexDigits4 (isControl_lt hcontrol)⟩
  · cases h

theorem isPrintable_of_not_isControl {c : Char} (hcontrol : isControl c = false)
    (hbreak : c ≠ '\n') : isPrintable c = true := by
  simp only [isControl, Bool.or_eq_false_iff, Bool.and_eq_false_iff, decide_eq_false_iff_not,
    bne_eq_false_iff_eq, beq_eq_false_iff_ne] at hcontrol
  simp only [isPrintable, Bool.or_eq_true, Bool.and_eq_true, decide_eq_true_eq, beq_iff_eq]
  rcases hcontrol with ⟨(hlow | rfl) | rfl, hdelete⟩
  · omega
  · exact Or.inl (Or.inl rfl)
  · exact absurd rfl hbreak

/-- A character that needs no escape stands for itself, a line break on several lines. -/
theorem stands_of_escapeOf? {multi : Bool} {c : Char} (hplain : escapeOf? c = none)
    (hbreak : ¬ (c = '\n' && !multi) = true) : Stands ⟨true, multi⟩ c := by
  have hcontrol : isControl c = false := by
    rw [← Bool.not_eq_true]
    intro hcontrol
    simp only [escapeOf?, hcontrol, if_true] at hplain
    repeat' split at hplain
    all_goals cases hplain
  refine ⟨?_, ?_⟩
  · rintro - rfl
    cases hplain
  · by_cases hc : c = '\n'
    · refine Or.inr ⟨?_, hc⟩
      simpa [hc] using hbreak
    · exact Or.inl (isPrintable_of_not_isControl hcontrol hc)

/-- What is written with escapes says the text. -/
theorem written_escapeBody (multi : Bool) (text : Text) {quotes : Nat} (hquotes : quotes ≤ 2) :
    Written ⟨true, multi⟩ quotes text (escapeBody multi quotes text) := by
  induction text generalizing quotes with
  | nil => exact .nil
  | cons c text ih =>
    have hih := ih (Nat.zero_le 2)
    unfold escapeBody
    split
    · next written hescape =>
      obtain ⟨letters, rfl, hletters⟩ := @escapes_of_escapeOf? ⟨true, multi⟩ _ _ hescape
      exact .escape rfl hletters hih
    · next hplain =>
      split
      · next hquote =>
        subst hquote
        split
        · next hraw =>
          obtain ⟨hmulti, hfew⟩ : multi = true ∧ quotes < 2 := by simpa using hraw
          exact @Written.quote ⟨true, multi⟩ _ _ _ hmulti hfew (ih hfew)
        · exact @Written.escape _ _ _ ['"'] _ _ rfl (escapes_simple rfl) hih
      · next hquote =>
        split
        · next hbreak =>
          obtain ⟨rfl, -⟩ : c = '\n' ∧ multi = false := by simpa using hbreak
          exact @Written.escape _ _ _ ['n'] _ _ rfl (escapes_simple rfl) hih
        · next hbreak => exact .char hquote (stands_of_escapeOf? hplain hbreak) hih

/-! ### Strings without escapes -/

theorem le_longestRun (q : Char) (current : Nat) (text : Text) :
    current ≤ longestRun q current text := by
  induction text generalizing current with
  | nil => exact Nat.le_refl current
  | cons c text ih =>
    unfold longestRun
    split
    · exact Nat.le_of_succ_le (ih (current + 1))
    · exact Nat.le_max_left _ _

/-- A text without control characters says itself if no three quotes in it stand in a
    row, or, on one line, if it has neither quotes nor line breaks. -/
theorem written_literal {multi : Bool} {text : Text} {quotes : Nat}
    (hcontrol : ∀ c ∈ text, isControl c = false)
    (hline : multi = false → '\x27' ∉ text ∧ '\n' ∉ text)
    (hrun : multi = true → longestRun '\x27' quotes text ≤ 2) :
    Written ⟨false, multi⟩ quotes text text := by
  induction text generalizing quotes with
  | nil => exact .nil
  | cons c text ih =>
    have hrest : ∀ d ∈ text, isControl d = false := fun d hd =>
      hcontrol d (List.mem_cons_of_mem _ hd)
    have hshort : multi = false → '\x27' ∉ text ∧ '\n' ∉ text := fun hmulti =>
      ⟨fun hmem => (hline hmulti).1 (List.mem_cons_of_mem _ hmem),
        fun hmem => (hline hmulti).2 (List.mem_cons_of_mem _ hmem)⟩
    by_cases hquote : c = '\x27'
    · subst hquote
      have hmulti : multi = true := by
        by_contra hsingle
        exact (hline (Bool.eq_false_iff.2 hsingle)).1 (List.mem_cons_self ..)
      have hnext : longestRun '\x27' (quotes + 1) text ≤ 2 := by
        have hall := hrun hmulti
        rwa [longestRun, if_pos rfl] at hall
      have hfew : quotes < 2 := Nat.le_trans (le_longestRun _ _ _) hnext
      exact @Written.quote ⟨false, multi⟩ _ _ _ hmulti hfew (ih hrest hshort fun _ => hnext)
    · have hnext : multi = true → longestRun '\x27' 0 text ≤ 2 := by
        intro hmulti
        have hall := hrun hmulti
        rw [longestRun, if_neg hquote] at hall
        exact Nat.le_trans (Nat.le_max_right _ _) hall
      refine .char hquote ⟨by simp, ?_⟩ (ih hrest hshort hnext)
      by_cases hbreak : c = '\n'
      · refine Or.inr ⟨?_, hbreak⟩
        by_contra hsingle
        exact (hline (Bool.eq_false_iff.2 hsingle)).2 (hbreak ▸ List.mem_cons_self ..)
      · exact Or.inl (isPrintable_of_not_isControl (hcontrol c (List.mem_cons_self ..)) hbreak)

/-! ### The whole string -/

/-- No body begins with the quote on one line, nor with a line break unless the text
    has one. -/
theorem Written.head {style : Style} {text body : Text} (h : Written style 0 text body) :
    (style.multi = false → body.head? ≠ some style.quote) ∧
      ('\n' ∉ text → body.head? ≠ some '\n') ∧ body.head? ≠ some '\r' := by
  obtain ⟨hslash, hbreak, hreturn⟩ :
      '\\' ≠ style.quote ∧ '\n' ≠ style.quote ∧ '\r' ≠ style.quote := style.quote_ne
  cases h with
  | nil => simp
  | quote hmulti _ _ => simp [hmulti, hbreak.symm, hreturn.symm]
  | @char _ c _ _ hne hstands _ =>
    have hplain : c ≠ '\r' := by
      rintro rfl
      simp [Stands, isPrintable] at hstands
    refine ⟨fun _ => by simpa using hne, fun hnone hhead => ?_, by simpa using hplain⟩
    obtain rfl : c = '\n' := by simpa using hhead
    exact hnone (List.mem_cons_self ..)
  | escape _ _ _ => simp [hslash]

theorem dropBreak_of_head {text : Text} (hbreak : text.head? ≠ some '\n')
    (hreturn : text.head? ≠ some '\r') : dropBreak text = text := by
  unfold dropBreak
  split
  · exact absurd rfl hbreak
  · exact absurd rfl hreturn
  · rfl

/-- A string that begins with the quotes of its style is read in that style. -/
theorem styleOf?_fence {style : Style} {inside : Text}
    (hinside : style.multi = false →
      ¬ List.replicate 2 style.quote <+: inside) :
    styleOf? (style.fence ++ inside) = some style := by
  obtain ⟨escapes, multi⟩ := style
  cases multi with
  | true => cases escapes <;> simp [styleOf?, Style.fence, Style.quote]
  | false =>
    have hlong := hinside rfl
    cases escapes <;> simp_all [styleOf?, Style.fence, Style.quote, List.replicate]

/-- After the opening quotes of a string on one line there are no two more of them. -/
theorem Written.not_replicate_isPrefix {style : Style} {text body rest : Text}
    (h : Written style 0 text body) (hsingle : style.multi = false)
    (hrest : rest.head? ≠ some style.quote) :
    ¬ List.replicate 2 style.quote <+: body ++ (style.fence ++ rest) := by
  have hhead := h.head.1 hsingle
  rw [Style.fence_single hsingle]
  cases body with
  | nil =>
    rintro ⟨tail, htail⟩
    obtain rfl : style.quote :: tail = rest := by simpa using htail
    exact hrest rfl
  | cons c body =>
    rintro ⟨tail, htail⟩
    obtain rfl : style.quote = c := by
      simp only [List.replicate, List.cons_append, List.cons.injEq] at htail
      exact htail.1
    exact hhead rfl

/-- A string is read back in the style in which it was written. -/
theorem Written.readString {style : Style} {text body rest : Text}
    (h : Written style 0 text body) (hrest : rest.head? ≠ some style.quote) :
    Toml.readString (style.fence ++
      ((if style.multi && text.contains '\n' then ['\n'] else []) ++
        (body ++ (style.fence ++ rest)))) = some (text, rest) := by
  have hread := h.readBody (Nat.zero_le 2) hrest
  obtain ⟨-, hbreak, hreturn⟩ := h.head
  rcases hmulti : style.multi with _ | _
  · have hstyle := @styleOf?_fence style (body ++ (style.fence ++ rest)) fun _ =>
      h.not_replicate_isPrefix hmulti hrest
    simp [Toml.readString, hstyle, readAs, hmulti, hread]
  · have hstyle : ∀ inside, styleOf? (style.fence ++ inside) = some style := fun inside =>
      styleOf?_fence fun hsingle => by simp [hmulti] at hsingle
    by_cases hlines : '\n' ∈ text
    · simp [Toml.readString, hstyle, readAs, hmulti, hlines, dropBreak, hread]
    · -- without a line break nothing is dropped
      have hquote : (style.fence ++ rest).head? = some style.quote := by
        simp [Style.fence_multi hmulti, List.replicate]
      obtain ⟨-, hnl, hcr⟩ := style.quote_ne
      have hdrop : dropBreak (body ++ (style.fence ++ rest)) = body ++ (style.fence ++ rest) := by
        cases body with
        | nil =>
          refine dropBreak_of_head ?_ ?_ <;> rw [List.nil_append, hquote]
          · simpa using hnl.symm
          · simpa using hcr.symm
        | cons c body => exact dropBreak_of_head (hbreak hlines) hreturn
      simp [Toml.readString, hstyle, readAs, hmulti, hlines, hdrop, hread]

/-- The chosen style can hold the text. -/
theorem written_choose (text : Text) :
    Written (Style.choose text) 0 text
      (if (Style.choose text).escapes then escapeBody (Style.choose text).multi 0 text
        else text) := by
  have hescaped : ∀ multi, Written ⟨true, multi⟩ 0 text (escapeBody multi 0 text) := fun multi =>
    written_escapeBody multi text (Nat.zero_le 2)
  have hfree : ∀ {b : Bool}, (!text.any isControl && b) = true →
      ∀ c ∈ text, isControl c = false := by
    intro b h c hc
    simp only [Bool.and_eq_true, Bool.not_eq_true', List.any_eq_false] at h
    simpa using h.1 c hc
  unfold Style.choose
  simp only [Bool.and_assoc]
  split
  · exact hescaped false
  split
  · next hliteral =>
    refine written_literal (hfree hliteral) (fun _ => ?_) (fun h => nomatch h)
    simpa using (Bool.and_eq_true_iff.1 hliteral).2
  split
  · exact hescaped true
  split
  · next hliteral =>
    refine written_literal (hfree hliteral) (fun h => nomatch h) (fun _ => ?_)
    simpa using (Bool.and_eq_true_iff.1 hliteral).2
  · exact hescaped _

/-- **What is written as a string is read back,** whatever comes after it but a quote. -/
theorem readString_writeString (text : Text) {rest : Text}
    (hdouble : rest.head? ≠ some '"') (hsingle : rest.head? ≠ some '\x27') :
    readString (writeString text ++ rest) = some (text, rest) := by
  have hrest : rest.head? ≠ some (Style.choose text).quote := by
    unfold Style.quote
    split
    · exact hdouble
    · exact hsingle
  have hread := (written_choose text).readString hrest
  simpa [writeString] using hread

end Blockwise.Toml
