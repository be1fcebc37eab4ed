/-
  Blockwise/Proofs/Toml/Lines.lean
  ================================
  **Written lines are read back.**  A text that is made of assignments and headers, each
  on a line of its own, is read as the expressions that its lines say (`Says`), and they
  are put together to the table that the text was written for:

    * `spells_string`, `spells_boolean`, `spells_natural` — what is written after the
      equals sign;
    * `says_assignment`, `says_element`, `says_blank` — the lines;
    * `assemble_written` — keys with their values first, then an array of tables.
-/
import Blockwise.Toml.Reader
import Blockwise.Proofs.Toml.StringLiteral
import Mathlib.Data.List.Nodup

namespace Blockwise.Toml

/-! ### Values -/

/-- At the end of its line, what is written is read as the value. -/
structure Spells (written : Text) (value : Value) : Prop where
  head : ∃ c, written.head? = some c ∧ isSpace c = false
  reads : ∀ limit depth rest,
    readValue (limit + 1) depth (written ++ '\n' :: rest) = some (value, '\n' :: rest)

theorem head?_writeString (text : Text) :
    (writeString text).head? = some '"' ∨ (writeString text).head? = some '\x27' := by
  unfold writeString Style.fence Style.quote
  generalize Style.choose text = style
  obtain ⟨escapes, multi⟩ := style
  cases escapes <;> cases multi <;> simp [List.replicate]

theorem spells_string (text : Text) : Spells (writeString text) (.string text) := by
  have hread : ∀ rest, readString (writeString text ++ '\n' :: rest) = some (text, '\n' :: rest) :=
    fun rest => readString_writeString text (by simp) (by simp)
  rcases hwritten : writeString text with _ | ⟨c, body⟩
  · have hhead := head?_writeString text
    simp [hwritten] at hhead
  · have hhead : c = '"' ∨ c = '\x27' := by simpa [hwritten] using head?_writeString text
    refine ⟨⟨c, rfl, by rcases hhead with rfl | rfl <;> rfl⟩, ?_⟩
    intro limit depth rest
    have hrest := hread rest
    rw [hwritten] at hrest
    rcases hhead with rfl | rfl <;> simp_all [readValue]

/-- The word stands alone, up to the end of its line. -/
theorem splitWords_word {word rest : Text} (h : ∀ c ∈ word, isWordChar c = true) :
    splitWords false (word ++ '\n' :: rest) = (word, '\n' :: rest) := by
  induction word with
  | nil => simp [splitWords, isWordChar, isSpace]
  | cons c word ih =>
    have hword := ih fun d hd => h d (List.mem_cons_of_mem _ hd)
    simp [splitWords, h c (List.mem_cons_self ..), hword]

theorem spells_of_scalar? {word : Text} {value : Value} {c : Char} (hhead : word.head? = some c)
    (hword : ∀ d ∈ word, isWordChar d = true) (hquote : c ≠ '"' ∧ c ≠ '\x27')
    (hvalue : scalar? word = some value) : Spells word value := by
  have hc := hword c (List.mem_of_mem_head? hhead)
  simp only [isWordChar, Bool.and_eq_true, Bool.not_eq_true'] at hc
  refine ⟨⟨c, hhead, hc.1⟩, ?_⟩
  intro limit depth rest
  obtain ⟨hsquare, hbrace⟩ : c ≠ '[' ∧ c ≠ '\x7b' := by
    have := hc.2
    constructor <;> rintro rfl <;> simp at this
  have hsplit := @splitWords_word word rest hword
  cases word with
  | nil => cases hhead
  | cons d word =>
    cases hhead
    rw [List.cons_append] at hsplit ⊢
    simp [readValue, hsquare, hbrace, hquote, hsplit, hvalue]

theorem spells_boolean (value : Bool) :
    Spells (if value then "true".toList else "false".toList) (.boolean value) := by
  cases value
  · exact spells_of_scalar? rfl (List.all_eq_true.1 (by decide)) (by decide) rfl
  · exact spells_of_scalar? rfl (List.all_eq_true.1 (by decide)) (by decide) rfl

/-! ### Numbers -/

theorem ofDigits_append_singleton (base : Nat) (digits : Text) (c : Char) :
    ofDigits base (digits ++ [c]) = ofDigits base digits * base + (hexValue? c).getD 0 := by
  simp [ofDigits]

theorem hexValue?_digitChar : ∀ n < 10, hexValue? n.digitChar = some n := by decide

/-- The decimal digits of a number write it. -/
theorem ofDigits_ofNat (n : Nat) : ofDigits 10 (Text.ofNat n) = n := by
  unfold Text.ofNat
  induction n using Nat.strongRecOn with
  | ind n ih =>
    by_cases hsmall : n < 10
    · simp [Nat.toDigits_of_lt_base hsmall, ofDigits, hexValue?_digitChar n hsmall]
    · have hdigit := hexValue?_digitChar (n % 10) (by omega)
      rw [Nat.toDigits_of_base_le (by omega) (by omega), ofDigits_append_singleton,
        ih (n / 10) (by omega), hdigit, Option.getD_some]
      omega

theorem isDecimal_of_mem_ofNat {n : Nat} {c : Char} (h : c ∈ Text.ofNat n) :
    isDecimal c = true := by
  have hdigit := Nat.isDigit_of_mem_toDigits (by omega) (by omega) h
  simpa [Char.isDigit, isDecimal, Char.le_def] using hdigit

theorem head?_ofNat_ne_zero {n : Nat} (hn : 0 < n) : (Text.ofNat n).head? ≠ some '0' := by
  have hdigit : ∀ d < 10, 0 < d → d.digitChar ≠ '0' := by decide
  unfold Text.ofNat
  induction n using Nat.strongRecOn with
  | ind n ih =>
    by_cases hsmall : n < 10
    · simpa [Nat.toDigits_of_lt_base hsmall] using hdigit n hsmall hn
    · rw [Nat.toDigits_of_base_le (by omega) (by omega),
        List.head?_append_of_ne_nil _ Nat.toDigits_ne_nil]
      exact ih (n / 10) (by omega) (by omega)

theorem digits?_isDecimal {word : Text} {afterDigit : Bool} (hword : ∀ c ∈ word, isDecimal c = true)
    (hsome : word ≠ [] ∨ afterDigit = true) : digits? isDecimal afterDigit word = some word := by
  induction word generalizing afterDigit with
  | nil => simpa [digits?] using hsome
  | cons c word ih =>
    have hc := hword c (List.mem_cons_self ..)
    have hplain : c ≠ '_' := by
      rintro rfl
      revert hc
      decide
    have hrest := ih (fun d hd => hword d (List.mem_cons_of_mem _ hd)) (Or.inr rfl)
    simp [digits?, hplain, hc, hrest]

theorem decimal?_ofNat (n : Nat) : decimal? (Text.ofNat n) = some (Text.ofNat n) := by
  have hne : Text.ofNat n ≠ [] := Nat.toDigits_ne_nil
  unfold decimal?
  split
  · next c rest hzero =>
    rcases Nat.eq_zero_or_pos n with rfl | hpos
    · simp [Text.ofNat] at hzero
    · exact absurd (by rw [hzero]; rfl) (head?_ofNat_ne_zero hpos)
  · exact digits?_isDecimal (fun _ => isDecimal_of_mem_ofNat) (Or.inl hne)

theorem integer?_ofNat (n : Nat) : integer? (Text.ofNat n) = some (some (n : Int)) := by
  have hdecimal : ∀ c ∈ Text.ofNat n, isDecimal c = true := fun _ => isDecimal_of_mem_ofNat
  have hletter : ∀ c rest, Text.ofNat n = '0' :: c :: rest → isDecimal c = true := by
    intro c rest hword
    exact hdecimal c (by simp [hword])
  have hsign : splitSign (Text.ofNat n) = (false, Text.ofNat n) := by
    unfold splitSign
    split
    · next hplus => exact absurd (hdecimal '+' (by simp [hplus])) (by decide)
    · next hminus => exact absurd (hdecimal '-' (by simp [hminus])) (by decide)
    · rfl
  have hrest : (Text.ofNat n).dropWhile isDecimal = [] := List.dropWhile_eq_nil_iff.2 hdecimal
  unfold integer?
  split
  · next hhex => exact absurd (hletter _ _ hhex) (by decide)
  · next hoct => exact absurd (hletter _ _ hoct) (by decide)
  · next hbin => exact absurd (hletter _ _ hbin) (by decide)
  · simp [decimalInteger?, hsign, hrest, decimal?_ofNat, signedValue, ofDigits_ofNat]

theorem spells_natural (n : Nat) : Spells (Text.ofNat n) (.integer (some (n : Int))) := by
  have hdecimal : ∀ c ∈ Text.ofNat n, isDecimal c = true := fun _ => isDecimal_of_mem_ofNat
  have hnot : ∀ c, isDecimal c = false → c ∉ Text.ofNat n := by
    intro c hc hmem
    simp [hdecimal c hmem] at hc
  rcases hword : Text.ofNat n with _ | ⟨c, word⟩
  · exact absurd hword Nat.toDigits_ne_nil
  rw [← hword]
  refine spells_of_scalar? (c := c) (by simp [hword]) ?_ ?_ ?_
  · intro d hd
    have hsigns : ∀ e ∈ [' ', '\t', '=', ',', '[', ']', '\x7b', '\x7d', '#', '\r', '\n'],
        isDecimal e = false := List.forall_iff_forall_mem.1 (by decide)
    have hplain : ∀ e ∈ [' ', '\t', '=', ',', '[', ']', '\x7b', '\x7d', '#', '\r', '\n'],
        d ≠ e := by
      rintro e he rfl
      exact hnot d (hsigns d he) hd
    simpa [isWordChar, isSpace, and_assoc] using hplain
  · constructor <;> rintro rfl
    · exact hnot '"' (by decide) (by simp [hword])
    · exact hnot '\x27' (by decide) (by simp [hword])
  · have htrue : Text.ofNat n ≠ "true".toList := fun h => hnot 't' (by decide) (by simp [h])
    have hfalse : Text.ofNat n ≠ "false".toList := fun h => hnot 'f' (by decide) (by simp [h])
    rw [scalar?, if_neg htrue, if_neg hfalse, integer?_ofNat]

/-! ### Keys -/

/-- A key that needs no quotes. -/
structure BareKey (key : Text) : Prop where
  nonempty : key ≠ []
  plain : ∀ c ∈ key, isKeyChar c = true

theorem not_isKeyChar : ∀ c ∈ ['[', ']', '#', '\n', '\r', ' ', '\t', '"', '\x27', '.', '='],
    isKeyChar c = false :=
  List.forall_iff_forall_mem.1 (by decide)

/-- What a key begins with divides nothing. -/
theorem BareKey.head {key : Text} (h : BareKey key) :
    ∃ c rest, key = c :: rest ∧
      ∀ d ∈ ['[', ']', '#', '\n', '\r', ' ', '\t', '"', '\x27', '.', '='], c ≠ d := by
  cases key with
  | nil => exact absurd rfl h.nonempty
  | cons c rest =>
    refine ⟨c, rest, rfl, ?_⟩
    rintro d hd rfl
    have hc := h.plain c (List.mem_cons_self ..)
    simp [not_isKeyChar c hd] at hc

theorem skipSpaces_cons {c : Char} {rest : Text} (h : isSpace c = false) :
    skipSpaces (c :: rest) = c :: rest := by
  simp [skipSpaces, h]

/-- A key without points in it, up to what cannot go on with it. -/
theorem readKey_bare {key rest : Text} (h : BareKey key)
    (hrest : ∀ c, rest.head? = some c → isKeyChar c = false)
    (hpoint : (skipSpaces rest).head? ≠ some '.') :
    readKey (key ++ rest) = some ([], key, skipSpaces rest) := by
  have hpart : readKeyPart (key ++ rest) = some (key, rest) := by
    have hstyle : styleOf? (key ++ rest) = none := by
      obtain ⟨c, tail, rfl, hc⟩ := h.head
      have hdouble := hc '"' (by simp)
      have hsingle := hc '\x27' (by simp)
      simp [styleOf?, Style.fence, Style.quote, List.replicate, hdouble.symm, hsingle.symm]
    simp [readKeyPart, hstyle, takeWhile_append_exact h.plain hrest,
      dropWhile_append_exact h.plain hrest, h.nonempty]
  unfold readKey maxKeyParts readKeyWithin
  rw [hpart]
  rcases hnext : skipSpaces rest with _ | ⟨c, more⟩
  · simp [hnext]
  · have hc : c ≠ '.' := by simpa [hnext] using hpoint
    simp [hnext, hc]

/-! ### Lines -/

theorem endLine?_break (rest : Text) : endLine? ('\n' :: rest) = some rest := by
  simp [endLine?, skipSpaces, isSpace, afterBreak?]

theorem endLine?_eq_none {c : Char} {rest : Text} (hspace : isSpace c = false)
    (hc : ∀ d ∈ ['#', '\n', '\r'], c ≠ d) : endLine? (c :: rest) = none := by
  have hbreak : afterBreak? (c :: rest) = none := by
    unfold afterBreak?
    split <;> simp_all
  unfold endLine?
  rw [skipSpaces_cons hspace]
  split <;> simp_all

/-- A line that begins with a key is an assignment. -/
theorem readLine_key {key line rest : Text} (hkey : BareKey key) (hread :
    readKey (key ++ line) = some ([], key, '=' :: rest)) :
    readLine (key ++ line) = (readValue (2 * (skipSpaces rest).length + 2) 0 (skipSpaces rest)).bind
      fun found => (endLine? found.2).bind fun after =>
        some (some (.assign [] key found.1), after) := by
  obtain ⟨c, tail, rfl, hc⟩ := hkey.head
  have hspace : isSpace c = false := by
    simp [isSpace, hc ' ' (by simp), hc '\t' (by simp)]
  have hend : endLine? (c :: tail ++ line) = none :=
    endLine?_eq_none hspace fun d hd => hc d (List.forall_iff_forall_mem.1 (by decide) d hd)
  have hbracket : c ≠ '[' := hc '[' (by simp)
  unfold readLine
  rw [List.cons_append] at hend hread ⊢
  rw [skipSpaces_cons hspace]
  simp [hbracket, hend, hread, after?]

/-- The line says an assignment. -/
theorem readLine_assignment {key written rest : Text} {value : Value} (hkey : BareKey key)
    (hwritten : Spells written value) :
    readLine (key ++ (" = ".toList ++ (written ++ '\n' :: rest))) =
      some (some (.assign [] key value), rest) := by
  obtain ⟨d, hd, hspace⟩ := hwritten.head
  have hvalue : skipSpaces (' ' :: (written ++ '\n' :: rest)) = written ++ '\n' :: rest := by
    cases written with
    | nil => cases hd
    | cons e written =>
      cases hd
      exact skipSpaces_cons hspace
  have hread : readKey (key ++ (" = ".toList ++ (written ++ '\n' :: rest))) =
      some ([], key, '=' :: ' ' :: (written ++ '\n' :: rest)) := by
    rw [readKey_bare hkey]
    · simp [skipSpaces, isSpace]
    · simp [isKeyChar, isDecimal]
    · simp [skipSpaces, isSpace]
  rw [readLine_key hkey hread, hvalue, hwritten.reads]
  simp [endLine?_break]

/-- The line is the header of one more table of an array. -/
theorem readLine_element {key rest : Text} (hkey : BareKey key) :
    readLine ("[[".toList ++ (key ++ ("]]\n".toList ++ rest))) =
      some (some (.element [] key), rest) := by
  have hread : readKey (key ++ (']' :: ']' :: '\n' :: rest)) =
      some ([], key, ']' :: ']' :: '\n' :: rest) := by
    rw [readKey_bare hkey]
    · simp [skipSpaces, isSpace]
    · simp [isKeyChar, isDecimal]
    · simp [skipSpaces, isSpace]
  have hskip : skipSpaces (key ++ (']' :: ']' :: '\n' :: rest)) =
      key ++ (']' :: ']' :: '\n' :: rest) := by
    obtain ⟨c, tail, rfl, hc⟩ := hkey.head
    exact skipSpaces_cons (by simp [isSpace, hc ' ' (by simp), hc '\t' (by simp)])
  have hline : "[[".toList ++ (key ++ ("]]\n".toList ++ rest)) =
      '[' :: '[' :: (key ++ (']' :: ']' :: '\n' :: rest)) := rfl
  unfold readLine
  rw [hline, skipSpaces_cons (by decide)]
  simp [hskip, hread, after?, endLine?_break]

/-! ### Texts made of lines -/

/-- Wherever the lines stand, they are read as the expressions. -/
def Says (lines : Text) (expressions : List Expression) : Prop :=
  ∀ rest limit, (lines ++ rest).length < limit → ∃ limit', rest.length < limit' ∧
    readLinesWithin limit (lines ++ rest) =
      (readLinesWithin limit' rest).map (expressions ++ ·)

theorem says_nil : Says [] [] := by
  intro rest limit hlimit
  refine ⟨limit, hlimit, ?_⟩
  simp

theorem Says.append {lines more : Text} {expressions others : List Expression}
    (h : Says lines expressions) (hmore : Says more others) :
    Says (lines ++ more) (expressions ++ others) := by
  intro rest limit hlimit
  rw [List.append_assoc] at hlimit ⊢
  obtain ⟨limit₁, hlimit₁, hfirst⟩ := h (more ++ rest) limit hlimit
  obtain ⟨limit₂, hlimit₂, hsecond⟩ := hmore rest limit₁ hlimit₁
  refine ⟨limit₂, hlimit₂, ?_⟩
  rw [hfirst, hsecond, Option.map_map]
  simp [Function.comp_def]

theorem says_of_readLine {line : Text} {expression : Option Expression} (hline : line ≠ [])
    (h : ∀ rest, readLine (line ++ rest) = some (expression, rest)) :
    Says line expression.toList := by
  intro rest limit hlimit
  cases limit with
  | zero => omega
  | succ limit =>
    have hpos : 0 < line.length := List.length_pos_iff.2 hline
    rw [List.length_append] at hlimit
    refine ⟨limit, by omega, ?_⟩
    have hsome : ¬ (line ++ rest).isEmpty = true := by simp [hline]
    rw [readLinesWithin, if_neg hsome, h]
    cases hlines : readLinesWithin limit rest <;> simp [hlines]

theorem says_assignment {key written : Text} {value : Value} (hkey : BareKey key)
    (hwritten : Spells written value) :
    Says (key ++ " = ".toList ++ written ++ ['\n']) [.assign [] key value] := by
  refine @says_of_readLine _ (some (.assign [] key value)) (by simp) ?_
  intro rest
  simpa using readLine_assignment hkey hwritten

theorem says_element {key : Text} (hkey : BareKey key) :
    Says ("[[".toList ++ key ++ "]]\n".toList) [.element [] key] := by
  refine @says_of_readLine _ (some (.element [] key)) (by simp) ?_
  intro rest
  simpa using readLine_element hkey

theorem says_blank : Says ['\n'] [] := by
  refine @says_of_readLine _ none (by simp) ?_
  intro rest
  have hskip : skipSpaces ('\n' :: rest) = '\n' :: rest := skipSpaces_cons (by decide)
  simp [readLine, hskip, endLine?_break]

/-- A text that is made of lines is read as their expressions. -/
theorem Says.read {text : Text} {expressions : List Expression} (h : Says text expressions)
    (hmark : dropMark text = text) : Toml.read text = assemble expressions := by
  obtain ⟨limit, hlimit, hlines⟩ := h [] (text.length + 1) (by simp)
  rw [List.append_nil] at hlines
  cases limit with
  | zero => omega
  | succ limit =>
    have hend : readLinesWithin (limit + 1) [] = some [] := rfl
    rw [hend, Option.map_some, List.append_nil] at hlines
    simp [Toml.read, hmark, hlines]

/-! ### Putting the expressions together -/

/-- Assignments of values to keys. -/
def assignments (settings : Table) : List Expression :=
  settings.map fun setting => .assign [] setting.1 setting.2

/-- Keys with values that are complete. -/
def leaves (settings : Table) : Fields := settings.map fun setting => (setting.1, .leaf setting.2)

theorem Fields.get?_eq_none_iff {fields : Fields} {key : Text} :
    fields.get? key = none ↔ key ∉ fields.map Prod.fst := by
  simp only [Fields.get?, Option.map_eq_none_iff, List.find?_eq_none, beq_iff_eq, List.mem_map,
    not_exists, not_and]

theorem Fields.get?_append_of_none {fields more : Fields} {key : Text}
    (h : fields.get? key = none) : Fields.get? (fields ++ more) key = more.get? key := by
  rw [Fields.get?, Option.map_eq_none_iff] at h
  simp [Fields.get?, h]

theorem add_assign {assembly : Assembly} {key : Text} {value : Value}
    (h : assembly.current.get? key = none) :
    assembly.add (.assign [] key value) =
      some { assembly with current := assembly.current ++ leaves [(key, value)] } := by
  simp [Assembly.add, Fields.assign, Fields.change, h, leaves]

/-- Assignments to different keys go to the current table. -/
theorem foldlM_assignments {assembly : Assembly} {settings : Table}
    (h : (assembly.current.map Prod.fst ++ settings.map Prod.fst).Nodup) :
    (assignments settings).foldlM Assembly.add assembly =
      some { assembly with current := assembly.current ++ leaves settings } := by
  induction settings generalizing assembly with
  | nil => simp [assignments, leaves]
  | cons setting settings ih =>
    obtain ⟨key, value⟩ := setting
    have hnew : assembly.current.get? key = none := by
      rw [Fields.get?_eq_none_iff]
      intro hmem
      exact List.disjoint_of_nodup_append h hmem (by simp)
    have hrest : ((assembly.current ++ leaves [(key, value)]).map Prod.fst ++
        settings.map Prod.fst).Nodup := by
      simpa [leaves] using h
    have hfirst : assignments ((key, value) :: settings) =
        .assign [] key value :: assignments settings := rfl
    rw [hfirst, List.foldlM_cons, add_assign hnew]
    refine (ih hrest).trans ?_
    simp [leaves]

/-- The tables of an array, if there are any, under their key. -/
def tablesAt (key : Text) (tables : List Fields) : Fields :=
  if tables = [] then [] else [(key, .tables tables)]

theorem Fields.set_last {fields : Fields} {key : Text} {old new : Item}
    (h : fields.get? key = none) :
    Fields.set (fields ++ [(key, old)]) key new = fields ++ [(key, new)] := by
  have hthere : (Fields.get? (fields ++ [(key, old)]) key).isSome = true := by
    rw [Fields.get?_append_of_none h]
    simp [Fields.get?]
  have hkept : fields.map (fun entry => if entry.1 == key then (key, new) else entry) = fields := by
    refine (List.map_congr_left fun entry hentry => ?_).trans (List.map_id _)
    have hother : entry.1 ≠ key := fun hsame =>
      Fields.get?_eq_none_iff.1 h (hsame ▸ List.mem_map_of_mem hentry)
    simp [hother]
  rw [Fields.set, if_pos hthere, List.map_append, hkept]
  simp

theorem appendTable_tablesAt {key : Text} {top body : Fields} {tables : List Fields}
    (htop : top.get? key = none) :
    Fields.appendTable [] key body (top ++ tablesAt key tables) =
      some (top ++ tablesAt key (tables ++ [body])) := by
  unfold Fields.appendTable Fields.change
  rw [Fields.get?_append_of_none htop]
  cases tables with
  | nil => simp [tablesAt, Fields.get?]
  | cons first others => simp [tablesAt, Fields.get?, Fields.set_last htop]

/-- Headers of an array of tables, each with the assignments below it. -/
def elements (key : Text) (tables : List Table) : List Expression :=
  tables.flatMap fun settings => .element [] key :: assignments settings

/-- One more table of the array is complete as soon as the next header, or the end,
    completes what is there. -/
theorem close_foldlM_elements {key : Text} {top : Fields} (htop : top.get? key = none)
    {tables : List Table} (hkeys : ∀ settings ∈ tables, (settings.map Prod.fst).Nodup)
    {assembly : Assembly} {before : List Fields}
    (hclose : assembly.close = some (top ++ tablesAt key before)) :
    ((elements key tables).foldlM Assembly.add assembly).bind Assembly.close =
      some (top ++ tablesAt key (before ++ tables.map leaves)) := by
  induction tables generalizing assembly before with
  | nil => simpa [elements] using hclose
  | cons settings tables ih =>
    have hfirst : elements key (settings :: tables) =
        .element [] key :: (assignments settings ++ elements key tables) := rfl
    have hopen : assembly.add (.element [] key) =
        some ⟨top ++ tablesAt key before, some ([], key, true), []⟩ := by
      simp [Assembly.add, hclose]
    have hbody := @foldlM_assignments
      ⟨top ++ tablesAt key before, some ([], key, true), []⟩ settings
      (by simpa using hkeys settings (List.mem_cons_self ..))
    rw [hfirst, List.foldlM_cons, hopen]
    show ((assignments settings ++ elements key tables).foldlM Assembly.add _).bind _ = _
    rw [List.foldlM_append, hbody]
    have hdone : (⟨top ++ tablesAt key before, some ([], key, true),
        [] ++ leaves settings⟩ : Assembly).close =
        some (top ++ tablesAt key (before ++ [leaves settings])) :=
      appendTable_tablesAt htop
    have hrest := ih (fun other hother => hkeys other (List.mem_cons_of_mem _ hother)) hdone
    simpa using hrest

theorem freezeFields_append (fields more : Fields) :
    freezeFields (fields ++ more) = freezeFields fields ++ freezeFields more := by
  induction fields with
  | nil => rfl
  | cons entry fields ih =>
    obtain ⟨key, item⟩ := entry
    simp [freezeFields, ih]

theorem freezeFields_leaves (settings : Table) : freezeFields (leaves settings) = settings := by
  induction settings with
  | nil => rfl
  | cons setting settings ih =>
    have hfirst : leaves (setting :: settings) = (setting.1, .leaf setting.2) :: leaves settings :=
      rfl
    rw [hfirst, freezeFields, ih, Item.freeze]

theorem freezeElements_leaves (tables : List Table) :
    freezeElements (tables.map leaves) = tables.map .table := by
  induction tables with
  | nil => rfl
  | cons settings tables ih => rw [List.map_cons, freezeElements, freezeFields_leaves, ih]; rfl

/-- **Different keys with their values, and then an array of tables,** are put together
    to the table that they describe. -/
theorem assemble_written {top : Table} {key : Text} {tables : List Table}
    (htop : (top.map Prod.fst).Nodup) (hkey : key ∉ top.map Prod.fst)
    (hkeys : ∀ settings ∈ tables, (settings.map Prod.fst).Nodup) :
    assemble (assignments top ++ elements key tables) =
      some (top ++ if tables = [] then [] else [(key, .array (tables.map .table))]) := by
  have hnone : (leaves top).get? key = none := by
    rw [Fields.get?_eq_none_iff]
    simpa [leaves] using hkey
  have hfirst := @foldlM_assignments .empty top (by simpa [Assembly.empty] using htop)
  have hclose : ({ Assembly.empty with current := Assembly.empty.current ++ leaves top } :
      Assembly).close = some (leaves top ++ tablesAt key []) := by
    simp [Assembly.close, Assembly.empty, tablesAt]
  have hrest := close_foldlM_elements hnone hkeys hclose
  have hfrozen : freezeFields (leaves top ++ tablesAt key (tables.map leaves)) =
      top ++ if tables = [] then [] else [(key, .array (tables.map .table))] := by
    rw [freezeFields_append, freezeFields_leaves]
    by_cases hnil : tables = []
    · simp [tablesAt, hnil, freezeFields]
    · simp [tablesAt, hnil, freezeFields, Item.freeze, freezeElements_leaves]
  have hwhole : ((assignments top ++ elements key tables).foldlM Assembly.add .empty).bind
      Assembly.close = some (leaves top ++ tablesAt key (tables.map leaves)) := by
    rw [List.foldlM_append, hfirst]
    exact hrest
  obtain ⟨assembly, hassembly, hroot⟩ := Option.bind_eq_some_iff.1 hwhole
  simp [assemble, hassembly, hroot, hfrozen]

end Blockwise.Toml
