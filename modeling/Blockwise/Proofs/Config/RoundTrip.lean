/-
  Blockwise/Proofs/Config/RoundTrip.lean
  ======================================
  **Saved configurations load again.**  The text of a configuration says the table of its
  settings (`says_write`), and that table describes the configuration (`ofTable?_table`).
  Expansion leaves paths alone that hold no dollar sign and no tilde at their start
  (`expand_plain`).  So loading gives back what was saved (`load_of_save`).
-/
import Blockwise.Config.Load
import Blockwise.Proofs.Files.Disk
import Blockwise.Proofs.Toml.Lines
import Mathlib.Algebra.Group.Nat.Defs

namespace Blockwise

/-! ### Settings with and without a value -/

namespace Toml

/-- The table of those settings that have a value. -/
def settings (items : List (String × Option Value)) : Table :=
  items.filterMap fun item => item.2.map fun value => (item.1.toList, value)

theorem settings_append (items more : List (String × Option Value)) :
    settings (items ++ more) = settings items ++ settings more :=
  List.filterMap_append

theorem keys_settings_sublist (items : List (String × Option Value)) :
    ((settings items).map Prod.fst).Sublist (items.map fun item => item.1.toList) := by
  induction items with
  | nil => exact List.Sublist.slnil
  | cons item items ih =>
    obtain ⟨key, _ | value⟩ := item
    · exact ih.cons _
    · exact ih.cons_cons _

theorem get?_settings_of_not_mem {items : List (String × Option Value)} {key : Text}
    (h : key ∉ items.map fun item => item.1.toList) : Table.get? (settings items) key = none := by
  have hkeys : key ∉ (settings items).map Prod.fst :=
    fun hmem => h ((keys_settings_sublist items).subset hmem)
  rw [Table.get?, Option.map_eq_none_iff, List.find?_eq_none]
  intro entry hentry hkey
  exact hkeys (List.mem_map.2 ⟨entry, hentry, by simpa using hkey⟩)

/-- Where no key occurs twice, each has the value that it was given. -/
theorem get?_settings {items : List (String × Option Value)} {key : String} {value : Option Value}
    (hkeys : (items.map fun item => item.1.toList).Nodup) (h : (key, value) ∈ items) :
    Table.get? (settings items) key.toList = value := by
  induction items with
  | nil => cases h
  | cons item items ih =>
    obtain ⟨hfirst, hrest⟩ := List.nodup_cons.1 hkeys
    rcases List.mem_cons.1 h with rfl | hmem
    · cases value with
      | none => exact @get?_settings_of_not_mem items _ hfirst
      | some value => simp [settings, Table.get?]
    · have hother : item.1.toList ≠ key.toList := by
        intro hsame
        exact hfirst (List.mem_map.2 ⟨_, hmem, hsame.symm⟩)
      rw [← ih hrest hmem]
      obtain ⟨other, _ | otherValue⟩ := item
      · rfl
      · simp [settings, Table.get?, hother]

theorem Says.append_setting {lines line : Text} {before : List Expression}
    {items : List (String × Option Value)} {item : String × Option Value}
    (h : Says lines (before ++ assignments (settings items)))
    (hline : Says line (assignments (settings [item]))) :
    Says (lines ++ line) (before ++ assignments (settings (items ++ [item]))) := by
  rw [settings_append, assignments, List.map_append, ← List.append_assoc]
  exact h.append hline

end Toml

namespace Config

open Toml

/-- The settings of an entry. -/
def entryItems (entry : BlockEntry) : List (String × Option Value) :=
  [("name", some (.string entry.name)),
    ("kind", some (.string entry.kind.name)),
    ("open", some (.string entry.openTag)),
    ("close", entry.closeTag.map .string),
    ("escape", entry.escape.map fun c => .string [c]),
    ("case_sensitive", entry.caseSensitive.map .boolean),
    ("closeable_by_eof", entry.closeableByEof.map .boolean),
    ("forbid_new_openings", entry.forbidNewOpenings.map .boolean),
    ("close_immediately", entry.closeImmediately.map .boolean),
    ("base_dir", entry.baseDir.map fun path => .string path.spelling),
    ("extension", entry.extension.map .string),
    ("subinterpreter", entry.subinterpreter.map fun path => .string path.spelling)]

/-- The settings of a configuration, but for its blocks. -/
def topItems (config : Config) : List (String × Option Value) :=
  [("base_dir", config.baseDir.map fun path => .string path.spelling),
    ("extension", config.extension.map .string),
    ("self_close_skip", config.selfCloseSkip.map fun n : Nat => .integer (some n))]

/-- The blocks of a configuration as a setting. -/
def blocksItem (config : Config) : String × Option Value :=
  ("blocks", if config.blocks = [] then none
    else some (.array (config.blocks.map fun entry => .table (settings (entryItems entry)))))

/-- The table of a configuration. -/
def table (config : Config) : Table := settings (topItems config ++ [blocksItem config])

theorem keys_entryItems (entry : BlockEntry) :
    (entryItems entry).map (fun item => item.1.toList) = Decode.entryKeys := rfl

theorem nodup_entryItems (entry : BlockEntry) :
    ((entryItems entry).map fun item => item.1.toList).Nodup := by
  rw [keys_entryItems]
  decide

theorem keys_items (config : Config) :
    (topItems config ++ [blocksItem config]).map (fun item => item.1.toList) =
      Decode.configKeys := rfl

theorem nodup_items (config : Config) :
    ((topItems config ++ [blocksItem config]).map fun item => item.1.toList).Nodup := by
  rw [keys_items]
  decide

/-! ### The text says the table -/

theorem bareKey_of_mem_keys :
    ∀ key ∈ Decode.entryKeys ++ Decode.configKeys, BareKey key := by
  have hplain : ∀ key ∈ Decode.entryKeys ++ Decode.configKeys,
      key ≠ [] ∧ key.all isKeyChar = true := by decide
  exact fun key hkey => ⟨(hplain key hkey).1, List.all_eq_true.1 (hplain key hkey).2⟩

/-- The line of a setting, which is empty without a value. -/
theorem says_setting {α : Type} {write : α → Text} {encode : α → Value}
    (h : ∀ a, Spells (write a) (encode a)) (key : String)
    (hkey : key.toList ∈ Decode.entryKeys ++ Decode.configKeys) (value : Option α) :
    Says (Encode.optional (fun a => Encode.line key (write a)) value)
      (assignments (settings [(key, value.map encode)])) := by
  cases value with
  | none => exact says_nil
  | some a => exact says_assignment (bareKey_of_mem_keys _ hkey) (h a)

theorem says_text (key : String) (hkey : key.toList ∈ Decode.entryKeys ++ Decode.configKeys)
    (value : Option Text) :
    Says (Encode.optional (Encode.string key) value)
      (assignments (settings [(key, value.map .string)])) :=
  says_setting spells_string key hkey value

theorem says_bool (key : String) (hkey : key.toList ∈ Decode.entryKeys ++ Decode.configKeys)
    (value : Option Bool) :
    Says (Encode.optional (Encode.bool key) value)
      (assignments (settings [(key, value.map .boolean)])) :=
  says_setting spells_boolean key hkey value

theorem says_path (key : String) (hkey : key.toList ∈ Decode.entryKeys ++ Decode.configKeys)
    (value : Option Path) :
    Says (Encode.optional (Encode.path key) value)
      (assignments (settings [(key, value.map fun path => .string path.spelling)])) := by
  cases value with
  | none => exact says_nil
  | some path => exact says_text key hkey (some path.spelling)

theorem says_entry (entry : BlockEntry) :
    Says (Encode.entry entry)
      (.element [] "blocks".toList :: assignments (settings (entryItems entry))) := by
  have hspelled : "[[blocks]]\n".toList = "[[".toList ++ "blocks".toList ++ "]]\n".toList := by
    decide
  have hheader : Says "[[blocks]]\n".toList
      ([.element [] "blocks".toList] ++ assignments (settings [])) := by
    rw [hspelled]
    exact says_element (bareKey_of_mem_keys _ (by decide))
  have hlines := hheader
    |>.append_setting (says_text "name" (by decide) (some entry.name))
    |>.append_setting (says_text "kind" (by decide) (some entry.kind.name))
    |>.append_setting (says_text "open" (by decide) (some entry.openTag))
    |>.append_setting (says_text "close" (by decide) entry.closeTag)
    |>.append_setting (says_setting (fun c => spells_string [c]) "escape" (by decide) entry.escape)
    |>.append_setting (says_bool "case_sensitive" (by decide) entry.caseSensitive)
    |>.append_setting (says_bool "closeable_by_eof" (by decide) entry.closeableByEof)
    |>.append_setting (says_bool "forbid_new_openings" (by decide) entry.forbidNewOpenings)
    |>.append_setting (says_bool "close_immediately" (by decide) entry.closeImmediately)
    |>.append_setting (says_path "base_dir" (by decide) entry.baseDir)
    |>.append_setting (says_text "extension" (by decide) entry.extension)
    |>.append_setting (says_path "subinterpreter" (by decide) entry.subinterpreter)
  exact hlines

/-- The text of a configuration says its settings, and then its entries one by one. -/
theorem says_entries {before : Text} {expressions : List Expression} (h : Says before expressions)
    (blocks : List BlockEntry) :
    Says (Encode.entries before blocks)
      (expressions ++ elements "blocks".toList
        (blocks.map fun entry => settings (entryItems entry))) := by
  induction blocks generalizing before expressions with
  | nil => simpa [Encode.entries, elements] using h
  | cons first blocks ih =>
    have hbefore : Says (if before.isEmpty then [] else before ++ ['\n']) expressions := by
      split
      · next hempty =>
        rw [List.isEmpty_iff.1 hempty] at h
        exact h
      · simpa using h.append says_blank
    simpa [Encode.entries, elements] using ih (hbefore.append (says_entry first))

theorem says_write (config : Config) :
    Says config.write (assignments (settings (topItems config)) ++
      elements "blocks".toList (config.blocks.map fun entry => settings (entryItems entry))) := by
  have hnone : Says [] ([] ++ assignments (settings [])) := says_nil
  have htop := hnone
    |>.append_setting (says_path "base_dir" (by decide) config.baseDir)
    |>.append_setting (says_text "extension" (by decide) config.extension)
    |>.append_setting (says_setting spells_natural "self_close_skip" (by decide)
      config.selfCloseSkip)
  have hwhole := says_entries htop config.blocks
  rw [List.nil_append, List.nil_append] at hwhole
  exact hwhole

/-! ### The text has no byte order mark -/

theorem dropMark_eq_self {text : Text} (h : ∀ c, text.head? = some c → c.toNat < 128) :
    dropMark text = text := by
  cases text with
  | nil => rfl
  | cons c text =>
    have hc := h c rfl
    exact if_neg (by omega)

theorem head?_append_lt {text more : Text} (htext : ∀ c, text.head? = some c → c.toNat < 128)
    (hmore : ∀ c, more.head? = some c → c.toNat < 128) :
    ∀ c, (text ++ more).head? = some c → c.toNat < 128 := by
  cases text with
  | nil => exact hmore
  | cons d text => exact htext

theorem head?_line_lt {α : Type} (write : α → Text) {key : String}
    (hkey : key.toList ∈ Decode.entryKeys ++ Decode.configKeys) (value : Option α) :
    ∀ c, (Encode.optional (fun a => Encode.line key (write a)) value).head? = some c →
      c.toNat < 128 := by
  have hascii : ∀ key ∈ Decode.entryKeys ++ Decode.configKeys, key ≠ [] ∧
      key.Forall fun c => c.toNat < 128 := by decide
  obtain ⟨hne, hkey⟩ := hascii _ hkey
  intro c hc
  cases value with
  | none => cases hc
  | some a =>
    simp only [Encode.optional, Encode.line, List.append_assoc] at hc
    rw [List.head?_append_of_ne_nil _ hne] at hc
    exact List.forall_iff_forall_mem.1 hkey c (List.mem_of_mem_head? hc)

theorem head?_entry (entry : BlockEntry) : (Encode.entry entry).head? = some '[' := by
  have hheader : "[[blocks]]\n".toList = '[' :: "[blocks]]\n".toList := by decide
  unfold Encode.entry
  rw [hheader]
  simp only [List.cons_append, List.head?_cons]

theorem head?_entries_lt {before : Text} (h : ∀ c, before.head? = some c → c.toNat < 128)
    (blocks : List BlockEntry) :
    ∀ c, (Encode.entries before blocks).head? = some c → c.toNat < 128 := by
  induction blocks generalizing before with
  | nil => exact h
  | cons first blocks ih =>
    refine ih (head?_append_lt ?_ ?_)
    · split
      · simp
      · exact head?_append_lt h (by simp)
    · intro c hc
      rw [head?_entry, Option.some.injEq] at hc
      rw [← hc]
      decide

theorem dropMark_write (config : Config) : dropMark config.write = config.write := by
  have hbase := @head?_line_lt Path (fun path => writeString path.spelling) "base_dir" (by decide)
    config.baseDir
  have hextension := @head?_line_lt Text writeString "extension" (by decide) config.extension
  have hskip := @head?_line_lt Nat Text.ofNat "self_close_skip" (by decide) config.selfCloseSkip
  exact dropMark_eq_self
    (head?_entries_lt (head?_append_lt (head?_append_lt hbase hextension) hskip) config.blocks)

/-! ### The table describes the configuration -/

theorem optional?_map {α : Type} {encode : α → Value} {decode : Value → Option α}
    (h : ∀ a, decode (encode a) = some a) (value : Option α) :
    Decode.optional? decode (value.map encode) = some value := by
  cases value with
  | none => rfl
  | some a => simp [Decode.optional?, h a]

theorem skipUnknown?_settings {known : List Text} {items : List (String × Option Value)}
    (h : ∀ item ∈ items, item.1.toList ∈ known) :
    Decode.skipUnknown? known (settings items) = some () := by
  have hnone : (settings items).filter (fun entry => !known.contains entry.1) = [] := by
    rw [List.filter_eq_nil_iff]
    intro entry hentry
    obtain ⟨item, hitem, hvalue⟩ := List.mem_filterMap.1 hentry
    obtain ⟨value, -, rfl⟩ := Option.map_eq_some_iff.1 hvalue
    simpa using h item hitem
  rw [Decode.skipUnknown?, hnone]
  rfl

theorem ofName?_name (kind : EntryKind) : EntryKind.ofName? kind.name = some kind := by
  cases kind <;> decide

theorem entryOf?_items {get : Text → Option Value} {entry : BlockEntry}
    (h : ∀ item ∈ entryItems entry, get item.1.toList = item.2) :
    Decode.entryOf? get = some entry := by
  have htext := @optional?_map Text .string Decode.text? fun _ => rfl
  have hbool := @optional?_map Bool .boolean Decode.bool? fun _ => rfl
  have hchar := @optional?_map Char (fun c => .string [c]) Decode.char? fun _ => rfl
  have hpath := @optional?_map Path (fun path => .string path.spelling) Decode.path? fun _ => rfl
  simp only [entryItems, List.forall_mem_cons] at h
  obtain ⟨hname, hkind, hopen, hclose, hescape, hcase, heof, hforbid, himmediate, hbase,
    hextension, hsub, -⟩ := h
  simp only [Decode.entryOf?, hname, hkind, hopen, hclose, hescape, hcase, heof, hforbid,
    himmediate, hbase, hextension, hsub, htext, hbool, hchar, hpath, Decode.text?, Decode.kind?,
    ofName?_name, Option.bind_eq_bind, Option.bind_some, Option.pure_def]

theorem decode_entry (entry : BlockEntry) :
    Decode.entry? (.table (settings (entryItems entry))) = some entry := by
  have hskip : Decode.skipUnknown? Decode.entryKeys (settings (entryItems entry)) = some () :=
    skipUnknown?_settings fun item hitem => keys_entryItems entry ▸ List.mem_map_of_mem hitem
  have hfound := entryOf?_items fun item hitem => get?_settings (nodup_entryItems entry) hitem
  simp [Decode.entry?, hskip, hfound]

theorem decode_entries (entries : List BlockEntry) :
    Decode.entries? (.array (entries.map fun entry => .table (settings (entryItems entry)))) =
      some entries := by
  induction entries with
  | nil => rfl
  | cons entry entries ih =>
    simp only [Decode.entries?] at ih ⊢
    simp [decode_entry, ih]

/-- A number that fits a machine word is read back. -/
theorem optional?_offset? {value : Option Nat} (h : ∀ n, value = some n → n < offsetLimit) :
    Decode.optional? Decode.offset? (value.map fun n : Nat => .integer (some n)) = some value := by
  cases value with
  | none => rfl
  | some n =>
    have hn := h n rfl
    simp [Decode.optional?, Decode.offset?, hn]

theorem ofTable?_table {config : Config}
    (h : ∀ n, config.selfCloseSkip = some n → n < offsetLimit) :
    ofTable? config.table = some { config with sourcePath := none } := by
  have hskip : Decode.skipUnknown? Decode.configKeys config.table = some () :=
    skipUnknown?_settings fun item hitem => keys_items config ▸ List.mem_map_of_mem hitem
  have hget : ∀ item ∈ topItems config ++ [blocksItem config],
      config.table.get? item.1.toList = item.2 :=
    fun item hitem => get?_settings (nodup_items config) hitem
  simp only [topItems, blocksItem, List.cons_append, List.nil_append, List.forall_mem_cons] at hget
  obtain ⟨hbase, hextension, hclose, hblocks, -⟩ := hget
  have htext := @optional?_map Text .string Decode.text? fun _ => rfl
  have hpath := @optional?_map Path (fun path => .string path.spelling) Decode.path? fun _ => rfl
  have hentries : ∃ entries, Decode.optional? Decode.entries? (config.table.get? "blocks".toList) =
      some entries ∧ entries.getD [] = config.blocks := by
    rw [hblocks]
    split
    · next hnone => exact ⟨none, rfl, hnone.symm⟩
    · exact ⟨some config.blocks, by simp [Decode.optional?, decode_entries], rfl⟩
  obtain ⟨entries, hentries, hsame⟩ := hentries
  simp only [ofTable?, hskip, hbase, hextension, hclose, hentries, htext, hpath,
    optional?_offset? h, hsame, Option.bind_eq_bind, Option.bind_some, Option.pure_def]

theorem read_write (config : Config) : Toml.read config.write = some config.table := by
  have hitems := nodup_items config
  rw [List.map_append, List.nodup_append'] at hitems
  obtain ⟨htop, -, hdisjoint⟩ := hitems
  have hkey : "blocks".toList ∉ (settings (topItems config)).map Prod.fst := fun hmem =>
    hdisjoint ((keys_settings_sublist _).subset hmem) (List.mem_singleton.2 rfl)
  have hkeys : ∀ entry, ((settings (entryItems entry)).map Prod.fst).Nodup := fun entry =>
    (keys_settings_sublist _).nodup (nodup_entryItems entry)
  rw [(says_write config).read (dropMark_write config),
    assemble_written ((keys_settings_sublist _).nodup htop) hkey]
  · rw [table, settings_append]
    by_cases hnone : config.blocks = []
    · simp [hnone, blocksItem, settings]
    · simp [hnone, blocksItem, settings]
  · intro table htable
    obtain ⟨entry, -, rfl⟩ := List.mem_map.1 htable
    exact hkeys entry

/-- The text of a configuration describes it. -/
theorem ofText?_write {config : Config} (h : ∀ n, config.selfCloseSkip = some n → n < offsetLimit) :
    ofText? config.write = some { config with sourcePath := none } := by
  rw [ofText?, read_write, Option.bind_eq_bind, Option.bind_some, ofTable?_table h]

/-! ### Paths without variables -/

end Config

namespace Expansion

theorem substituteWithin_of_not_mem (env : Environment) {text : Text} {limit : Nat}
    (h : '$' ∉ text) (hlimit : text.length < limit) :
    substituteWithin env limit text = some text := by
  induction text generalizing limit with
  | nil =>
    cases limit with
    | zero => cases hlimit
    | succ limit => rfl
  | cons c text ih =>
    obtain ⟨hc, htext⟩ : c ≠ '$' ∧ '$' ∉ text := by simpa [eq_comm] using h
    cases limit with
    | zero => cases hlimit
    | succ limit => simp [substituteWithin, hc, ih htext (Nat.lt_of_succ_lt_succ hlimit)]

theorem tilde_of_head? (env : Environment) {text : Text} (h : text.head? ≠ some '~') :
    tilde env text = text := by
  unfold tilde
  split
  · simp at h
  · rfl

end Expansion

/-- The path holds no dollar sign, and no tilde at its start. -/
def Path.Plain (path : Path) : Prop := '$' ∉ path.spelling ∧ path.spelling.head? ≠ some '~'

instance (path : Path) : Decidable path.Plain := inferInstanceAs (Decidable (_ ∧ _))

theorem Path.expand_plain (env : Environment) {path : Path} (h : path.Plain) :
    path.expand env = path := by
  obtain ⟨hvariable, hhome⟩ := h
  have hsubstitute := Expansion.substituteWithin_of_not_mem env hvariable (Nat.lt_succ_self _)
  simp [expand, Expansion.expand?, Expansion.substitute, hsubstitute, hhome,
    Expansion.tilde_of_head? env hhome]

namespace Config

/-- The paths that a configuration holds. -/
def paths (config : Config) : List Path :=
  config.baseDir.toList ++
    config.blocks.flatMap fun entry => entry.baseDir.toList ++ entry.subinterpreter.toList

theorem map_expand_plain (env : Environment) {value : Option Path}
    (h : ∀ path ∈ value, path.Plain) : value.map (Path.expand env) = value := by
  cases value with
  | none => rfl
  | some path => rw [Option.map_some, Path.expand_plain env (h path rfl)]

theorem expandPaths_plain (env : Environment) {config : Config}
    (h : ∀ path ∈ config.paths, path.Plain) : config.expandPaths env = config := by
  have hbase : config.baseDir.map (Path.expand env) = config.baseDir :=
    map_expand_plain env fun path hpath =>
      h path (List.mem_append_left _ (Option.mem_toList.2 hpath))
  have hentries : ∀ entry ∈ config.blocks,
      { entry with
        baseDir := entry.baseDir.map (Path.expand env)
        subinterpreter := entry.subinterpreter.map (Path.expand env) } = entry := by
    intro entry hentry
    have hown : ∀ path ∈ entry.baseDir.toList ++ entry.subinterpreter.toList, path.Plain :=
      fun path hpath => h path (List.mem_append_right _ (List.mem_flatMap.2 ⟨entry, hentry, hpath⟩))
    rw [map_expand_plain env fun path hpath => hown path (by simp [Option.mem_toList.2 hpath]),
      map_expand_plain env fun path hpath => hown path (by simp [Option.mem_toList.2 hpath])]
  rw [expandPaths, hbase, List.map_congr_left hentries, List.map_id']

/-! ### Saving and loading -/

theorem write_of_save {disk : Disk} {path : Path} {config : Config} {text : Text}
    (h : (config.save disk path).2 = .ok text) :
    ∃ ready : Disk, ready.write path config.write = .ok (config.save disk path).1 := by
  unfold save at h ⊢
  split at h
  next ready made _ =>
  cases made with
  | error cause => cases h
  | ok =>
    dsimp only at h ⊢
    cases hwrite : ready.write path config.write with
    | error cause =>
      rw [hwrite] at h
      cases h
    | ok written => exact ⟨ready, hwrite⟩

/-- A configuration that was saved is the one that is loaded from the same path. -/
theorem load_of_save (env : Environment) {disk : Disk} {path : Path} {config : Config} {text : Text}
    (hskip : ∀ n ∈ config.selfCloseSkip, n ≤ 2 ^ 63 - 1)
    (hpaths : ∀ path ∈ config.paths, path.Plain)
    (hsave : (config.save disk path).2 = .ok text) :
    load env (config.save disk path).1 path =
      .ok (some { config with sourcePath := some path }) := by
  have htext : ofText? config.write = some { config with sourcePath := none } :=
    ofText?_write fun n hn => by
      have := hskip n hn
      simp only [offsetLimit]
      omega
  obtain ⟨ready, hwrite⟩ := write_of_save hsave
  obtain ⟨hexists, hread⟩ := Disk.read_of_write hwrite
  have hplain : ({ config with sourcePath := none } : Config).expandPaths env =
      { config with sourcePath := none } := expandPaths_plain env hpaths
  simp [load, hexists, hread, htext, hplain]

/-- A configuration whose texts need every way of quoting. -/
def sampleQuoted : Config where
  baseDir := some ⟨"chapters/it's \"here\"".toList⟩
  extension := some "\\.tex\x7f".toList
  selfCloseSkip := some (2 ^ 63 - 1)
  blocks := [
    { name := "\"\"\" it's\n\n''' \x00".toList, kind := .inclusion, openTag := "\\in\x7b".toList,
      closeTag := some "\r\n".toList, escape := some '\\', caseSensitive := some true,
      baseDir := some ⟨"C:\\é 本".toList⟩, extension := some [],
      subinterpreter := some ⟨"../sub.toml".toList⟩ },
    { name := [], kind := .comment, openTag := "%".toList, forbidNewOpenings := some false }]

theorem sampleQuoted_load_of_save :
    (sampleQuoted.save (Disk.empty ["w".toList]) ⟨"a/b.toml".toList⟩).2 = .ok sampleQuoted.write ∧
      load ⟨[], none⟩ (sampleQuoted.save (Disk.empty ["w".toList]) ⟨"a/b.toml".toList⟩).1
          ⟨"a/b.toml".toList⟩ =
        .ok (some { sampleQuoted with sourcePath := some ⟨"a/b.toml".toList⟩ }) := by
  have hsave : (sampleQuoted.save (Disk.empty ["w".toList]) ⟨"a/b.toml".toList⟩).2 =
      .ok sampleQuoted.write := by
    decide +kernel
  exact ⟨hsave, load_of_save _ (by decide) (by decide) hsave⟩

end Config

end Blockwise
