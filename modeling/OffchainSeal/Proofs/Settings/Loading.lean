import OffchainSeal.Proofs.Command.Reading
import OffchainSeal.Proofs.Command.Status
import OffchainSeal.Proofs.Settings.Override
import OffchainSeal.Proofs.Toml.Lines

/-!
# Settings of a file

A file of settings is a document of texts in which the tables `identity`, `output` and `logging`
stand in any order, with any of their keys and with other keys and tables between them. Loading
it gives the values that are there and the default ones for those that are not, or the first
thing that is wrong with them.

* `Given.Arranged`: a document has the given values, wherever they stand.
* `Given.Breaks`: the first fault of the given values; `check_settings_of_breaks`.
* `ofEntries?_of_arranged`: the settings of a document.
* `load_arranged`: the settings of a file.
-/

namespace OffchainSeal

open Toml

/-! ## Texts of a layout -/

namespace Toml.Layout

/-- A text stands under a key of a table. -/
def Has (l : Layout) (table key s : String) : Prop :=
  ∃ ps, (table.toList, ps) ∈ l.tables ∧ (key.toList, s.toList) ∈ ps

/-- The text under a key of a table. -/
def text? (l : Layout) (table key : String) : Option String :=
  (l.tables.lookup table.toList).bind fun ps => (ps.lookup key.toList).map String.ofList

variable (l : Layout) {table key s : String}

theorem text?_eq_some_iff : l.text? table key = some s ↔ l.Has table key s := by
  have htables : (l.tables.map Prod.fst).Nodup := l.names_nodup.of_append_right
  unfold text? Has
  rw [Option.bind_eq_some_iff]
  refine exists_congr fun ps => ?_
  rw [List.lookup_eq_some_iff_mem htables]
  refine and_congr_right fun hps => ?_
  rw [Option.map_eq_some_iff]
  have hkeys := l.keys_nodup _ hps
  constructor
  · rintro ⟨cs, hcs, rfl⟩
    rw [String.toList_ofList]
    exact (List.lookup_eq_some_iff_mem hkeys).mp hcs
  · intro hmem
    exact ⟨s.toList, (List.lookup_eq_some_iff_mem hkeys).mpr hmem, String.ofList_toList⟩

/-- A table is found, unless a key in front of the first header has its name. -/
theorem lookup_entries {name : List Char} (h : name ∉ l.top.map Prod.fst) :
    l.entries.lookup name =
      (l.tables.lookup name).map fun ps => .table .header (Texts.entries ps) := by
  have htop : name ∉ l.top.entries.map Prod.fst := by rwa [Texts.map_fst_entries]
  unfold entries
  rw [List.lookup_append, List.lookup_eq_none_of_notMem htop, Option.none_or]
  exact List.lookup_map_snd (fun ps => Node.table .header (Texts.entries ps)) l.tables name

end Toml.Layout

namespace Settings

/-! ## The settings of a document -/

theorem mapM_text? {keys : List String} {slot : String → Option Node}
    {value : String → Option String} (h : ∀ key ∈ keys, text? (slot key) = some (value key)) :
    (keys.map slot).mapM text? = some (keys.map value) := by
  induction keys with
  | nil => rfl
  | cons key keys ih =>
    rw [List.map_cons, List.mapM_cons, h key List.mem_cons_self,
      ih fun k hk => h k (List.mem_cons_of_mem _ hk)]
    rfl

/-- The texts of a table are those that stand in it. -/
theorem texts?_entries (l : Layout) {table : String} (h : table.toList ∉ l.top.map Prod.fst)
    (keys : List String) :
    texts? keys (l.entries.lookup table.toList) = some (keys.map (l.text? table)) := by
  have hlookup := l.lookup_entries h
  cases htable : l.tables.lookup table.toList with
  | none =>
    rw [htable] at hlookup
    rw [hlookup]
    refine mapM_text? fun key _ => ?_
    unfold Layout.text?
    rw [htable]
    rfl
  | some ps =>
    rw [htable] at hlookup
    rw [hlookup]
    refine mapM_text? fun key _ => ?_
    unfold Layout.text? Texts.entries
    rw [htable, List.lookup_map_snd, Option.bind_some]
    cases ps.lookup key.toList <;> rfl

/-- The tables of the settings. -/
def tableNames : List String := ["identity", "output", "logging"]

/-- What a file gives: each value is a text or is missing. -/
structure Given where
  privateKey : Option String
  keyFile : Option String
  format : Option String
  level : Option String
  deriving DecidableEq, Repr

namespace Given

/-- The given values, and default ones for the format and the level. -/
def settings (g : Given) : Settings where
  identity := ⟨g.privateKey, g.keyFile⟩
  format := g.format.getD "table"
  level := g.level.getD "warn"

/-- A document has the given values and no others where settings stand. Of other tables and
keys it may have any, but none in front of the first header with the name of a table of the
settings. -/
structure Arranged (g : Given) (l : Layout) : Prop where
  privateKey : ∀ s, g.privateKey = some s ↔ l.Has "identity" "private_key" s
  keyFile : ∀ s, g.keyFile = some s ↔ l.Has "identity" "key_file" s
  format : ∀ s, g.format = some s ↔ l.Has "output" "format" s
  level : ∀ s, g.level = some s ↔ l.Has "logging" "level" s
  top : ∀ name ∈ tableNames, name.toList ∉ l.top.map Prod.fst

/-- The given values of one table. -/
def pairs (values : List (String × Option String)) : Texts :=
  values.filterMap fun v => v.2.map fun s => (v.1.toList, s.toList)

theorem mem_pairs {values : List (String × Option String)} {key s : String} :
    (key.toList, s.toList) ∈ pairs values ↔ (key, some s) ∈ values := by
  simp only [pairs, List.mem_filterMap, Option.map_eq_some_iff, Prod.mk.injEq, String.toList_inj]
  constructor
  · rintro ⟨⟨key, value⟩, hmem, s, rfl, rfl, rfl⟩
    exact hmem
  · intro hmem
    exact ⟨_, hmem, s, rfl, rfl, rfl⟩

/-- The tables of the settings, with the given value under each of their keys. -/
def groups (g : Given) : List (String × List (String × Option String)) :=
  [("identity", [("private_key", g.privateKey), ("key_file", g.keyFile)]),
    ("output", [("format", g.format)]), ("logging", [("level", g.level)])]

/-- The document of the given values and nothing else. -/
def layout (g : Given) : Layout where
  top := []
  tables := g.groups.map fun t => (t.1.toList, pairs t.2)
  names_nodup := by simp [groups]
  keys_nodup := by
    obtain ⟨key, path, format, level⟩ := g
    cases key <;> cases path <;> cases format <;> cases level <;> simp [groups, pairs]

theorem has_layout_iff {g : Given} {table key s : String} :
    g.layout.Has table key s ↔
      ∃ values, (table, values) ∈ g.groups ∧ (key, some s) ∈ values := by
  simp only [Layout.Has, layout, List.mem_map, Prod.mk.injEq, String.toList_inj]
  constructor
  · rintro ⟨_, ⟨⟨table, values⟩, hmem, rfl, rfl⟩, hkey⟩
    exact ⟨values, hmem, mem_pairs.mp hkey⟩
  · rintro ⟨values, hmem, hkey⟩
    exact ⟨_, ⟨_, hmem, rfl, rfl⟩, mem_pairs.mpr hkey⟩

/-- Whatever is given, a document has it. -/
theorem arranged_layout (g : Given) : g.Arranged g.layout where
  privateKey s := by simp [has_layout_iff, groups, @eq_comm _ (some s)]
  keyFile s := by simp [has_layout_iff, groups, @eq_comm _ (some s)]
  format s := by simp [has_layout_iff, groups, @eq_comm _ (some s)]
  level s := by simp [has_layout_iff, groups, @eq_comm _ (some s)]
  top name _ := by simp [layout]

end Given

theorem text?_eq_of_has {l : Layout} {table key : String} {value : Option String}
    (h : ∀ s, value = some s ↔ l.Has table key s) : l.text? table key = value := by
  refine Option.ext fun s => ?_
  rw [l.text?_eq_some_iff, h]

theorem ofEntries?_of_arranged {g : Given} {l : Layout} (h : g.Arranged l) :
    ofEntries? l.entries = some g.settings := by
  have hidentity := texts?_entries l (h.top "identity" (by simp [tableNames]))
    ["private_key", "key_file"]
  have houtput := texts?_entries l (h.top "output" (by simp [tableNames])) ["format"]
  have hlogging := texts?_entries l (h.top "logging" (by simp [tableNames])) ["level"]
  simp only [List.map_cons, List.map_nil, text?_eq_of_has h.privateKey,
    text?_eq_of_has h.keyFile, text?_eq_of_has h.format, text?_eq_of_has h.level]
    at hidentity houtput hlogging
  unfold ofEntries?
  rw [hidentity, houtput, hlogging]
  rfl

/-! ## The check of what a file gives -/

namespace Given

/-- The format, the level and the sources of the own key are such as they may be. -/
structure Valid (g : Given) : Prop where
  format : ∀ f, g.format = some f → f = "table" ∨ f = "json" ∨ f = "quiet"
  level : ∀ v, g.level = some v →
    v = "error" ∨ v = "warn" ∨ v = "info" ∨ v = "debug" ∨ v = "trace"
  identity : g.privateKey = none ∨ g.keyFile = none

/-- The first thing that is wrong with what is given. -/
inductive Breaks (g : Given) : Fault → Prop
  | format {f : String} : g.format = some f → f ∉ formats → Breaks g (.badFormat f)
  | level {v : String} : (∀ f, g.format = some f → f ∈ formats) → g.level = some v → v ∉ levels →
      Breaks g (.badLevel v)
  | identity {key path : String} : (∀ f, g.format = some f → f ∈ formats) →
      (∀ v, g.level = some v → v ∈ levels) → g.privateKey = some key → g.keyFile = some path →
      Breaks g .twoKeys

variable {g : Given}

theorem format_mem_iff :
    g.settings.format ∈ formats ↔ ∀ f, g.format = some f → f ∈ formats := by
  unfold settings
  cases g.format with
  | none => simp [formats]
  | some f => simp

theorem level_mem_iff : g.settings.level ∈ levels ↔ ∀ v, g.level = some v → v ∈ levels := by
  unfold settings
  cases g.level with
  | none => simp [levels]
  | some v => simp

theorem Valid.check (h : g.Valid) : g.settings.check = .ok () := by
  refine check_eq_ok_iff.mpr ⟨mem_formats_iff.mp (format_mem_iff.mpr fun f hf => ?_),
    level_mem_iff.mpr fun v hv => ?_, h.identity⟩
  · simpa [formats] using h.format f hf
  · simpa [levels] using h.level v hv

theorem Breaks.check {fault : Fault} (h : g.Breaks fault) : g.settings.check = .error fault := by
  unfold Settings.check
  cases h with
  | @format f hf hmem =>
    have hformat : g.settings.format = f := by
      unfold settings
      rw [hf]
      rfl
    rw [hformat, if_pos hmem]
  | @level v hformat hv hmem =>
    have hlevel : g.settings.level = v := by
      unfold settings
      rw [hv]
      rfl
    rw [if_neg (not_not.mpr (format_mem_iff.mpr hformat)), hlevel, if_pos hmem]
  | identity hformat hlevel hkey hpath =>
    have hboth : g.settings.identity.privateKey.isSome ∧ g.settings.identity.keyFile.isSome := by
      unfold settings
      rw [hkey, hpath]
      exact ⟨rfl, rfl⟩
    rw [if_neg (not_not.mpr (format_mem_iff.mpr hformat)),
      if_neg (not_not.mpr (level_mem_iff.mpr hlevel)), if_pos hboth]

/-- Something is wrong with what is given, unless it is valid. -/
theorem exists_breaks (h : ¬ g.Valid) : ∃ fault, g.Breaks fault := by
  by_cases hformat : ∀ f, g.format = some f → f ∈ formats
  · by_cases hlevel : ∀ v, g.level = some v → v ∈ levels
    · have hidentity : ¬ (g.privateKey = none ∨ g.keyFile = none) := by
        intro hnone
        refine h ⟨fun f hf => ?_, fun v hv => ?_, hnone⟩
        · simpa [formats] using hformat f hf
        · simpa [levels] using hlevel v hv
      obtain ⟨hkey, hpath⟩ := not_or.mp hidentity
      obtain ⟨key, hkey⟩ := Option.ne_none_iff_exists'.mp hkey
      obtain ⟨path, hpath⟩ := Option.ne_none_iff_exists'.mp hpath
      exact ⟨_, .identity hformat hlevel hkey hpath⟩
    · push Not at hlevel
      obtain ⟨v, hv, hmem⟩ := hlevel
      exact ⟨_, .level hformat hv hmem⟩
  · push Not at hformat
    obtain ⟨f, hf, hmem⟩ := hformat
    exact ⟨_, .format hf hmem⟩

end Given

/-! ## Loading a file -/

theorem ofString_arranged {g : Given} {l : Layout} {text : List Char} (hg : g.Arranged l)
    (htext : LinesForm text l.lines) :
    ofString (String.ofList text) = g.settings.check.map fun _ => g.settings := by
  unfold ofString
  rw [String.toList_ofList, l.document?_eq htext]
  dsimp only
  rw [ofEntries?_of_arranged hg]
  dsimp only
  cases g.settings.check <;> rfl

theorem load_run {σ : Type} {host : Host (StateM σ)} {path : String} {s s' : σ}
    {text : List Char} (h : (host.bytesAt path).run s = (.ok (Utf8.encode text), s')) :
    (load host path).run s = (ofString (String.ofList text), s') := by
  have hread : (host.readText path).run s = (.ok (String.ofList text), s') := by
    unfold Host.readText
    rw [StateT.run_bind, h]
    have htext : textOfBytes (Utf8.encode text) = .ok (String.ofList text) := by
      rw [← textOfBytes_encode, String.toList_ofList]
    change ((Except.ok (Utf8.encode text)).bind textOfBytes, s') = _
    rw [← htext]
    rfl
  unfold load
  rw [StateT.run_bind, hread]
  rfl

/-- Whatever is given, a document has it, and every document can be written down. From a file of
such a document, whatever the order of its tables and keys is, whatever other names it has, and
however its lines are written, the given values are loaded with the default ones for the format
and the level, if they are valid. Otherwise loading ends with the first thing that is wrong with
them. The file is never taken for one that cannot be read or is no document of settings. -/
theorem load_arranged :
    (∀ g : Given, ∃ l, g.Arranged l) ∧ (∀ l : Layout, ∃ text, LinesForm text l.lines) ∧
      ∀ (g : Given) (l : Layout) (text : List Char), g.Arranged l → LinesForm text l.lines →
        ∀ (σ : Type) (host : Host (StateM σ)) (path : String) (s s' : σ),
          (host.bytesAt path).run s = (.ok (Utf8.encode text), s') →
            (g.Valid → (load host path).run s = (.ok g.settings, s')) ∧
              (¬ g.Valid →
                ∃ fault, g.Breaks fault ∧ (load host path).run s = (.error fault, s')) ∧
              ((load host path).run s).1 ≠ .error .malformed ∧
              ∀ fault, ((load host path).run s).1 ≠ .error (.unreadable fault) := by
  refine ⟨fun g => ⟨g.layout, g.arranged_layout⟩, fun l => LinesForm.exists_of l.lines, ?_⟩
  intro g l text hg htext σ host path s s' hread
  have hload : (load host path).run s = (g.settings.check.map fun _ => g.settings, s') := by
    rw [load_run hread, ofString_arranged hg htext]
  rw [hload]
  by_cases hvalid : g.Valid
  · rw [hvalid.check]
    refine ⟨fun _ => rfl, fun hnot => absurd hvalid hnot, ?_, fun fault => ?_⟩
    · simp [Except.map]
    · simp [Except.map]
  · obtain ⟨fault, hfault⟩ := Given.exists_breaks hvalid
    rw [hfault.check]
    refine ⟨fun h => absurd h hvalid, fun _ => ⟨fault, hfault, rfl⟩, ?_, fun unread => ?_⟩
    · cases hfault <;> simp [Except.map]
    · cases hfault <;> simp [Except.map]

/-- A file with another key and another table, and with a value that is an escape. -/
theorem load_arranged_of_file :
    let text := "[x]\ny = \"\\\\\"\r\n[logging] # z\nx=\"json\"\nlevel = \"debug\""
    let host : Host (StateM Unit) :=
      { bareHost [] none with bytesAt := fun _ => return .ok (Utf8.encode text.toList) }
    (load host "x").run () = (.ok ⟨⟨none, none⟩, "table", "debug"⟩, ()) := by
  intro text host
  let l : Layout :=
    { top := []
      tables := [("x".toList, [("y".toList, "\\".toList)]),
        ("logging".toList, [("x".toList, "json".toList), ("level".toList, "debug".toList)])]
      names_nodup := by simp
      keys_nodup := by simp }
  have hnone : AreBlanks [] := areBlanks_nil
  have hblank : AreBlanks [' '] := by simp [AreBlanks]
  have htail : TailForm [] := ⟨[], [], hnone, .inl rfl, rfl⟩
  have hcomment : TailForm " # z".toList :=
    ⟨[' '], "# z".toList, hblank, .inr ⟨" z".toList, rfl, by simp⟩, rfl⟩
  have hx : KeyForm ['x'] ['x'] := .bare (by simp) (by simp [isKeyChar])
  have hy : KeyForm ['y'] ['y'] := .bare (by simp) (by simp [isKeyChar])
  have hlogging : KeyForm "logging".toList "logging".toList := .bare (by simp) (by simp [isKeyChar])
  have hlevel : KeyForm "level".toList "level".toList := .bare (by simp) (by simp [isKeyChar])
  have hescape : CharForm ['\\', '\\'] '\\' := .escaped (.short (by decide))
  have hslash : StringForm "\"\\\\\"".toList "\\".toList := ⟨_, .cons hescape .nil, rfl⟩
  have hjson : StringForm "\"json\"".toList "json".toList := .of_plain (by simp [isPlain])
  have hdebug : StringForm "\"debug\"".toList "debug".toList := .of_plain (by simp [isPlain])
  have hform : LinesForm _ _ :=
    .cons (.table hnone hnone hx hnone htail) (.lineFeed _)
      (.cons (.pair hnone hy hblank hblank hslash htail) (.carriageReturn _)
        (.cons (.table hnone hnone hlogging hnone hcomment) (.lineFeed _)
          (.cons (.pair hnone hx hnone hnone hjson htail) (.lineFeed _)
            (.cons (.pair hnone hlevel hblank hblank hdebug htail) .finished .nil))))
  have hlines : LinesForm text.toList l.lines := by
    simpa [text, l, Layout.lines, Texts.lines] using hform
  have hlevels : (⟨none, none, none, some "debug"⟩ : Given).Arranged l :=
    { privateKey := fun s => by simp [Layout.Has, l]
      keyFile := fun s => by simp [Layout.Has, l]
      format := fun s => by simp [Layout.Has, l]
      level := fun s => by
        have hs : some "debug" = some s ↔ s.toList = "debug".toList := by
          rw [String.toList_inj, Option.some_inj]
          exact eq_comm
        simpa [Layout.Has, l] using hs
      top := fun name _ => by simp [l] }
  obtain ⟨-, -, h⟩ := load_arranged
  obtain ⟨hvalid, -⟩ := h _ l text.toList hlevels hlines Unit host "x" () () rfl
  exact hvalid ⟨by simp, by simp, .inl rfl⟩

end Settings
end OffchainSeal
