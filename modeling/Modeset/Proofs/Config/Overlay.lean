import Mathlib.Data.List.Nodup
import Modeset.Config.Record
import Modeset.Toml.Document

/-!
# Configurations are overlays on the defaults

What a table means as a configuration, said by the entries that it has: a known setting that is
given takes the value that its datum spells, and any other keeps its default. Neither the order of
the entries nor those under unknown names come into this, and a table has a meaning exactly if every
known setting in it is well formed. Reading a table finds this meaning, and fails if there is none.

## Main definitions

* `Datum.Sets` — the value that a table gives to a setting
* `Datum.SameUnder` — two tables that have the same under some names
* `Config.Tabular` — tables whose outputs are tables that name their kinds by texts
* `Config.Overlays`, `Config.WellFormed` — what a table means, and whether it means anything

## Main results

* `Datum.optional_lookup?_eq_some_iff` — a setting is read as what the table sets it to
* `Config.overlays_of_same` — the meaning depends only on the known settings
* `Config.exists_overlays_iff` — there is a meaning if every known setting is well formed
* `Config.ofDatum?_overlays` — reading a table finds what it means
-/

namespace Modeset

namespace Datum

/-- No two entries of a table are under one key. -/
def Distinct (entries : List (String × Datum)) : Prop := (entries.map (·.1)).Nodup

variable {entries entries' : List (String × Datum)} {key : String} {datum : Datum}

/-- Nothing is found under a key that no entry has. -/
theorem lookup?_eq_none_iff : lookup? entries key = none ↔ ∀ datum, (key, datum) ∉ entries := by
  rw [lookup?, Option.map_eq_none_iff, List.find?_eq_none]
  constructor
  · intro others datum member
    exact others _ member (by simp)
  · rintro others ⟨other, datum⟩ member same
    obtain rfl : other = key := by simpa using same
    exact others datum member

/-- If keys are distinct, what is found under a key is what an entry has there. -/
theorem lookup?_eq_some_iff (distinct : Distinct entries) :
    lookup? entries key = some datum ↔ (key, datum) ∈ entries := by
  constructor
  · intro found
    obtain ⟨⟨other, _⟩, first, rfl⟩ := Option.map_eq_some_iff.mp found
    obtain rfl : other = key := by simpa using List.find?_some first
    exact List.mem_of_find?_eq_some first
  · intro member
    cases found : lookup? entries key with
    | none => exact absurd member (lookup?_eq_none_iff.mp found datum)
    | some other =>
      obtain ⟨⟨name, _⟩, first, rfl⟩ := Option.map_eq_some_iff.mp found
      obtain rfl : name = key := by simpa using List.find?_some first
      have same := List.inj_on_of_nodup_map distinct (List.mem_of_find?_eq_some first) member rfl
      rw [same]

section Sets

variable {α : Type} {Spells : Datum → α → Prop} {read : Datum → Option α} {default value : α}

/-- The value that a table gives to the setting `key`: the default if it has no entry there, and
otherwise what this entry spells. -/
inductive Sets (Spells : Datum → α → Prop) (entries : List (String × Datum)) (key : String)
    (default : α) : α → Prop
  | kept (missing : ∀ datum, (key, datum) ∉ entries) : Sets Spells entries key default default
  | replaced {datum : Datum} {value : α} (given : (key, datum) ∈ entries)
      (spelled : Spells datum value) : Sets Spells entries key default value

/-- A setting that need not be given is read as what the table sets it to, if each datum there is
read as what it spells. -/
theorem optional_lookup?_eq_some_iff (distinct : Distinct entries)
    (reads : ∀ datum, (key, datum) ∈ entries →
      ∀ value, read datum = some value ↔ Spells datum value) :
    optional default read (lookup? entries key) = some value ↔
      Sets Spells entries key default value := by
  cases found : lookup? entries key with
  | none =>
    have missing := lookup?_eq_none_iff.mp found
    constructor
    · rintro ⟨⟩
      exact .kept missing
    · intro sets
      cases sets with
      | kept => rfl
      | replaced given => exact absurd given (missing _)
  | some datum =>
    have given := (lookup?_eq_some_iff distinct).mp found
    constructor
    · intro spelled
      exact .replaced given ((reads datum given value).mp spelled)
    · intro sets
      cases sets with
      | kept missing => exact absurd given (missing datum)
      | replaced given' spelled =>
        obtain rfl := Option.some.inj (found.symm.trans ((lookup?_eq_some_iff distinct).mpr given'))
        exact (reads _ given value).mpr spelled

/-- A table gives some value to a setting if the datum there, if any, spells one. -/
theorem exists_sets_iff (distinct : Distinct entries) :
    (∃ value, Sets Spells entries key default value) ↔
      ∀ datum, (key, datum) ∈ entries → ∃ value, Spells datum value := by
  constructor
  · rintro ⟨value, sets⟩ datum given
    cases sets with
    | kept missing => exact absurd given (missing datum)
    | replaced given' spelled =>
      -- There is one entry under the key, so the datum that spells the value is this one.
      obtain rfl : datum = _ := (Prod.mk.inj (List.inj_on_of_nodup_map distinct given given' rfl)).2
      exact ⟨value, spelled⟩
  · intro spelled
    by_cases given : ∃ datum, (key, datum) ∈ entries
    · obtain ⟨datum, given⟩ := given
      obtain ⟨value, spelled⟩ := spelled datum given
      exact ⟨value, .replaced given spelled⟩
    · exact ⟨default, .kept (not_exists.mp given)⟩

end Sets

section SameUnder

variable {names : List String} {same : Datum → Datum → Prop}

/-- Two tables have the same under these names, up to `same`. What else they have, and in which
order, does not matter. -/
def SameUnder (names : List String) (same : Datum → Datum → Prop)
    (entries entries' : List (String × Datum)) : Prop :=
  ∀ name ∈ names,
    (∀ datum, (name, datum) ∈ entries → ∃ datum', (name, datum') ∈ entries' ∧ same datum datum') ∧
      ∀ datum', (name, datum') ∈ entries' → ∃ datum, (name, datum) ∈ entries ∧ same datum datum'

/-- Entries may be put into any other order. -/
theorem SameUnder.of_perm (refl : ∀ datum, same datum datum) (perm : entries.Perm entries') :
    SameUnder names same entries entries' := fun _ _ =>
  ⟨fun datum given => ⟨datum, perm.mem_iff.mp given, refl datum⟩,
    fun datum given => ⟨datum, perm.mem_iff.mpr given, refl datum⟩⟩

/-- Entries may be added under any other name. -/
theorem SameUnder.cons (refl : ∀ datum, same datum datum) (unknown : key ∉ names) (datum : Datum) :
    SameUnder names same entries ((key, datum) :: entries) := by
  intro name known
  refine ⟨fun given present => ⟨given, List.mem_cons_of_mem _ present, refl given⟩, ?_⟩
  intro given present
  rcases List.mem_cons.mp present with first | present
  · obtain ⟨rfl, -⟩ := Prod.mk.inj first
    exact absurd known unknown
  · exact ⟨given, present, refl given⟩

theorem SameUnder.symm (symmetric : ∀ {datum datum'}, same datum datum' → same datum' datum)
    (alike : SameUnder names same entries entries') : SameUnder names same entries' entries := by
  intro name known
  obtain ⟨forth, back⟩ := alike name known
  constructor
  · intro datum given
    obtain ⟨datum', given', same'⟩ := back datum given
    exact ⟨datum', given', symmetric same'⟩
  · intro datum' given'
    obtain ⟨datum, given, same'⟩ := forth datum' given'
    exact ⟨datum, given, symmetric same'⟩

/-- Tables that have the same under a name set it to the same values. -/
theorem SameUnder.sets {α : Type} {Spells : Datum → α → Prop} {default value : α}
    (alike : SameUnder names same entries entries') (known : key ∈ names)
    (keeps : ∀ {datum datum'}, same datum datum' → Spells datum value → Spells datum' value)
    (sets : Sets Spells entries key default value) : Sets Spells entries' key default value := by
  cases sets with
  | kept missing =>
    refine .kept fun datum given => ?_
    obtain ⟨datum', given', -⟩ := (alike key known).2 datum given
    exact missing datum' given'
  | replaced given spelled =>
    obtain ⟨datum', given', same'⟩ := (alike key known).1 _ given
    exact .replaced given' (keeps same' spelled)

end SameUnder

/-! ### What single data spell -/

/-- A path is spelled by its text. -/
inductive SpellsPath : Datum → Path → Prop
  | text (path : String) : SpellsPath (.text path) (.ofString path)

/-- A number of 32 bits is spelled by an integer. -/
inductive SpellsWord : Datum → UInt32 → Prop
  | integer (n : UInt32) : SpellsWord (.integer n.toNat) n

/-- A truth value is spelled by itself. -/
inductive SpellsFlag : Datum → Bool → Prop
  | boolean (value : Bool) : SpellsFlag (.boolean value) value

theorem text?_map_ofString_eq_some_iff {path : Path} :
    datum.text?.map Path.ofString = some path ↔ SpellsPath datum path := by
  constructor
  · intro read
    cases datum with
    | text value =>
      obtain rfl : Path.ofString value = path := by simpa [text?] using read
      exact .text value
    | _ => simp [text?] at read
  · rintro ⟨⟩
    rfl

theorem word?_eq_some_iff {n : UInt32} : datum.word? = some n ↔ SpellsWord datum n := by
  constructor
  · intro read
    unfold word? at read
    split at read
    · rename_i value
      split at read
      · rename_i small
        obtain rfl := Option.some.inj read
        have exactly : value.toUInt32.toNat = value := UInt32.toNat_ofNat_of_lt' small
        have spelled := SpellsWord.integer value.toUInt32
        rwa [exactly] at spelled
      · cases read
    · cases read
  · rintro ⟨⟩
    show (if n.toNat < UInt32.size then some n.toNat.toUInt32 else none) = some n
    rw [if_pos n.toNat_lt_size]
    simp

theorem boolean?_eq_some_iff {value : Bool} :
    datum.boolean? = some value ↔ SpellsFlag datum value := by
  constructor
  · intro read
    cases datum with
    | boolean given =>
      obtain rfl : given = value := by simpa [boolean?] using read
      exact .boolean given
    | _ => simp [boolean?] at read
  · rintro ⟨⟩
    rfl

end Datum

open Datum

/-- The kinds have different names. -/
theorem ConnectorKind.ofKey?_eq_some_iff {text : String} {kind : ConnectorKind} :
    ofKey? text = some kind ↔ text = kind.key := by
  constructor
  · intro found
    simpa [eq_comm] using List.find?_some found
  · rintro rfl
    exact ofKey?_key kind

/-- The kinds have different names. -/
theorem EncoderKind.ofKey?_eq_some_iff {text : String} {kind : EncoderKind} :
    ofKey? text = some kind ↔ text = kind.key := by
  constructor
  · intro found
    simpa [eq_comm] using List.find?_some found
  · rintro rfl
    exact ofKey?_key kind

namespace OutputConfig

variable {inner : List (String × Datum)} {datum datum' : Datum} {output : OutputConfig}

/-- The hardware of an output is spelled by a table with the names of both its kinds. -/
inductive Spells : Datum → OutputConfig → Prop
  | table {inner : List (String × Datum)} {output : OutputConfig}
      (connector : ("connector", .text output.connector.key) ∈ inner)
      (encoder : ("encoder", .text output.encoder.key) ∈ inner) : Spells (.table inner) output

/-- A table, with no key in it twice and texts for the kinds that are given. -/
inductive Tabular : Datum → Prop
  | table {inner : List (String × Datum)} (distinct : Distinct inner)
      (texts : ∀ name ∈ names, ∀ kind, (name, kind) ∈ inner → ∃ text, kind = .text text) :
      Tabular (.table inner)

/-- The same datum, or two tables with the same kinds. -/
inductive Same : Datum → Datum → Prop
  | refl (datum : Datum) : Same datum datum
  | table {inner inner' : List (String × Datum)} (alike : SameUnder names Eq inner inner') :
      Same (.table inner) (.table inner')

theorem Same.symm (same : Same datum datum') : Same datum' datum := by
  cases same with
  | refl => exact .refl datum
  | table alike => exact .table (alike.symm Eq.symm)

/-- The same data spell the same output. -/
theorem Same.spells (same : Same datum datum') (spelled : Spells datum output) :
    Spells datum' output := by
  cases same with
  | refl => exact spelled
  | table alike =>
    obtain ⟨connector, encoder⟩ := spelled
    obtain ⟨_, connector, rfl⟩ := (alike "connector" (by decide)).1 _ connector
    obtain ⟨_, encoder, rfl⟩ := (alike "encoder" (by decide)).1 _ encoder
    exact .table connector encoder

/-- What no table spells is spelled by the same datum only. -/
theorem Same.keeps {α : Type} {Single : Datum → α → Prop} {value : α}
    (single : ∀ inner, ¬ Single (.table inner) value) (same : Same datum datum')
    (spelled : Single datum value) : Single datum' value := by
  cases same with
  | refl => exact spelled
  | table => exact absurd spelled (single _)

/-- A setting that must be given, as a text, is read as what has this text for its name. -/
theorem required_lookup?_eq_some_iff {α : Type} {name : α → String} {read : Datum → Option α}
    (reads : ∀ {text value}, read (.text text) = some value ↔ text = name value)
    (distinct : Distinct inner) {key : String}
    (texts : ∀ datum, (key, datum) ∈ inner → ∃ text, datum = .text text) {value : α} :
    required read (lookup? inner key) = some value ↔ (key, .text (name value)) ∈ inner := by
  rw [← lookup?_eq_some_iff distinct]
  cases found : lookup? inner key with
  | none => simp [required]
  | some datum =>
    obtain ⟨text, rfl⟩ := texts datum ((lookup?_eq_some_iff distinct).mp found)
    simp [required, reads]

/-- An output is read from a table that spells it. -/
theorem ofDatum?_eq_some_iff {dialect : Dialect} (tabular : Tabular datum) :
    ofDatum? dialect datum = some output ↔ Spells datum output := by
  obtain @⟨inner, distinct, texts⟩ := tabular
  have connector (kind : ConnectorKind) :
      required (ConnectorKind.ofDatum? dialect) (lookup? inner "connector") = some kind ↔
        ("connector", .text kind.key) ∈ inner :=
    required_lookup?_eq_some_iff ConnectorKind.ofKey?_eq_some_iff distinct
      (texts "connector" (by decide))
  have encoder (kind : EncoderKind) :
      required (EncoderKind.ofDatum? dialect) (lookup? inner "encoder") = some kind ↔
        ("encoder", .text kind.key) ∈ inner :=
    required_lookup?_eq_some_iff EncoderKind.ofKey?_eq_some_iff distinct
      (texts "encoder" (by decide))
  simp only [ofDatum?, fields?_table, names, List.map_cons, List.map_nil, Option.bind_eq_bind,
    Option.bind_some, Option.bind_eq_some_iff, Option.pure_def, Option.some.injEq, connector,
    encoder]
  constructor
  · rintro ⟨_, connector, _, encoder, rfl⟩
    exact .table connector encoder
  · rintro ⟨connector, encoder⟩
    exact ⟨_, connector, _, encoder, rfl⟩

end OutputConfig

namespace Config

variable {entries entries' : List (String × Datum)} {config : Config}

/-- A table in which no key is twice, and whose outputs, where given, are tables with texts for the
kinds that are given. Under other names it may hold anything. -/
structure Tabular (entries : List (String × Datum)) : Prop where
  distinct : Distinct entries
  primary : ∀ datum, ("primary", datum) ∈ entries → OutputConfig.Tabular datum
  external : ∀ datum, ("external", datum) ∈ entries → OutputConfig.Tabular datum

/-- Every setting that the table gives is well formed. -/
structure WellFormed (entries : List (String × Datum)) : Prop where
  devicePath : ∀ datum, ("device_path", datum) ∈ entries → ∃ path, SpellsPath datum path
  framebufferDepth : ∀ datum, ("framebuffer_depth", datum) ∈ entries → ∃ n, SpellsWord datum n
  framebufferBpp : ∀ datum, ("framebuffer_bpp", datum) ∈ entries → ∃ n, SpellsWord datum n
  powerControl : ∀ datum, ("power_control", datum) ∈ entries → ∃ value, SpellsFlag datum value
  primary : ∀ datum, ("primary", datum) ∈ entries → ∃ output, OutputConfig.Spells datum output
  external : ∀ datum, ("external", datum) ∈ entries → ∃ output, OutputConfig.Spells datum output

/-- The configuration is the default one, with exactly the settings replaced that are given. -/
structure Overlays (entries : List (String × Datum)) (config : Config) : Prop where
  devicePath : Sets SpellsPath entries "device_path" default.devicePath config.devicePath
  framebufferDepth :
    Sets SpellsWord entries "framebuffer_depth" default.framebufferDepth config.framebufferDepth
  framebufferBpp :
    Sets SpellsWord entries "framebuffer_bpp" default.framebufferBpp config.framebufferBpp
  powerControl : Sets SpellsFlag entries "power_control" default.powerControl config.powerControl
  primary : Sets OutputConfig.Spells entries "primary" default.primary config.primary
  external : Sets OutputConfig.Spells entries "external" default.external config.external

/-- Two tables have the same settings, up to what else they have and in which order, and to what
else the tables of their outputs have and in which order. -/
def SameSettings (entries entries' : List (String × Datum)) : Prop :=
  SameUnder names OutputConfig.Same entries entries'

/-- The meaning of a table depends only on its settings. -/
theorem overlays_of_same (same : SameSettings entries entries')
    (overlays : Overlays entries config) : Overlays entries' config where
  devicePath := same.sets (by decide) (OutputConfig.Same.keeps nofun) overlays.devicePath
  framebufferDepth :=
    same.sets (by decide) (OutputConfig.Same.keeps nofun) overlays.framebufferDepth
  framebufferBpp := same.sets (by decide) (OutputConfig.Same.keeps nofun) overlays.framebufferBpp
  powerControl := same.sets (by decide) (OutputConfig.Same.keeps nofun) overlays.powerControl
  primary := same.sets (by decide) OutputConfig.Same.spells overlays.primary
  external := same.sets (by decide) OutputConfig.Same.spells overlays.external

/-- A table means something if every setting in it is well formed. -/
theorem exists_overlays_iff (distinct : Distinct entries) :
    (∃ config, Overlays entries config) ↔ WellFormed entries := by
  constructor
  · rintro ⟨config, overlays⟩
    constructor
    · exact (exists_sets_iff distinct).mp ⟨_, overlays.devicePath⟩
    · exact (exists_sets_iff distinct).mp ⟨_, overlays.framebufferDepth⟩
    · exact (exists_sets_iff distinct).mp ⟨_, overlays.framebufferBpp⟩
    · exact (exists_sets_iff distinct).mp ⟨_, overlays.powerControl⟩
    · exact (exists_sets_iff distinct).mp ⟨_, overlays.primary⟩
    · exact (exists_sets_iff distinct).mp ⟨_, overlays.external⟩
  · intro wellFormed
    obtain ⟨path, devicePath⟩ := (exists_sets_iff distinct).mpr wellFormed.devicePath
    obtain ⟨depth, framebufferDepth⟩ := (exists_sets_iff distinct).mpr wellFormed.framebufferDepth
    obtain ⟨bpp, framebufferBpp⟩ := (exists_sets_iff distinct).mpr wellFormed.framebufferBpp
    obtain ⟨power, powerControl⟩ := (exists_sets_iff distinct).mpr wellFormed.powerControl
    obtain ⟨first, primary⟩ := (exists_sets_iff distinct).mpr wellFormed.primary
    obtain ⟨second, external⟩ := (exists_sets_iff distinct).mpr wellFormed.external
    exact ⟨⟨path, depth, bpp, power, first, second⟩,
      ⟨devicePath, framebufferDepth, framebufferBpp, powerControl, primary, external⟩⟩

/-- A table is read as the configuration that it means. -/
theorem ofDatum?_eq_some_iff {dialect : Dialect} (tabular : Tabular entries) :
    ofDatum? dialect (.table entries) = some config ↔ Overlays entries config := by
  have path (value : Path) :
      optional default.devicePath (·.text?.map Path.ofString) (lookup? entries "device_path") =
          some value ↔
        Sets SpellsPath entries "device_path" default.devicePath value :=
    optional_lookup?_eq_some_iff tabular.distinct fun _ _ _ => text?_map_ofString_eq_some_iff
  have word (key : String) (given value : UInt32) :
      optional given word? (lookup? entries key) = some value ↔
        Sets SpellsWord entries key given value :=
    optional_lookup?_eq_some_iff tabular.distinct fun _ _ _ => word?_eq_some_iff
  have flag (value : Bool) :
      optional default.powerControl boolean? (lookup? entries "power_control") = some value ↔
        Sets SpellsFlag entries "power_control" default.powerControl value :=
    optional_lookup?_eq_some_iff tabular.distinct fun _ _ _ => boolean?_eq_some_iff
  have hardware (key : String) (given value : OutputConfig)
      (tables : ∀ datum, (key, datum) ∈ entries → OutputConfig.Tabular datum) :
      optional given (OutputConfig.ofDatum? dialect) (lookup? entries key) = some value ↔
        Sets OutputConfig.Spells entries key given value :=
    optional_lookup?_eq_some_iff tabular.distinct fun datum present _ =>
      OutputConfig.ofDatum?_eq_some_iff (tables datum present)
  simp only [ofDatum?, fields?_table, names, List.map_cons, List.map_nil, Option.bind_eq_bind,
    Option.bind_some, Option.bind_eq_some_iff, Option.pure_def, Option.some.injEq, path, word, flag,
    hardware "primary" _ _ tabular.primary, hardware "external" _ _ tabular.external]
  constructor
  · rintro ⟨_, path, _, depth, _, bpp, _, power, _, primary, _, external, rfl⟩
    exact ⟨path, depth, bpp, power, primary, external⟩
  · rintro ⟨path, depth, bpp, power, primary, external⟩
    exact ⟨_, path, _, depth, _, bpp, _, power, _, primary, _, external, rfl⟩

/-- Reading a table succeeds exactly if every setting that it gives is well formed, and results in
the defaults with exactly these settings replaced. No other table with the same settings is read
differently, be its entries in another order or more of them under unknown names. A table that lacks
a kind in one of its outputs is not read at all. -/
theorem ofDatum?_overlays (dialect : Dialect) (tabular : Tabular entries) :
    ((∃ config, ofDatum? dialect (.table entries) = some config) ↔ WellFormed entries) ∧
      (∀ config, ofDatum? dialect (.table entries) = some config ↔ Overlays entries config) ∧
      (∀ entries', Tabular entries' → SameSettings entries entries' →
        ofDatum? dialect (.table entries') = ofDatum? dialect (.table entries)) ∧
      ∀ inner, ("primary", .table inner) ∈ entries ∨ ("external", .table inner) ∈ entries →
        ∀ kind ∈ OutputConfig.names, (∀ datum, (kind, datum) ∉ inner) →
          ofDatum? dialect (.table entries) = none := by
  have read (config : Config) :
      ofDatum? dialect (.table entries) = some config ↔ Overlays entries config :=
    ofDatum?_eq_some_iff tabular
  have reads : (∃ config, ofDatum? dialect (.table entries) = some config) ↔ WellFormed entries :=
    (exists_congr read).trans (exists_overlays_iff tabular.distinct)
  refine ⟨reads, read, ?_, ?_⟩
  · intro entries' tabular' same
    ext config
    rw [ofDatum?_eq_some_iff tabular', read]
    exact ⟨overlays_of_same (same.symm .symm), overlays_of_same same⟩
  · intro inner given kind known missing
    have unspelled (output : OutputConfig) : ¬ OutputConfig.Spells (.table inner) output := by
      rintro ⟨connector, encoder⟩
      simp only [OutputConfig.names, List.mem_cons, List.not_mem_nil, or_false] at known
      rcases known with rfl | rfl
      · exact missing _ connector
      · exact missing _ encoder
    rw [Option.eq_none_iff_forall_ne_some]
    intro config success
    have wellFormed := reads.mp ⟨config, success⟩
    obtain ⟨output, spelled⟩ : ∃ output, OutputConfig.Spells (.table inner) output := by
      rcases given with given | given
      · exact wellFormed.primary _ given
      · exact wellFormed.external _ given
    exact unspelled output spelled

/-- A table that gives two of the settings, in no particular order and among other entries. -/
def dockedTable : List (String × Datum) :=
  [("theme", .text "dark"),
    ("external", .table [("encoder", .text "tmds"), ("cable", .integer 3),
      ("connector", .text "dp")]),
    ("framebuffer_bpp", .integer 16)]

/-- The two settings are as given, the other four are the defaults. -/
theorem dockedTable_overlays :
    Tabular dockedTable ∧ ofDatum? Toml.dialect (.table dockedTable) =
      some { framebufferBpp := 16, external := ⟨.displayPort, .tmds⟩ } := by
  have tabular : Tabular dockedTable := by
    refine ⟨by simp [Distinct, dockedTable], by simp [dockedTable], ?_⟩
    rintro datum given
    obtain rfl : datum = .table _ := by simpa [dockedTable] using given
    exact .table (by simp [Distinct]) (by simp [OutputConfig.names])
  refine ⟨tabular, ((ofDatum?_overlays Toml.dialect tabular).2.1 _).mpr ?_⟩
  constructor
  · exact .kept (by simp [dockedTable])
  · exact .kept (by simp [dockedTable])
  · exact .replaced (by simp [dockedTable]) (.integer 16)
  · exact .kept (by simp [dockedTable])
  · exact .kept (by simp [dockedTable])
  · refine .replaced (List.mem_cons_of_mem _ List.mem_cons_self) (.table ?_ ?_)
    · simp [ConnectorKind.key]
    · simp [EncoderKind.key]

/-- One kind alone is refused; the default of the other is not taken. -/
example :
    ofDatum? Toml.dialect (.table [("primary", .table [("connector", .text "edp")])]) = none := rfl

end Config

end Modeset
