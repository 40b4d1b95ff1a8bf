import Modeset.Config.Store
import Modeset.Proofs.Toml.Document
import Modeset.Proofs.Utf8

/-!
# Configuration files are read back

The text of a configuration is a document whose lines build the datum of the configuration, and from
this datum the configuration is read.

## Main definitions

* `Config.lines` — the lines of the text

## Main results

* `Path.eq_ofString_of_text?` — a path that is text is the path that this text spells
* `Config.ofDatum?_of_toDatum?` — a configuration is read back from its datum
* `Config.document?_eq_map` — the text of a configuration consists of its lines
* `Config.parse?_lines` — the lines are read as the datum
* `Config.ofDocument?_of_document?` — a configuration is read back from its text
-/

namespace Modeset

open Toml Toml.Document

variable {text : List Char}

/-- A path that is text is the path that this text spells. -/
theorem Path.eq_ofString_of_text? {p : Path} (spelled : p.text? = some text) :
    .ofString (String.ofList text) = p := by
  rw [Path.ofString, Utf8.bytes, String.toList_ofList, Utf8.encode_of_decode? spelled]

@[simp] theorem Path.text?_ofString (text : String) :
    (Path.ofString text).text? = some text.toList :=
  Utf8.decode?_encode text.toList

/-! ## Data -/

/-- A number of 32 bits is read back from its datum. -/
@[simp] theorem Datum.word?_ofNat (n : UInt32) : (Datum.ofNat n.toNat).word? = some n := by
  show (if n.toNat < UInt32.size then some n.toNat.toUInt32 else none) = some n
  rw [if_pos n.toNat_lt_size]
  simp

namespace OutputConfig

@[simp] theorem ofDatum?_toDatum (dialect : Dialect) (output : OutputConfig) :
    ofDatum? dialect output.toDatum = some output := by
  simp [ofDatum?, toDatum, names, Datum.lookup?, Datum.required, ConnectorKind.ofDatum?,
    ConnectorKind.toDatum, EncoderKind.ofDatum?, EncoderKind.toDatum, Datum.keyword?]

end OutputConfig

namespace Config

variable {config : Config}

/-- In every format a configuration is read back from its datum. -/
theorem ofDatum?_of_toDatum? (dialect : Dialect) {datum : Datum}
    (given : config.toDatum? = some datum) : ofDatum? dialect datum = some config := by
  obtain ⟨path, spelled, rfl⟩ := Option.map_eq_some_iff.mp given
  have path_eq := Path.eq_ofString_of_text? spelled
  simp [ofDatum?, names, Datum.lookup?, Datum.optional, Datum.boolean?, Datum.text?, path_eq]

end Config

/-! ## Lines -/

/-- The lines that describe the hardware of one output. -/
def OutputConfig.lines (name : String) (output : OutputConfig) : List Line :=
  [.header name,
    .assign "connector" (Quoted.write output.connector.key.toList) output.connector.toDatum,
    .assign "encoder" (Quoted.write output.encoder.key.toList) output.encoder.toDatum]

theorem OutputConfig.section_eq_flatMap (name : String) (output : OutputConfig) :
    output.section name = (output.lines name).flatMap Line.text := by
  simp [OutputConfig.section, lines, Line.text, toString]

theorem OutputConfig.wellFormed_lines {name : String} (bare : IsBare name.toList)
    (output : OutputConfig) : ∀ line ∈ output.lines name, line.WellFormed := by
  simp only [lines, List.forall_mem_cons]
  exact ⟨bare, ⟨by decide, reads_write_toList _⟩, ⟨by decide, reads_write_toList _⟩, by simp⟩

namespace Config

/-- The lines of the text of a configuration whose device path is the text `path`. -/
def lines (config : Config) (path : List Char) : List Line :=
  [.assign "device_path" (Quoted.write path) (.text (String.ofList path)),
    .assign "framebuffer_depth" (Nat.toDigits 10 config.framebufferDepth.toNat)
      (.ofNat config.framebufferDepth.toNat),
    .assign "framebuffer_bpp" (Nat.toDigits 10 config.framebufferBpp.toNat)
      (.ofNat config.framebufferBpp.toNat),
    .assign "power_control" (toString config.powerControl).toList (.boolean config.powerControl),
    .empty] ++
  config.primary.lines "primary" ++ .empty :: config.external.lines "external"

variable {config : Config}

/-- The text of a configuration consists of its lines. -/
theorem document?_eq_map (config : Config) :
    config.document? =
      config.devicePath.text?.map fun path => (config.lines path).flatMap Line.text := by
  unfold document?
  simp [lines, Line.text, OutputConfig.section_eq_flatMap, toString]

theorem wellFormed_lines (config : Config) (path : List Char) :
    ∀ line ∈ config.lines path, line.WellFormed := by
  have small (n : UInt32) : n.toNat ≤ Scalar.maxInteger :=
    Nat.le_of_lt (Nat.lt_of_lt_of_le n.toNat_lt_size (by decide))
  simp only [lines, List.forall_mem_append, List.forall_mem_cons, List.cons_append,
    List.nil_append]
  refine ⟨⟨by decide, reads_write path⟩, ⟨by decide, reads_toDigits (small _)⟩,
    ⟨by decide, reads_toDigits (small _)⟩, ⟨by decide, reads_boolean _⟩, trivial, ?_, trivial, ?_⟩
  · exact config.primary.wellFormed_lines (by decide)
  · exact config.external.wellFormed_lines (by decide)

/-- The lines of a configuration are read as its datum. -/
theorem parse?_lines {path : List Char} (spelled : config.devicePath.text? = some path) :
    parse? ((config.lines path).flatMap Line.text) = config.toDatum? := by
  rw [Document.parse?_lines (config.wellFormed_lines path), toDatum?, spelled]
  rfl

/-- A configuration is read back from its text. -/
theorem ofDocument?_of_document? (written : config.document? = some text) :
    ofDocument? text = some config := by
  rw [document?_eq_map] at written
  obtain ⟨path, spelled, rfl⟩ := Option.map_eq_some_iff.mp written
  obtain ⟨datum, given⟩ : ∃ datum, config.toDatum? = some datum := by simp [toDatum?, spelled]
  rw [ofDocument?, parse?_lines spelled, given]
  exact ofDatum?_of_toDatum? dialect given

/-- So it is from the bytes of a file that holds this text. -/
theorem ofContent_encode (written : config.document? = some text) :
    ofContent (Utf8.encode text) = .ok config := by
  simp only [ofContent, Utf8.decode?_encode, ofDocument?_of_document? written]

end Config

end Modeset
