import Modeset.Proofs.Config.Document
import Modeset.Proofs.Run

/-!
# Saved configurations are loaded

A file keeps what was last written to it. So a configuration that was saved to a file that can be
written is loaded from there, equal in every setting. One whose device path is no text cannot be
saved, and the attempt leaves the file as it is.

## Main definitions

* `Host.FileStep` — what a call to the host tells about a file and does to it

## Main results

* `Config.saveTo_of_text?`, `Config.loadFrom_of_content` — what is written, and what is loaded
* `Config.saveTo_loadFrom` — a saved configuration is loaded again
-/

namespace Modeset

/-- What a call does to the file at a path, whose content is `before` up to then and `after` from
then on, or `none` while there is no file. If the file is `writable`, then the calls that concern it
succeed as far as there is a file: its presence and its content are told as they are, what is
written is kept, and the directory for it can be made. Nothing is known about the file after another
path was written to, which may lead to the same place. -/
def Host.FileStep (path : Path) (writable : Bool) (before : Option (List UInt8))
    (event : Event Host) (after : Option (List UInt8)) : Prop :=
  match event with
  | ⟨.pathExists place, answer⟩ =>
    (writable → place = path → answer = before.isSome) ∧ after = before
  | ⟨.readFile place, answer⟩ =>
    (writable → place = path → answer.toOption = before) ∧ after = before
  | ⟨.writeFile place content, answer⟩ =>
    writable → place = path → answer = .ok () ∧ after = some content
  | ⟨.createDirectories place, answer⟩ =>
    (writable → path.parent? = some place → answer = .ok ()) ∧ after = before
  | _ => after = before

namespace Config

open Host

variable {config : Config} {path : Path} {writable : Bool} {before : Option (List UInt8)}
  {text : List Char}

/-- The directory of a file that can be written is there or can be made. -/
theorem prepareDirectory_ends : (prepareDirectory path).Ends (FileStep path writable) before
    fun made after => (writable → made = .ok ()) ∧ after = before := by
  unfold prepareDirectory
  split
  · exact .done ⟨fun _ => rfl, rfl⟩
  · rename_i parent lies
    refine .call ⟨before.isSome, before, fun _ _ => rfl, rfl⟩ ?_
    rintro there _ ⟨-, rfl⟩
    cases there with
    | true => exact .done ⟨fun _ => rfl, rfl⟩
    | false =>
      refine .call ⟨.ok (), _, fun _ _ => rfl, rfl⟩ ?_
      rintro made _ ⟨success, rfl⟩
      exact .done ⟨fun sound => success sound lies, rfl⟩

/-- A configuration whose device path is text is written to a file that can be written. -/
theorem saveTo_ends (written : config.document? = some text) :
    (config.saveTo path).Ends (FileStep path true) before
      fun saved after => saved = .ok () ∧ after = some (Utf8.encode text) := by
  refine prepareDirectory_ends.bind ?_
  rintro made _ ⟨success, rfl⟩
  rw [success rfl, written]
  refine .call ⟨.ok (), _, fun _ _ => ⟨rfl, rfl⟩⟩ ?_
  intro answer after kept
  obtain ⟨rfl, rfl⟩ := kept rfl rfl
  exact .note (.done ⟨rfl, rfl⟩)

/-- Any other configuration is not saved, and no file is written for it. -/
theorem saveTo_ends_of_none (unwritten : config.document? = none) :
    (config.saveTo path).Ends (FileStep path writable) before
      fun saved after => (∃ message, saved = .error (.config message)) ∧ after = before := by
  refine prepareDirectory_ends.bind ?_
  rintro made _ ⟨-, rfl⟩
  cases made with
  | error fault => exact .done ⟨⟨_, rfl⟩, rfl⟩
  | ok =>
    rw [unwritten]
    exact .done ⟨⟨_, rfl⟩, rfl⟩

/-- From a file is loaded what its content describes. -/
theorem loadFrom_ends {content : List UInt8} (describes : ofContent content = .ok config) :
    (loadFrom path).Ends (FileStep path true) (some content)
      fun loaded after => loaded = .ok config ∧ after = some content := by
  refine .call ⟨true, _, fun _ _ => rfl, rfl⟩ ?_
  rintro there _ ⟨found, rfl⟩
  rw [found rfl rfl]
  refine .call ⟨.ok content, _, fun _ _ => rfl, rfl⟩ ?_
  rintro answer _ ⟨read, rfl⟩
  cases answer with
  | error fault => cases read rfl rfl
  | ok bytes =>
    cases read rfl rfl
    simp only [Proc.bind, describes]
    exact .note (.done ⟨rfl, rfl⟩)

/-- A configuration whose device path is text can be saved to a file that can be written, and from
then on it is loaded from there as long as the file is left alone. Any other configuration is
refused, whatever can be done with the file, and a file that was there is left as it was. -/
theorem saveTo_loadFrom (config : Config) (path : Path) (before : Option (List UInt8)) :
    ((∃ text, config.devicePath = .ofString text) →
      (config.saveTo path).Ends (FileStep path true) before fun saved after =>
        saved = .ok () ∧
          (loadFrom path).Ends (FileStep path true) after fun loaded later =>
            loaded = .ok config ∧ later = after) ∧
    ((¬ ∃ text, config.devicePath = .ofString text) → ∀ writable,
      (config.saveTo path).Ends (FileStep path writable) before fun saved after =>
        (∃ message, saved = .error (.config message)) ∧ after = before) := by
  constructor
  · rintro ⟨device, spelled⟩
    obtain ⟨text, written⟩ : ∃ text, config.document? = some text := by
      simp [document?, spelled]
    refine (saveTo_ends written).mono ?_
    rintro saved _ ⟨rfl, rfl⟩
    exact ⟨rfl, loadFrom_ends (ofContent_encode written)⟩
  · intro other writable
    refine saveTo_ends_of_none ?_
    cases spelled : config.devicePath.text? with
    | none => simp [document?, spelled]
    | some device => exact absurd ⟨_, (Path.eq_ofString_of_text? spelled).symm⟩ other

/-- A device path with quotes, a backslash, a line end and a control character is kept; one that is
a single byte of no character is refused. -/
theorem saveTo_loadFrom_odd :
    (saveTo { devicePath := .ofString "a\"'\\\n\x01" } (.ofString "k/c.toml")).Ends
        (FileStep (.ofString "k/c.toml") true) none (fun saved after =>
      saved = .ok () ∧
        (loadFrom (.ofString "k/c.toml")).Ends (FileStep (.ofString "k/c.toml") true) after
          fun loaded later =>
            loaded = .ok { devicePath := .ofString "a\"'\\\n\x01" } ∧ later = after) ∧
    (saveTo { devicePath := ⟨[0xFF]⟩ } (.ofString "k/c.toml")).Ends
        (FileStep (.ofString "k/c.toml") true) (some [0x23]) (fun saved after =>
      (∃ message, saved = .error (.config message)) ∧ after = some [0x23]) := by
  have broken : ¬ ∃ text, (⟨[0xFF]⟩ : Path) = .ofString text := by
    rintro ⟨text, spelled⟩
    have decoded := congrArg Path.text? spelled
    rw [Path.text?_ofString] at decoded
    cases decoded
  exact ⟨(saveTo_loadFrom _ _ none).1 ⟨_, rfl⟩, (saveTo_loadFrom _ _ (some [0x23])).2 broken true⟩

end Config

end Modeset
