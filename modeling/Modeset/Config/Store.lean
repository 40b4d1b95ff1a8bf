import Modeset.Config.Document
import Modeset.Error
import Modeset.Host

/-!
# Stored configurations

Where a configuration is kept and how it is loaded and saved. A file that is not there gives the
defaults; a file that cannot be read or understood is an error.

## Main definitions

* `Config.defaultPath` — where the user's configuration is kept
* `Config.loadFrom`, `Config.load`, `Config.loadOrDefault` — load a configuration
* `Config.saveTo` — save a configuration
-/

namespace Modeset.Config

/-- Where configurations are kept in a directory of such. -/
def placeIn (directory : Path) : Path :=
  (directory.join (.ofString "krypton")).join (.ofString "config.toml")

/-- Where the user's configuration is kept: in the directory set for configurations, if that is an
absolute path, or else in the home directory, or else where the system keeps its own. -/
def defaultPath : Proc Host Path := do
  match (← Host.ask (.setting "XDG_CONFIG_HOME")).map Path.mk |>.filter Path.isAbsolute with
  | some directory => return placeIn directory
  | none =>
    match ← Host.ask (.setting "HOME") with
    | some home => return placeIn (Path.join ⟨home⟩ (.ofString ".config"))
    | none => return .ofString "/etc/krypton/config.toml"

/-- The configuration that the content of a file describes. -/
def ofContent (content : List UInt8) : Except Error Config :=
  match Utf8.decode? content with
  | none => .error (.config "Failed to read config file: stream did not contain valid UTF-8")
  | some text =>
    match ofDocument? text with
    | none => .error (.config "Failed to parse config file")
    | some config => .ok config

/-- Load a configuration from a file. -/
def loadFrom (path : Path) : Proc Host (Except Error Config) := do
  if ← Host.ask (.pathExists path) then
    match ← Host.ask (.readFile path) with
    | .error fault =>
      return .error (.config s!"Failed to read config file: {fault.message}")
    | .ok content =>
      match ofContent content with
      | .error error => return .error error
      | .ok config =>
        Proc.info .configFile s!"Loaded configuration from {path.quoted}"
        return .ok config
  else
    Proc.debug .configFile s!"Config file not found at {path.quoted}, using defaults"
    return .ok default

/-- Load the user's configuration. -/
def load : Proc Host (Except Error Config) := do
  loadFrom (← defaultPath)

/-- Load the user's configuration, or take the defaults if that fails. -/
def loadOrDefault : Proc Host Config := do
  match ← load with
  | .ok config => return config
  | .error error =>
    Proc.warn .configFile s!"Failed to load config file: {error.message}, using defaults"
    return default

/-- Make the directory that a file is to lie in, unless it is there. -/
def prepareDirectory (path : Path) : Proc Host (Except Fault Unit) := do
  match path.parent? with
  | none => return .ok ()
  | some parent =>
    if ← Host.ask (.pathExists parent) then return .ok () else Host.ask (.createDirectories parent)

/-- Save a configuration to a file. -/
def saveTo (config : Config) (path : Path) : Proc Host (Except Error Unit) := do
  match ← prepareDirectory path with
  | .error fault =>
    return .error (.config s!"Failed to create config directory: {fault.message}")
  | .ok () =>
    match config.document? with
    | none =>
      return .error
        (.config "Failed to serialize config: path contains invalid UTF-8 characters")
    | some text =>
      match ← Host.ask (.writeFile path (Utf8.encode text)) with
      | .error fault =>
        return .error (.config s!"Failed to write config file: {fault.message}")
      | .ok () =>
        Proc.info .configFile s!"Saved configuration to {path.quoted}"
        return .ok ()

end Modeset.Config
