import Modeset.Config.Record
import Modeset.Toml.Document

/-!
# Configuration files

The text of a configuration file: settings one a line, then a table for each output. A sample with
comments shows every setting at its default.

## Main definitions

* `Config.document?` — the text of a configuration
* `Config.ofDocument?` — the configuration that a text describes
* `Config.sample` — the text of a commented file that gives the defaults
-/

namespace Modeset

/-- The lines that describe the hardware of one output. -/
def OutputConfig.section (name : String) (output : OutputConfig) : List Char :=
  s!"[{name}]\nconnector = ".toList ++ Toml.Quoted.write output.connector.key.toList ++
    "\nencoder = ".toList ++ Toml.Quoted.write output.encoder.key.toList ++ ['\n']

namespace Config

/-- The text of a configuration, unless the bytes of its device path are no text. -/
def document? (config : Config) : Option (List Char) :=
  config.devicePath.text?.map fun path =>
    "device_path = ".toList ++ Toml.Quoted.write path ++
      s!"\nframebuffer_depth = {config.framebufferDepth}\n".toList ++
      s!"framebuffer_bpp = {config.framebufferBpp}\n".toList ++
      s!"power_control = {config.powerControl}\n\n".toList ++
      config.primary.section "primary" ++ ['\n'] ++ config.external.section "external"

/-- The configuration that a text describes. -/
def ofDocument? (text : List Char) : Option Config :=
  (Toml.Document.parse? text).bind (ofDatum? Toml.dialect)

/-- A commented configuration file that gives every setting its default. -/
def sample : String :=
"# Krypton Configuration

# DRM device node
device_path = \"/dev/dri/card0\"

# Framebuffer format used for mode-set buffers
framebuffer_depth = 24
framebuffer_bpp = 32

# Allow DPMS on/off through the connector \"DPMS\" property.
# Off by default: not validated on all hardware.
power_control = false

# Connector types: vga, dvi-i, dvi-d, dvi-a, composite, svideo, lvds,
#   component, din, dp, hdmi-a, hdmi-b, tv, edp, virtual, dsi, dpi
# Encoder types: none, dac, tmds, lvds, tvdac, virtual, dsi, dp-mst, dpi

[primary]
connector = \"edp\"
encoder = \"tmds\"

[external]
connector = \"hdmi-a\"
encoder = \"tmds\"
"

end Config

end Modeset
