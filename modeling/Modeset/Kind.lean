/-!
# Kinds of connectors and encoders

The kernel numbers the kinds of connectors, of encoders, and the states a connector can be in.
Numbers it adds later are read as the unknown kind.

## Main definitions

* `ConnectorKind`, `EncoderKind`, `Connection` — the kinds and states
* `ofNumber` — what a kernel number stands for
* `title` — the name in listings, `key` — the name in configurations
* `ofKey?` — the kind of a configuration name

## Main results

* `ConnectorKind.ofKey?_key`, `EncoderKind.ofKey?_key` — every kind is named by its key
-/

namespace Modeset

/-- What kind of socket or wiring a connector is. -/
inductive ConnectorKind
  | unknown | vga | dviI | dviD | dviA | composite | svideo | lvds | component | ninePinDin
  | displayPort | hdmiA | hdmiB | tv | edp | virtual | dsi | dpi | writeback | spi | usb
  deriving DecidableEq, Repr

namespace ConnectorKind

/-- All kinds, in the kernel's order. -/
def all : List ConnectorKind :=
  [unknown, vga, dviI, dviD, dviA, composite, svideo, lvds, component, ninePinDin, displayPort,
    hdmiA, hdmiB, tv, edp, virtual, dsi, dpi, writeback, spi, usb]

/-- The kind that a kernel number stands for. -/
def ofNumber (number : UInt32) : ConnectorKind := all.getD number.toNat unknown

/-- The name of a kind in listings, as the kernel spells it. -/
def title : ConnectorKind → String
  | unknown => "Unknown"
  | vga => "VGA"
  | dviI => "DVI-I"
  | dviD => "DVI-D"
  | dviA => "DVI-A"
  | composite => "Composite"
  | svideo => "SVIDEO"
  | lvds => "LVDS"
  | component => "Component"
  | ninePinDin => "DIN"
  | displayPort => "DP"
  | hdmiA => "HDMI-A"
  | hdmiB => "HDMI-B"
  | tv => "TV"
  | edp => "eDP"
  | virtual => "Virtual"
  | dsi => "DSI"
  | dpi => "DPI"
  | writeback => "Writeback"
  | spi => "SPI"
  | usb => "USB"

/-- The name of a kind in configurations. -/
def key : ConnectorKind → String
  | unknown => "unknown"
  | vga => "vga"
  | dviI => "dvi-i"
  | dviD => "dvi-d"
  | dviA => "dvi-a"
  | composite => "composite"
  | svideo => "svideo"
  | lvds => "lvds"
  | component => "component"
  | ninePinDin => "din"
  | displayPort => "dp"
  | hdmiA => "hdmi-a"
  | hdmiB => "hdmi-b"
  | tv => "tv"
  | edp => "edp"
  | virtual => "virtual"
  | dsi => "dsi"
  | dpi => "dpi"
  | writeback => "writeback"
  | spi => "spi"
  | usb => "usb"

/-- The kind of a configuration name, which must be spelled exactly. -/
def ofKey? (text : String) : Option ConnectorKind := all.find? (·.key = text)

@[simp] theorem ofKey?_key (kind : ConnectorKind) : ofKey? kind.key = some kind := by
  cases kind <;> rfl

end ConnectorKind

/-- What kind of signal an encoder produces. -/
inductive EncoderKind
  | unspecified | dac | tmds | lvds | tvdac | virtual | dsi | dpMst | dpi
  deriving DecidableEq, Repr

namespace EncoderKind

/-- All kinds, in the kernel's order. -/
def all : List EncoderKind := [unspecified, dac, tmds, lvds, tvdac, virtual, dsi, dpMst, dpi]

/-- The kind that a kernel number stands for. -/
def ofNumber (number : UInt32) : EncoderKind := all.getD number.toNat unspecified

/-- The name of a kind in listings. -/
def title : EncoderKind → String
  | unspecified => "None"
  | dac => "DAC"
  | tmds => "TMDS"
  | lvds => "LVDS"
  | tvdac => "TVDAC"
  | virtual => "Virtual"
  | dsi => "DSI"
  | dpMst => "DP-MST"
  | dpi => "DPI"

/-- The name of a kind in configurations. -/
def key : EncoderKind → String
  | unspecified => "none"
  | dac => "dac"
  | tmds => "tmds"
  | lvds => "lvds"
  | tvdac => "tvdac"
  | virtual => "virtual"
  | dsi => "dsi"
  | dpMst => "dp-mst"
  | dpi => "dpi"

/-- The kind of a configuration name, which must be spelled exactly. -/
def ofKey? (text : String) : Option EncoderKind := all.find? (·.key = text)

@[simp] theorem ofKey?_key (kind : EncoderKind) : ofKey? kind.key = some kind := by
  cases kind <;> rfl

end EncoderKind

/-- Whether a display is plugged into a connector. -/
inductive Connection | connected | disconnected | unknown
  deriving DecidableEq, Repr

namespace Connection

/-- The state that a kernel number stands for. -/
def ofNumber (number : UInt32) : Connection :=
  if number = 1 then connected else if number = 2 then disconnected else unknown

/-- The name of a state. -/
def text : Connection → String
  | connected => "connected"
  | disconnected => "disconnected"
  | unknown => "unknown"

end Connection

end Modeset
