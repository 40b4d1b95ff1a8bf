import Modeset.Datum
import Modeset.Output

/-!
# Outputs as data

How modes and the status of a slot are given as data in reports. The name of a mode is left out,
since its numbers say all that it says.

## Main definitions

* `Mode.toDatum`, `OutputStatus.toDatum` — the data of a mode and of a status
-/

namespace Modeset

/-- The datum that describes a mode. -/
def Mode.toDatum (mode : Mode) : Datum :=
  .table
    [("clock", .ofNat mode.clock.toNat),
      ("hdisplay", .ofNat mode.hdisplay.toNat),
      ("hsync_start", .ofNat mode.hsyncStart.toNat),
      ("hsync_end", .ofNat mode.hsyncEnd.toNat),
      ("htotal", .ofNat mode.htotal.toNat),
      ("hskew", .ofNat mode.hskew.toNat),
      ("vdisplay", .ofNat mode.vdisplay.toNat),
      ("vsync_start", .ofNat mode.vsyncStart.toNat),
      ("vsync_end", .ofNat mode.vsyncEnd.toNat),
      ("vtotal", .ofNat mode.vtotal.toNat),
      ("vscan", .ofNat mode.vscan.toNat),
      ("vrefresh", .ofNat mode.vrefresh.toNat),
      ("flags", .ofNat mode.flags.toNat),
      ("mode_type", .ofNat mode.kind.toNat)]

namespace OutputStatus

/-- The datum of the number of an object that may be missing. -/
def idDatum (id : Option UInt32) : Datum := .ofOption (fun id => .ofNat id.toNat) id

/-- The datum that describes a status. -/
def toDatum (status : OutputStatus) : Datum :=
  .table
    [("connected", .boolean status.connected),
      ("connector_id", idDatum status.connectorId),
      ("encoder_id", idDatum status.encoderId),
      ("crtc_id", idDatum status.crtcId),
      ("mode", .ofOption Mode.toDatum status.mode),
      ("framebuffer_id", .ofNat status.framebufferId.toNat),
      ("buffer_handle", .ofNat status.bufferHandle.toNat)]

end OutputStatus

end Modeset
