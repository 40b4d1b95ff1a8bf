/-!
# Physical size

The area of a panel. Displays report whole millimetres, and zeros where they do not know.
-/

namespace Modeset

/-- The area of a panel in millimetres. -/
structure PhysicalSize where
  widthMm : UInt32
  heightMm : UInt32
  deriving DecidableEq, Repr, Inhabited

end Modeset
