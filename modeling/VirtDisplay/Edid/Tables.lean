/-
# The mode tables

The parser does not compute the resolutions of a display: it looks them up. These
are the tables it looks them up in, row for row, together with the list the kernel
driver falls back to when it rejects a display's EDID. Refresh rates are exact
decimals here where the source has double literals.
-/

import Mathlib.Data.Rat.Defs

namespace VirtDisplay

/-- `edid_qemu_modes`: one row of a mode table, and one entry of the parser's
output list. -/
structure EdidMode where
  width : Nat
  height : Nat
  refreshRate : ℚ
  deriving DecidableEq, Inhabited

/-- `timing_bitmap_modelist`: the established timings. -/
def timingBitmapModelist : List EdidMode :=
  [⟨800, 600, 60⟩, ⟨800, 600, 56⟩, ⟨640, 480, 75⟩, ⟨640, 480, 72⟩, ⟨640, 480, 67⟩,
   ⟨640, 480, 60⟩, ⟨720, 400, 88⟩, ⟨720, 400, 70⟩, ⟨1280, 1024, 75⟩, ⟨1024, 768, 75⟩,
   ⟨1024, 768, 70⟩, ⟨1024, 768, 60⟩, ⟨1024, 768, 87⟩, ⟨832, 624, 75⟩, ⟨800, 600, 75⟩,
   ⟨800, 600, 72⟩, ⟨1152, 870, 75⟩]

/-- `additional_standard_timing_modelist`. -/
def additionalStandardTimingModelist : List EdidMode :=
  [⟨1152, 864, 85⟩, ⟨1024, 768, 85⟩, ⟨800, 600, 85⟩, ⟨848, 480, 60⟩, ⟨640, 480, 85⟩,
   ⟨720, 400, 85⟩, ⟨640, 400, 85⟩, ⟨640, 350, 85⟩, ⟨1280, 1024, 85⟩, ⟨1280, 1024, 60⟩,
   ⟨1280, 960, 85⟩, ⟨1280, 960, 60⟩, ⟨1280, 768, 85⟩, ⟨1280, 768, 75⟩, ⟨1280, 768, 60⟩,
   ⟨1280, 768, 60⟩, ⟨1440, 1050, 75⟩, ⟨1440, 1050, 60⟩, ⟨1440, 1050, 60⟩, ⟨1440, 900, 85⟩,
   ⟨1440, 900, 75⟩, ⟨1440, 900, 60⟩, ⟨1280, 768, 60⟩, ⟨1360, 768, 60⟩, ⟨1600, 1200, 70⟩,
   ⟨1600, 1200, 65⟩, ⟨1600, 1200, 60⟩, ⟨1680, 1050, 85⟩, ⟨1680, 1050, 75⟩, ⟨1680, 1050, 60⟩,
   ⟨1680, 1050, 60⟩, ⟨1440, 1050, 85⟩, ⟨1920, 1200, 60⟩, ⟨1920, 1200, 60⟩, ⟨1856, 1392, 75⟩,
   ⟨1856, 1392, 60⟩, ⟨1792, 1344, 75⟩, ⟨1792, 1344, 60⟩, ⟨1600, 1200, 85⟩, ⟨1600, 1200, 70⟩,
   ⟨1920, 1440, 75⟩, ⟨1920, 1440, 60⟩, ⟨1920, 1200, 85⟩, ⟨1920, 1200, 75⟩]

/-- `cea_modelist`: the resolutions of the video identification codes. -/
def ceaModelist : List EdidMode :=
  [⟨640, 480, 59.94⟩, ⟨720, 480, 59.94⟩, ⟨720, 480, 59.94⟩, ⟨1280, 720, 60⟩, ⟨1920, 540, 60⟩,
   ⟨1440, 240, 59.94⟩, ⟨1440, 240, 59.94⟩, ⟨1440, 240, 59.826⟩, ⟨1440, 240, 59.826⟩,
   ⟨2880, 240, 59.94⟩, ⟨2880, 240, 59.94⟩, ⟨2880, 240, 60⟩, ⟨2880, 240, 60⟩, ⟨1440, 480, 59.94⟩,
   ⟨1440, 480, 59.94⟩, ⟨1920, 1080, 60⟩, ⟨720, 576, 50⟩, ⟨720, 576, 50⟩, ⟨1280, 720, 50⟩,
   ⟨1920, 540, 50⟩, ⟨1440, 288, 50⟩, ⟨1440, 288, 50⟩, ⟨1440, 288, 50⟩, ⟨1440, 288, 50⟩,
   ⟨2880, 288, 50⟩, ⟨2880, 288, 50⟩, ⟨2880, 288, 50⟩, ⟨2880, 288, 50⟩, ⟨1440, 576, 50⟩,
   ⟨1440, 576, 50⟩, ⟨1920, 1080, 50⟩, ⟨1920, 1080, 23.98⟩, ⟨1920, 1080, 25⟩, ⟨1920, 1080, 29.97⟩,
   ⟨2880, 240, 59.94⟩, ⟨2880, 240, 59.94⟩, ⟨2880, 576, 50⟩, ⟨2880, 576, 50⟩, ⟨1920, 540, 50⟩,
   ⟨1920, 540, 100⟩, ⟨1280, 720, 100⟩, ⟨720, 576, 100⟩, ⟨720, 576, 100⟩, ⟨1440, 576, 100⟩,
   ⟨1440, 576, 100⟩, ⟨1920, 540, 119.88⟩, ⟨1280, 720, 119.88⟩, ⟨720, 576, 119.88⟩,
   ⟨720, 576, 119.88⟩, ⟨1440, 576, 119.88⟩, ⟨1440, 576, 119.88⟩, ⟨720, 576, 200⟩,
   ⟨720, 576, 200⟩, ⟨1440, 288, 200⟩, ⟨1440, 288, 200⟩, ⟨720, 480, 239.76⟩, ⟨720, 480, 239.76⟩,
   ⟨1440, 240, 239.76⟩, ⟨1440, 240, 239.76⟩, ⟨1280, 720, 23.98⟩, ⟨1280, 720, 25⟩,
   ⟨1280, 720, 29.97⟩, ⟨1920, 1080, 119.88⟩, ⟨1920, 1080, 100⟩, ⟨1280, 720, 23.98⟩,
   ⟨1280, 720, 25⟩, ⟨1280, 720, 29.97⟩, ⟨1280, 720, 50⟩, ⟨1650, 750, 60⟩, ⟨1280, 720, 100⟩,
   ⟨1280, 720, 119.88⟩, ⟨1920, 1080, 23.98⟩, ⟨1920, 1080, 25⟩, ⟨1920, 1080, 29.97⟩,
   ⟨1920, 1080, 50⟩, ⟨1920, 1080, 60⟩, ⟨1920, 1080, 100⟩, ⟨1920, 1080, 119.88⟩,
   ⟨1680, 720, 23.98⟩, ⟨1680, 720, 25⟩, ⟨1680, 720, 29.97⟩, ⟨1680, 720, 50⟩, ⟨1680, 720, 60⟩,
   ⟨1680, 720, 100⟩, ⟨1680, 720, 119.88⟩, ⟨2560, 1080, 23.98⟩, ⟨2560, 1080, 25⟩,
   ⟨2560, 1080, 29.97⟩, ⟨2560, 1080, 50⟩, ⟨2560, 1080, 60⟩, ⟨2560, 1080, 100⟩,
   ⟨2560, 1080, 119.88⟩, ⟨3840, 2160, 23.98⟩, ⟨3840, 2160, 25⟩, ⟨3840, 2160, 29.97⟩,
   ⟨3840, 2160, 50⟩, ⟨3840, 2160, 60⟩, ⟨4096, 2160, 23.98⟩, ⟨4096, 2160, 25⟩,
   ⟨4096, 2160, 29.97⟩, ⟨4096, 2160, 50⟩, ⟨4096, 2160, 60⟩, ⟨3840, 2160, 23.98⟩,
   ⟨3840, 2160, 25⟩, ⟨3840, 2160, 29.97⟩, ⟨3840, 2160, 50⟩, ⟨3840, 2160, 60⟩, ⟨1280, 720, 47.96⟩,
   ⟨1280, 720, 47.96⟩, ⟨1680, 720, 47.96⟩, ⟨1920, 1080, 47.96⟩, ⟨1920, 1080, 47.96⟩,
   ⟨2560, 1080, 47.96⟩, ⟨3840, 2160, 47.96⟩, ⟨4096, 2160, 47.96⟩, ⟨3840, 2160, 47.96⟩,
   ⟨3840, 2160, 100⟩, ⟨3840, 2160, 119.88⟩, ⟨3840, 2160, 100⟩, ⟨3840, 2160, 119.88⟩,
   ⟨5120, 2160, 23.98⟩, ⟨5120, 2160, 25⟩, ⟨5120, 2160, 29.97⟩, ⟨5120, 2160, 47.96⟩,
   ⟨5120, 2160, 50⟩, ⟨5120, 2160, 60⟩, ⟨5120, 2160, 100⟩, ⟨5120, 2160, 119.88⟩,
   ⟨7680, 4320, 23.98⟩, ⟨7680, 4320, 25⟩, ⟨7680, 4320, 29.97⟩, ⟨7680, 4320, 47.96⟩,
   ⟨7680, 4320, 50⟩, ⟨7680, 4320, 60⟩, ⟨7680, 4320, 100⟩, ⟨7680, 4320, 119.88⟩,
   ⟨7680, 4320, 23.98⟩, ⟨7680, 4320, 25⟩, ⟨7680, 4320, 29.97⟩, ⟨7680, 4320, 47.96⟩,
   ⟨7680, 4320, 50⟩, ⟨7680, 4320, 60⟩, ⟨7680, 4320, 100⟩, ⟨7680, 4320, 119.88⟩,
   ⟨10240, 4320, 23.98⟩, ⟨10240, 4320, 25⟩, ⟨10240, 4320, 29.97⟩, ⟨10240, 4320, 47.96⟩,
   ⟨10240, 4320, 50⟩, ⟨10240, 4320, 60⟩, ⟨10240, 4320, 100⟩, ⟨10240, 4320, 119.88⟩,
   ⟨4096, 2160, 100⟩, ⟨4096, 2160, 119.88⟩]

/-- `qemu_modelist`: the modes offered when the EDID is rejected. -/
def qemuModelist : List EdidMode :=
  [⟨640, 480, 60⟩, ⟨800, 600, 60⟩, ⟨1024, 768, 60⟩, ⟨2048, 1152, 60⟩, ⟨1920, 1080, 60⟩,
   ⟨1920, 1200, 60⟩, ⟨1600, 1200, 60⟩, ⟨1680, 1050, 60⟩, ⟨1440, 900, 60⟩, ⟨1280, 1024, 60⟩,
   ⟨1280, 960, 60⟩, ⟨1280, 768, 59.870228⟩, ⟨1360, 768, 60.015162⟩, ⟨1440, 1050, 59.978442⟩,
   ⟨1792, 1344, 59.999789⟩, ⟨1856, 1392, 59.995184⟩, ⟨1920, 1440, 60⟩, ⟨5120, 2160, 50⟩,
   ⟨4096, 2160, 50⟩, ⟨3840, 2160, 50⟩, ⟨2560, 1080, 50⟩, ⟨1920, 1080, 50⟩, ⟨3840, 2160, 60⟩]

end VirtDisplay
