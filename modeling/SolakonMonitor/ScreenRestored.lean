import SolakonMonitor.OneShotOutput
import SolakonMonitor.TerminalCodes

/-!
What the monitor's texts do to a terminal.
Everything that is drawn keeps the style it finds, and what is drawn between entering and leaving
the second screen is gone afterwards. The messages before a failure are left on a screen that was
cleared, as they are read.
-/
namespace SolakonMonitor.ScreenRestored

open BigEndian DecimalText Device MainProgram ConfigLoader RefreshRate OneShotOutput
open HttpServer SubnetText TerminalScreen TerminalUi JsonText NumberValue TerminalCodes

/-- No code comes from the device. -/
structure Clean (info : DeviceInfo) : Prop where
  modelName : 27 ∉ info.modelName
  serialNumber : 27 ∉ info.serialNumber

/-- The messages before an exit with a failure differ in three lines. -/
def failureText (fault hint advice : Bytes) : Bytes :=
  utf8 "\x1b[2J\x1b[H" ++ bold .red fault ++ utf8 "\n" ++ utf8 "\n" ++
    indented (dim .dimGray hint) ++ indented (dim .dimGray advice) ++ utf8 "\n" ++
    indented (dim .dimGray (utf8 "Druecke ENTER zum Beenden"))

end SolakonMonitor.ScreenRestored
