import OffchainSeal.Host
import OffchainSeal.Settings.Document

/-!
# Loading settings

Settings come from the named file, or from the file at the usual place if there
is one, or are the default.
-/

namespace OffchainSeal.Settings

variable {m : Type → Type} [Monad m]

/-- The settings in the file at a path. -/
def load (host : Host m) (path : String) : m (Except Fault Settings) := do
  match ← host.readText path with
  | .error fault => return .error (.unreadable fault)
  | .ok text => return ofString text

/-- The settings in the file at the usual place, or the default. -/
def loadUsual (host : Host m) : m (Except Fault Settings) := do
  match host.settingsPath with
  | none => return .ok default
  | some path => if ← host.holds path then load host path else return .ok default

/-- The settings in the named file, or else the usual ones. -/
def loadFrom (host : Host m) : Option String → m (Except Fault Settings)
  | some path => load host path
  | none => loadUsual host

end OffchainSeal.Settings
