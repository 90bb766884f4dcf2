import Gazetteer.Form.Settings
import Gazetteer.Storage.Disk
import Gazetteer.Text.Blank
import Gazetteer.Toml.Reader

/-!
# Settings files

Settings are written in TOML, each key optional. The folder of the index can be given from outside,
which counts more than the file, unless it is blank.
-/

namespace Gazetteer

/-- Why settings could not be loaded. -/
inductive SettingsFailure where
  | unreadable (path : String) (cause : FileFailure)
  | malformed
deriving DecidableEq

/-- The sentence for settings that could not be loaded. -/
def SettingsFailure.message : SettingsFailure → String
  | .unreadable path cause => "Failed to read config " ++ path ++ ": " ++ cause.message
  | .malformed => "Failed to parse config"

namespace Settings

/-- **The settings of a text.** -/
def ofText? (text : String) : Option Settings :=
  (Toml.read? text).bind ofJson?

/-- The settings with the folder of the index given from outside. -/
def withFolder (settings : Settings) (folder : Option String) : Settings :=
  match folder with
  | some folder => if Text.isBlankText folder then
    settings else { settings with indexFolder := folder }
  | none => settings

/-- The settings of a file. -/
def ofBytes (path : String) (bytes : List UInt8) : Except SettingsFailure Settings :=
  match String.fromUTF8? ⟨bytes.toArray⟩ with
  | none => .error (.unreadable path .notText)
  | some text =>
    match ofText? text with
    | none => .error .malformed
    | some settings => .ok settings

/-- **Loading settings** from a file, or the standard ones. -/
def load {m : Type → Type} [Monad m] (disk : Storage.Disk m) (path : Option String)
    (folder : Option String) : m (Except SettingsFailure Settings) := do
  match path with
  | none => return .ok (standard.withFolder folder)
  | some path =>
    match ← disk.read path with
    | .error cause => return .error (.unreadable path cause)
    | .ok bytes => return (ofBytes path bytes).map (·.withFolder folder)

end Settings

end Gazetteer
