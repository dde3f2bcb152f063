import MailMerge.Files.Program
import MailMerge.Settings

/-!
# Settings files

Settings are kept in a JSON file. A file that cannot be read counts as missing; one that can be
read but holds no settings is malformed.
-/

namespace MailMerge.Settings

/-- The settings that a file's content stands for. -/
def ofBytes (defaults : Settings) (path : Path) (content : Bytes) : Except Error Settings :=
  match Utf8.decode content with
  | .error _ => .error (.settingsMissing path.text .notText)
  | .ok text =>
    match ofText? defaults text with
    | some s => .ok s
    | none => .error (.settingsMalformed path.text "no settings")

def load (defaults : Settings) (path : Path) : Action Settings :=
  ExceptT.mk do
    match ← Program.perform (.read path) with
    | .error fault => return .error (.settingsMissing path.text fault)
    | .ok content => return ofBytes defaults path content

/-- Writes the settings, after making the folders above the file. -/
def save (s : Settings) (path : Path) : Action Unit := do
  match path.parent? with
  | some parent => if parent.text ≠ "" then Action.createFolders parent
  | none => pure ()
  Action.write path (Utf8.encode s.toText)

end MailMerge.Settings
