import Handbook.Disk.Error
import Handbook.Path.Basic
import Handbook.Settings.Basic

/-!
# Failures

The ways in which a run ends without doing its work, and their words. A message goes from what was
attempted to its cause, with a colon between them.
-/
namespace Handbook

/-- What is wrong with a settings text. -/
inductive SettingsError where
  /-- The text is no TOML document, or a setting in it has the wrong type. -/
  | malformed
  /-- The settings have a flaw. -/
  | flawed (flaw : Settings.Flaw)
deriving DecidableEq

/-- The words for what is wrong with a settings text. -/
def SettingsError.message : SettingsError → String
  | malformed => "Failed to parse configuration"
  | flawed flaw => "Invalid configuration for section 'example': " ++ flaw.message

/-- Why a run failed. -/
inductive Failure where
  /-- A file could not be read. -/
  | unreadable (path : Path) (error : FileError)
  /-- A file could not be written. -/
  | unwritable (path : Path) (error : FileError)
  /-- A settings file holds no settings. -/
  | badFile (path : Path) (error : SettingsError)
  /-- The settings of the run have a flaw. -/
  | flawed (flaw : Settings.Flaw)
  /-- References are broken. -/
  | broken (count : Nat)
deriving DecidableEq

/-- The words for a failure. -/
def Failure.message : Failure → String
  | unreadable path error => "Failed to read " ++ path.spelling ++ ": " ++ error.message
  | unwritable path error => "Failed to write " ++ path.spelling ++ ": " ++ error.message
  | badFile path error => "Invalid configuration file " ++ path.spelling ++ ": " ++ error.message
  | flawed flaw => flaw.message
  | broken count => toString count ++ " broken reference(s)"

end Handbook
