import DeepLinks.Settings.Document
import DeepLinks.Table

/-!
# Route files

Loading settings from a file: the file must be there, be text, be a TOML document of the right
shape, and declare routes without faults.
-/

namespace DeepLinks

/-- What is found under the name of a file. -/
inductive FileState where
  | missing
  | directory
  /-- A file that may not be read. -/
  | denied
  | content (bytes : ByteArray)

/-- Why a file has no text. -/
inductive FileError where
  | missing
  | directory
  | denied
  | notText
deriving DecidableEq, Repr

def FileError.message : FileError → String
  | missing => "No such file or directory (os error 2)"
  | directory => "Is a directory (os error 21)"
  | denied => "Permission denied (os error 13)"
  | notText => "stream did not contain valid UTF-8"

/-- The text of a file. -/
def FileState.read : FileState → Except FileError String
  | missing => .error .missing
  | directory => .error .directory
  | denied => .error .denied
  | content bytes =>
    match String.fromUTF8? bytes with
    | some text => .ok text
    | none => .error .notText

/-- A file that holds the bytes of a text is read as that text. -/
@[simp] theorem FileState.read_content (text : String) :
    read (.content text.toByteArray) = .ok text := by
  rw [read, String.fromUTF8?, dif_pos text.isValidUTF8]
  rfl

/-- Why there are no settings. -/
inductive SettingsError where
  | unreadable (path : String) (cause : FileError)
  /-- The text is no TOML document, or not one of the right shape. -/
  | malformed
  | invalid (errors : List ConfigurationError)
deriving DecidableEq, Repr

def SettingsError.message : SettingsError → String
  | unreadable path cause => "IO error reading " ++ path ++ ": " ++ cause.message
  | malformed => "Parse error"
  | invalid errors => "Validation failed: " ++ ", ".intercalate (errors.map (·.message))

namespace Settings

/-- The settings that a text writes, if its routes are valid. -/
def parse (text : String) : Except SettingsError Settings :=
  match ofDocument? text with
  | none => .error .malformed
  | some settings =>
    match settings.manifest.errors with
    | [] => .ok settings
    | errors => .error (.invalid errors)

/-- Loads settings from what is found under a path. -/
def load (path : String) (file : FileState) : Except SettingsError Settings :=
  match file.read with
  | .error cause => .error (.unreadable path cause)
  | .ok text => parse text

end Settings

end DeepLinks
