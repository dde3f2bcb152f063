/-!
# Errors

Every way in which a request can fail, with its wording. File faults keep the wording of the
operating system.
-/

namespace MailMerge

/-- Why a file operation failed. -/
inductive FileFault where
  | missing
  | accessDenied
  | alreadyExists
  | notFolder
  | isFolder
  | busy
  | notExecutable
  | nameTooLong
  | nulInName
  | notText
  | unavailable
  | other (text : String)
  deriving DecidableEq, Repr

def FileFault.message : FileFault → String
  | .missing => "No such file or directory (os error 2)"
  | .accessDenied => "Permission denied (os error 13)"
  | .alreadyExists => "File exists (os error 17)"
  | .notFolder => "Not a directory (os error 20)"
  | .isFolder => "Is a directory (os error 21)"
  | .busy => "Device or resource busy (os error 16)"
  | .notExecutable => "Exec format error (os error 8)"
  | .nameTooLong => "File name too long (os error 36)"
  | .nulInName => "file name contained an unexpected NUL byte"
  | .notText => "stream did not contain valid UTF-8"
  | .unavailable => "operation not supported on this platform"
  | .other text => text

inductive Error where
  /-- The settings file cannot be read. -/
  | settingsMissing (path : String) (cause : FileFault)
  /-- The settings file is no JSON for settings. -/
  | settingsMalformed (path cause : String)
  | invalidInput (text : String)
  | unsupportedFormat (format supported : String)
  | templateMissing (reference : String)
  | extraction (text : String)
  | table (text : String)
  | rendering (text : String)
  | conversion (text : String)
  | toolMissing (name install : String)
  /-- No row of a batch has a value that names its document. -/
  | noUsableRow (rows : Nat) (field : String)
  | emptyBundle
  | bundle (entry reason : String)
  | invalidTransition (source target : String)
  | file (cause : FileFault)
  | other (text : String)
  deriving DecidableEq, Repr

namespace Error

def message : Error → String
  | settingsMissing path _ => s!"config file not found at {path}"
  | settingsMalformed path _ => s!"failed to parse config at {path}"
  | invalidInput text => s!"invalid input: {text}"
  | unsupportedFormat format supported =>
    s!"unsupported format '{format}' (supported: {supported})"
  | templateMissing reference => s!"template not found: {reference}"
  | extraction text => s!"text extraction failed: {text}"
  | table text => s!"failed to parse tabular data: {text}"
  | rendering text => s!"document rendering failed: {text}"
  | conversion text => s!"conversion failed: {text}"
  | toolMissing name install => s!"required tool '{name}' not found - install: {install}"
  | noUsableRow rows field => s!"no valid records: all {rows} row(s) have a blank '{field}' field"
  | emptyBundle => "cannot package an empty artifact sequence"
  | bundle entry reason => s!"packaging failed at entry '{entry}': {reason}"
  | invalidTransition source target => s!"invalid stage transition: {source} -> {target}"
  | file cause => cause.message
  | other text => text

/-- The text of the error that caused this one, where that is not this error itself. -/
def cause? : Error → Option String
  | settingsMissing _ cause => some cause.message
  | settingsMalformed _ cause => some cause
  | _ => none

end Error

end MailMerge
