import MailMerge.CommandLine.Run

/-!
# The command line program

Programs with files are carried out here on the files of the machine, one operation at a time. No
other programs are called: a converter that needs one reports that it cannot be launched.
-/

namespace MailMerge.Main

/-- The fault behind an error of the system. -/
def faultOf (e : IO.Error) : FileFault :=
  match e with
  | .noFileOrDirectory .. => .missing
  | .permissionDenied .. => .accessDenied
  | .alreadyExists .. => .alreadyExists
  | .inappropriateType .. => .notFolder
  | .resourceBusy .. => .busy
  | .unsupportedOperation .. => .unavailable
  | e => .other (toString e)

def guarded {α : Type} (act : IO α) : IO (Except FileFault α) := do
  match ← act.toBaseIO with
  | .ok a => return .ok a
  | .error e => return .error (faultOf e)

/-- What is at a path. The system does not tell programs from other files, so every file counts as
one. -/
def kindOf (p : Path) : IO (Option Kind) := do
  let place := (← IO.currentDir) / p.text
  if ← place.isDir then return some .folder
  if ← place.pathExists then return some .program
  return none

def listNames (p : Path) : IO (List String) := do
  let entries ← ((← IO.currentDir) / p.text).readDir
  return entries.toList.map fun e => e.fileName

/-- Hexadecimal digits drawn at random. -/
def randomDigits : Nat → IO String
  | 0 => return ""
  | n + 1 => do
    let digit := Nat.digitChar (← IO.rand 0 15)
    return (← randomDigits n).push digit

def newPath (folder : Path) (start : String) : IO Path := do
  return Path.join (if folder.text = "" then ⟨"."⟩ else folder) (start ++ (← randomDigits 12))

def makeFile (folder : Path) : IO Path := do
  let p ← newPath folder ".tmp"
  let _ ← IO.FS.Handle.mk p.text .writeNew
  return p

def makeScratch (folder : Path) (start : String) : IO Path := do
  let p ← newPath folder start
  IO.FS.createDir p.text
  return p

/-- Carries out an operation. -/
def perform : (op : Operation) → IO op.Answer
  | .kind p => kindOf p
  | .read p => guarded do return (← IO.FS.readBinFile p.text).toList
  | .list p => guarded (listNames p)
  | .write p content => guarded (IO.FS.writeBinFile p.text ⟨content.toArray⟩)
  | .createFolders p => guarded do if p.text ≠ "" then IO.FS.createDirAll p.text
  | .createTemporary folder => guarded (makeFile folder)
  | .createScratch folder start => guarded (makeScratch folder start)
  | .rename source target => guarded (IO.FS.rename source.text target.text)
  | .removeFile p => guarded (IO.FS.removeFile p.text)
  | .removeFolder p => guarded (IO.FS.removeDirAll p.text)
  | .launch .. => return .error .unavailable

/-- Carries out a program. -/
def execute {α : Type} : Program α → IO α
  | .done a => return a
  | .step op next => do execute (next (← perform op))

/-- The system as it is. -/
def system : IO CommandLine.System := do
  let searchPath := (← IO.getEnv "PATH").getD ""
  return {
    around := {
      working := ⟨(← IO.currentDir).toString⟩
      searchPath := (Text.pieces ':' searchPath.toList).map fun folder => ⟨String.ofList folder⟩ }
    temporaryFolder := (← IO.getEnv "TMPDIR").getD "/tmp"
    reference := ← randomDigits 32
    requestId := ← randomDigits 32 }

end MailMerge.Main

def main (arguments : List String) : IO UInt32 := do
  let environment ← IO.getEnv "DOCFILL_CONFIG"
  let program := MailMerge.CommandLine.run (← MailMerge.Main.system) environment arguments
  let report ← MailMerge.Main.execute program
  IO.print report.output
  IO.eprint report.errors
  return UInt32.ofNat report.code
