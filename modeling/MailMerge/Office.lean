import MailMerge.Converter
import MailMerge.Settings
import MailMerge.Text.Blank

/-!
# The office suite as a converter

Documents become PDF files in an office suite that runs without a window. Every call has a scratch
folder of its own, which holds the input, the suite's profile and the result, and which is removed
however the call ends.
-/

namespace MailMerge

/-- Where a program runs: its working folder, and the folders in which programs are found by
name. -/
structure Surroundings where
  working : Path
  searchPath : List Path
  deriving DecidableEq, Repr

namespace Path

def isPlain (byte : UInt8) : Bool :=
  0x20 < byte && byte < 0x7F && !(Utf8.encode "\"#%<>?\\`\x7b\x7d").contains byte

/-- A byte in a URL: as it is, or as a percent sign and two digits. -/
def percentEncoded (byte : UInt8) : List Char :=
  if isPlain byte then [Char.ofNat byte.toNat]
  else
    ['%', (Nat.digitChar (byte.toNat / 16)).toUpper, (Nat.digitChar (byte.toNat % 16)).toUpper]

/-- The URL of an absolute path. -/
def url (p : Path) : String :=
  "file://" ++ String.ofList
    (p.steps.flatMap fun step => '/' :: (Utf8.encode step).flatMap percentEncoded)

/-- The path seen from a folder. -/
def seenFrom (folder p : Path) : Path :=
  folder.join p.text

end Path

namespace Office

def installation : String := "https://www.libreoffice.org/download/"

def targetExtension : String := "pdf"

/-- The first path at which there is a program. -/
def firstProgram : List Path → Program (Option Path)
  | [] => return none
  | p :: rest => do
    match ← Program.perform (.kind p) with
    | some .program => return some p
    | _ => firstProgram rest

/-- The paths at which a program of this name may be. -/
def candidates (around : Surroundings) (binary : String) : List Path :=
  if binary.toList.contains '/' then [around.working.join binary]
  else if binary = "" then []
  else around.searchPath.map fun folder => folder.join binary

def locate (around : Surroundings) (binary : String) : Program (Option Path) :=
  firstProgram (candidates around binary)

def tool (binary : String) : Tool :=
  ⟨binary, installation⟩

/-- The call that converts the file at `input` in a scratch folder. -/
def call (program folder input : Path) : Call where
  binary := program
  arguments := ["-env:UserInstallation=" ++ (folder.join "profile").url, "--headless",
    "--norestore", "--convert-to", targetExtension, "--outdir", folder.text, input.text]

def errorText (ending : Ending) : String :=
  Text.trimmed (Utf8.decodeLossy ending.errors)

/-- The name of what becomes of a document. -/
def resultName (a : Artifact) : String :=
  a.stem ++ "." ++ targetExtension

/-- Converts a document in a scratch folder. -/
def convertIn (binary : String) (program folder : Path) (limit : Option Nat) (a : Artifact) :
    Program Converter.Outcome := do
  let input := folder.join a.name
  match ← Program.perform (.write input a.content) with
  | .error fault => return .failed (.file fault)
  | .ok () =>
    match ← Program.perform (.launch (call program folder input) limit) with
    | .error fault => return .failed (.conversion s!"failed to launch {binary}: {fault.message}")
    | .ok none => return .unfinished
    | .ok (some ending) =>
      if ending.code ≠ some 0 then return .failed (.conversion (errorText ending))
      else
        match ← Program.perform (.read (folder.join (resultName a))) with
        | .ok content => return .finished ⟨resultName a, content⟩
        | .error _ =>
          return .failed
            (.conversion s!"{binary} produced no {resultName a}: {errorText ending}")

/-- Makes a scratch folder for a program, and removes it afterwards. -/
def withScratch (around : Surroundings) (parent : Path)
    (use : Path → Program Converter.Outcome) : Program Converter.Outcome := do
  match ← Program.perform (.createFolders parent) with
  | .error fault => return .failed (.file fault)
  | .ok () =>
    let place := around.working.seenFrom parent
    match ← Program.perform (.createScratch place "docfill-convert-") with
    | .error fault => return .failed (.file fault)
    | .ok folder => do
      let outcome ← use folder
      let _ ← Program.perform (.removeFolder folder)
      return outcome

def convert (around : Surroundings) (settings : Settings) (limit : Option Nat) (a : Artifact) :
    Program Converter.Outcome := do
  match ← locate around settings.converterBinary with
  | none =>
    return .failed (.toolMissing settings.converterBinary installation)
  | some program =>
    withScratch around ⟨settings.scratchFolder⟩ fun folder =>
      convertIn settings.converterBinary program folder limit a

end Office

/-- Converts documents with the office suite of the settings. -/
def Converter.office (around : Surroundings) (settings : Settings) : Converter where
  name := "libreoffice"
  targetExtension := Office.targetExtension
  contentType := "application/pdf"
  missing := do
    match ← Office.locate around settings.converterBinary with
    | some _ => return []
    | none => return [Office.tool settings.converterBinary]
  convert := Office.convert around settings

end MailMerge
