import MailMerge.CommandLine.Invocation
import MailMerge.Digest
import MailMerge.Engine
import MailMerge.Settings.File

/-!
# Running commands

A command prints what it does as it goes on, and ends with success or with a failure that is told
in one line. What it has printed before a failure stays.
-/

namespace MailMerge.CommandLine

inductive Failure where
  | engine (e : Error)
  | unreadable (path : Path)
  | unknownFormat (path : Path)
  | settingsExist (path : Path)
  | badAssignment (text : String)
  | notJson (path : Path)
  /-- A value must be asked for, and there is nobody to ask. -/
  | noTerminal
  deriving DecidableEq, Repr

def Failure.message : Failure → String
  | engine e => e.message
  | unreadable path => s!"failed to read {path.text}"
  | unknownFormat path => s!"cannot tell the format of {path.text} (no extension)"
  | settingsExist path => s!"config already exists: {path.text}"
  | badAssignment text => s!"invalid --set '{text}', expected NAME=VALUE"
  | notJson path => s!"{path.text} is not valid JSON"
  | noTerminal => "IO error: not a terminal"

/-- A command at work: it prints to a text, and may fail. -/
abbrev Command (α : Type) := ExceptT Failure (StateT String Program) α

/-- The system that a command runs on, with identifiers that are not in use. -/
structure System where
  around : Surroundings
  temporaryFolder : String
  reference : String
  requestId : String
  deriving DecidableEq, Repr

namespace Command

variable {α : Type}

def line (text : String) : Command Unit :=
  modify fun printed => printed ++ text ++ "\n"

def header (text : String) : Command Unit := do
  line ""
  line text
  line (String.ofList (List.replicate text.utf8ByteSize '='))

def success (text : String) : Command Unit :=
  line s!"[OK] {text}"

def warning (text : String) : Command Unit :=
  line s!"[WARN] {text}"

def problem (text : String) : Command Unit :=
  line s!"[ERROR] {text}"

def progress (number total : Nat) (text : String) : Command Unit :=
  line s!"[{number}/{total}] {text}"

def value (key text : String) : Command Unit :=
  line s!"  {key}: {text}"

def digest (bytes : Bytes) : Command Unit := do
  value "Size" s!"{bytes.length} bytes"
  value "SHA-256" (Digest.hex (Digest.sha256 bytes))

def ofProgram (p : Program α) : Command α :=
  ExceptT.lift (StateT.lift p)

def ofAction (a : Action α) : Command α :=
  ExceptT.mk (StateT.lift (a.run.bind fun r => .done (r.mapError Failure.engine)))

/-- Carries out a request of the engine. -/
def ofRequest (flow : Flow) (r : Request α) : Command α :=
  ofAction (ExceptT.mk ((r.run flow).bind fun result => .done result.1))

def standardSettings (system : System) : Settings :=
  Settings.standard system.temporaryFolder

/-- The settings of a file, or the standard ones if there is nothing at its path. -/
def loadSettings (system : System) (path : Path) : Command Settings := do
  match ← ofAction (Action.kind path) with
  | some _ => ofAction (Settings.load (standardSettings system) path)
  | none => return standardSettings system

/-- The format of a file: its extension in lower case. -/
def formatOf (path : Path) : Command String :=
  match path.extension? with
  | some extension => return lowerAscii extension
  | none => throw (.unknownFormat path)

/-- The content of a file that a user names. -/
def readInput (path : Path) : Command Bytes := do
  match ← ofProgram (Program.perform (.read path)) with
  | .ok content => return content
  | .error _ => throw (.unreadable path)

/-- Writes a delivery to its path, or into the folder for outputs. -/
def deliver (d : Delivery) (output : Option Path) (outputFolder : Path) : Command Path :=
  match output with
  | some path => do
    ofAction (d.writeTo path)
    return path
  | none => ofAction (d.writeInto outputFolder)

def init (system : System) (file : Path) : Command Unit := do
  header "docfill init"
  match ← ofAction (Action.kind file) with
  | some _ => throw (.settingsExist file)
  | none => pure ()
  let settings := standardSettings system
  ofAction (settings.save file)
  success s!"Wrote {file.text}"
  value "Templates" settings.storageFolder
  value "Outputs" settings.outputFolder
  value "Naming field" settings.namingField
  line ""
  line "  Next steps:"
  line "    docfill extract letter.docx"
  line "    docfill generate --template <REF> --interactive"
  line "    docfill batch --template <REF> --data clients.xlsx"
  line ""

/-- Reports a stored template in words. -/
def reportExtraction (file : Path) (x : Extraction) : Command Unit := do
  header "docfill extract"
  value "File" file.text
  value "Template" x.reference
  if x.placeholders.isEmpty then warning "No \x7b\x7bplaceholders\x7d\x7d found in template"
  else
    success s!"Found {x.placeholders.length} placeholder(s)"
    x.placeholders.forM fun name => line s!"    {name}"

def extract (system : System) (settingsFile file : Path) (asJson : Bool) : Command Unit := do
  let settings ← loadSettings system settingsFile
  let format ← formatOf file
  let bytes ← readInput file
  let engine := Engine.office system.around settings false
  let x ← ofRequest .extract (engine.extract system.reference bytes format)
  if asJson then line (String.ofList (x.toJson.indented 0)) else reportExtraction file x

/-- The name and value of an assignment; blank characters around the name are left out. -/
def parseAssignment (text : String) : Except Failure (String × String) :=
  match Text.cutFirst '=' text.toList with
  | some (name, value) =>
    if Text.isBlankText (String.ofList name) then .error (.badAssignment text)
    else .ok (Text.trimmed (String.ofList name), String.ofList value)
  | none => .error (.badAssignment text)

/-- The values of assignments; a later one replaces an earlier one of its name. -/
def parseAssignments (texts : List String) : Except Failure Record :=
  (texts.mapM parseAssignment).map Record.ofList

/-- The record of a file's content. -/
def recordOf (path : Path) (content : Bytes) : Except Failure Record :=
  match Utf8.decode content with
  | .error _ => .error (.unreadable path)
  | .ok text =>
    match Json.Value.ofText? text with
    | none => .error (.notJson path)
    | some v =>
      match Record.ofJson? v with
      | some r => .ok r
      | none => .error (.engine Record.notObject)

def ofExcept (r : Except Failure α) : Command α :=
  ExceptT.mk (pure r)

/-- The values that a user gives in a file and in assignments. -/
def givenValues (options : GenerateOptions) : Command Record := do
  let fromFile ←
    match options.values with
    | some path => do
      let content ← readInput path
      ofExcept (recordOf path content)
    | none => pure Record.empty
  return fromFile.extend (← ofExcept (parseAssignments options.assignments))

/-- The names that a record has no value for. -/
def unfilled (placeholders : List String) (r : Record) : List String :=
  placeholders.filter fun name => !r.contains name

def generate (system : System) (settingsFile : Path) (options : GenerateOptions) :
    Command Unit := do
  header "docfill generate"
  let settings ← loadSettings system settingsFile
  let engine := Engine.office system.around settings options.toPdf
  progress 1 3 "Collecting values..."
  let r ← givenValues options
  let left := unfilled (← ofAction (engine.placeholders options.template)) r
  if options.interactive && !left.isEmpty then throw .noTerminal
  if !left.isEmpty then warning ("Left unfilled: " ++ Text.joinTexts ", " left)
  progress 2 3 "Rendering document..."
  let delivery ← ofRequest .single (engine.generate system.requestId options.template r)
  progress 3 3 "Writing output..."
  let written ← deliver delivery options.output ⟨settings.outputFolder⟩
  success s!"Generated {written.text}"
  value "Request" delivery.requestId
  value "Content type" delivery.contentType
  digest delivery.bytes

def batch (system : System) (settingsFile : Path) (options : BatchOptions) : Command Unit := do
  header "docfill batch"
  let settings ← loadSettings system settingsFile
  let engine := Engine.office system.around settings false
  progress 1 2 "Reading data..."
  let format ← formatOf options.data
  let bytes ← readInput options.data
  value "Data" options.data.text
  value "Naming field" settings.namingField
  let delivery ← ofRequest .batch
    (engine.generateBatch system.requestId [] options.template bytes format)
  progress 2 2 "Writing archive..."
  let written ← deliver delivery options.output ⟨settings.outputFolder⟩
  success s!"Generated {written.text}"
  value "Request" delivery.requestId
  digest delivery.bytes

def check (system : System) (settingsFile : Path) : Command Unit := do
  header "docfill check"
  let settings ← loadSettings system settingsFile
  let converter := (Engine.office system.around settings true).converter
  value "Converter" converter.name
  value "Binary" settings.converterBinary
  let missing ← ofProgram converter.missing
  if missing.isEmpty then success "All required tools found"
  else
    missing.forM fun tool => problem s!"Missing: {tool.name} (install: {tool.install})"
    warning "PDF conversion unavailable; use \x60generate --no-convert\x60"

def ofInvocation (system : System) (invocation : Invocation) : Command Unit :=
  match invocation.task with
  | .init => init system invocation.settingsFile
  | .extract file asJson => extract system invocation.settingsFile file asJson
  | .generate options => generate system invocation.settingsFile options
  | .batch options => batch system invocation.settingsFile options
  | .check => check system invocation.settingsFile

end Command

/-- How a run ended: its exit code, and what it printed on its two channels. -/
structure Report where
  code : Nat
  output : String
  errors : String
  deriving DecidableEq, Repr

/-- The report of a command that has printed this text. -/
def Report.ofOutcome (result : Except Failure Unit) (printed : String) : Report :=
  match result with
  | .ok () => ⟨0, printed, ""⟩
  | .error failure => ⟨1, printed, s!"Error: {failure.message}\n"⟩

def Invocation.run (system : System) (invocation : Invocation) : Program Report := do
  let (result, printed) ← (Command.ofInvocation system invocation).run.run ""
  return Report.ofOutcome result printed

/-- How to call the program. -/
def usageText : String :=
  "Usage: docfill [OPTIONS] <init|extract|generate|batch|check>\n"

/-- Runs a command line. -/
def run (system : System) (environment : Option String) (arguments : List String) :
    Program Report :=
  match Invocation.read environment arguments with
  | .run invocation => invocation.run system
  | .version text => return ⟨0, text ++ "\n", ""⟩
  | .usage => return ⟨2, "", usageText⟩

end MailMerge.CommandLine
