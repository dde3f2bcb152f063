import MailMerge.Bundle
import MailMerge.Delivery
import MailMerge.Extractor
import MailMerge.Normal
import MailMerge.Office
import MailMerge.Stage
import MailMerge.Store
import MailMerge.Table

/-!
# The engine

The engine answers requests: it stores templates, lists their placeholders, and fills them with one
record or with a table of records. A request goes through the stages of its flow; it ends at the
last one or, with an error, as failed.
-/

namespace MailMerge

/-- A request in progress, which may fail. -/
abbrev Request (α : Type) := ExceptT Error (StateT Progress Program) α

namespace Request

variable {α : Type}

def advance (target : Stage) : Request Unit := do
  match (← get).advance target with
  | .ok p => set p
  | .error e => throw e

def ofAction (a : Action α) : Request α :=
  ExceptT.mk (StateT.lift a.run)

def ofExcept (r : Except Error α) : Request α :=
  ExceptT.mk (pure r)

/-- Runs a request from the start of its flow: the result, and where the request ended. -/
def run (flow : Flow) (r : Request α) : Program (Except Error α × Progress) := do
  let (result, p) ← StateT.run (ExceptT.run r) (Progress.start flow)
  return (result, p.close result)

end Request

/-- What is known of a template once it is stored. -/
structure Extraction where
  placeholders : List String
  reference : String
  deriving DecidableEq, Repr

def Extraction.toJson (x : Extraction) : Json.Value :=
  .object [("placeholders", .array (x.placeholders.map Json.Value.string)),
    ("templateRef", .string x.reference)]

structure Engine where
  settings : Settings
  extractors : List Extractor
  reader : TableReader
  renderer : Renderer
  converter : Converter

namespace Engine

/-- An engine for word documents, whose single documents become PDF files if wanted. -/
def office (around : Surroundings) (settings : Settings) (toPdf : Bool) : Engine where
  settings := settings
  extractors := [.plain, .document]
  reader := .spreadsheet
  renderer := .document
  converter := if toPdf then .office around settings else .passthrough .document

def store (e : Engine) : Store :=
  ⟨⟨e.settings.storageFolder⟩⟩

def templateFormats (e : Engine) : List String :=
  e.extractors.map Extractor.format

def checkReference (reference : String) : Except Error Unit :=
  if Text.isBlankText reference then .error (.invalidInput "missing template reference")
  else .ok ()

/-- The extractor of a format. -/
def extractor (e : Engine) (format : String) : Except Error Extractor :=
  match e.extractors.find? fun x => x.format == format with
  | some x => .ok x
  | none => .error (.unsupportedFormat format (Text.joinTexts ", " e.templateFormats))

/-- The normal text of an upload. -/
def templateText (e : Engine) (format : String) (bytes : Bytes) : Except Error String := do
  let x ← e.extractor format
  if bytes.isEmpty then throw (.invalidInput "template file is empty")
  return normalizeText (← x.extract bytes)

/-- Stores a template under a fresh reference. -/
def extract (e : Engine) (reference : String) (bytes : Bytes) (format : String) :
    Request Extraction := do
  let format := normalizeFormat format
  let text ← Request.ofExcept (e.templateText format bytes)
  let template ← Request.ofAction (e.store.put reference bytes format text)
  Request.advance .extracted
  return ⟨MailMerge.placeholders text, template.reference⟩

/-- The names that a stored template has placeholders for. -/
def placeholders (e : Engine) (reference : String) : Action (List String) := do
  ExceptT.mk (pure (checkReference reference))
  return distinctPlaceholders (← e.store.get reference).text

/-- The name of the documents that are made one at a time. -/
def singleName (e : Engine) : String :=
  "filled." ++ e.renderer.extension

def renderFilled (e : Engine) (template : Template) (r : Record) : Except Error Artifact :=
  (e.renderer.render ((Layout.ofText template.text).fill r)).map fun content =>
    ⟨e.singleName, content⟩

/-- What a request makes of a converter's outcome: all that is no document is an error of the
conversion. -/
def converted (e : Engine) : Converter.Outcome → Except Error Artifact
  | .finished a => .ok a
  | .failed (.conversion text) => .error (.conversion text)
  | .failed cause => .error (.conversion s!"{e.converter.name} converter: {cause.message}")
  | .unfinished =>
    let limit := e.settings.conversionLimit.toNat
    .error (.conversion s!"{e.converter.name} converter timed out after {limit}s")

/-- Fills a template with one record. -/
def generate (e : Engine) (requestId reference : String) (r : Record) : Request Delivery := do
  Request.ofExcept (checkReference reference)
  let template ← Request.ofAction (e.store.get reference)
  Request.advance .filled
  let rendered ← Request.ofExcept (e.renderFilled template r)
  Request.advance .substituted
  let outcome ← Request.ofAction
    (ExceptT.lift (e.converter.convert (some e.settings.conversionLimit.toNat) rendered))
  let document ← Request.ofExcept (e.converted outcome)
  Request.advance .converted
  Request.advance .delivered
  return ⟨requestId, document.name, e.converter.contentType, document.content⟩

def bundleName : String := "documents.zip"

/-- Fails unless a table can be read in this format. -/
def checkTable (e : Engine) (format : String) : Except Error Unit :=
  if e.reader.supports format then .ok ()
  else .error (.unsupportedFormat format (Text.joinTexts ", " e.reader.formats))

def checkData (data : Bytes) : Except Error Unit :=
  if data.isEmpty then .error (.invalidInput "tabular data is empty") else .ok ()

/-- Fills a template with every row of a table that has a name for its document, the jobs finishing
as the schedule has it. -/
def generateBatch (e : Engine) (requestId : String) (schedule : List Pool.Event)
    (reference : String) (data : Bytes) (format : String) : Request Delivery := do
  let format := normalizeFormat format
  Request.ofExcept (e.checkTable format)
  Request.ofExcept (checkReference reference)
  Request.ofExcept (checkData data)
  let template ← Request.ofAction (e.store.get reference)
  let rows ← Request.ofExcept (e.reader.read data format)
  let artifacts ← Request.ofExcept (Batch.expand e.settings e.renderer schedule template rows)
  Request.advance .expanded
  let bundle ← Request.ofExcept (Bundle.pack .deflated artifacts)
  Request.advance .packaged
  Request.advance .delivered
  return ⟨requestId, bundleName, Bundle.contentType, bundle.bytes⟩

end Engine

end MailMerge
