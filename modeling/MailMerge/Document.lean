import MailMerge.Archive.Reader
import MailMerge.Archive.Writer
import MailMerge.Error
import MailMerge.Markup.Escape
import MailMerge.Markup.Event

/-!
# Word documents

A document is an archive whose main part is markup. Its text is what stands in text elements
inside runs, with tabs, line breaks and two line ends for each paragraph. A text is written as
paragraphs at its blank lines, with breaks and tabs inside them.
-/

namespace MailMerge.Document

open Markup

def mainPart : String := "word/document.xml"

/-- Whether a run and a text element inside one are open, and the text so far, last character
first. -/
structure Reading where
  inRun : Bool
  inText : Bool
  text : List Char
  deriving DecidableEq, Repr

namespace Reading

def start : Reading :=
  ⟨false, false, []⟩

def add (r : Reading) (cs : List Char) : Reading :=
  { r with text := cs.reverse ++ r.text }

def opened (r : Reading) (name : List Char) : Reading :=
  if name = "w:r".toList then { r with inRun := true }
  else if name = "w:t".toList && r.inRun then { r with inText := true }
  else r

def single (r : Reading) (name : List Char) : Reading :=
  if name = "w:p".toList then r.add ['\n', '\n']
  else if r.inRun then
    if name = "w:tab".toList then r.add ['\t']
    else if name = "w:br".toList || name = "w:cr".toList then r.add ['\n']
    else r
  else r

def closed (r : Reading) (name : List Char) : Reading :=
  if name = "w:t".toList then { r with inText := false }
  else if name = "w:r".toList then { r with inRun := false }
  else if name = "w:p".toList then r.add ['\n', '\n']
  else r

end Reading

/-- Why the text of a main part cannot be read. -/
inductive Fault where
  | badText
  | malformed
  deriving DecidableEq, Repr

def read (r : Reading) : List Event → Except Fault Reading
  | [] => .ok r
  | .text raw :: es =>
    if r.inText then
      match unescape? .document raw with
      | some cs => read (r.add cs) es
      | none => .error .badText
    else read r es
  | .opened name _ :: es => read (r.opened name) es
  | .single name _ :: es => read (r.single name) es
  | .closed name :: es => read (r.closed name) es
  | .malformed :: _ => .error .malformed
  | .reference _ :: es => read r es
  | .cdata _ :: es => read r es
  | .declaration _ :: es => read r es
  | .aside :: es => read r es

/-- The visible text of a main part. -/
def bodyText (markup : List Char) : Except Fault (List Char) :=
  (read .start (events .document markup)).map fun r => r.text.reverse

def extract (bytes : Bytes) : Except Error String :=
  match Archive.open? true bytes with
  | none => .error (.extraction "not a DOCX (ZIP) file")
  | some archive =>
    match archive.content mainPart with
    | .error .absent => .error (.extraction s!"missing {mainPart}")
    | .error .corrupt => .error (.file (.other "corrupt archive"))
    | .ok content =>
      match Utf8.decode content with
      | .error _ => .error (.file .notText)
      | .ok markup =>
        match bodyText markup.toList with
        | .ok text => .ok (String.ofList text)
        | .error .badText => .error (.extraction "bad XML text")
        | .error .malformed => .error (.extraction s!"malformed {mainPart}")

/-- A piece of a line between tabs. -/
def cellMarkup (cell : List Char) : List Char :=
  if cell.isEmpty then []
  else "<w:t xml:space=\"preserve\">".toList ++ escape cell ++ "</w:t>".toList

def lineMarkup (line : List Char) : List Char :=
  Text.join "<w:tab/>".toList ((Text.pieces '\t' line).map cellMarkup)

def paragraphMarkup (block : List Char) : List Char :=
  if block.isEmpty then "<w:p/>".toList
  else
    "<w:p><w:r>".toList ++
      Text.join "<w:br/>".toList ((Text.pieces '\n' block).map lineMarkup) ++
      "</w:r></w:p>".toList

def declaration : String :=
  "<?xml version=\"1.0\" encoding=\"UTF-8\" standalone=\"yes\"?>\n"

def head : String :=
  declaration ++
    "<w:document xmlns:w=\"http://schemas.openxmlformats.org/wordprocessingml/2006/main\"><w:body>"

def tail : String :=
  "<w:sectPr/></w:body></w:document>"

/-- The main part of a document with a text. -/
def mainMarkup (text : List Char) : List Char :=
  head.toList ++ (Text.blocks text).flatMap paragraphMarkup ++ tail.toList

def typesPart : String :=
  declaration ++
    "<Types xmlns=\"http://schemas.openxmlformats.org/package/2006/content-types\">" ++
    "<Default Extension=\"rels\" " ++
    "ContentType=\"application/vnd.openxmlformats-package.relationships+xml\"/>" ++
    "<Default Extension=\"xml\" ContentType=\"application/xml\"/>" ++
    "<Override PartName=\"/word/document.xml\" ContentType=\"application/" ++
    "vnd.openxmlformats-officedocument.wordprocessingml.document.main+xml\"/></Types>"

def relationsPart : String :=
  declaration ++
    "<Relationships xmlns=\"http://schemas.openxmlformats.org/package/2006/relationships\">" ++
    "<Relationship Id=\"rId1\" " ++
    "Type=\"http://schemas.openxmlformats.org/officeDocument/2006/relationships/" ++
    "officeDocument\" " ++
    "Target=\"word/document.xml\"/></Relationships>"

/-- The entries of a document with a text. -/
def parts (text : String) : List Archive.Entry :=
  [⟨"[Content_Types].xml", .deflated, Utf8.encode typesPart⟩,
    ⟨"_rels/.rels", .deflated, Utf8.encode relationsPart⟩,
    ⟨mainPart, .deflated, Utf8.encode (String.ofList (mainMarkup text.toList))⟩]

def render (text : String) : Bytes :=
  Archive.write (parts text)

def contentType : String :=
  "application/vnd.openxmlformats-officedocument.wordprocessingml.document"

end MailMerge.Document
