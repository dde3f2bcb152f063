import MailMerge.Archive.Reader
import MailMerge.Sheet.Strings
import MailMerge.Sheet.Styles

/-!
# Workbooks

A workbook is an archive of markup parts: shared strings, styles, relations, the list of sheets,
and the sheets. All but the sheets are read when it is opened.
-/

namespace MailMerge.Workbook

open Markup

def lowerName (s : String) : List Char :=
  s.toList.map Char.toLower

/-- The header of a part: slashes of both directions and letters of both cases are the same, and
where that finds none, the name itself counts. -/
def partHeader? (a : Archive.Opened) (name : String) : Option Archive.Header :=
  let slashed (s : String) := (lowerName s).map fun c => if c = '\\' then '/' else c
  match a.members.find? fun h => slashed h.name == lowerName name with
  | some h => some h
  | none => a.members.find? fun h => h.name == name

/-- How many bytes of a part are read at a time. -/
def pieceSize : Nat := 8192

/-- The events of an entry up to its first fault, none if it is kept in a way that is not read in
workbooks. -/
def entryEvents? (a : Archive.Opened) (h : Archive.Header) : Option (List PartEvent) :=
  match a.packed? h with
  | none => none
  | some p =>
    if !p.packing.isCommon then none
    else
      let u := p.arriving pieceSize
      some (partEvents u.content ++ if u.sound then [] else [⟨.utf8, .malformed⟩])

/-- The events of a part: the outer none for a part that cannot be read, the inner one for a part
that is not there. -/
def part? (a : Archive.Opened) (name : String) : Option (Option (List PartEvent)) :=
  match partHeader? a name with
  | none => some none
  | some h => (entryEvents? a h).map some

/-- The targets of the relations by their ids, the last one of an id first. -/
def relationsFrom (done : List (List Char × List Char)) :
    List PartEvent → Option (List (List Char × List Char))
  | [] => none
  | p :: ps =>
    match p.event with
    | .malformed => none
    | .opened name attrs =>
      if named name "Relationship" then
        match sound? (attributes attrs) with
        | none => none
        | some as =>
          let value (name : String) := (lenientValue? name (as.map some)).getD []
          match decodeRaw? p.encoding (value "Target") with
          | none => none
          | some target => relationsFrom ((value "Id", target) :: done) ps
      else relationsFrom done ps
    | .closed name =>
      if named name "Relationships" then some done else relationsFrom done ps
    | _ => relationsFrom done ps

/-- A sheet of the list: its name and the name of its part. -/
structure Sheet where
  name : String
  part : String
  deriving DecidableEq, Repr

def partOfTarget (target : List Char) : List Char :=
  if "/xl/".toList.isPrefixOf target then target.drop 1
  else if "xl/".toList.isPrefixOf target then target
  else "xl/".toList ++ target

def sheetKinds : List String :=
  ["worksheets", "chartsheets", "dialogsheets"]

def sheetStates : List String :=
  ["visible", "hidden", "veryHidden"]

/-- Takes the attributes of a sheet one by one. -/
def readSheet? (e : Encoding) (relations : List (List Char × List Char))
    (name part : List Char) : List Attribute → Option (List Char × List Char)
  | [] => some (name, part)
  | a :: as =>
    if a.name = "name".toList then
      (decodeValue? e a.value).bind fun name => readSheet? e relations name part as
    else if a.name = "state".toList then
      match decodeValue? e a.value with
      | some state =>
        if sheetStates.any fun s => s.toList = state then readSheet? e relations name part as
        else none
      | none => none
    else if a.name = "r:id".toList || a.name = "relationships:id".toList then
      match relations.find? fun r => r.1 = a.value with
      | some (_, target) => readSheet? e relations name (partOfTarget target) as
      | none => none
    else readSheet? e relations name part as

def sheet? (e : Encoding) (relations : List (List Char × List Char))
    (attrs : List (Option Attribute)) : Option Sheet := do
  let (name, part) ← readSheet? e relations [] [] (← sound? attrs)
  match Text.pieces '/' part with
  | _ :: kind :: _ =>
    if sheetKinds.any fun k => k.toList = kind then
      return ⟨String.ofList name, String.ofList part⟩
    else none
  | _ => none

/-- The settings of a workbook can be read. -/
def areSettings (e : Encoding) (attrs : List Char) : Bool :=
  match valueOf? "date1904" (looseAttributes attrs) with
  | none => false
  | some none => true
  | some (some value) => (decodeValue? e value).isSome

/-- The sheets of the list. Inside a defined name, up to the element `closing` ends, only texts
matter, and they must be sound. -/
def sheetsFrom (relations : List (List Char × List Char)) (done : List Sheet)
    (closing : Option (List Char)) : List PartEvent → Option (List Sheet)
  | [] => none
  | p :: ps =>
    match closing, p.event with
    | _, .malformed => none
    | some name, .text raw =>
      if (decodeText? p.encoding raw).isSome then sheetsFrom relations done (some name) ps
      else none
    | some name, .reference n =>
      if (decodeReference? p.encoding n).isSome then sheetsFrom relations done (some name) ps
      else none
    | some name, .closed n =>
      sheetsFrom relations done (if n = name then none else some name) ps
    | some name, _ => sheetsFrom relations done (some name) ps
    | none, .opened name attrs =>
      if named name "sheet" then
        match sheet? p.encoding relations (attributes attrs) with
        | some s => sheetsFrom relations (s :: done) none ps
        | none => none
      else if name = "workbookPr".toList then
        if areSettings p.encoding attrs then sheetsFrom relations done none ps else none
      else if named name "definedName" then
        match lenientValue? "name" (attributes attrs) with
        | none => sheetsFrom relations done none ps
        | some value =>
          if (decodeValue? p.encoding value).isSome then sheetsFrom relations done (some name) ps
          else none
      else sheetsFrom relations done none ps
    | none, .closed name =>
      if named name "workbook" then some done.reverse else sheetsFrom relations done none ps
    | none, _ => sheetsFrom relations done none ps

/-- An opened workbook. -/
structure Book where
  archive : Archive.Opened
  strings : List String
  dated : List Bool
  sheets : List Sheet

/-- The value of a part's events, or a default if the part is not there. -/
def readPart? {α : Type} (a : Archive.Opened) (name : String) (absent : Option α)
    (read : List PartEvent → Option α) : Option α :=
  match part? a name with
  | none => none
  | some none => absent
  | some (some ps) => read ps

def open? (a : Archive.Opened) : Option Book := do
  let strings ← readPart? a "xl/sharedStrings.xml" (some []) (sharedStringsFrom [] none)
  let dated ← readPart? a "xl/styles.xml" (some []) (stylesFrom ⟨[], []⟩ .outside)
  let relations ← readPart? a "xl/_rels/workbook.xml.rels" none (relationsFrom [])
  let sheets ← readPart? a "xl/workbook.xml" (some []) (sheetsFrom relations [] none)
  return ⟨a, strings, dated, sheets⟩

end MailMerge.Workbook
