import MailMerge.Archive.Reader
import MailMerge.Markup.Part
import MailMerge.Sheet.Cell

/-!
# OpenDocument spreadsheets

A spreadsheet is an archive with its type in a part of its own and its tables in one content part.
Rows and cells may be given once for many; the first table is cut to the smallest area that holds
all cells that are not empty.
-/

namespace MailMerge.OpenDocument

open Markup

def spreadsheetType : String :=
  "application/vnd.oasis.opendocument.spreadsheet"

/-- A string cell that is being read: its paragraphs joined by line ends, the last character
first. -/
structure StringReading where
  text : List Char
  firstParagraph : Bool
  inAnnotation : Bool

/-- A row that is being read: its cells, last first, and how many empty ones are held back. -/
structure RowReading where
  cells : List Cell
  held : Nat
  repeats : Nat

/-- A table that is being read: its rows, last first, with how often each of them comes. -/
structure TableReading where
  name : String
  rows : List (List Cell × Nat)

/-- The tables read so far, last first, and whether the style seen last has a name. -/
structure ContentReading where
  tables : List TableReading
  styled : Bool

/-- Where the reader of the content stands. -/
inductive Mode where
  | outside
  /-- Among the names that the tables' areas have. -/
  | inNames
  | inTable (t : TableReading)
  | inRow (t : TableReading) (r : RowReading)
  /-- In a string cell that comes so many times. -/
  | inString (t : TableReading) (r : RowReading) (repeats : Nat) (s : StringReading)
  /-- In a cell of which only the end is looked for. -/
  | inCell (t : TableReading) (r : RowReading) (name : List Char) (depth : Nat)

def digitsBelow? (bound : Nat) (cs : List Char) : Option Nat :=
  (Digits.toNat? cs).filter (· < bound)

/-- How often a row comes: a number of 64 bits, perhaps with a plus. -/
def rowCount? : List Char → Option Nat
  | '+' :: ds => digitsBelow? (Nat.pow 2 64) ds
  | ds => digitsBelow? (Nat.pow 2 64) ds

/-- How often a cell or a space comes: a signed number of 32 bits. A negative one is none at all. -/
def cellCount? : List Char → Option Nat
  | '+' :: ds => digitsBelow? (Nat.pow 2 31) ds
  | '-' :: ds => (digitsBelow? (Nat.pow 2 31 + 1) ds).map fun _ => 0
  | ds => digitsBelow? (Nat.pow 2 31) ds

/-- The decoded value of the attribute of a name, which may be absent. -/
def decodedValue? (e : Encoding) (name : String) (attrs : List Char) :
    Option (Option (List Char)) :=
  match valueOf? name (looseAttributes attrs) with
  | none => none
  | some none => some none
  | some (some v) => (decodeValue? e v).map some

/-- The count that an attribute gives, one if there is none. -/
def repeats? (e : Encoding) (name : String) (count? : List Char → Option Nat)
    (attrs : List Char) : Option Nat :=
  match decodedValue? e name attrs with
  | none => none
  | some none => some 1
  | some (some v) => count? v

/-- What the attributes of a cell say: its value if they give one, and whether it is a string. -/
structure CellType where
  value : Option Cell
  isString : Bool

def readAttribute? (e : Encoding) (t : CellType) (a : Attribute) : Option CellType :=
  let named (name : String) := a.name == name.toList
  if named "table:formula" then (decodeValue? e a.value).map fun _ => t
  else if t.value.isSome then some t
  else if named "office:value" then
    ((decodeRaw? e a.value).bind Binary64.read?).map fun x => { t with value := some (.number x) }
  else if named "office:string-value" || named "office:date-value" || named "office:time-value" then
    (decodeValue? e a.value).map fun v => { t with value := some (.text (String.ofList v)) }
  else if named "office:boolean-value" then
    some { t with value := some (.flag (a.value = "TRUE".toList || a.value = "true".toList)) }
  else if named "office:value-type" then some { t with isString := a.value = "string".toList }
  else some t

def readAttributes? (e : Encoding) (t : CellType) : List Attribute → Option CellType
  | [] => some t
  | a :: as => (readAttribute? e t a).bind fun t => readAttributes? e t as

/-- Adds a cell so many times; empty ones are held back until another cell follows. -/
def RowReading.add (r : RowReading) (cell : Cell) (repeats : Nat) : RowReading :=
  let cells := List.replicate r.held .empty ++ r.cells
  if cell = .empty then { r with cells := cells, held := repeats }
  else { r with cells := List.replicate repeats cell ++ cells, held := 0 }

def isCell (name : List Char) : Bool :=
  name == "table:table-cell".toList || name == "table:covered-table-cell".toList

def isName (name : List Char) : Bool :=
  name == "table:named-range".toList || name == "table:named-expression".toList

def startCell? (e : Encoding) (t : TableReading) (r : RowReading) (name : List Char)
    (attrs : List (Option Attribute)) : Option Mode := do
  let repeats ← match valueOf? "table:number-columns-repeated" attrs with
    | none => none
    | some none => some 1
    | some (some v) => (decodeRaw? e v).bind cellCount?
  let type ← readAttributes? e ⟨none, false⟩ (← sound? attrs)
  match type.value, type.isString with
  | none, true => return .inString t r repeats ⟨[], true, false⟩
  | value, _ => return .inCell t (r.add (value.getD .empty) repeats) name 0

/-- An element inside a string cell. -/
def openInString? (e : Encoding) (s : StringReading) (name attrs : List Char) :
    Option StringReading :=
  if name = "office:annotation".toList then some { s with inAnnotation := true }
  else if name = "text:p".toList then
    some { s with text := if s.firstParagraph then s.text else '\n' :: s.text,
                  firstParagraph := false }
  else if name = "text:s".toList then
    (repeats? e "text:c" cellCount? attrs).map fun n =>
      { s with text := List.replicate n ' ' ++ s.text }
  else some s

/-- Whether a table with this style is shown can be told. -/
def tellsDisplay (e : Encoding) (attrs : List Char) : Bool :=
  match decodedValue? e "table:display" attrs with
  | none => false
  | some none => true
  | some (some v) => v == "true".toList || v == "false".toList

/-- The attributes of a named area can be read. -/
def isNamedArea (e : Encoding) (attrs : List (Option Attribute)) : Bool :=
  let read := ["table:name", "table:cell-range-address", "table:expression"]
  match sound? attrs with
  | none => false
  | some as =>
    as.all fun a => !(read.any fun n => n.toList = a.name) || (decodeValue? e a.value).isSome

/-- An element outside of tables: what is known behind it, and where the reader stands. -/
def openOutside? (e : Encoding) (c : ContentReading) (name attrs : List Char) :
    Option (ContentReading × Mode) :=
  if name = "style:style".toList then
    (decodedValue? e "style:name" attrs).map fun v => ({ c with styled := v.isSome }, .outside)
  else if name = "style:table-properties".toList && c.styled then
    if tellsDisplay e attrs then some (c, .outside) else none
  else if name = "table:table".toList then
    if (decodedValue? e "table:style-name" attrs).isNone then none
    else
      match lenientValue? "table:name" (attributes attrs) with
      | none => some (c, .outside)
      | some v => (decodeValue? e v).map fun v => (c, .inTable ⟨String.ofList v, []⟩)
  else if name = "table:named-expressions".toList then some (c, .inNames)
  else some (c, .outside)

/-- Reads the tables of the content, the last one first. -/
def tablesFrom (c : ContentReading) (mode : Mode) : List PartEvent → Option (List TableReading)
  | [] =>
    match mode with
    | .outside => some c.tables
    | _ => none
  | p :: ps =>
    match mode, p.event with
    | _, .malformed => none
    | .outside, .opened name attrs =>
      match openOutside? p.encoding c name attrs with
      | some (c, mode) => tablesFrom c mode ps
      | none => none
    | .outside, _ => tablesFrom c .outside ps
    | .inNames, .opened name attrs =>
      if isName name && isNamedArea p.encoding (attributes attrs) then tablesFrom c .inNames ps
      else none
    | .inNames, .closed name =>
      if isName name then tablesFrom c .inNames ps
      else if name = "table:named-expressions".toList then tablesFrom c .outside ps
      else none
    | .inNames, _ => none
    | .inTable t, .opened name attrs =>
      if name = "table:table-row".toList then
        match repeats? p.encoding "table:number-rows-repeated" rowCount? attrs with
        | some n => tablesFrom c (.inRow t ⟨[], 0, n⟩) ps
        | none => none
      else tablesFrom c (.inTable t) ps
    | .inTable t, .closed name =>
      if name = "table:table".toList then tablesFrom { c with tables := t :: c.tables } .outside ps
      else tablesFrom c (.inTable t) ps
    | .inTable t, _ => tablesFrom c (.inTable t) ps
    | .inRow t r, .opened name attrs =>
      if isCell name then
        match startCell? p.encoding t r name (attributes attrs) with
        | some mode => tablesFrom c mode ps
        | none => none
      else none
    | .inRow t r, .closed name =>
      if name = "table:table-row".toList then
        tablesFrom c (.inTable { t with rows := (r.cells.reverse, r.repeats) :: t.rows }) ps
      else none
    | .inRow _ _, _ => none
    | .inString t r repeats s, .text raw =>
      if s.inAnnotation then tablesFrom c (.inString t r repeats s) ps
      else
        match decodeText? p.encoding raw with
        | some cs => tablesFrom c (.inString t r repeats { s with text := cs.reverse ++ s.text }) ps
        | none => none
    | .inString t r repeats s, .reference name =>
      if s.inAnnotation then tablesFrom c (.inString t r repeats s) ps
      else
        match decodeReference? p.encoding name with
        | some x => tablesFrom c (.inString t r repeats { s with text := x :: s.text }) ps
        | none => none
    | .inString t r repeats s, .opened name attrs =>
      if s.inAnnotation then tablesFrom c (.inString t r repeats s) ps
      else
        match openInString? p.encoding s name attrs with
        | some s => tablesFrom c (.inString t r repeats s) ps
        | none => none
    | .inString t r repeats s, .closed name =>
      if s.inAnnotation then
        tablesFrom c (.inString t r repeats
          { s with inAnnotation := name ≠ "office:annotation".toList }) ps
      else if isCell name then
        tablesFrom c (.inRow t (r.add (.text (String.ofList s.text.reverse)) repeats)) ps
      else tablesFrom c (.inString t r repeats s) ps
    | .inString t r repeats s, _ => tablesFrom c (.inString t r repeats s) ps
    | .inCell t r name depth, .opened n _ =>
      tablesFrom c (.inCell t r name (if n = name then depth + 1 else depth)) ps
    | .inCell t r name depth, .closed n =>
      if n = name then
        match depth with
        | 0 => tablesFrom c (.inRow t r) ps
        | d + 1 => tablesFrom c (.inCell t r name d) ps
      else tablesFrom c (.inCell t r name depth) ps
    | .inCell t r name depth, _ => tablesFrom c (.inCell t r name depth) ps

/-- The manifest speaks of no encryption and can be read to its end. -/
def isOpenManifest (inEntry : Bool) : List PartEvent → Bool
  | [] => true
  | p :: ps =>
    match p.event with
    | .malformed => false
    | .opened name _ =>
      if inEntry && name = "manifest:encryption-data".toList then false
      else isOpenManifest (inEntry || name = "manifest:file-entry".toList) ps
    | _ => isOpenManifest inEntry ps

/-- What the entry of a name gives piece by piece up to its first fault, none if there is no such
entry or it is kept in a way that is not read in spreadsheets. -/
def unpacked? (a : Archive.Opened) (name : String) (piece : Nat) : Option Archive.Unpacked :=
  match (a.members.find? fun h => h.name == name).bind a.packed? with
  | none => none
  | some p => if p.packing.isCommon then some (p.arriving piece) else none

/-- How many bytes of the markup are read at a time. -/
def pieceSize : Nat := 8192

/-- The tables of a spreadsheet in their order, none if the archive is no spreadsheet. Of the type
only as much is read as a type has bytes. -/
def open? (a : Archive.Opened) : Option (List TableReading) := do
  let expected := Utf8.encode spreadsheetType
  let type ← unpacked? a "mimetype" expected.length
  let manifest ← unpacked? a "META-INF/manifest.xml" pieceSize
  let content ← unpacked? a "content.xml" pieceSize
  if expected.isPrefixOf type.content && manifest.sound &&
      isOpenManifest false (partEvents manifest.content) && content.sound then
    (tablesFrom ⟨[], false⟩ .outside (partEvents content.content)).map List.reverse
  else none

def isEmptyRow (row : List Cell) : Bool :=
  row.all (· = .empty)

/-- The cells of a row in columns `low` to `high`. -/
def cutRow (low high : Nat) (row : List Cell) : List Cell :=
  let here := (row.take (high + 1)).drop low
  here ++ List.replicate (high + 1 - low - here.length) .empty

/-- The cells of repeated rows, one row behind the other. Empty rows are held back until another
row follows, and are not cut on their left. -/
def spread (low high held : Nat) : List (List Cell × Nat) → List Cell
  | [] => []
  | (row, n) :: rest =>
    if isEmptyRow row then spread low high (held + n) rest
    else
      (List.replicate held (List.replicate (high + 1) Cell.empty)).flatten ++
        (List.replicate n (cutRow low high row)).flatten ++ spread low high 0 rest

/-- Cells in rows of `width + 1`, the last of which may be shorter. -/
def chunks (width : Nat) (cells : List Cell) : List (List Cell) :=
  match cells with
  | [] => []
  | c :: rest => (c :: rest.take width) :: chunks width (rest.drop width)
termination_by cells.length
decreasing_by simp only [List.length_drop, List.length_cons]; omega

/-- The rows of the smallest area that holds all cells of a table. -/
def area (t : TableReading) : List (List Cell) :=
  let rows := t.rows.reverse.dropWhile fun r => isEmptyRow r.1
  let filled := rows.filter fun r => !isEmptyRow r.1
  let lows := filled.map fun r => (r.1.takeWhile (· = .empty)).length
  let highs := filled.map fun r => r.1.length - (r.1.reverse.takeWhile (· = .empty)).length - 1
  match lows with
  | [] => []
  | first :: _ =>
    let low := lows.foldl min first
    let high := highs.foldl max 0
    chunks (high - low) (spread low high 0 rows)

/-- The rows of the first table; of several tables of its name the last one counts. -/
def rows (tables : List TableReading) : List (List Cell) :=
  match tables with
  | [] => []
  | first :: _ =>
    match tables.reverse.find? fun t => t.name = first.name with
    | some t => area t
    | none => []

end MailMerge.OpenDocument
