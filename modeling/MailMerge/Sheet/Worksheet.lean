import MailMerge.Sheet.Cell
import MailMerge.Sheet.Workbook
import Std.Data.HashMap

/-!
# Sheets of workbooks

The cells of a sheet are placed by their references, or else behind the cell before them. The
sheet is the smallest area that holds all cells that are not empty.
-/

namespace MailMerge.Workbook

open Markup

/-- Rows and columns are counted in 32 bits, around the end. -/
def indexBound : Nat := Nat.pow 2 32

/-- The index behind another one. -/
def nextIndex (n : Nat) : Nat :=
  (n + 1) % indexBound

/-- A cell's reference, letters and then digits: its row and, if its letters are a column, that
column, both counted from zero. -/
def reference? (cs : List Char) : Option (Nat × Option Nat) :=
  let isLetter (c : Char) := c.toLower.toNat - 97 < 26 && 97 ≤ c.toLower.toNat
  let letters := cs.takeWhile isLetter
  let column := letters.foldl (fun n c => n * 26 + (c.toLower.toNat - 96)) 0 % indexBound
  match Digits.toNat? (cs.dropWhile isLetter) with
  | none => none
  | some n =>
    let row := n % indexBound
    if row = 0 then none
    else some (row - 1, if column = 0 then none else some (column - 1))

def cellReference? (cs : List Char) : Option (Nat × Nat) :=
  match reference? cs with
  | some (row, some column) => some (row, column)
  | _ => none

/-- An area reference: one cell or two. -/
def isArea (cs : List Char) : Bool :=
  let ends := Text.pieces ':' cs
  ends.length ≤ 2 && ends.all fun e => (cellReference? e).isSome

def errorTexts : List String :=
  ["#DIV/0!", "#N/A", "#NAME?", "#NULL!", "#NUM!", "#REF!", "#VALUE!"]

/-- An index into a table: a number of 64 bits in at most 20 digits, or else zero. -/
def indexOf (cs : List Char) : Nat :=
  match Digits.toNat? cs with
  | some n => if cs.length ≤ 20 && n < Nat.pow 2 64 then n else 0
  | none => 0

def numberCell (b : Book) (attrs : List (Option Attribute)) (x : Binary64) : Cell :=
  match valueOf? "s" attrs with
  | some (some style) => if b.dated[indexOf style]?.getD false then .serial x else .number x
  | _ => .number x

/-- The cell with this value text, by the type that its attributes give. -/
def valueCell? (b : Book) (attrs : List (Option Attribute)) (v : List Char) : Option Cell :=
  match valueOf? "t" attrs with
  | none => none
  | some none =>
    match Binary64.read? v with
    | some x => some (numberCell b attrs x)
    | none => some (.text (String.ofList v))
  | some (some t) =>
    if t = "s".toList then b.strings[indexOf v]?.map .text
    else if t = "b".toList then some (.flag (v ≠ "0".toList))
    else if t = "e".toList then
      if errorTexts.any fun e => e.toList = v then some (.text (String.ofList v)) else none
    else if t = "d".toList || t = "str".toList then some (.text (String.ofList v))
    else if t = "n".toList then
      if v.isEmpty then some .empty else (Binary64.read? v).map (numberCell b attrs)
    else none

/-- A cell that is being read. -/
structure CellReading where
  place : Nat × Nat
  attrs : List (Option Attribute)
  value : Cell

/-- Where the reader of a sheet stands. -/
inductive SheetMode where
  /-- Before the rows, behind any first element or not. -/
  | before (rooted : Bool)
  | inRows
  | inCell (c : CellReading)
  /-- In a value, whose text so far has its last character first. -/
  | inValue (c : CellReading) (name text : List Char)
  | inFormula (c : CellReading) (name : List Char) (depth : Nat)
  | inString (c : CellReading) (r : StringReading)

/-- The place of the next cell without a reference, and the cells so far, last first. -/
structure SheetReading where
  row : Nat
  column : Nat
  cells : List ((Nat × Nat) × Cell)

def openCell? (r : SheetReading) (attrs : List (Option Attribute)) : Option CellReading :=
  match valueOf? "r" attrs with
  | none => none
  | some none => some ⟨(r.row, r.column), attrs, .empty⟩
  | some (some reference) => (cellReference? reference).map fun place => ⟨place, attrs, .empty⟩

def openRow? (r : SheetReading) (attrs : List (Option Attribute)) : Option SheetReading :=
  match valueOf? "r" attrs with
  | none => none
  | some none => some r
  | some (some reference) => (reference? reference).map fun (row, _) => { r with row := row }

/-- An element inside a cell. -/
def openContent? (c : CellReading) (name : List Char) : Option SheetMode :=
  if named name "is" then some (.inString c (.start name))
  else if named name "v" then some (.inValue c name [])
  else if named name "f" then some (.inFormula c name 0)
  else none

/-- An element before the rows. The first one that is not the area of the sheet tells what kind of
part this is, and its name must be readable. -/
def openBefore? (e : Encoding) (rooted : Bool) (name attrs : List Char) : Option SheetMode :=
  if named name "dimension" then
    match valueOf? "ref" (attributes attrs) with
    | some (some area) => if isArea area then some (.before rooted) else none
    | _ => none
  else if named name "sheetData" then some .inRows
  else if rooted || (decodeRaw? e (localName name)).isSome then some (.before true)
  else none

/-- The cells of a sheet's events; a part without rows has none, if it has any element. -/
def cellsFrom (b : Book) (r : SheetReading) (mode : SheetMode) :
    List PartEvent → Option (List ((Nat × Nat) × Cell))
  | [] =>
    match mode with
    | .before true => some []
    | _ => none
  | p :: ps =>
    match mode, p.event with
    | _, .malformed => none
    | .before rooted, .opened name attrs =>
      match openBefore? p.encoding rooted name attrs with
      | some mode => cellsFrom b r mode ps
      | none => none
    | .inRows, .opened name attrs =>
      if named name "row" then
        match openRow? r (attributes attrs) with
        | some r => cellsFrom b r .inRows ps
        | none => none
      else if named name "c" then
        match openCell? r (attributes attrs) with
        | some c => cellsFrom b { r with column := c.place.2 } (.inCell c) ps
        | none => none
      else cellsFrom b r .inRows ps
    | .inRows, .closed name =>
      if named name "row" then
        cellsFrom b { r with row := nextIndex r.row, column := 0 } .inRows ps
      else if named name "sheetData" then some r.cells.reverse
      else cellsFrom b r .inRows ps
    | .inCell c, .opened name _ =>
      match openContent? c name with
      | some mode => cellsFrom b r mode ps
      | none => none
    | .inCell c, .closed name =>
      if named name "c" then
        cellsFrom b { r with column := nextIndex r.column, cells := (c.place, c.value) :: r.cells }
          .inRows ps
      else cellsFrom b r (.inCell c) ps
    | .inValue c name text, .text raw =>
      match decodeText? p.encoding raw with
      | some cs => cellsFrom b r (.inValue c name (cs.reverse ++ text)) ps
      | none => none
    | .inValue c name text, .reference n =>
      match decodeReference? p.encoding n with
      | some x => cellsFrom b r (.inValue c name (x :: text)) ps
      | none => none
    | .inValue c name text, .closed n =>
      if n = name then
        match valueCell? b c.attrs text.reverse with
        | some value => cellsFrom b r (.inCell { c with value := value }) ps
        | none => none
      else cellsFrom b r (.inValue c name text) ps
    | .inFormula c name depth, .opened n _ =>
      cellsFrom b r (.inFormula c name (if n = name then depth + 1 else depth)) ps
    | .inFormula c name depth, .closed n =>
      if n = name then
        match depth with
        | 0 => cellsFrom b r (.inCell { c with value := .empty }) ps
        | d + 1 => cellsFrom b r (.inFormula c name d) ps
      else cellsFrom b r (.inFormula c name depth) ps
    | .inString c s, _ =>
      match s.step p with
      | none => none
      | some (.more s) => cellsFrom b r (.inString c s) ps
      | some (.done text) =>
        let value := match text with
          | some cs => Cell.text (String.ofList cs)
          | none => .empty
        cellsFrom b r (.inCell { c with value := value }) ps
    | mode, _ => cellsFrom b r mode ps

/-- The numbers from `low` to `high`. -/
def span (low high : Nat) : List Nat :=
  (List.range (high + 1 - low)).map (low + ·)

/-- The cells by their rows, the last one of a row first. -/
def byRow (cells : List ((Nat × Nat) × Cell)) : Std.HashMap Nat (List (Nat × Cell)) :=
  cells.foldl
    (fun rows c => rows.alter c.1.1 fun row => some ((c.1.2, c.2) :: row.getD [])) {}

/-- The last cell in a column. -/
def cellAt (row : List (Nat × Cell)) (column : Nat) : Cell :=
  (row.lookup column).getD .empty

/-- The rows of the smallest area that holds all cells. -/
def area (cells : List ((Nat × Nat) × Cell)) : List (List Cell) :=
  match cells with
  | [] => []
  | (place, _) :: _ =>
    let rows := cells.map fun c => c.1.1
    let columns := cells.map fun c => c.1.2
    let columnSpan := span (columns.foldl min place.2) (columns.foldl max place.2)
    let filled := byRow cells
    (span (rows.foldl min place.1) (rows.foldl max place.1)).map fun row =>
      columnSpan.map (cellAt (filled.getD row []))

/-- The rows of a sheet, none if it cannot be read. -/
def rows? (b : Book) (s : Sheet) : Option (List (List Cell)) := do
  let ps ← (← part? b.archive s.part)
  let cells ← cellsFrom b ⟨0, 0, []⟩ (.before false) ps
  return area (cells.filter fun c => c.2 ≠ .empty)

end MailMerge.Workbook
