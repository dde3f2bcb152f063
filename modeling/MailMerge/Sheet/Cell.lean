import MailMerge.Number.Reading
import MailMerge.Number.Shortest
import MailMerge.Record

/-!
# Cells

The cells of a worksheet and the records of a table: the first row names the columns, each later
row is a record, columns without a name are left out, and of several columns of one name the last
one counts.
-/

namespace MailMerge

inductive Cell where
  | empty
  | text (s : String)
  | number (x : Binary64)
  /-- A number that is shown as a date. -/
  | serial (x : Binary64)
  | flag (b : Bool)
  deriving DecidableEq, Repr

namespace Cell

/-- Whole numbers below this are written as integers. -/
def wholeBound : Nat := Nat.pow 10 15

def numberText (x : Binary64) : List Char :=
  match x.toInt? with
  | some n =>
    if n.natAbs < wholeBound then
      if n < 0 then '-' :: Digits.ofNat n.natAbs else Digits.ofNat n.natAbs
    else x.text .plain
  | none => x.text .plain

def toText : Cell → String
  | empty => ""
  | text s => s
  | number x => String.ofList (numberText x)
  | serial x => String.ofList (x.text .plain)
  | flag b => if b then "true" else "false"

end Cell

namespace Record

/-- The record of a row: cells under the names of their columns. -/
def ofRow (header row : List String) : Record :=
  ofList ((header.zip row).filter fun p => p.1 ≠ "")

/-- The records of a table of cells, the first row being its header. -/
def ofCells : List (List Cell) → List Record
  | [] => []
  | header :: rows =>
    rows.map fun row =>
      ofRow (header.map fun c => Text.trimmed c.toText) (row.map Cell.toText)

end Record

end MailMerge
