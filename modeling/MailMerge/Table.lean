import MailMerge.Normal
import MailMerge.Sheet.Csv
import MailMerge.Sheet.OpenDocument
import MailMerge.Sheet.Worksheet

/-!
# Tabular data

Rows of records from comma-separated files and from workbooks. A workbook is known by its content,
whichever workbook format its name claims.
-/

namespace MailMerge

/-- A reader of tabular data in some formats. -/
structure TableReader where
  formats : List String
  read : Bytes → String → Except Error (List Record)

namespace TableReader

/-- Formats are compared without regard to case. -/
def supports (r : TableReader) (format : String) : Bool :=
  r.formats.any fun f => lowerAscii f == lowerAscii format

def workbookFormats : List String :=
  ["xlsx", "xlsm", "xlsb", "xls", "ods"]

def spreadsheetFormats : List String :=
  workbookFormats ++ ["csv"]

def readCsv (bytes : Bytes) : Except Error (List Record) :=
  (Csv.read bytes).map fun (header, rows) => rows.map (Record.ofRow header)

/-- The records of a workbook's first sheet. -/
def readWorkbook (bytes : Bytes) : Except Error (List Record) :=
  match Archive.open? false bytes with
  | none => .error (.table "cannot open workbook")
  | some a =>
    match Workbook.open? a with
    | some book =>
      match book.sheets with
      | [] => .ok []
      | first :: _ =>
        match Workbook.rows? book ((book.sheets.find? fun s => s.name = first.name).getD first) with
        | some rows => .ok (Record.ofCells rows)
        | none => .error (.table s!"cannot read sheet '{first.name}'")
    | none =>
      match OpenDocument.open? a with
      | some tables => .ok (Record.ofCells (OpenDocument.rows tables))
      | none => .error (.table "cannot open workbook")

def readSpreadsheet (bytes : Bytes) (format : String) : Except Error (List Record) :=
  let format := lowerAscii format
  if format = "csv" then readCsv bytes
  else if workbookFormats.contains format then readWorkbook bytes
  else .error (.unsupportedFormat format (Text.joinTexts ", " spreadsheetFormats))

def spreadsheet : TableReader :=
  ⟨spreadsheetFormats, readSpreadsheet⟩

end TableReader

end MailMerge
