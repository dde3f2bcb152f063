import MailMerge.Error
import MailMerge.Text.Blank
import MailMerge.Text.Utf8

/-!
# Comma-separated values

Fields end at a comma, records at a line end of either kind, and blank lines are no records. A
field that begins with a quote runs to the closing quote, a doubled quote inside it being one
quote; what follows the closing quote up to the next comma belongs to the field as it is.
-/

namespace MailMerge.Csv

def comma : UInt8 := 44

def quote : UInt8 := 34

def isLineEnd (b : UInt8) : Bool :=
  b == 10 || b == 13

/-- Where the reader of a record stands. -/
inductive Mode where
  | recordStart
  | fieldStart
  | plain
  | quoted
  /-- Behind a quote inside a quoted field: its end, or the first half of a doubled quote. -/
  | quoteSeen
  deriving DecidableEq, Repr

/-- Reads a record: its fields, the bytes of a field last byte first while it is read, and the
bytes after the record. There is none at the end of the bytes. -/
def readRecord (mode : Mode) (field : Bytes) (fields : List Bytes) :
    Bytes → Option (List Bytes × Bytes)
  | [] =>
    if mode = .recordStart then none else some ((field.reverse :: fields).reverse, [])
  | b :: rest =>
    match mode with
    | .recordStart =>
      if isLineEnd b then readRecord .recordStart field fields rest
      else if b = quote then readRecord .quoted [] fields rest
      else if b = comma then readRecord .fieldStart [] ([] :: fields) rest
      else readRecord .plain [b] fields rest
    | .fieldStart =>
      if isLineEnd b then some (([] :: fields).reverse, rest)
      else if b = quote then readRecord .quoted [] fields rest
      else if b = comma then readRecord .fieldStart [] ([] :: fields) rest
      else readRecord .plain [b] fields rest
    | .plain =>
      if isLineEnd b then some ((field.reverse :: fields).reverse, rest)
      else if b = comma then readRecord .fieldStart [] (field.reverse :: fields) rest
      else readRecord .plain (b :: field) fields rest
    | .quoted =>
      if b = quote then readRecord .quoteSeen field fields rest
      else readRecord .quoted (b :: field) fields rest
    | .quoteSeen =>
      if b = quote then readRecord .quoted (b :: field) fields rest
      else if isLineEnd b then some ((field.reverse :: fields).reverse, rest)
      else if b = comma then readRecord .fieldStart [] (field.reverse :: fields) rest
      else readRecord .plain (b :: field) fields rest

/-- Where a record begins: how many records, line feeds and bytes come before it. -/
structure Place where
  record : Nat
  lines : Nat
  bytes : Nat
  deriving DecidableEq, Repr

/-- The place after more bytes of one record. -/
def Place.after (p : Place) (consumed : Bytes) : Place :=
  ⟨p.record + 1, p.lines + consumed.count 10, p.bytes + consumed.length⟩

/-- A field that is no UTF-8, in the record at a place. -/
structure Fault where
  place : Place
  field : Nat
  index : Nat
  deriving DecidableEq, Repr

def Fault.message (f : Fault) : String :=
  s!"CSV parse error: record {f.place.record} (line {f.place.lines + 1}, field: {f.field}, " ++
    s!"byte: {f.place.bytes}): invalid utf-8: invalid UTF-8 in field {f.field} " ++
    s!"near byte index {f.index}"

/-- The fields of a record as texts, `i` being the number of the first. -/
def decodeFields (place : Place) (i : Nat) : List Bytes → Except Fault (List String)
  | [] => .ok []
  | f :: rest =>
    match Utf8.decode f with
    | .error fault => .error ⟨place, i, fault.index⟩
    | .ok text => (decodeFields place (i + 1) rest).map (text :: ·)

/-- The records of bytes, up to the first that is no text. -/
def records (fuel : Nat) (place : Place) (bytes : Bytes) : List (Except Fault (List String)) :=
  match fuel with
  | 0 => []
  | fuel + 1 =>
    match readRecord .recordStart [] [] bytes with
    | none => []
    | some (fields, rest) =>
      match decodeFields place 0 fields with
      | .error fault => [.error fault]
      | .ok texts =>
        let consumed := bytes.take (bytes.length - rest.length)
        .ok texts :: records fuel (place.after consumed) rest

def byteOrderMark : Bytes := [0xEF, 0xBB, 0xBF]

/-- The rows after the header, `line` being the number of the first in messages. -/
def rows (line : Nat) : List (Except Fault (List String)) → Except Error (List (List String))
  | [] => .ok []
  | .error fault :: _ => .error (.table s!"CSV row {line}: {fault.message}")
  | .ok row :: rest => (rows (line + 1) rest).map (row :: ·)

/-- The trimmed header and the rows of a file. A byte order mark at its beginning does not count,
nor does a second one. -/
def read (bytes : Bytes) : Except Error (List String × List (List String)) :=
  let bytes := if byteOrderMark.isPrefixOf bytes then bytes.drop 3 else bytes
  let start : Place :=
    if byteOrderMark.isPrefixOf bytes then ⟨0, 0, 3⟩ else ⟨0, 0, 0⟩
  match records (bytes.length + 1) start (bytes.drop start.bytes) with
  | [] => .ok ([], [])
  | .error fault :: _ =>
    let fault := { fault with place := ⟨0, 0, 0⟩ }
    .error (.table s!"cannot read CSV header: {fault.message}")
  | .ok header :: rest => (rows 2 rest).map fun table => (header.map Text.trimmed, table)

end MailMerge.Csv
