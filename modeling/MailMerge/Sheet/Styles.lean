import MailMerge.Markup.Part

/-!
# Cell styles

The styles of a workbook tell which cells show their numbers as dates. A style names a number
format, which is one that every workbook has or one of the workbook's own.
-/

namespace MailMerge.Workbook

open Markup

/-- How a number format is looked through for signs of a date. The count of open brackets is kept
in a byte, so that 256 of them count as none. -/
structure FormatScan where
  escaped : Bool
  quoted : Bool
  halfDay : Bool
  brackets : UInt8
  elapsed : Bool
  previous : Char

def FormatScan.start : FormatScan :=
  ⟨false, false, false, 0, false, ' '⟩

/-- Whether a number format shows dates or times; only its first section counts. -/
def isDateFormat (s : FormatScan) : List Char → Bool
  | [] => false
  | c :: rest =>
    let next := { s with previous := c }
    if s.escaped then isDateFormat { next with escaped := false } rest
    else if c = '_' || c = '\\' then isDateFormat { next with escaped := true } rest
    else if s.quoted then isDateFormat { next with quoted := c ≠ '"' } rest
    else if c = '"' then isDateFormat { next with quoted := true } rest
    else if c = ';' then false
    else if c = '[' then isDateFormat { next with brackets := s.brackets + 1 } rest
    else if c = ']' then
      if s.brackets = 1 && s.elapsed then true
      else
        isDateFormat { next with brackets := if s.brackets = 0 then 0 else s.brackets - 1 } rest
    else if (c = 'a' || c = 'A') && !s.halfDay && s.brackets = 0 then
      isDateFormat { next with halfDay := true } rest
    else if "pm/PM".toList.contains c && s.halfDay && s.brackets = 0 then true
    else if "dmhysDMHYS".toList.contains c && !s.halfDay && s.brackets = 0 then true
    else if s.elapsed && c.toLower = s.previous.toLower then isDateFormat next rest
    else
      isDateFormat { next with elapsed := s.previous = '[' && "mhsMHS".toList.contains c } rest

/-- The numbers of the date and time formats that every workbook has. -/
def dateFormats : List String :=
  ["14", "15", "16", "17", "18", "19", "20", "21", "22", "45", "46", "47"]

/-- What is known of the styles: the formats by number and, last first, which cell styles show
dates. -/
structure Styles where
  formats : List (List Char × List Char)
  dated : List Bool

/-- The part of the styles that is being read. -/
inductive StyleMode where
  | outside
  | inFormats
  | inCells

def readFormat? (s : Styles) (e : Encoding) (attrs : List (Option Attribute)) : Option Styles :=
  (sound? attrs).bind fun as =>
    let value (name : String) := (lenientValue? name (as.map some)).getD []
    (decodeRaw? e (value "formatCode")).map fun code =>
      if code.isEmpty then s else { s with formats := (value "numFmtId", code) :: s.formats }

def isDated (s : Styles) (attrs : List (Option Attribute)) : Bool :=
  match lenientValue? "numFmtId" attrs with
  | none => false
  | some number =>
    match s.formats.find? fun f => f.1 = number with
    | some (_, code) => isDateFormat .start code
    | none => dateFormats.any fun id => id.toList = number

/-- Reads the styles and tells which of them show dates. -/
def stylesFrom (s : Styles) (mode : StyleMode) : List PartEvent → Option (List Bool)
  | [] => none
  | p :: ps =>
    match mode, p.event with
    | _, .malformed => none
    | .outside, .opened name _ =>
      if named name "numFmts" then stylesFrom s .inFormats ps
      else if named name "cellXfs" then stylesFrom s .inCells ps
      else stylesFrom s .outside ps
    | .outside, .closed name =>
      if named name "styleSheet" then some s.dated.reverse else stylesFrom s .outside ps
    | .inFormats, .opened name attrs =>
      if named name "numFmt" then
        match readFormat? s p.encoding (attributes attrs) with
        | some s => stylesFrom s .inFormats ps
        | none => none
      else stylesFrom s .inFormats ps
    | .inFormats, .closed name =>
      stylesFrom s (if named name "numFmts" then .outside else .inFormats) ps
    | .inCells, .opened name attrs =>
      if named name "xf" then
        stylesFrom { s with dated := isDated s (attributes attrs) :: s.dated } .inCells ps
      else stylesFrom s .inCells ps
    | .inCells, .closed name =>
      stylesFrom s (if named name "cellXfs" then .outside else .inCells) ps
    | mode, _ => stylesFrom s mode ps

end MailMerge.Workbook
