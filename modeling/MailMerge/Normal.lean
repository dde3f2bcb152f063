import MailMerge.Text.Blank

/-!
# Normal forms of input

Extracted text has no-break spaces made plain spaces and no blank characters at its ends. A format
is named by its extension without leading points, in lower case.
-/

namespace MailMerge

def normalizeText (text : String) : String :=
  String.ofList (Text.trim (text.toList.map fun c => if c == '\u00A0' then ' ' else c))

def lowerAscii (s : String) : String :=
  String.ofList (s.toList.map Char.toLower)

def normalizeFormat (format : String) : String :=
  String.ofList (((Text.trim format.toList).dropWhile (· == '.')).map Char.toLower)

end MailMerge
