import MailMerge.Document

/-!
# Text extractors

An extractor reads the text of a template in one format. A plain text template is its own text; a
word document has the text of its runs.
-/

namespace MailMerge

structure Extractor where
  format : String
  extract : Bytes → Except Error String

def plainText (bytes : Bytes) : Except Error String :=
  match Utf8.decode bytes with
  | .ok text => .ok text
  | .error fault => .error (.extraction s!"template is not valid UTF-8: {fault.message}")

def Extractor.plain : Extractor :=
  ⟨"txt", plainText⟩

def Extractor.document : Extractor :=
  ⟨"docx", Document.extract⟩

end MailMerge
