import MailMerge.Document

/-!
# Renderers

A renderer makes a document of a filled text: a plain text file, or a word document.
-/

namespace MailMerge

structure Renderer where
  extension : String
  contentType : String
  render : String → Except Error Bytes

namespace Renderer

def plain : Renderer where
  extension := "txt"
  contentType := "text/plain; charset=utf-8"
  render text := .ok (Utf8.encode text)

def document : Renderer where
  extension := "docx"
  contentType := Document.contentType
  render text := .ok (Document.render text)

end Renderer

end MailMerge
