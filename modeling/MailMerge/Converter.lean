import MailMerge.Artifact
import MailMerge.Files.Program
import MailMerge.Renderer

/-!
# Converters

A converter turns a rendered document into the form in which it is delivered. It may fail, and it
may come to no end within its time.
-/

namespace MailMerge

/-- A program that a converter needs, and where it can be had. -/
structure Tool where
  name : String
  install : String
  deriving DecidableEq, Repr

namespace Converter

inductive Outcome where
  | finished (a : Artifact)
  | failed (e : Error)
  | unfinished
  deriving DecidableEq, Repr

end Converter

structure Converter where
  name : String
  targetExtension : String
  contentType : String
  /-- The tools that are needed and missing. -/
  missing : Program (List Tool)
  /-- Converts a document, within so many seconds if a limit is given. -/
  convert : Option Nat → Artifact → Program Converter.Outcome

namespace Converter

/-- Delivers what a renderer makes as it is. -/
def passthrough (renderer : Renderer) : Converter where
  name := "passthrough"
  targetExtension := renderer.extension
  contentType := renderer.contentType
  missing := return []
  convert _ a := return .finished a

end Converter

end MailMerge
