import MailMerge.Text.Split
import MailMerge.Text.Utf8

/-!
# Artifacts

An artifact is one finished document under its file name.
-/

namespace MailMerge

structure Artifact where
  name : String
  content : Bytes
  deriving DecidableEq, Repr

/-- The name without its last extension. -/
def Artifact.stem (a : Artifact) : String :=
  match Text.cutLast '.' a.name.toList with
  | some (before, _) => String.ofList before
  | none => a.name

end MailMerge
