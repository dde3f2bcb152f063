import MailMerge.Archive.Writer
import MailMerge.Artifact
import MailMerge.Error

/-!
# Bundles

A bundle is an archive of artifacts, one entry for each, in their order. No two of them may share
a name, and there must be at least one.
-/

namespace MailMerge

structure Bundle where
  entries : List String
  bytes : Bytes
  deriving DecidableEq, Repr

namespace Bundle

def contentType : String := "application/zip"

/-- The first name that an earlier artifact has too. -/
def firstRepeated (seen : List String) : List Artifact → Option String
  | [] => none
  | a :: rest => if seen.contains a.name then some a.name else firstRepeated (a.name :: seen) rest

def pack (method : Archive.Method) (artifacts : List Artifact) : Except Error Bundle :=
  if artifacts.isEmpty then .error .emptyBundle
  else
    match firstRepeated [] artifacts with
    | some name => .error (.bundle name "duplicate entry name")
    | none =>
      .ok ⟨artifacts.map Artifact.name,
        Archive.write (artifacts.map fun a => ⟨a.name, method, a.content⟩)⟩

end Bundle

end MailMerge
