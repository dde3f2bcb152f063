import MailMerge.Files.Program

/-!
# Deliveries

A delivery is the result of a request. It is written as a whole or not at all: to a path, or into
a folder under a name that begins with the request's identifier.
-/

namespace MailMerge

structure Delivery where
  requestId : String
  fileName : String
  contentType : String
  bytes : Bytes
  deriving DecidableEq, Repr

/-- The folder that a path's file is in. -/
def Path.folder (p : Path) : Path :=
  match p.parent? with
  | some parent => if parent.text = "" then ⟨"."⟩ else parent
  | none => ⟨"."⟩

namespace Delivery

def writeTo (d : Delivery) (path : Path) : Action Unit := do
  Action.createFolders path.folder
  Action.replace path.folder path d.bytes

/-- The path of the delivery in a folder. -/
def pathIn (d : Delivery) (folder : Path) : Path :=
  folder.join (d.requestId ++ "-" ++ d.fileName)

def writeInto (d : Delivery) (folder : Path) : Action Path := do
  Action.createFolders folder
  d.writeTo (d.pathIn folder)
  return d.pathIn folder

end Delivery

end MailMerge
