import MailMerge.Batch
import MailMerge.Files.Program

/-!
# The template store

A stored template is two files in the store's folder, named by the template's reference: the
source under its format, and the text. The text is written last, so a reference that can be found
has its source in place; if the text cannot be written, the source is taken away again.
-/

namespace MailMerge

/-- A store is a folder. -/
structure Store where
  root : Path
  deriving DecidableEq, Repr

namespace Store

/-- The extension of the text files. -/
def textExtension : String := "extracted"

def isReferenceChar (c : Char) : Bool :=
  ('0' ≤ c && c ≤ '9') || ('a' ≤ c && c ≤ 'f')

/-- A reference is 32 hexadecimal digits in lower case. -/
def isReference (s : String) : Bool :=
  s.toList.length == 32 && s.toList.all isReferenceChar

/-- The path of a template's file with this extension. -/
def filePath (s : Store) (reference extension : String) : Path :=
  s.root.join (reference ++ "." ++ extension)

def textPath (s : Store) (reference : String) : Path :=
  s.filePath reference textExtension

/-- Writes the source and then the text of a template. -/
def writeFiles (s : Store) (reference : String) (source : Bytes) (format text : String) :
    Action Unit := do
  Action.replace s.root (s.filePath reference format) source
  Action.orElseDo (Action.replace s.root (s.textPath reference) (Utf8.encode text))
    (Action.discard (s.filePath reference format))

/-- Stores a template under a fresh reference. -/
def put (s : Store) (reference : String) (source : Bytes) (format text : String) :
    Action Template := do
  Action.createFolders s.root
  s.writeFiles reference source format text
  return ⟨reference, text⟩

def checkReference (reference : String) : Except Error Unit :=
  if isReference reference then .ok () else .error (.templateMissing reference)

/-- The template that the outcome of reading its text file gives. -/
def templateOf (reference : String) : Except FileFault Bytes → Except Error Template
  | .error .missing => .error (.templateMissing reference)
  | .error fault => .error (.file fault)
  | .ok content =>
    match Utf8.decode content with
    | .ok text => .ok ⟨reference, text⟩
    | .error _ => .error (.file .notText)

def get (s : Store) (reference : String) : Action Template := do
  ExceptT.mk (pure (checkReference reference))
  ExceptT.mk ((Program.perform (.read (s.textPath reference))).bind fun content =>
    .done (templateOf reference content))

/-- The names in the store's folder, none if there is no such folder. -/
def names (s : Store) : Action (List String) := do
  match ← Action.kind s.root with
  | none => return []
  | some _ => Action.list s.root

/-- The names of a template's files. -/
def filesOf (reference : String) (names : List String) : List String :=
  names.filter fun n => (splitExtension n).1 == reference

def removeAll (s : Store) : List String → Action Unit
  | [] => pure ()
  | n :: rest => do
    Action.removeFile (s.root.join n)
    removeAll s rest

def remove (s : Store) (reference : String) : Action Unit := do
  ExceptT.mk (pure (checkReference reference))
  let files := filesOf reference (← s.names)
  s.removeAll files
  if files.isEmpty then throw (.templateMissing reference)

/-- The reference whose text file has this name. -/
def referenceOf? (name : String) : Option String :=
  match splitExtension name with
  | (stem, some extension) =>
    if extension = textExtension && isReference stem then some stem else none
  | (_, none) => none

/-- The references of all stored templates in ascending order. -/
def list (s : Store) : Action (List String) := do
  return ((← s.names).filterMap referenceOf?).mergeSort fun a b => decide (a ≤ b)

end Store

end MailMerge
