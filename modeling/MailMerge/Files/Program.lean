import MailMerge.Files.Tree

/-!
# Programs with files

A program is a tree of file operations, each followed by a program for every answer. So it can be
run on the files of a machine, on a file tree, or step by step between the steps of other programs.
-/

namespace MailMerge

/-- A call of another program. -/
structure Call where
  binary : Path
  arguments : List String
  deriving DecidableEq, Repr

/-- How a called program ended; there is no exit code if it was killed. -/
structure Ending where
  code : Option Nat
  output : Bytes
  errors : Bytes
  deriving DecidableEq, Repr

inductive Operation where
  | kind (p : Path)
  | read (p : Path)
  | list (p : Path)
  | write (p : Path) (content : Bytes)
  | createFolders (p : Path)
  /-- Makes an empty file with a new name. -/
  | createTemporary (folder : Path)
  /-- Makes a folder with a new name that begins as given. -/
  | createScratch (folder : Path) (start : String)
  | rename (source target : Path)
  | removeFile (p : Path)
  | removeFolder (p : Path)
  /-- Calls a program and waits for its end, at most so many seconds if a limit is given. -/
  | launch (call : Call) (limit : Option Nat)
  deriving DecidableEq, Repr

/-- The answers to an operation. A call that does not end within its limit answers none. -/
def Operation.Answer : Operation → Type
  | kind _ => Option Kind
  | read _ => Except FileFault Bytes
  | list _ => Except FileFault (List String)
  | write .. | createFolders _ | rename .. | removeFile _ | removeFolder _ => Except FileFault Unit
  | createTemporary _ | createScratch .. => Except FileFault Path
  | launch .. => Except FileFault (Option Ending)

inductive Program (α : Type) : Type where
  | done (a : α)
  | step (op : Operation) (next : op.Answer → Program α)

namespace Program

variable {α β : Type}

def bind : Program α → (α → Program β) → Program β
  | done a, f => f a
  | step op next, f => step op fun answer => bind (next answer) f

instance : Monad Program where
  pure := done
  bind := bind

/-- The program of a single operation. -/
def perform (op : Operation) : Program op.Answer :=
  step op done

theorem bind_done (p : Program α) : p.bind done = p := by
  induction p with
  | done a => rfl
  | step op next ih => simp [bind, ih]

theorem bind_assoc {γ : Type} (p : Program α) (f : α → Program β) (g : β → Program γ) :
    (p.bind f).bind g = p.bind fun a => (f a).bind g := by
  induction p with
  | done a => rfl
  | step op next ih => simp [bind, ih]

instance : LawfulMonad Program :=
  LawfulMonad.mk' Program bind_done (fun _ _ => rfl) (fun p f g => bind_assoc p f g)

end Program

/-- What a file tree does not know of a machine: the working folder, and what called programs
do. -/
structure Host where
  working : Location
  launch : Call → Option Nat → Files → Except FileFault (Option Ending) × Files

/-- The answer of a change that may fail, and the tree after it. -/
def Files.change (fs : Files) : Except FileFault Files → Except FileFault Unit × Files
  | .ok after => (.ok (), after)
  | .error fault => (.error fault, fs)

/-- The answer of making something new, and the tree after it. -/
def Files.create (fs : Files) (node : Node) :
    Except FileFault (Location × Path) → Except FileFault Path × Files
  | .ok (place, p) => (.ok p, fs.put place node)
  | .error fault => (.error fault, fs)

/-- What an operation does to a file tree. -/
def Operation.apply (host : Host) (fs : Files) : (op : Operation) → op.Answer × Files
  | kind p => (fs.kind? host.working p, fs)
  | read p => (fs.read host.working p, fs)
  | list p => (fs.list host.working p, fs)
  | write p content => fs.change (fs.write host.working p content)
  | createFolders p => fs.createFolders host.working p
  | createTemporary folder =>
    fs.create (.file [] false) (fs.freshPlace host.working folder ".tmp")
  | createScratch folder start => fs.create .folder (fs.freshPlace host.working folder start)
  | rename source target => fs.change (fs.rename host.working source target)
  | removeFile p => fs.change (fs.removeFile host.working p)
  | removeFolder p => fs.change (fs.removeFolder host.working p)
  | launch call limit => host.launch call limit fs

/-- Runs a program on a file tree. -/
def Program.run {α : Type} (host : Host) : Program α → Files → α × Files
  | done a, fs => (a, fs)
  | step op next, fs =>
    let (answer, fs) := op.apply host fs
    run host (next answer) fs

/-- A program that may fail. -/
abbrev Action (α : Type) := ExceptT Error Program α

namespace Action

variable {α : Type}

/-- A file operation whose faults end the action. -/
def ofFile (p : Program (Except FileFault α)) : Action α :=
  ExceptT.mk (p.bind fun r => .done (r.mapError Error.file))

def kind (p : Path) : Action (Option Kind) :=
  ExceptT.lift (Program.perform (.kind p))

def read (p : Path) : Action Bytes :=
  ofFile (Program.perform (.read p))

def list (p : Path) : Action (List String) :=
  ofFile (Program.perform (.list p))

def write (p : Path) (content : Bytes) : Action Unit :=
  ofFile (Program.perform (.write p content))

def createFolders (p : Path) : Action Unit :=
  ofFile (Program.perform (.createFolders p))

def createTemporary (folder : Path) : Action Path :=
  ofFile (Program.perform (.createTemporary folder))

def rename (source target : Path) : Action Unit :=
  ofFile (Program.perform (.rename source target))

def removeFile (p : Path) : Action Unit :=
  ofFile (Program.perform (.removeFile p))

/-- Runs an action and, if it fails, another program before the failure goes on. -/
def orElseDo (a : Action α) (cleanUp : Program Unit) : Action α :=
  ExceptT.mk do
    match ← a.run with
    | .ok x => return .ok x
    | .error e =>
      cleanUp
      return .error e

/-- Tries to remove a file. -/
def discard (p : Path) : Program Unit :=
  (Program.perform (.removeFile p)).bind fun _ => .done ()

/-- Puts a file into place as a whole: it is written under a new name in the folder and then
renamed. On failure the new file is removed. -/
def replace (folder target : Path) (content : Bytes) : Action Unit := do
  let temporary ← createTemporary folder
  orElseDo (do write temporary content; rename temporary target) (discard temporary)

end Action

end MailMerge
