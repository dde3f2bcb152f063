import MailMerge.Error
import MailMerge.Files.Path
import MailMerge.Naming
import MailMerge.Text.Utf8

/-!
# File trees

A file tree gives contents to places. Places are lists of names from the root, which is always a
folder; the order of the entries is the order in which folders are listed. Every operation fails
as the operating system does, and then leaves the tree as it was.
-/

namespace MailMerge

inductive Node where
  | file (content : Bytes) (executable : Bool)
  | folder
  deriving DecidableEq, Repr

/-- What kind of thing a node is; a program is a file that may be executed. -/
inductive Kind where
  | file
  | program
  | folder
  deriving DecidableEq, Repr

def Node.kind : Node → Kind
  | .file _ executable => if executable then .program else .file
  | .folder => .folder

abbrev Location := List String

structure Files where
  entries : List (Location × Node)
  distinct : (entries.map Prod.fst).Nodup

namespace Files

def empty : Files :=
  ⟨[], List.nodup_nil⟩

def lookup (place : Location) : List (Location × Node) → Option Node
  | [] => none
  | (l, n) :: rest => if l = place then some n else lookup place rest

/-- What is at a place. -/
def node? (fs : Files) (place : Location) : Option Node :=
  if place = [] then some .folder else lookup place fs.entries

/-- Changes the entry of a place, or adds one at the end. -/
def putEntry (place : Location) (node : Node) : List (Location × Node) → List (Location × Node)
  | [] => [(place, node)]
  | (l, n) :: rest =>
    if l = place then (place, node) :: rest else (l, n) :: putEntry place node rest

theorem fst_mem_putEntry {place l : Location} {node : Node} {entries : List (Location × Node)}
    (h : l ∈ (putEntry place node entries).map Prod.fst) :
    l = place ∨ l ∈ entries.map Prod.fst := by
  induction entries with
  | nil => simpa [putEntry] using h
  | cons e rest ih =>
    obtain ⟨k, n⟩ := e
    rw [putEntry] at h
    split at h
    · next hk => subst hk; exact .inr h
    · rcases List.mem_cons.1 h with h | h
      · exact .inr (by simp [h])
      · exact (ih h).imp id fun h => List.mem_cons_of_mem _ h

theorem nodup_putEntry {place : Location} {node : Node} {entries : List (Location × Node)}
    (h : (entries.map Prod.fst).Nodup) : ((putEntry place node entries).map Prod.fst).Nodup := by
  induction entries with
  | nil => simp [putEntry]
  | cons e rest ih =>
    obtain ⟨k, n⟩ := e
    have ⟨hk, hrest⟩ := List.nodup_cons.1 h
    rw [putEntry]
    split
    · next eq => subst eq; exact h
    · next ne =>
      refine List.nodup_cons.2 ⟨fun hm => ?_, ih hrest⟩
      rcases fst_mem_putEntry hm with rfl | hm
      · exact ne rfl
      · exact hk hm

def put (fs : Files) (place : Location) (node : Node) : Files :=
  ⟨putEntry place node fs.entries, nodup_putEntry fs.distinct⟩

/-- Keeps the entries of places that pass a test. -/
def keep (fs : Files) (test : Location → Bool) : Files :=
  ⟨fs.entries.filter fun e => test e.1,
    fs.distinct.sublist (List.filter_sublist.map Prod.fst)⟩

def erase (fs : Files) (place : Location) : Files :=
  fs.keep fun l => l ≠ place

/-- Takes away a place and all below it. -/
def eraseBelow (fs : Files) (place : Location) : Files :=
  fs.keep fun l => !place.isPrefixOf l

/-- The name of an entry right inside a folder. -/
def childName? (folder l : Location) : Option String :=
  match Text.after? folder l with
  | some [name] => some name
  | _ => none

/-- The names inside a folder. -/
def names (fs : Files) (folder : Location) : List String :=
  fs.entries.filterMap fun e => childName? folder e.1

/-- The greatest number of bytes in a name. -/
def nameLimit : Nat := 255

/-- The greatest number of bytes in a path. -/
def pathLimit : Nat := 4095

/-- Follows steps from a folder. Every step but the last must lead to a folder; the last one may
lead to a place where nothing is. -/
def follow (fs : Files) (place : Location) : List String → Except FileFault Location
  | [] => .ok place
  | step :: rest =>
    if step = ".." then follow fs place.dropLast rest
    else if nameLimit < step.utf8ByteSize then .error .nameTooLong
    else
      match fs.node? (place ++ [step]) with
      | some .folder => follow fs (place ++ [step]) rest
      | some (.file ..) => if rest = [] then .ok (place ++ [step]) else .error .notFolder
      | none => if rest = [] then .ok (place ++ [step]) else .error .missing

/-- The faults of a path that no tree can help. -/
def badPath? (p : Path) : Option FileFault :=
  if p.text = "" then some .missing
  else if p.text.toList.contains '\x00' then some .nulInName
  else if pathLimit < p.text.utf8ByteSize then some .nameTooLong
  else none

def origin (working : Location) (p : Path) : Location :=
  if p.isAbsolute then [] else working

/-- The place of a path, seen from a working folder. -/
def locate (fs : Files) (working : Location) (p : Path) : Except FileFault Location :=
  match badPath? p with
  | some fault => .error fault
  | none =>
    match fs.follow (origin working p) p.steps with
    | .error fault => .error fault
    | .ok place =>
      match fs.node? place with
      | some (.file ..) => if p.namesFolder then .error .notFolder else .ok place
      | _ => .ok place

def kind? (fs : Files) (working : Location) (p : Path) : Option Kind :=
  match fs.locate working p with
  | .ok place => (fs.node? place).map Node.kind
  | .error _ => none

def read (fs : Files) (working : Location) (p : Path) : Except FileFault Bytes :=
  match fs.locate working p with
  | .error fault => .error fault
  | .ok place =>
    match fs.node? place with
    | some (.file content _) => .ok content
    | some .folder => .error .isFolder
    | none => .error .missing

def write (fs : Files) (working : Location) (p : Path) (content : Bytes) :
    Except FileFault Files :=
  match fs.locate working p with
  | .error fault => .error fault
  | .ok place =>
    match fs.node? place with
    | some (.file _ executable) => .ok (fs.put place (.file content executable))
    | some .folder => .error .isFolder
    | none => if p.namesFolder then .error .isFolder else .ok (fs.put place (.file content false))

def list (fs : Files) (working : Location) (p : Path) : Except FileFault (List String) :=
  match fs.locate working p with
  | .error fault => .error fault
  | .ok place =>
    match fs.node? place with
    | some .folder => .ok (fs.names place)
    | some (.file ..) => .error .notFolder
    | none => .error .missing

/-- Follows steps from a folder and makes the folders that are missing. Folders made before a
fault stay. -/
def makeFolders (fs : Files) (place : Location) : List String → Except FileFault Unit × Files
  | [] => (.ok (), fs)
  | step :: rest =>
    if step = ".." then makeFolders fs place.dropLast rest
    else if nameLimit < step.utf8ByteSize then (.error .nameTooLong, fs)
    else
      match fs.node? (place ++ [step]) with
      | some .folder => makeFolders fs (place ++ [step]) rest
      | some (.file ..) => (.error (if rest = [] then .alreadyExists else .notFolder), fs)
      | none => makeFolders (fs.put (place ++ [step]) .folder) (place ++ [step]) rest

/-- Makes a folder with all folders above it. -/
def createFolders (fs : Files) (working : Location) (p : Path) :
    Except FileFault Unit × Files :=
  if p.text = "" then (.ok (), fs)
  else
    match badPath? p with
    | some fault => (.error fault, fs)
    | none => fs.makeFolders (origin working p) p.steps

/-- A name that begins as given and is not taken in a folder. -/
def freshName (fs : Files) (folder : Location) (start : String) : String :=
  let candidate (n : Nat) := start ++ toString n
  candidate (Naming.firstFree (fs.names folder) candidate 0)

/-- A place for a new name in a folder, and that name's path. -/
def freshPlace (fs : Files) (working : Location) (folder : Path) (start : String) :
    Except FileFault (Location × Path) :=
  match fs.locate working (if folder.text = "" then ⟨"."⟩ else folder) with
  | .error fault => .error fault
  | .ok place =>
    match fs.node? place with
    | some .folder =>
      let p := folder.join (fs.freshName place start)
      (fs.locate working p).map fun place => (place, p)
    | some (.file ..) => .error .notFolder
    | none => .error .missing

/-- Moves a file; a file at the target is replaced. -/
def rename (fs : Files) (working : Location) (source target : Path) : Except FileFault Files :=
  match fs.locate working source with
  | .error fault => .error fault
  | .ok origin =>
    match fs.node? origin with
    | some (.file content executable) =>
      match fs.locate working target with
      | .error fault => .error fault
      | .ok place =>
        if target.endsInPoints then .error .busy
        else if target.namesFolder then .error .notFolder
        else
          match fs.node? place with
          | some .folder => .error .isFolder
          | _ => .ok ((fs.erase origin).put place (.file content executable))
    | some .folder => .error .isFolder
    | none => .error .missing

def removeFile (fs : Files) (working : Location) (p : Path) : Except FileFault Files :=
  match fs.locate working p with
  | .error fault => .error fault
  | .ok place =>
    match fs.node? place with
    | some (.file ..) => .ok (fs.erase place)
    | some .folder => .error .isFolder
    | none => .error .missing

/-- Removes a folder and all in it. -/
def removeFolder (fs : Files) (working : Location) (p : Path) : Except FileFault Files :=
  match fs.locate working p with
  | .error fault => .error fault
  | .ok place =>
    match fs.node? place with
    | some .folder => .ok (fs.eraseBelow place)
    | some (.file ..) => .error .notFolder
    | none => .error .missing

end Files

end MailMerge
