import MailMerge.Text.Split

/-!
# Paths

A path is a text with slashes. Its steps are the names between them; empty names and single points
lead nowhere and are no steps.
-/

namespace MailMerge

structure Path where
  text : String
  deriving DecidableEq, Repr

namespace Path

def isAbsolute (p : Path) : Bool :=
  p.text.toList.head? == some '/'

def isIdle (name : List Char) : Bool :=
  name == [] || name == ['.']

def pieces (p : Path) : List (List Char) :=
  Text.pieces '/' p.text.toList

def steps (p : Path) : List String :=
  (p.pieces.filter fun s => !isIdle s).map String.ofList

/-- The path ends in a slash or in a single point behind one, so it can only name a folder. -/
def namesFolder (p : Path) : Bool :=
  match p.pieces.reverse with
  | last :: _ :: _ => isIdle last
  | _ => false

/-- The path's last step leads to the folder itself or to the one above it. -/
def endsInPoints (p : Path) : Bool :=
  match (p.pieces.reverse.dropWhile fun s => s == []) with
  | last :: _ => last == ['.'] || last == ['.', '.']
  | [] => true

/-- A name below the path; an absolute name stands for itself. -/
def join (p : Path) (name : String) : Path :=
  if Path.isAbsolute ⟨name⟩ then ⟨name⟩
  else if p.text.toList.getLast?.getD '/' = '/' then ⟨p.text ++ name⟩
  else ⟨p.text ++ "/" ++ name⟩

/-- The path without its last step. -/
def parent? (p : Path) : Option Path :=
  match p.pieces with
  | [] => none
  | first :: rest =>
    match rest.reverse.dropWhile isIdle with
    | [] => if first = [] then none else some ⟨""⟩
    | _ :: before =>
      match before.dropWhile isIdle with
      | [] => some ⟨if first = [] then "/" else String.ofList first⟩
      | kept => some ⟨String.ofList (Text.join ['/'] (first :: kept.reverse))⟩

/-- The last step, unless it leads upwards. -/
def name? (p : Path) : Option String :=
  match p.steps.getLast? with
  | some ".." => none
  | last => last

end Path

/-- A file name before its last point and behind it; a point at the front does not count. -/
def splitExtension (name : String) : String × Option String :=
  match Text.cutLast '.' name.toList with
  | some ([], _) => (name, none)
  | some (before, after) => (String.ofList before, some (String.ofList after))
  | none => (name, none)

def Path.extension? (p : Path) : Option String :=
  p.name?.bind fun name => (splitExtension name).2

end MailMerge
