import MailMerge.Token
import MailMerge.Record

/-!
# Template layouts

A template is laid out once: its text as a row of segments with their places, and for each name
the numbers of the segments that hold its tokens. Filling a record in goes over the segments once;
values are put in as they are and are not searched for tokens again.
-/

namespace MailMerge

/-- A token, or a run of text without one, with the place of its first byte. -/
structure Segment where
  name? : Option String
  text : List Char
  start : Nat
  deriving DecidableEq, Repr

namespace Segment

def byteSize : List Char → Nat
  | [] => 0
  | c :: cs => c.utf8Size + byteSize cs

/-- The place behind the last byte. -/
def stop (s : Segment) : Nat :=
  s.start + byteSize s.text

/-- The parts of a text as segments, the first of which begins at `start`. -/
def place (start : Nat) : List Part → List Segment
  | [] => []
  | p :: ps => ⟨p.name?, p.chars, start⟩ :: place (start + byteSize p.chars) ps

/-- What stands in place of the segment: the value of its name, or its own text. -/
def filled (r : Record) (s : Segment) : List Char :=
  match s.name? with
  | none => s.text
  | some name =>
    match r.get? name with
    | some value => value.toList
    | none => s.text

end Segment

/-- The segments of a template and, for each name, its segments in ascending order. -/
structure Layout where
  segments : List Segment
  index : List (String × List Nat)
  deriving DecidableEq, Repr

namespace Layout

/-- Notes that segment `i` holds a token of this name. -/
def note (name : String) (i : Nat) : List (String × List Nat) → List (String × List Nat)
  | [] => [(name, [i])]
  | (n, is) :: rest => if n = name then (n, is ++ [i]) :: rest else (n, is) :: note name i rest

def indexFrom (i : Nat) (index : List (String × List Nat)) :
    List Segment → List (String × List Nat)
  | [] => index
  | s :: rest =>
    match s.name? with
    | some name => indexFrom (i + 1) (note name i index) rest
    | none => indexFrom (i + 1) index rest

def ofText (text : String) : Layout :=
  let segments := Segment.place 0 (cut text.toList)
  ⟨segments, indexFrom 0 [] segments⟩

/-- How many tokens the template has. -/
def tokenCount (l : Layout) : Nat :=
  l.index.foldl (fun n entry => n + entry.2.length) 0

/-- The template has a token of this name. -/
def has (l : Layout) (name : String) : Bool :=
  l.index.any fun entry => entry.1 == name

/-- The names that a record has no value for, each once, in the order of the template. -/
def missingFrom (r : Record) (seen : List String) : List Segment → List String
  | [] => seen.reverse
  | s :: rest =>
    match s.name? with
    | some name =>
      if r.contains name || seen.contains name then missingFrom r seen rest
      else missingFrom r (name :: seen) rest
    | none => missingFrom r seen rest

def missing (l : Layout) (r : Record) : List String :=
  missingFrom r [] l.segments

/-- The text with every token replaced whose name has a value. -/
def fill (l : Layout) (r : Record) : String :=
  String.ofList (l.segments.flatMap (Segment.filled r))

end Layout

/-- Fills a record into a text. -/
def fill (text : String) (r : Record) : String :=
  (Layout.ofText text).fill r

end MailMerge
