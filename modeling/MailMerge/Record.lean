import MailMerge.Text.Blank
import MailMerge.Error
import MailMerge.Json.Printer

/-!
# Records

A record gives values to names and fills one copy of a template. Its fields are sorted by name and
no name occurs twice. Records are read from JSON in two ways: strictly, from an object of strings,
and by coercion, where every value becomes text.
-/

namespace MailMerge

structure Record where
  fields : List (String × String)
  sorted : Fields.Sorted fields
  deriving DecidableEq

namespace Record

def empty : Record :=
  ⟨[], List.Pairwise.nil⟩

instance : Inhabited Record := ⟨empty⟩

def get? (r : Record) (name : String) : Option String :=
  Fields.get? name r.fields

def contains (r : Record) (name : String) : Bool :=
  (r.get? name).isSome

def set (r : Record) (name value : String) : Record :=
  ⟨Fields.set name value r.fields, Fields.sorted_set r.sorted name value⟩

/-- Sets every pair of a list; of several values for a name the last one stays. -/
def setAll (r : Record) (pairs : List (String × String)) : Record :=
  ⟨Fields.setAll r.fields pairs, Fields.sorted_setAll r.sorted pairs⟩

def ofList (pairs : List (String × String)) : Record :=
  empty.setAll pairs

/-- The fields of both, the other record's value where both have one. -/
def extend (r other : Record) : Record :=
  r.setAll other.fields

def size (r : Record) : Nat :=
  r.fields.length

/-- The name is missing or its value has only blank characters. -/
def isBlank (r : Record) (name : String) : Bool :=
  match r.get? name with
  | none => true
  | some value => Text.isBlankText value

/-- The text that a JSON value becomes: strings as they are, nothing for null, compact JSON for the
rest. -/
def coerce : Json.Value → String
  | .string s => s
  | .null => ""
  | v => String.ofList v.compact

/-- The refusal of a JSON value that gives no record. -/
def notObject : Error :=
  .invalidInput "values must be a JSON object of name -> value"

/-- The record of a JSON object with every value made text; other values have none. -/
def ofJson? : Json.Value → Option Record
  | .object fields => some (ofList (fields.map fun (name, v) => (name, coerce v)))
  | _ => none

def strings? : List (Option String × Json.Tree) → Option (List (String × String))
  | [] => some []
  | (some name, .string (some value)) :: rest => (strings? rest).map ((name, value) :: ·)
  | _ => none

/-- The record of a JSON text that is an object of strings. -/
def ofText? (text : String) : Option Record := do
  match ← Json.Tree.ofText? text with
  | .object fields => (strings? fields).map ofList
  | _ => none

/-- The record as a JSON object of strings. -/
def toText (r : Record) : String :=
  String.ofList (Json.Value.object (r.fields.map fun (name, v) => (name, .string v))).compact

end Record

end MailMerge
