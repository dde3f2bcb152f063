import MailMerge.Json.Printer

/-!
# Settings

The settings of the program with their defaults, and their JSON form. Reading them takes an object,
whose unknown fields are skipped, or an array of the values in order; what is left out keeps its
default, and a field given twice is refused.
-/

namespace MailMerge

structure Settings where
  storageFolder : String
  scratchFolder : String
  outputFolder : String
  namingField : String
  maxConcurrency : UInt64
  conversionLimit : UInt64
  converterBinary : String
  deriving DecidableEq, Repr

namespace Settings

/-- The settings of an absent file, for a system with this temporary folder. -/
def standard (temporaryFolder : String) : Settings where
  storageFolder := ".docfill/templates"
  scratchFolder := temporaryFolder
  outputFolder := ".docfill/out"
  namingField := "name"
  maxConcurrency := 8
  conversionLimit := 120
  converterBinary := "soffice"

/-- How many documents may be in work at once: at least one. -/
def concurrency (s : Settings) : Nat :=
  max s.maxConcurrency.toNat 1

inductive Field where
  | storageFolder
  | scratchFolder
  | outputFolder
  | namingField
  | maxConcurrency
  | conversionLimit
  | converterBinary
  deriving DecidableEq, Repr

namespace Field

def all : List Field :=
  [storageFolder, scratchFolder, outputFolder, namingField, maxConcurrency, conversionLimit,
    converterBinary]

def key : Field → String
  | storageFolder => "storage_dir"
  | scratchFolder => "scratch_dir"
  | outputFolder => "output_dir"
  | namingField => "naming_field"
  | maxConcurrency => "max_concurrency"
  | conversionLimit => "conversion_timeout_secs"
  | converterBinary => "converter_binary"

def ofKey? (key : String) : Option Field :=
  all.find? fun f => f.key == key

def text? : Json.Tree → Option String
  | .string s => s
  | _ => none

def word? : Json.Tree → Option UInt64
  | .number n =>
    match n.number? with
    | some (.integer k) => if 0 ≤ k then some (UInt64.ofNat k.toNat) else none
    | _ => none
  | _ => none

/-- The settings with this field read from a JSON value; a value of the wrong kind gives none. -/
def read? (f : Field) (s : Settings) (v : Json.Tree) : Option Settings :=
  match f with
  | storageFolder => (text? v).map fun t => { s with storageFolder := t }
  | scratchFolder => (text? v).map fun t => { s with scratchFolder := t }
  | outputFolder => (text? v).map fun t => { s with outputFolder := t }
  | namingField => (text? v).map fun t => { s with namingField := t }
  | maxConcurrency => (word? v).map fun n => { s with maxConcurrency := n }
  | conversionLimit => (word? v).map fun n => { s with conversionLimit := n }
  | converterBinary => (text? v).map fun t => { s with converterBinary := t }

def value (f : Field) (s : Settings) : Json.Value :=
  match f with
  | storageFolder => .string s.storageFolder
  | scratchFolder => .string s.scratchFolder
  | outputFolder => .string s.outputFolder
  | namingField => .string s.namingField
  | maxConcurrency => .number (.integer s.maxConcurrency.toNat)
  | conversionLimit => .number (.integer s.conversionLimit.toNat)
  | converterBinary => .string s.converterBinary

end Field

/-- Reads the fields of an object into settings; `seen` holds the known fields read before. -/
def readFields (seen : List Field) (s : Settings) :
    List (Option String × Json.Tree) → Option Settings
  | [] => some s
  | (none, _) :: _ => none
  | (some key, v) :: rest =>
    match Field.ofKey? key with
    | none => readFields seen s rest
    | some f => if seen.contains f then none else (f.read? s v).bind (readFields (f :: seen) · rest)

/-- Reads the items of an array into the fields in order. -/
def readItems (s : Settings) : List Field → List Json.Tree → Option Settings
  | _, [] => some s
  | [], _ :: _ => none
  | f :: fs, v :: vs => (f.read? s v).bind (readItems · fs vs)

/-- The settings of a JSON text, with these for what it leaves out. -/
def ofText? (defaults : Settings) (text : String) : Option Settings :=
  match Json.Tree.ofText? text with
  | some (.object fields) => readFields [] defaults fields
  | some (.array items) => readItems defaults Field.all items
  | _ => none

/-- The settings as indented JSON. -/
def toText (s : Settings) : String :=
  String.ofList ((Json.Value.object (Field.all.map fun f => (f.key, f.value s))).indented 0)

end Settings

end MailMerge
