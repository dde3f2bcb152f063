import MailMerge.Markup.Event

/-!
# Attributes

The attributes of a tag are read one by one. Reading goes on behind a fault, which stands as none
in the row of attributes, so that a reader may stop at it or pass over it.
-/

namespace MailMerge.Markup

/-- An attribute with its value as written. -/
structure Attribute where
  name : List Char
  value : List Char
  deriving DecidableEq, Repr

/-- The text from the next blank on. -/
def behindWord (cs : List Char) : List Char :=
  cs.dropWhile fun c => !isSpace c

/-- The attributes of a tag behind those of the names `seen`. Where names must differ, one that
comes again is a fault. Reading goes on at the next blank behind the equals sign of such a name, or
behind the beginning of a value without quotes. -/
def attributesFrom (distinct : Bool) (seen : List (List Char)) (fuel : Nat) (cs : List Char) :
    List (Option Attribute) :=
  match fuel, cs.dropWhile isSpace with
  | 0, _ => []
  | _, [] => []
  | fuel + 1, c :: rest =>
    let inName (c : Char) := c ≠ '=' && !isSpace c
    let name := c :: rest.takeWhile inName
    match (rest.dropWhile inName).dropWhile isSpace with
    | '=' :: rest =>
      if distinct && seen.contains name then
        none :: attributesFrom distinct seen fuel (behindWord ('=' :: rest))
      else
        let attributesBehind := attributesFrom distinct (name :: seen) fuel
        match rest.dropWhile isSpace with
        | [] => [none]
        | q :: value =>
          if q = '"' || q = '\'' then
            match value.dropWhile (· ≠ q) with
            | _ :: rest => some ⟨name, value.takeWhile (· ≠ q)⟩ :: attributesBehind rest
            | [] => [none]
          else none :: attributesBehind (behindWord (q :: value))
    | rest => none :: attributesFrom distinct seen fuel rest

/-- The attributes of a tag, whose names must differ. -/
def attributes (cs : List Char) : List (Option Attribute) :=
  attributesFrom true [] (cs.length + 1) cs

/-- The attributes of a tag, whose names may come again. -/
def looseAttributes (cs : List Char) : List (Option Attribute) :=
  attributesFrom false [] (cs.length + 1) cs

/-- The value of the attribute of a name: none if there is a fault before it. -/
def valueOf? (name : String) : List (Option Attribute) → Option (Option (List Char))
  | [] => some none
  | none :: _ => none
  | some a :: rest => if a.name = name.toList then some (some a.value) else valueOf? name rest

/-- The value of the first attribute of a name, whatever faults there are. -/
def lenientValue? (name : String) (as : List (Option Attribute)) : Option (List Char) :=
  ((as.filterMap id).find? fun a => a.name = name.toList).map Attribute.value

/-- All attributes, none if there is a fault among them. -/
def sound? (as : List (Option Attribute)) : Option (List Attribute) :=
  as.mapM id

/-- The part of a name behind its prefix. -/
def localName (name : List Char) : List Char :=
  match Text.cutFirst ':' name with
  | some (_, rest) => rest
  | none => name

def named (name : List Char) (expected : String) : Bool :=
  localName name == expected.toList

end MailMerge.Markup
