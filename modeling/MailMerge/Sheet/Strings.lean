import MailMerge.Markup.Part

/-!
# Strings of workbooks

A workbook keeps most of its strings in a part of their own. A string is a single text or made of
runs; phonetic texts beside it do not count. Characters below 256 may be written as numbers.
-/

namespace MailMerge.Workbook

open Markup

/-- The number that two signs stand for: two hexadecimal digits, or a plus and one digit. -/
def byteNumber? (a b : Char) : Option Nat :=
  if a = '+' then hexNumber? [b] else hexNumber? [a, b]

/-- The characters that are written as a number between underscores. -/
def unescapeNumbers : List Char → List Char
  | '_' :: 'x' :: '0' :: '0' :: a :: b :: '_' :: rest =>
    match byteNumber? a b with
    | some n => Char.ofNat n :: unescapeNumbers rest
    | none => '_' :: unescapeNumbers ('x' :: '0' :: '0' :: a :: b :: '_' :: rest)
  | c :: rest => c :: unescapeNumbers rest
  | [] => []

/-- Where the reader of a string stands: between its elements, in a text element, or behind its
text with so many elements of the closing name open. -/
inductive StringMode where
  | between
  | inText (name text : List Char)
  | behind (text : List Char) (depth : Nat)
  deriving DecidableEq, Repr

/-- A string that is being read, up to the end of the element `closing`. A rich string is made of
the texts of its runs; phonetic texts do not count. Texts are held with their last character
first. -/
structure StringReading where
  closing : List Char
  rich : Option (List Char)
  phonetic : Bool
  mode : StringMode
  deriving DecidableEq, Repr

namespace StringReading

def start (closing : List Char) : StringReading :=
  ⟨closing, none, false, .between⟩

/-- A step on, or the string at its end, which may be missing altogether. -/
inductive Outcome where
  | more (r : StringReading)
  | done (text : Option (List Char))

def stepBetween (r : StringReading) : Event → Option Outcome
  | .opened name _ =>
    if named name "r" then some (.more { r with rich := some (r.rich.getD []) })
    else if named name "rPh" then some (.more { r with phonetic := true })
    else if named name "t" && !r.phonetic then some (.more { r with mode := .inText name [] })
    else some (.more r)
  | .closed name =>
    if name = r.closing then some (.done (r.rich.map List.reverse))
    else if named name "rPh" then some (.more { r with phonetic := false })
    else some (.more r)
  | .malformed => none
  | _ => some (.more r)

/-- The end of a text element. -/
def endText (r : StringReading) (text : List Char) : StringReading :=
  match r.rich with
  | some before => { r with rich := some (text ++ before), mode := .between }
  | none => { r with mode := .behind text 0 }

def step (r : StringReading) (p : PartEvent) : Option Outcome :=
  match r.mode with
  | .between => stepBetween r p.event
  | .inText name text =>
    match p.event with
    | .text raw =>
      (decodeText? p.encoding raw).map fun cs =>
        .more { r with mode := .inText name ((unescapeNumbers cs).reverse ++ text) }
    | .reference n =>
      (decodeReference? p.encoding n).map fun x =>
        .more { r with mode := .inText name (x :: text) }
    | .closed n => some (.more (if n = name then r.endText text else r))
    | .malformed => none
    | _ => some (.more r)
  | .behind text depth =>
    match p.event with
    | .opened name _ =>
      some (.more { r with mode := .behind text (if name = r.closing then depth + 1 else depth) })
    | .closed name =>
      if name = r.closing then
        match depth with
        | 0 => some (.done (some text.reverse))
        | d + 1 => some (.more { r with mode := .behind text d })
      else some (.more r)
    | .malformed => none
    | _ => some (.more r)

end StringReading

/-- Reads the shared strings; `current` is the string that is being read. An item without any text
is no string. -/
def sharedStringsFrom (done : List String) (current : Option StringReading) :
    List PartEvent → Option (List String)
  | [] => none
  | p :: ps =>
    match current with
    | some r =>
      match r.step p with
      | none => none
      | some (.more r) => sharedStringsFrom done (some r) ps
      | some (.done none) => sharedStringsFrom done none ps
      | some (.done (some text)) => sharedStringsFrom (String.ofList text :: done) none ps
    | none =>
      match p.event with
      | .opened name _ =>
        if named name "si" then sharedStringsFrom done (some (.start name)) ps
        else sharedStringsFrom done none ps
      | .closed name =>
        if named name "sst" then some done.reverse else sharedStringsFrom done none ps
      | .malformed => none
      | _ => sharedStringsFrom done none ps

end MailMerge.Workbook
