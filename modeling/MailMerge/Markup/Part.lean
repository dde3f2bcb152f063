import MailMerge.Markup.Attribute
import MailMerge.Markup.Escape
import MailMerge.Text.Encoding

/-!
# Parts of workbooks

A part is read byte by byte, each byte as the character of its number, so that the encoding
matters only where a text is taken from it. The encoding is the one that the first bytes give
away, until a declaration names another.
-/

namespace MailMerge.Markup

/-- The bytes as the characters of their numbers. -/
def byteChars (bytes : Bytes) : List Char :=
  bytes.map fun b => Char.ofNat b.toNat

def charBytes (cs : List Char) : Bytes :=
  cs.map fun c => UInt8.ofNat c.toNat

/-- The text that byte characters stand for. -/
def decodeRaw? (e : Encoding) (cs : List Char) : Option (List Char) :=
  e.decode? (charBytes cs)

/-- Line ends of any kind as line feeds. -/
def unifyLineEnds : List Char → List Char
  | [] => []
  | '\r' :: '\n' :: rest => '\n' :: unifyLineEnds rest
  | c :: rest => (if c = '\r' then '\n' else c) :: unifyLineEnds rest

/-- The running text that byte characters stand for. -/
def decodeText? (e : Encoding) (cs : List Char) : Option (List Char) :=
  (decodeRaw? e cs).map unifyLineEnds

/-- The character that the name of a reference stands for. -/
def decodeReference? (e : Encoding) (name : List Char) : Option Char :=
  (decodeRaw? e name).bind (entity? .part)

def decodeValue? (e : Encoding) (cs : List Char) : Option (List Char) :=
  (decodeRaw? e cs).bind (unescape? .part)

/-- An event and the encoding of the texts in it. -/
structure PartEvent where
  encoding : Encoding
  event : Event

/-- Running text falls into texts and references. One that is not closed is a fault. -/
def textEvents (cs : List Char) : List Event :=
  match cs with
  | [] => []
  | '&' :: rest =>
    match _h : entityName? rest with
    | none => [.malformed]
    | some (name, after) => .reference name :: textEvents after
  | c :: rest =>
    .text (c :: rest.takeWhile (· ≠ '&')) :: textEvents (rest.dropWhile (· ≠ '&'))
termination_by cs.length
decreasing_by
  · exact Nat.lt_succ_of_lt (length_of_entityName? _h)
  · exact Nat.lt_succ_of_le (List.dropWhile_sublist _).length_le

/-- The encoding that a declaration names. -/
def declared? (attributes : List Char) : Option Encoding :=
  match valueOf? "encoding" (looseAttributes attributes) with
  | some (some label) => Encoding.ofLabel? (charBytes label)
  | _ => none

/-- Events with their encodings; elements written as one tag are opened and closed. Only the first
encoding that is declared counts. -/
def encodedEvents (settled : Bool) (e : Encoding) : List Event → List PartEvent
  | [] => []
  | .single name attributes :: es =>
    ⟨e, .opened name attributes⟩ :: ⟨e, .closed name⟩ :: encodedEvents settled e es
  | .text raw :: es => (textEvents raw).map (⟨e, ·⟩) ++ encodedEvents settled e es
  | .declaration attributes :: es =>
    match settled, declared? attributes with
    | false, some d => ⟨d, .declaration attributes⟩ :: encodedEvents true d es
    | settled, _ => ⟨e, .declaration attributes⟩ :: encodedEvents settled e es
  | event :: es => ⟨e, event⟩ :: encodedEvents settled e es

/-- The events of a part. -/
def partEvents (bytes : Bytes) : List PartEvent :=
  let (e, marks) := (Encoding.detect? bytes).getD (.utf8, 0)
  encodedEvents false e (events .part (byteChars (bytes.drop marks)))

end MailMerge.Markup
