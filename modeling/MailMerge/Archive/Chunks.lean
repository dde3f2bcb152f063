import MailMerge.Archive.Lzma

/-!
# Chunks of literals and copies

The data is a row of chunks, each with its sizes in front. A chunk is a range code of its own or
stored bytes, and tells how much of what was learnt before it goes on to count.
-/

namespace MailMerge.Archive.Chunks

open Lzma

/-- What has been read: the properties once they are known, whether a chunk has begun the bytes, the
bytes in front of those that copies may reach, and these themselves. -/
structure State where
  properties : Option Properties
  begun : Bool
  older : Array UInt8
  reading : Reading

def State.start : State :=
  ⟨none, false, #[], .fresh ⟨0, 0, {}, [], false⟩ #[]⟩

/-- All that a chunk resets: nothing, the weights, the properties too, or the reach of copies as
well. -/
inductive Reset where
  | nothing
  | weights
  | properties
  | everything
  deriving DecidableEq, Repr

def Reset.ofBits : Nat → Reset
  | 0 => nothing
  | 1 => weights
  | 2 => properties
  | _ => everything

/-- Begins the bytes that copies may reach, where they begin at all before the first chunk. -/
def State.beginAt? (s : State) (anew : Bool) : Option State :=
  if anew then
    some ⟨none, true, s.older ++ s.reading.window, { s.reading with window := #[] }⟩
  else if s.begun then some s
  else none

/-- Reads a number of two bytes, the highest first, and the bytes after it. -/
def size? : Bytes → Option (Nat × Bytes)
  | a :: b :: rest => some (256 * a.toNat + b.toNat, rest)
  | _ => none

/-- The properties of a chunk and the bytes after them. -/
def properties? (reach : Nat) (reset : Reset) (s : State) (bytes : Bytes) :
    Option (Properties × Bytes) :=
  if reset = .properties || reset = .everything then
    match bytes with
    | b :: rest =>
      match Properties.ofByte? b reach with
      | some g => if g.previousBits + g.literalBits ≤ 4 then some (g, rest) else none
      | none => none
    | [] => none
  else s.properties.map fun g => (g, bytes)

/-- The range code of a chunk ends exactly with the chunk. -/
def isFinished (reader : RangeReader Choice) : Bool :=
  match reader.widened? with
  | some r => r.code = 0 && r.rest.isEmpty
  | none => false

/-- A chunk in a range code, behind its first byte. -/
def readCoded? (reach control : Nat) (s : State) (bytes : Bytes) : Option (State × Bytes) := do
  let reset := Reset.ofBits (control / 32 % 4)
  let s ← s.beginAt? (reset = .everything)
  let (low, bytes) ← size? bytes
  let size := control % 32 * 65536 + low + 1
  let (packed, bytes) ← size? bytes
  let (g, bytes) ← properties? reach reset s bytes
  if bytes.length < packed + 1 then none
  else
    let weights := if reset = .nothing then s.reading.reader.weights else {}
    let reader ← RangeReader.start? false weights (bytes.take (packed + 1))
    let r :=
      if reset = .nothing then { s.reading with reader := reader }
      else .fresh reader s.reading.window
    let r ← r.upTo? g (s.reading.window.size + size) size
    if isFinished r.reader then
      return ({ s with properties := some g, reading := r }, bytes.drop (packed + 1))
    else none

/-- A chunk of stored bytes, behind its first byte. -/
def readStored? (anew : Bool) (s : State) (bytes : Bytes) : Option (State × Bytes) := do
  let s ← s.beginAt? anew
  let (low, bytes) ← size? bytes
  if bytes.length < low + 1 then none
  else
    let r := s.reading
    return ({ s with reading := { r with window := r.window ++ bytes.take (low + 1) } },
      bytes.drop (low + 1))

/-- The bytes of the chunks up to the end mark, and the bytes after it. -/
def readFrom? (reach : Nat) (fuel : Nat) (s : State) (bytes : Bytes) : Option (Bytes × Bytes) :=
  match fuel, bytes with
  | 0, _ => none
  | _, [] => none
  | fuel + 1, control :: bytes =>
    if control = 0 then some ((s.older ++ s.reading.window).toList, bytes)
    else
      let chunk? :=
        if 0x80 ≤ control then readCoded? reach control.toNat s bytes
        else if control ≤ 2 then readStored? (control = 1) s bytes
        else none
      match chunk? with
      | some (s, bytes) => readFrom? reach fuel s bytes
      | none => none

def read? (reach : Nat) (bytes : Bytes) : Option (Bytes × Bytes) :=
  readFrom? reach (bytes.length + 1) .start bytes

end MailMerge.Archive.Chunks
