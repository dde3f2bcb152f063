import MailMerge.Archive.Basic
import MailMerge.Text.CodePage

/-!
# Headers of the directory

The directory of an archive has a header for each entry. Extra fields behind a header's name add
what its own fields do not hold: large sizes and places, names and comments in UTF-8, and how an
entry is encrypted. A field that does not fit its kind makes the whole archive unreadable, while
one that is cut short only ends the fields.
-/

namespace MailMerge.Archive

open LittleEndian (read?)

/-- A header of the directory. The bytes of the name and of the comment are what a field that
replaces them is checked against. -/
structure Header where
  flags : Nat
  method : Nat
  checksum : Nat
  packedSize : Nat
  size : Nat
  offset : Nat
  nameBytes : Bytes
  name : String
  comment : Bytes
  /-- Encrypted in the way that has a method code and a field of its own. -/
  sealed : Bool
  deriving DecidableEq, Repr

/-- The method code of entries whose true method is in a field. -/
def sealedMethod : Nat := 99

/-- A text of a header: UTF-8 if its flag says so, code page 437 otherwise. -/
def decodeName (flags : Nat) (bytes : Bytes) : String :=
  if flags &&& textFlag = textFlag then Utf8.decodeLossy bytes
  else String.ofList (bytes.map fun b => (CodePage.ibm437.char? b).getD ' ')

/-- What reading an extra field comes to: the header with what it adds and the bytes after it, the
header where the field is cut short, or an archive that cannot be read. -/
inductive FieldReading where
  | more (h : Header) (rest : Bytes)
  | short (h : Header)
  | refused

namespace Header

/-- A number of a header that has its greatest value is given in a field instead, and so are all
numbers where the field has room for them. -/
def isWide (n length : Nat) : Bool :=
  24 ≤ length || n = 0xFFFFFFFF

/-- The sizes and the place of a large entry. -/
def readLarge (h : Header) (length : Nat) (bytes : Bytes) : FieldReading :=
  let numbers := ([h.size, h.packedSize, h.offset].filter fun n => isWide n length).length
  match if isWide h.size length then read? 8 bytes else some (h.size, bytes) with
  | none => .short h
  | some (size, bytes) =>
  let h := { h with size := size }
  match if isWide h.packedSize length then read? 8 bytes else some (h.packedSize, bytes) with
  | none => .short h
  | some (packedSize, bytes) =>
  let h := { h with packedSize := packedSize }
  match if isWide h.offset length then read? 8 bytes else some (h.offset, bytes) with
  | none => .short h
  | some (offset, bytes) =>
  let h := { h with offset := offset }
  if length < 8 * numbers then .refused
  else if bytes.length < length - 8 * numbers then .short h
  else .more h (bytes.drop (length - 8 * numbers))

/-- Three times of a file, which do not matter here. -/
def readTimes (h : Header) (length : Nat) (bytes : Bytes) : FieldReading :=
  if length ≠ 32 then .refused
  else
    match read? 2 (bytes.drop 4) with
    | none => .short h
    | some (tag, rest) =>
      if tag ≠ 1 then .refused
      else
        match read? 2 rest with
        | none => .short h
        | some (size, rest) =>
          if size ≠ 24 then .refused
          else if rest.length < 24 then .short h
          else .more h (rest.drop 24)

/-- Up to three times in seconds, those whose bits are set in the first byte, and as much room as
the bits tell. In five bytes there is one time, whatever the bits. Strict readers refuse a field
without a first byte; for others it is cut short where the fields end. -/
def readSeconds (h : Header) (strict : Bool) (length : Nat) (bytes : Bytes) : FieldReading :=
  if strict && length = 0 then .refused
  else
    match bytes with
    | [] => .short h
    | bits :: rest =>
      let set := (List.range 8).filter fun i => bits.toNat.testBit i
      if length ≠ 5 && length ≠ 1 + 4 * set.length then .refused
      else if rest.length < length - 1 then .short h
      else .more h (rest.drop (length - 1))

/-- The true method of an encrypted entry. -/
def readSealed (h : Header) (length : Nat) (bytes : Bytes) : FieldReading :=
  if length ≠ 7 then .refused
  else if bytes.length < 7 then .short h
  else
    let version := LittleEndian.value (bytes.take 2)
    let vendor := LittleEndian.value ((bytes.drop 2).take 2)
    let strength := LittleEndian.value ((bytes.drop 4).take 1)
    let method := LittleEndian.value ((bytes.drop 5).take 2)
    if vendor = 0x4541 && 1 ≤ version && version ≤ 2 && 1 ≤ strength && strength ≤ 3 then
      .more { h with method := method, sealed := true } (bytes.drop 7)
    else .refused

/-- A text in UTF-8 for a text of the header, whose checksum it repeats; `set` puts it in. -/
def readText (h : Header) (replaced : Bytes) (set : Bytes → String → Header) (length : Nat)
    (bytes : Bytes) : FieldReading :=
  match read? 4 (bytes.drop 1) with
  | none => .short h
  | some (checksum, rest) =>
    if length < 5 then .refused
    else if rest.length < length - 5 then .short h
    else if (crc32 replaced).toNat ≠ checksum then .refused
    else
      let text := rest.take (length - 5)
      match Utf8.decode text with
      | .ok s => .more (set text s) (rest.drop (length - 5))
      | .error _ => .refused

def readField (h : Header) (strict : Bool) (kind length : Nat) (bytes : Bytes) : FieldReading :=
  if kind = 0x0001 then h.readLarge length bytes
  else if kind = 0x000A then h.readTimes length bytes
  else if kind = 0x5455 then h.readSeconds strict length bytes
  else if kind = 0x9901 then h.readSealed length bytes
  else if kind = 0x7075 then
    h.readText h.nameBytes (fun b s => { h with nameBytes := b, name := s }) length bytes
  else if kind = 0x6375 then h.readText h.comment (fun b _ => { h with comment := b }) length bytes
  else if bytes.length < length then .short h
  else .more h (bytes.drop length)

/-- The header with all that its extra fields add, none if one of them is refused. -/
def readFields (strict : Bool) (fuel : Nat) (h : Header) (bytes : Bytes) : Option Header :=
  match fuel with
  | 0 => some h
  | fuel + 1 =>
    match read? 2 bytes with
    | none => some h
    | some (kind, bytes) =>
      match read? 2 bytes with
      | none => some h
      | some (length, bytes) =>
        match h.readField strict kind length bytes with
        | .more h rest => readFields strict fuel h rest
        | .short h => some h
        | .refused => none

end Header

/-- What follows the signature that bytes begin with. -/
def signed? (signature : Bytes) (bytes : Bytes) : Option Bytes :=
  if signature.isPrefixOf bytes then some (bytes.drop signature.length) else none

/-- A header of the directory and the bytes after it. -/
def header? (strict : Bool) (bytes : Bytes) : Option (Header × Bytes) := do
  let bytes ← signed? directorySignature bytes
  let (_, bytes) ← read? 4 bytes
  let (flags, bytes) ← read? 2 bytes
  let (method, bytes) ← read? 2 bytes
  let (_, bytes) ← read? 4 bytes
  let (checksum, bytes) ← read? 4 bytes
  let (packedSize, bytes) ← read? 4 bytes
  let (size, bytes) ← read? 4 bytes
  let (nameLength, bytes) ← read? 2 bytes
  let (extraLength, bytes) ← read? 2 bytes
  let (commentLength, bytes) ← read? 2 bytes
  let (_, bytes) ← read? 8 bytes
  let (offset, bytes) ← read? 4 bytes
  let behindName := bytes.drop nameLength
  let behindExtra := behindName.drop extraLength
  if bytes.length < nameLength + extraLength + commentLength then none
  else
    let nameBytes := bytes.take nameLength
    let comment := Utf8.encode (decodeName flags (behindExtra.take commentLength))
    let plain : Header := ⟨flags, method, checksum, packedSize, size, offset, nameBytes,
      decodeName flags nameBytes, comment, false⟩
    let h ← plain.readFields strict (extraLength + 1) (behindName.take extraLength)
    if h.method = sealedMethod && !h.sealed then none
    else return (h, behindExtra.drop commentLength)

def headers? (strict : Bool) : Nat → Bytes → Option (List Header)
  | 0, _ => some []
  | n + 1, bytes => do
    let (h, bytes) ← header? strict bytes
    return h :: (← headers? strict n bytes)

end MailMerge.Archive
