import MailMerge.Archive.Header

/-!
# Finding the directory

An archive is found from its end: the last end record that fits leads to the directory. An end
record whose numbers are too small for the archive has a second record before it with wide numbers,
and a locator of that record between the two. Bytes before the archive and after it do not matter.
-/

namespace MailMerge.Archive

open LittleEndian (read?)

/-- Where the directory is, how many bytes come before the archive, and how many headers there
are. -/
structure Listing where
  count : Nat
  start : Nat
  shift : Nat
  deriving DecidableEq, Repr

structure EndRecord where
  countHere : Nat
  count : Nat
  directoryOffset : Nat
  /-- The archive is in one piece. -/
  whole : Bool
  deriving DecidableEq, Repr

/-- The end record that bytes begin with; it fits if the bytes hold its comment. -/
def endRecord? (bytes : Bytes) : Option EndRecord := do
  let bytes ← signed? endSignature bytes
  let (disk, bytes) ← read? 2 bytes
  let (directoryDisk, bytes) ← read? 2 bytes
  let (countHere, bytes) ← read? 2 bytes
  let (count, bytes) ← read? 2 bytes
  let (_, bytes) ← read? 4 bytes
  let (directoryOffset, bytes) ← read? 4 bytes
  let (comment, bytes) ← read? 2 bytes
  if comment ≤ bytes.length then some ⟨countHere, count, directoryOffset, disk == directoryDisk⟩
  else none

/-- The numbers of an end record that leave the true ones to a wide record. -/
def EndRecord.isNarrow (r : EndRecord) : Bool :=
  r.count = 0xFFFF || r.directoryOffset = 0xFFFFFFFF

/-- How far into the bytes the signature is found first, within the first `limit` bytes. -/
def findSignature (signature : Bytes) (limit : Nat) (bytes : Bytes) : Option Nat :=
  match limit with
  | 0 => none
  | limit + 1 =>
    if signature.isPrefixOf bytes then some 0
    else (findSignature signature limit (bytes.drop 1)).map (· + 1)

/-- The directory of an end record at `place`: where the record says, or else at the first header
signature after that, with the archive moved by as much. -/
def EndRecord.listing? (r : EndRecord) (bytes : Bytes) (place : Nat) : Option Listing :=
  let listing (shift : Nat) :=
    if r.whole then some ⟨r.countHere, r.directoryOffset + shift, shift⟩ else none
  if r.count = 0 then listing (place - r.directoryOffset)
  else if place ≤ r.directoryOffset then none
  else
    match findSignature directorySignature (place - r.directoryOffset)
        (bytes.drop r.directoryOffset) with
    | some shift => listing shift
    | none => none

/-- The place of the wide record, without the bytes before the archive, and its disk. -/
structure Locator where
  disk : Nat
  offset : Nat
  disks : Nat
  deriving DecidableEq, Repr

def locatorSize : Nat := 20

def locator? (bytes : Bytes) : Option Locator := do
  let bytes ← signed? locatorSignature bytes
  let (disk, bytes) ← read? 4 bytes
  let (offset, bytes) ← read? 8 bytes
  let (disks, _) ← read? 4 bytes
  return ⟨disk, offset, disks⟩

structure WideRecord where
  countHere : Nat
  count : Nat
  directoryOffset : Nat
  whole : Bool
  deriving DecidableEq, Repr

/-- The size of a header without its name, fields and comment. -/
def headerSize : Nat := 46

/-- The wide record at `place` with `length` bytes before its locator. -/
def wideRecord? (locator : Locator) (place length : Nat) (bytes : Bytes) : Option WideRecord := do
  let bytes ← signed? wideSignature bytes
  let (size, bytes) ← read? 8 bytes
  let (_, bytes) ← read? 4 bytes
  let (disk, bytes) ← read? 4 bytes
  let (directoryDisk, bytes) ← read? 4 bytes
  let (countHere, bytes) ← read? 8 bytes
  let (count, bytes) ← read? 8 bytes
  let (_, bytes) ← read? 8 bytes
  let (directoryOffset, _) ← read? 8 bytes
  if 44 ≤ size && size + 12 = length && directoryDisk = locator.disk &&
      count * headerSize + directoryOffset ≤ place then
    some ⟨countHere, count, directoryOffset, disk == directoryDisk⟩
  else none

/-- The first wide record that fits, at `place` or behind it. -/
def findWide (locator : Locator) (place : Nat) (limit : Nat) (bytes : Bytes) :
    Option (WideRecord × Nat) :=
  match limit with
  | 0 => none
  | limit + 1 =>
    match wideRecord? locator place (limit + 1) bytes with
    | some r => some (r, place)
    | none => findWide locator (place + 1) limit (bytes.drop 1)

/-- The directory of a wide record whose locator is at `place`. -/
def Locator.listing? (l : Locator) (bytes : Bytes) (place : Nat) : Option Listing :=
  if place ≤ l.offset || 1 < l.disks then none
  else
    match findWide l l.offset (place - l.offset) (bytes.drop l.offset) with
    | some (r, found) =>
      let shift := found - l.offset
      if r.countHere ≤ r.count && r.whole then some ⟨r.count, r.directoryOffset + shift, shift⟩
      else none
    | none => none

/-- The directory of the end record at `place`, if there is one. -/
def listing? (bytes : Bytes) (place : Nat) : Option Listing :=
  match endRecord? (bytes.drop place) with
  | none => none
  | some r =>
    let locator :=
      if r.isNarrow && locatorSize ≤ place then locator? (bytes.drop (place - locatorSize))
      else none
    match locator with
    | some l => l.listing? bytes (place - locatorSize)
    | none => r.listing? bytes place

/-- An archive: its bytes, how many of them come before it, and its directory. -/
structure Opened where
  bytes : Bytes
  start : Nat
  headers : List Header
  deriving Repr

/-- The greatest place in an archive. -/
def placeBound : Nat := Nat.pow 2 64

/-- Opens the archive whose end record is at `place`. -/
def openAt? (strict : Bool) (bytes : Bytes) (place : Nat) : Option Opened := do
  let listing ← listing? bytes place
  let headers ← headers? strict listing.count (bytes.drop listing.start)
  if headers.all fun h => h.offset + listing.shift < placeBound then
    some ⟨bytes, listing.shift, headers⟩
  else none

/-- Tries the places from `place` downwards. -/
def openFrom? (strict : Bool) (bytes : Bytes) : Nat → Option Opened
  | 0 => openAt? strict bytes 0
  | place + 1 =>
    match openAt? strict bytes (place + 1) with
    | some opened => some opened
    | none => openFrom? strict bytes place

/-- Opens an archive, as a strict reader or not. -/
def open? (strict : Bool) (bytes : Bytes) : Option Opened :=
  if bytes.length < 22 then none else openFrom? strict bytes (bytes.length - 22)

end MailMerge.Archive
